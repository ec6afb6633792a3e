import Mathlib.Data.List.Nodup
import RoleWeave.Proofs.Composition.Carrying
import RoleWeave.Proofs.Composition.Concatenation
import RoleWeave.Proofs.Composition.Emission
import RoleWeave.Proofs.Composition.Reach
import RoleWeave.Proofs.Reference.Scanning
import RoleWeave.Proofs.Text.Sequence
import RoleWeave.Proofs.Text.Trimming

/-!
# What becomes of the skills

Every thought and every execution that was hoisted is asked for on its own, and what the reference
comes to is traced: its content makes a skill, its fault is recorded under the plain reference, and
if the resource was met elsewhere, the reference is recorded as left out. Of these, a content and a
failure under the plain reference exclude each other, because only one call for a resource comes to
anything, and because no other reference is written like the plain one. The skills keep the order
in which they were asked for, and the text of the role shows each of them under its own heading
(`every_skill_is_traced`).
-/

namespace RoleWeave

/-- A skill as the text of a role shows it, under a heading of its own. -/
def Skill.shown (skill : Skill) : Text :=
  "\n### ".toList ++ skill.key.render ++ Document.blankLine ++ skill.content ++ ['\n']

namespace Composition

open Text (Shows)

/-- The keys of the thoughts and then of the executions that were hoisted, each group in ascending
    order. -/
def hoistedKeys (role : ComposedRole) : List Key :=
  role.thoughts.names.map (Key.mk thoughtProtocol) ++
    role.executions.names.map (Key.mk executionProtocol)

/-- The skills that came of loading. -/
def skillsOf (loaded : List (Key × Inline)) : List Skill :=
  loaded.filterMap (fun skill => skillOf? skill.1 skill.2)

/-- The skills of a role have keys of their own. They are thoughts and executions that were
    hoisted, first the ones and then the others, each group in ascending order. -/
structure Arranged (role : ComposedRole) : Prop where
  distinct : (role.skills.map Skill.key).Nodup
  grouped : ∃ thoughts executions : List Text,
    role.skills.map Skill.key =
      thoughts.map (Key.mk thoughtProtocol) ++ executions.map (Key.mk executionProtocol) ∧
    (thoughts.Pairwise (· < ·) ∧ ∀ id ∈ thoughts, id ∈ role.thoughts) ∧
    (executions.Pairwise (· < ·) ∧ ∀ id ∈ executions, id ∈ role.executions)

/-- What is left of a hoisted key in a composed role. -/
inductive Traced (role : ComposedRole) (key : Key) : Prop where
  /-- It has a skill. -/
  | shown (skill : Skill) (member : skill ∈ role.skills) (same : skill.key = key)
  /-- The plain reference to it is recorded among the failures. -/
  | failed (failure : Failure) (member : failure ∈ role.failures)
      (same : failure.reference = '@' :: key.render)
  /-- It is recorded as left out. -/
  | suppressed (member : key ∈ role.suppressed)

/-! ## The skills in their order -/

/-- The skills are in the order of loading. Those without content, which were left out or failed,
    are passed over. -/
theorem keys_of_skillsOf (loaded : List (Key × Inline)) :
    ((skillsOf loaded).map Skill.key).Sublist (loaded.map Prod.fst) := by
  induction loaded with
  | nil => exact .slnil
  | cons skill later ih =>
    obtain ⟨key, outcome⟩ := skill
    cases outcome with
    | content text => exact ih.cons_cons key
    | suppressed => exact ih.cons key
    | failed fault => exact ih.cons key

/-- The skills of a protocol are ids that were asked for, in ascending order. They are in the order
    of loading, which is that of the ids. -/
theorem ids_of_skillsOf {protocol : Text} {ids : NameSet} {loaded : List (Key × Inline)}
    (keys : loaded.map Prod.fst = ids.names.map (Key.mk protocol)) :
    ∃ shown : List Text, (skillsOf loaded).map Skill.key = shown.map (Key.mk protocol) ∧
      shown.Pairwise (· < ·) ∧ ∀ id ∈ shown, id ∈ ids := by
  have fewer := keys_of_skillsOf loaded
  rw [keys] at fewer
  obtain ⟨shown, among, same⟩ := List.sublist_map_iff.mp fewer
  exact ⟨shown, same, ids.ascending.sublist among, fun id member => among.subset member⟩

variable {σ : Type} {provider : Provider σ} {limit : Nat}

/-- An outcome is loaded for every id of a protocol, in ascending order. There are as many outcomes
    as ids, if no fault ended the loading. -/
theorem keys_of_loadSkills {protocol : Text} {ids : NameSet} {weaving final : Weaving σ}
    {loaded : List (Key × Inline)}
    (ran : (loadSkills provider limit protocol ids).run weaving = (.ok loaded, final)) :
    loaded.map Prod.fst = ids.names.map (Key.mk protocol) := by
  obtain ⟨outcomes, middle, inlinedAll, ended⟩ := Step.ok_of_bind ran
  cases ended
  have length := length_of_inlineAll inlinedAll
  rw [List.length_map] at length
  exact List.map_fst_zip (by simp [length])

/-- The keys that are loaded for a role are those of its thoughts and of its executions. What the
    sections come to has no part in it. -/
theorem keys_of_composeParts {document : Document} {thoughts executions : NameSet}
    {weaving final : Weaving σ} {parts : RoleParts}
    (ran : (composeParts provider limit document thoughts executions).run weaving =
      (.ok parts, final)) :
    parts.thoughts.map Prod.fst = thoughts.names.map (Key.mk thoughtProtocol) ∧
      parts.executions.map Prod.fst = executions.names.map (Key.mk executionProtocol) := by
  obtain ⟨loadedThoughts, _, thoughtsRan, rest⟩ := Step.ok_of_bind ran
  obtain ⟨_, _, _, rest⟩ := Step.ok_of_bind rest
  obtain ⟨loadedExecutions, _, executionsRan, rest⟩ := Step.ok_of_bind rest
  obtain ⟨_, _, _, ended⟩ := Step.ok_of_bind rest
  cases ended
  exact ⟨keys_of_loadSkills thoughtsRan, keys_of_loadSkills executionsRan⟩

/-- Keys of thoughts and of executions are told apart by their protocols, and within a group by
    their ids. -/
theorem nodup_of_groups {thoughts executions : List Text} (first : thoughts.Pairwise (· < ·))
    (second : executions.Pairwise (· < ·)) :
    (thoughts.map (Key.mk thoughtProtocol) ++ executions.map (Key.mk executionProtocol)).Nodup := by
  have once {names : List Text} (protocol : Text) (ascending : names.Pairwise (· < ·)) :
      (names.map (Key.mk protocol)).Nodup := by
    refine List.pairwise_map.mpr (ascending.imp ?_)
    rintro id other less same
    cases same
    exact List.lt_irrefl _ less
  refine List.nodup_append.mpr ⟨once _ first, once _ second, ?_⟩
  rintro key thought other execution rfl
  obtain ⟨_, _, rfl⟩ := List.mem_map.mp thought
  obtain ⟨_, _, same⟩ := List.mem_map.mp execution
  have protocols : executionProtocol = thoughtProtocol := congrArg Key.protocol same
  exact absurd protocols (by decide)

/-- The skills of a composed role are arranged. They are in the order of loading, first the thoughts
    and then the executions, and each group is loaded in ascending order. -/
theorem arranged_of_composeRole {info : RoleInfo} {document : Document} {world after : σ}
    {role : ComposedRole}
    (composed : (composeRole provider limit info document).run world = (.ok role, after)) :
    Arranged role := by
  obtain ⟨_, parts, final, _, made, _, rfl, _⟩ := tasks_of_composeRole composed
  obtain ⟨thoughtKeys, executionKeys⟩ := keys_of_composeParts made
  obtain ⟨thoughts, sameThoughts, ascending, hoisted⟩ := ids_of_skillsOf thoughtKeys
  obtain ⟨executions, sameExecutions, ascendingToo, hoistedToo⟩ := ids_of_skillsOf executionKeys
  have keys : (skillsOf (parts.thoughts ++ parts.executions)).map Skill.key =
      thoughts.map (Key.mk thoughtProtocol) ++ executions.map (Key.mk executionProtocol) := by
    rw [← sameThoughts, ← sameExecutions, ← List.map_append]
    exact congrArg (List.map Skill.key) List.filterMap_append
  refine ⟨?_, thoughts, executions, keys, ⟨ascending, hoisted⟩, ascendingToo, hoistedToo⟩
  change ((skillsOf (parts.thoughts ++ parts.executions)).map Skill.key).Nodup
  rw [keys]
  exact nodup_of_groups ascending ascendingToo

/-! ## The traces -/

/-- Every hoisted key is asked for by a call of its own, and its outcome is among the parts that the
    role is assembled from. If the outcome is a content, there is a skill of it. -/
theorem loaded_of_hoisted {info : RoleInfo} {document : Document} {world after : σ}
    {role : ComposedRole}
    (composed : (composeRole provider limit info document).run world = (.ok role, after))
    {key : Key} (hoisted : key ∈ hoistedKeys role) :
    ∃ outcome, Loaded provider limit (roleCalls provider limit info document world) key outcome ∧
      ∀ skill, skillOf? key outcome = some skill → skill ∈ role.skills := by
  obtain ⟨ready, parts, final, readied, made, _, rfl, _⟩ := tasks_of_composeRole composed
  obtain ⟨thoughtKeys, executionKeys⟩ := keys_of_composeParts made
  have among : key ∈ (parts.thoughts ++ parts.executions).map Prod.fst := by
    rw [List.map_append, thoughtKeys, executionKeys]
    exact hoisted
  obtain ⟨⟨_, outcome⟩, member, rfl⟩ := List.mem_map.mp among
  refine ⟨outcome, ?_, fun skill shown => List.mem_filterMap.mpr ⟨_, member, shown⟩⟩
  rw [roleCalls, readied]
  exact calls_of_composeParts made _ member

/-- What was loaded comes of a call of its own, for the plain reference. It is among the calls that
    loading it made, and the outcome is that of loading. -/
theorem Loaded.call {calls : List Call} {key : Key} {outcome : Inline}
    (loaded : Loaded provider limit calls key outcome) :
    ∃ call ∈ calls, call.reference = Reference.plain key.protocol key.id ∧
      call.outcome = .ok outcome := by
  obtain ⟨start, final, ran, inside⟩ := loaded
  obtain ⟨call, member, refers, ended⟩ := mem_calls_of_within ran
  exact ⟨call, inside.subset member, refers, ended⟩

/-- Every hoisted key leaves a trace. The outcome of its own call is a content, a fault, or nothing,
    and the role shows it as a skill or has it on record. -/
theorem traced_of_hoisted {info : RoleInfo} {document : Document} {world after : σ}
    {role : ComposedRole}
    (composed : (composeRole provider limit info document).run world = (.ok role, after))
    {key : Key} (hoisted : key ∈ hoistedKeys role) : Traced role key := by
  obtain ⟨outcome, loaded, skills⟩ := loaded_of_hoisted composed hoisted
  obtain ⟨⟨final, account⟩, failures, suppressed⟩ := records_of_role composed
  obtain ⟨call, member, refers, ended⟩ := loaded.call
  cases outcome with
  | content text => exact .shown ⟨key, Text.trim text⟩ (skills _ rfl) rfl
  | failed fault =>
    have recorded : call.failure? = some ⟨call.reference.render, fault.message⟩ := by
      simp [Call.failure?, ended]
    refine .failed ⟨call.reference.render, fault.message⟩ ?_ (congrArg Reference.render refers)
    rw [failures]
    exact List.mem_filterMap.mpr ⟨call, member, recorded⟩
  | suppressed =>
    have met : call.met = true := by
      have same := account.exact call member
      simpa [Call.emits, ended] using same
    refine .suppressed ?_
    rw [suppressed]
    exact List.mem_map.mpr ⟨call, List.mem_filter.mpr ⟨member, met⟩, congrArg Reference.key refers⟩

/-! ## Content and failure exclude each other -/

/-- A key as the references of running texts have them. -/
def Legible (key : Key) : Prop :=
  Name.accepts key.protocol = true ∧ key.id ≠ []

/-- A reference that is to be inlined is as running text holds it, since it was scanned there. -/
theorem scanned_of_inlined {text : Text} {reference : Reference}
    (member : reference ∈ inlined text) : reference.Scanned := by
  obtain ⟨piece, among, same⟩ := List.mem_filterMap.mp (List.mem_filter.mp member).1
  cases piece with
  | prose c => cases same
  | reference found =>
    cases same
    exact Reference.scanned_of_mem among

/-- A reference that is to be inlined in a text has such a key. -/
theorem legible_of_inlined {text : Text} {reference : Reference}
    (member : reference ∈ inlined text) : Legible reference.key :=
  ⟨(scanned_of_inlined member).named, (scanned_of_inlined member).nonempty⟩

/-- All calls of a role are for such keys. -/
theorem legible_of_role {info : RoleInfo} {document : Document} {world : σ} :
    ∀ call ∈ roleCalls provider limit info document world, Legible call.key := by
  apply reached_of_role
  · rintro key ⟨_, _, _, _, reference, inside, rfl⟩
    exact legible_of_inlined inside
  · exact fun _ _ _ _ _ inside => legible_of_inlined inside

/-- Of two calls that came to anything, with references that are written alike, both are the same.
    Legible references that are written alike are the same reference, and only one call for a
    resource comes to anything. -/
theorem Accounted.eq_of_render_eq {start final : Pass} {calls : List Call} {first second : Call}
    (account : Accounted start final calls) (legible : ∀ call ∈ calls, Legible call.key)
    (member : first ∈ calls) (memberToo : second ∈ calls) (emits : first.emits = true)
    (emitsToo : second.emits = true) (same : first.reference.render = second.reference.render) :
    first = second := by
  obtain ⟨named, nonempty⟩ := legible first member
  obtain ⟨namedToo, nonemptyToo⟩ := legible second memberToo
  have alike : first.reference = second.reference :=
    Reference.eq_of_render_eq named nonempty namedToo nonemptyToo same
  exact List.inj_on_of_nodup_map account.once (List.mem_filter.mpr ⟨member, emits⟩)
    (List.mem_filter.mpr ⟨memberToo, emitsToo⟩) (congrArg Reference.key alike)

/-- No plain reference to a skill is recorded among the failures. A failure under it would come of a
    second call for the resource that came to something. -/
theorem apart_of_skill {info : RoleInfo} {document : Document} {world after : σ}
    {role : ComposedRole}
    (composed : (composeRole provider limit info document).run world = (.ok role, after)) :
    ∀ skill ∈ role.skills, ∀ failure ∈ role.failures,
      failure.reference ≠ '@' :: skill.key.render := by
  intro skill shown failure recorded same
  obtain ⟨⟨final, account⟩, failures, _⟩ := records_of_role composed
  obtain ⟨text, _, loaded⟩ := calls_of_skill composed skill shown
  obtain ⟨call, member, refers, ended⟩ := loaded.call
  rw [failures] at recorded
  obtain ⟨other, memberToo, failed⟩ := List.mem_filterMap.mp recorded
  unfold Call.failure? at failed
  split at failed
  · rename_i fault endedToo
    cases failed
    have alike : call.reference.render = other.reference.render := by
      rw [refers]
      exact same.symm
    have one := account.eq_of_render_eq legible_of_role member memberToo
      (by simp [Call.emits, ended]) (by simp [Call.emits, endedToo]) alike
    rw [one, endedToo] at ended
    cases ended
  · cases failed

/-! ## The skills in the text -/

/-- What is shown of loading shows the skills that came of it, in their order. The marker of a
    failure may stand between two of them. -/
theorem shows_skillsOf (loaded : List (Key × Inline)) :
    Shows ((skillsOf loaded).map Skill.shown)
      (loaded.flatMap (fun skill => shownSkill skill.1 skill.2)) := by
  induction loaded with
  | nil => exact .nothing _
  | cons skill later ih =>
    obtain ⟨key, outcome⟩ := skill
    rw [List.flatMap_cons]
    cases outcome with
    | content text => exact (Shows.self (Skill.shown ⟨key, Text.trim text⟩)).append ih
    | suppressed => exact ih
    | failed fault => exact ih.prepend _

/-- Under the heading of a protocol its skills are shown. Without any there is no heading. -/
theorem shows_shownSkills (heading : Text) (loaded : List (Key × Inline)) :
    Shows ((skillsOf loaded).map Skill.shown) (shownSkills heading loaded) := by
  unfold shownSkills
  split
  · rename_i empty
    rw [List.isEmpty_iff.mp empty]
    exact .nothing _
  · exact (shows_skillsOf loaded).prepend _

/-- The text of a composed role shows its skills, the thoughts before the executions. Sections stand
    between and behind them, and nothing of a skill is cut off. -/
theorem shows_skills {info : RoleInfo} {document : Document} {world after : σ}
    {role : ComposedRole}
    (composed : (composeRole provider limit info document).run world = (.ok role, after)) :
    Shows (role.skills.map Skill.shown) role.text := by
  obtain ⟨_, parts, final, _, _, _, rfl, _⟩ := tasks_of_composeRole composed
  have both : (skillsOf (parts.thoughts ++ parts.executions)).map Skill.shown =
      (skillsOf parts.thoughts).map Skill.shown ++ (skillsOf parts.executions).map Skill.shown := by
    rw [← List.map_append]
    exact congrArg (List.map Skill.shown) List.filterMap_append
  rw [text_of_assemble]
  refine Shows.extend (Shows.prepend ?_ _) _
  change Shows ((skillsOf (parts.thoughts ++ parts.executions)).map Skill.shown) _
  rw [both]
  exact (shows_shownSkills _ _).append
    (((shows_shownSkills _ _).extend _).prepend _)

/-- The content of a skill is trimmed. -/
theorem trim_of_skill {info : RoleInfo} {document : Document} {world after : σ}
    {role : ComposedRole}
    (composed : (composeRole provider limit info document).run world = (.ok role, after)) :
    ∀ skill ∈ role.skills, Text.trim skill.content = skill.content := by
  intro skill member
  obtain ⟨text, same, _⟩ := calls_of_skill composed skill member
  rw [same, Text.trim_trim]

/-- No hoisted skill vanishes. Let a role be composed. Its skills have different keys, which are
    thoughts and executions that were hoisted, the thoughts first and each group in ascending order.
    Every key that was hoisted has a skill, or the plain reference to it is among the failures, or
    it is among the references left out; the first two exclude each other. The contents of the
    skills are trimmed, and the text of the role shows them in their order, each under the heading
    of its key.

    Proof: the order of the skills is `arranged_of_composeRole`, and what becomes of a key is what
    its own call came to (`traced_of_hoisted`). A skill and a failure under its plain reference
    would be two calls for one resource that came to something (`apart_of_skill`), and the account
    of the role has one at most. -/
theorem every_skill_is_traced (provider : Provider σ) (limit : Nat) (info : RoleInfo)
    (document : Document) (world after : σ) (role : ComposedRole)
    (composed : (composeRole provider limit info document).run world = (.ok role, after)) :
    Arranged role ∧
      (∀ key ∈ hoistedKeys role, Traced role key) ∧
      (∀ key, (∃ skill ∈ role.skills, skill.key = key) →
        ¬ ∃ failure ∈ role.failures, failure.reference = '@' :: key.render) ∧
      (∀ skill ∈ role.skills, Text.trim skill.content = skill.content) ∧
      Shows (role.skills.map Skill.shown) role.text := by
  refine ⟨arranged_of_composeRole composed, fun key => traced_of_hoisted composed, ?_,
    trim_of_skill composed, shows_skills composed⟩
  rintro key ⟨skill, shown, rfl⟩ ⟨failure, recorded, same⟩
  exact apart_of_skill composed skill shown failure recorded same

/-- A role with three thoughts. -/
def thoughtfulRole : Document :=
  ⟨"<personality>@thought://c @thought://b @thought://a</personality>".toList,
    [⟨"personality".toList, 13, 51⟩]⟩

/-- Two of the three thoughts. The first refers to the second. -/
def twoThoughts : Library :=
  Library.ofFiles "thought".toList
    [("a".toList, " A @thought://b".toList), ("b".toList, "B\n".toList)]

/-- The first thought is shown as a skill, with the second in it. The second is left out where it is
    asked for on its own, and the third is recorded as a failure. -/
theorem thoughtful_role_traced :
    ∃ role after, (composeRole Library.provider 8 (RoleInfo.plain "r".toList) thoughtfulRole).run
        twoThoughts = (.ok role, after) ∧
      hoistedKeys role = ["a", "b", "c"].map (fun id => ⟨thoughtProtocol, id.toList⟩) ∧
      role.skills = [⟨⟨thoughtProtocol, "a".toList⟩, "A B".toList⟩] ∧
      role.suppressed = [⟨thoughtProtocol, "b".toList⟩] ∧
      role.failures.map Failure.reference = ["@thought://c".toList] ∧
      (∀ key ∈ hoistedKeys role, Traced role key) ∧
      Shows ["\n### thought://a\n\nA B\n".toList] role.text := by
  have known : ((composeRole Library.provider 8 (RoleInfo.plain "r".toList) thoughtfulRole).run
      twoThoughts).1.toOption.map (fun role =>
        (hoistedKeys role, role.skills, role.suppressed, role.failures.map Failure.reference)) =
      some (["a", "b", "c"].map (fun id => ⟨thoughtProtocol, id.toList⟩),
        [⟨⟨thoughtProtocol, "a".toList⟩, "A B".toList⟩], [⟨thoughtProtocol, "b".toList⟩],
        ["@thought://c".toList]) := by
    decide +kernel
  rcases composed : (composeRole Library.provider 8 (RoleInfo.plain "r".toList) thoughtfulRole).run
      twoThoughts with ⟨fault | role, after⟩
  · rw [composed] at known
    cases known
  · rw [composed] at known
    obtain ⟨keys, skills, suppressed, failures⟩ :
        hoistedKeys role = _ ∧ role.skills = _ ∧ role.suppressed = _ ∧
          role.failures.map Failure.reference = _ := by
      simpa only [Except.toOption, Option.map_some, Option.some.injEq, Prod.mk.injEq] using known
    obtain ⟨_, traced, _, _, shows⟩ := every_skill_is_traced Library.provider 8 _ _ _ _ _ composed
    rw [skills] at shows
    exact ⟨role, after, rfl, keys, skills, suppressed, failures, traced, shows⟩

end Composition

end RoleWeave
