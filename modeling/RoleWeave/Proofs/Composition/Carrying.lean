import Mathlib.Data.List.Forall2
import RoleWeave.Proofs.Composition.Outcome
import RoleWeave.Proofs.Composition.Task

/-!
# What a text carries upwards

A composed text travels upwards: it is put behind other texts, trimmed, and shown as a section or as
a skill, until it is part of the text of a role. Something that is said of calls and of the text that
they came to is `Carried` if it holds where there are no calls, holds of two texts one behind the other,
survives trimming, and holds of each way in which a call can come to an outcome. It then holds of
everything that is composed, up to the parts of a role and all their calls (`Carried.parts`).
-/

namespace RoleWeave.Composition

variable {σ : Type}

/-- Something that a text keeps of the calls that it came of, on its way upwards. -/
structure Carried (provider : Provider σ) (limit : Nat) (Kept : List Call → Text → Prop) :
    Prop where
  /-- Without calls there is nothing to keep. -/
  nothing : ∀ text, Kept [] text
  /-- It is kept by texts that are put one behind the other. -/
  append : ∀ {first second : List Call} {text other : Text}, Kept first text → Kept second other →
    Kept (first ++ second) (text ++ other)
  /-- It is kept by a text that is trimmed. -/
  trim : ∀ {calls : List Call} {text : Text}, Kept calls text → Kept calls (Text.trim text)
  /-- It is kept where a reference is left out. -/
  met : ∀ reference allowance before,
    Kept [⟨reference, allowance, before, none, .ok .suppressed⟩] []
  /-- It is kept by the marker of a reference that fails. -/
  failed : ∀ reference allowance before fault,
    Kept [⟨reference, allowance, before, none, .ok (.failed fault)⟩] fault.marker
  /-- It is kept by a content that is composed, if it is of the calls nested in it. -/
  composed : ∀ {reference : Reference} {allowance : Nat} {before : Pass} {content text : Text}
    {fetched final : Weaving σ} {nested : List Call},
    Woven (inlineWithin provider limit allowance) (callsWithin provider limit allowance)
      (pieces content) fetched text final nested →
    Kept nested text →
    Kept (⟨reference, allowance + 1, before, some content, .ok (.content text)⟩ :: nested) text

/-- In what is shown of a list, the first outcome comes first. Between it and the others there is a
    line feed, or nothing if one of the two sides shows nothing. -/
theorem shownList_cons (outcome : Inline) (later : List Inline) :
    ∃ gap, shownList (outcome :: later) = outcome.shown ++ (gap ++ shownList later) := by
  by_cases left : outcome = .suppressed
  · subst left
    exact ⟨[], rfl⟩
  · have kept : (outcome :: later).filter (fun outcome => outcome != .suppressed) =
        outcome :: later.filter (fun outcome => outcome != .suppressed) := by
      simp [left]
    unfold shownList
    rw [kept, List.map_cons]
    cases (later.filter (fun outcome => outcome != .suppressed)).map Inline.shown with
    | nil => exact ⟨[], by simp [Text.join]⟩
    | cons second others => exact ⟨Document.blankLine, by simp [Text.join]⟩

/-- The tasks of a section were done when it was composed. -/
theorem performed_of_composeSection {provider : Provider σ} {limit : Nat} {plan : Plan}
    {weaving final : Weaving σ} {text : Text}
    (ran : (composeSection provider limit plan).run weaving = (.ok text, final)) :
    (performAll provider limit plan.tasks).run weaving = (.ok (), final) := by
  rw [← composeSection_tasks, discard, Step.run_map, ran]

namespace Carried

variable {provider : Provider σ} {limit : Nat} {Kept : List Call → Text → Prop}

section Texts

variable {calls : List Call} {text : Text}

/-- Nothing is lost where something is put before a text. -/
theorem prepend (carried : Carried provider limit Kept) (kept : Kept calls text) (front : Text) :
    Kept calls (front ++ text) :=
  carried.append (carried.nothing front) kept

/-- Nothing is lost where something is put behind a text. -/
theorem extend (carried : Carried provider limit Kept) (kept : Kept calls text) (back : Text) :
    Kept calls (text ++ back) := by
  have both : Kept (calls ++ []) (text ++ back) := carried.append kept (carried.nothing back)
  rwa [List.append_nil] at both

end Texts

/-- Pieces keep what is kept of each of their references. By induction on the composition: prose and
    pointers are put in front, and what is shown of a reference comes before the rest. -/
theorem woven (carried : Carried provider limit Kept)
    {inline : Reference → Step (Weaving σ) Inline} {calls : Reference → Weaving σ → List Call}
    (each : ∀ reference weaving final outcome,
      (inline reference).run weaving = (.ok outcome, final) →
      Kept (calls reference weaving) outcome.shown)
    {parts : List Piece} {weaving final : Weaving σ} {text : Text} {made : List Call}
    (woven : Woven inline calls parts weaving text final made) : Kept made text := by
  induction woven with
  | done weaving => exact carried.nothing _
  | prose c _ ih => exact carried.prepend ih [c]
  | pointer _ _ ih => exact carried.prepend ih _
  | shown _ ran _ ih => exact carried.append (each _ _ _ _ ran) ih

/-- What is shown of a reference keeps what there is of its calls.

    Proof: by induction on how deep references may still be nested. If the resource was met, the
    limit is reached or fetching fails, the call is the only one, and these are ways in which a call
    can go. Otherwise the content keeps what there is of the calls nested in it, by induction and
    `woven`, and trimming it and putting the call in front loses nothing. -/
theorem within (carried : Carried provider limit Kept) (allowance : Nat) (reference : Reference)
    (weaving final : Weaving σ) (outcome : Inline)
    (ran : (inlineWithin provider limit allowance reference).run weaving = (.ok outcome, final)) :
    Kept (callsWithin provider limit allowance reference weaving) outcome.shown := by
  induction allowance generalizing reference weaving final outcome with
  | zero =>
    have inlined := inlined_of_within ran
    generalize callsWithin provider limit 0 reference weaving = calls at inlined ⊢
    cases inlined with
    | met _ => exact carried.met _ _ _
    | cut _ => exact carried.failed _ _ _ _
  | succ allowance ih =>
    have inlined := inlined_of_within ran
    generalize callsWithin provider limit (allowance + 1) reference weaving = calls at inlined ⊢
    cases inlined with
    | met _ => exact carried.met _ _ _
    | refused _ _ _ => exact carried.failed _ _ _ _
    | composed _ _ woven => exact carried.trim (carried.composed woven (carried.woven ih woven))

/-- A block that is composed keeps what there is of its calls. -/
theorem block (carried : Carried provider limit Kept) {block : Block} {weaving final : Weaving σ}
    {text : Text} (ran : (composeBlock provider limit block).run weaving = (.ok text, final)) :
    Kept (blockCalls provider limit block weaving) text :=
  carried.woven (fun reference weaving final outcome =>
    carried.within (limit - 0) reference weaving final outcome) (woven_of_weave _ ran)

/-- The outcomes of references that are inlined one after another keep what there is of their calls,
    each that of its own. By induction on the references, whose calls come one group after
    another. -/
theorem all (carried : Carried provider limit Kept) {references : List Reference}
    {weaving final : Weaving σ} {outcomes : List Inline}
    (ran : (inlineAll provider limit references).run weaving = (.ok outcomes, final)) :
    outcomes.length = references.length ∧
      ∃ groups : List (List Call),
        groups.flatten = allCalls provider limit (references.map (Task.inline 0)) weaving ∧
        List.Forall₂ (fun calls outcome => Kept calls outcome.shown) groups outcomes := by
  induction references generalizing weaving outcomes with
  | nil =>
    cases ran
    exact ⟨rfl, [], rfl, .nil⟩
  | cons reference later ih =>
    obtain ⟨outcome, middle, first, rest⟩ := Step.ok_of_bind ran
    obtain ⟨others, changed, second, ended⟩ := Step.ok_of_bind rest
    cases ended
    obtain ⟨sameLength, groups, together, kept⟩ := ih second
    have performed : (perform provider limit (.inline 0 reference)).run weaving =
        (.ok (), middle) := by
      rw [perform, discard, Step.run_map, first]
    refine ⟨by simp [sameLength], callsAt provider limit 0 reference weaving :: groups, ?_, ?_⟩
    · rw [List.map_cons, allCalls, performed, List.flatten_cons, together]
      rfl
    · exact .cons (carried.within _ reference weaving middle outcome first) kept

/-- A list of outcomes keeps what there is of the calls of all of them. An outcome that is left out
    shows nothing and has kept what there is of its calls in that. -/
theorem list (carried : Carried provider limit Kept) {groups : List (List Call)}
    {outcomes : List Inline}
    (kept : List.Forall₂ (fun calls outcome => Kept calls outcome.shown) groups outcomes) :
    Kept groups.flatten (shownList outcomes) := by
  induction kept with
  | nil => exact carried.nothing _
  | @cons calls outcome groups outcomes first _ ih =>
    obtain ⟨gap, shown⟩ := shownList_cons outcome outcomes
    rw [List.flatten_cons, shown]
    exact carried.append first (carried.prepend ih gap)

/-- A section that is composed keeps what there is of its calls. It is a block composed in place, or
    a list of references that are inlined one after another, and both are trimmed or joined without
    loss. -/
theorem oneSection (carried : Carried provider limit Kept) {plan : Plan}
    {weaving final : Weaving σ} {text : Text}
    (ran : (composeSection provider limit plan).run weaving = (.ok text, final)) :
    Kept (allCalls provider limit plan.tasks weaving) text := by
  cases plan with
  | inPlace block =>
    obtain ⟨woven, changed, composed, ended⟩ := Step.ok_of_bind ran
    cases ended
    have alone : allCalls provider limit (Plan.inPlace block).tasks weaving =
        blockCalls provider limit block weaving := by
      simp only [Plan.tasks, allCalls, taskCalls]
      split <;> simp
    rw [alone]
    exact carried.trim (carried.block composed)
  | listed references =>
    obtain ⟨outcomes, changed, inlined, ended⟩ := Step.ok_of_bind ran
    cases ended
    obtain ⟨_, groups, together, kept⟩ := carried.all inlined
    rw [Plan.tasks, ← together]
    exact carried.trim (carried.list kept)

/-- Sections that are composed keep what there is of their calls. One that is left out came to an
    empty text, which keeps that of its own.

    Proof: by induction on the tags. A tag without a block composes nothing. With one, the calls are
    those of the block and those of the tags behind it; if the text of the block is not empty, what
    is kept moves behind the heading and is extended by the text that follows. -/
theorem sections (carried : Carried provider limit Kept) {document : Document} {tags : List Tag}
    {weaving final : Weaving σ} {composed : List (Tag × Text)}
    (ran : (composeSections provider limit document tags).run weaving = (.ok composed, final)) :
    Kept (allCalls provider limit (sectionTasks document tags) weaving)
      (shownSections composed) := by
  induction tags generalizing weaving composed with
  | nil =>
    cases ran
    exact carried.nothing _
  | cons tag later ih =>
    rw [sectionTasks]
    rw [composeSections] at ran
    cases found : document.block? tag with
    | none =>
      rw [found] at ran
      exact ih ran
    | some block =>
      rw [found] at ran
      obtain ⟨text, middle, first, rest⟩ := Step.ok_of_bind ran
      obtain ⟨others, changed, second, ended⟩ := Step.ok_of_bind rest
      cases ended
      have own : Kept (allCalls provider limit (planOf block).tasks weaving) text :=
        carried.oneSection first
      rw [allCalls_append, performed_of_composeSection first]
      dsimp only
      split
      · rename_i empty
        rw [List.isEmpty_iff.mp empty] at own
        exact carried.append own (ih second)
      · exact carried.append (carried.extend (carried.prepend own _) _) (ih second)

/-- A skill that is shown keeps what there is of its calls, whatever its heading. -/
theorem skill (carried : Carried provider limit Kept) {calls : List Call} {outcome : Inline}
    (key : Key) (kept : Kept calls outcome.shown) : Kept calls (shownSkill key outcome) := by
  cases outcome with
  | suppressed => exact kept
  | content text => exact carried.extend (carried.prepend kept _) _
  | failed fault => exact carried.extend (carried.prepend kept _) _

/-- Skills that are shown under headings of their own keep what there is of the calls of all of
    them. There is one outcome for each key, so none of them is left without a heading. -/
theorem headed (carried : Carried provider limit Kept) {groups : List (List Call)}
    {outcomes : List Inline} {keys : List Key}
    (kept : List.Forall₂ (fun calls outcome => Kept calls outcome.shown) groups outcomes)
    (sameLength : outcomes.length = keys.length) :
    Kept groups.flatten
      ((keys.zip outcomes).flatMap (fun skill => shownSkill skill.1 skill.2)) := by
  induction kept generalizing keys with
  | nil => exact carried.nothing _
  | @cons calls outcome groups outcomes first _ ih =>
    cases keys with
    | nil => cases sameLength
    | cons key keys =>
      rw [List.length_cons, List.length_cons, Nat.succ.injEq] at sameLength
      rw [List.flatten_cons, List.zip_cons_cons, List.flatMap_cons]
      exact carried.append (carried.skill key first) (ih sameLength)

/-- The skills of a protocol keep what there is of their calls. They are shown under one heading in
    front of all, unless there is none of them. -/
theorem skills (carried : Carried provider limit Kept) {protocol : Text} {ids : NameSet}
    {weaving final : Weaving σ} {loaded : List (Key × Inline)} (heading : Text)
    (ran : (loadSkills provider limit protocol ids).run weaving = (.ok loaded, final)) :
    Kept (allCalls provider limit (skillTasks protocol ids) weaving)
      (shownSkills heading loaded) := by
  obtain ⟨outcomes, changed, inlined, ended⟩ := Step.ok_of_bind ran
  cases ended
  obtain ⟨sameLength, groups, together, kept⟩ := carried.all inlined
  rw [List.length_map] at sameLength
  have each : outcomes.length = (ids.names.map (Key.mk protocol)).length := by
    rw [List.length_map, sameLength]
  have headed := carried.headed kept each
  rw [skillTasks_eq, ← together]
  unfold shownSkills
  split
  · rename_i none
    rw [List.isEmpty_iff.mp none] at headed
    exact headed
  · exact carried.prepend headed _

/-- The parts of a role keep what there is of all calls, in the order in which they are put into its
    text.

    Proof: composing the parts is four steps, each of which ends well since all do. The calls of a
    role are those of the four steps one after the other, each from what the one before it has left.
    `skills` and `sections` say of each step that its text keeps its calls, and the texts follow
    each other in the same order. -/
theorem parts (carried : Carried provider limit Kept) {document : Document}
    {weaving final : Weaving σ} {parts : RoleParts}
    (ran : (composeParts provider limit document
        (idsOf thoughtProtocol (listedReferences document))
        (idsOf executionProtocol (listedReferences document))).run weaving =
      (.ok parts, final)) :
    Kept (allCalls provider limit (roleTasks document) weaving)
      (shownSkills "Thinking".toList parts.thoughts ++
        (shownSections parts.personality ++
          (shownSkills "Execution".toList parts.executions ++ shownSections parts.others))) := by
  obtain ⟨thoughts, afterThoughts, loadedThoughts, rest⟩ := Step.ok_of_bind ran
  obtain ⟨personality, afterPersonality, composedPersonality, rest⟩ := Step.ok_of_bind rest
  obtain ⟨executions, afterExecutions, loadedExecutions, rest⟩ := Step.ok_of_bind rest
  obtain ⟨others, afterOthers, composedOthers, ended⟩ := Step.ok_of_bind rest
  cases ended
  rw [roleTasks, allCalls_append, performed_of_loadSkills loadedThoughts]
  dsimp only
  rw [allCalls_append, performed_of_composeSections composedPersonality]
  dsimp only
  rw [allCalls_append, performed_of_loadSkills loadedExecutions]
  dsimp only
  apply carried.append
  · exact carried.skills _ loadedThoughts
  apply carried.append
  · exact carried.sections composedPersonality
  apply carried.append
  · exact carried.skills _ loadedExecutions
  · exact carried.sections composedOthers

end Carried

/-- The text of a role shows what is shown of its parts, one behind the other. Before them stands
    what is shown of the role itself, and behind them the summary. -/
theorem text_of_assemble (info : RoleInfo) (thoughts executions : NameSet) (parts : RoleParts)
    (pass : Pass) :
    (assemble info thoughts executions parts pass).text =
      shownInfo info ++
        (shownSkills "Thinking".toList parts.thoughts ++
          (shownSections parts.personality ++
            (shownSkills "Execution".toList parts.executions ++ shownSections parts.others))) ++
        shownSummary thoughts executions (parts.personality ++ parts.others) pass.status := by
  simp only [assemble, List.append_assoc]

end RoleWeave.Composition
