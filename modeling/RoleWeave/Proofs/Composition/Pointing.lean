import RoleWeave.Proofs.Composition.Carrying
import RoleWeave.Proofs.Composition.Emission
import RoleWeave.Proofs.Composition.Hoisting
import RoleWeave.Proofs.Composition.Reach
import RoleWeave.Proofs.Composition.Retention
import RoleWeave.Proofs.Text.Sequence

/-!
# Pointers

A lazy reference is a pointer: it stays in the text as it was written. The text of a role shows the
pointers of every section that has prose, and those of every document whose content was come to, each
time all of them and in their order. They travel upwards with the text around them, from which
trimming takes nothing of a pointer.

A section without prose loses its pointers: of a list of references, only those are shown that give
way to a content (`listed_pointer_vanishes`).

A resource to which all references are lazy is not touched: no call is for it, so that it is neither
loaded nor left out, is not met and is not shown as a skill.
-/

namespace RoleWeave

/-- A part without any blank is solid: it neither begins nor ends with one. -/
theorem Text.Solid.of_unblank {part : Text} (nonempty : part ≠ [])
    (unblank : ∀ c ∈ part, isBlank c = false) : Solid part where
  begins := by
    obtain ⟨c, rest, rfl⟩ := List.exists_cons_of_ne_nil nonempty
    exact ⟨c, rest, rfl, unblank c List.mem_cons_self⟩
  ends :=
    ⟨part.dropLast, part.getLast nonempty, (List.dropLast_append_getLast nonempty).symm,
      unblank _ (List.getLast_mem nonempty)⟩

/-- The references of a text are solid where they stand. They are not empty, and no blank is in
    them. -/
theorem Reference.Scanned.solid_mark {reference : Reference} (scanned : reference.Scanned) :
    Text.Solid reference.render := by
  apply Text.Solid.of_unblank
  · intro empty
    have positive := reference.byteSize_render_pos
    rw [empty] at positive
    exact absurd positive (by decide)
  · exact solid_render scanned.named scanned.solid

/-- A part that a text shows is an infix of it. -/
theorem Text.Shows.isInfix {part : Text} {later : List Text} {text : Text}
    (shows : Shows (part :: later) text) : part <:+: text := by
  cases shows with
  | next before _ _ => exact ⟨before, _, rfl⟩

namespace Composition

open Text (Shows)

/-- The pointers among pieces, as they are written. -/
def pointersAmong (parts : List Piece) : List Text :=
  ((parts.filterMap Piece.reference?).filter (fun reference => !reference.loading.inlines)).map
    Reference.render

/-- The pointers of a text: its lazy references, as they are written there, in their order. -/
def pointers (text : Text) : List Text :=
  pointersAmong (pieces text)

/-- The pointers of a text are solid, as all its references are. A reference that was scanned begins
    with a sign, and the resource that it ends with has no blank. -/
theorem solid_of_mem_pointers {text : Text} : ∀ part ∈ pointers text, Text.Solid part := by
  intro part member
  obtain ⟨reference, lazy, rfl⟩ := List.mem_map.mp member
  obtain ⟨piece, among, same⟩ := List.mem_filterMap.mp (List.mem_filter.mp lazy).1
  cases piece with
  | prose c => cases same
  | reference _ =>
    cases same
    exact (Reference.scanned_of_mem among).solid_mark

variable {σ : Type}

/-- What pieces are composed to shows the pointers among them. By induction on the composition, in
    which a pointer is written as it stands and everything else is put before what comes later. -/
theorem pointers_of_woven {inline : Reference → Step (Weaving σ) Inline}
    {calls : Reference → Weaving σ → List Call} {parts : List Piece} {weaving final : Weaving σ}
    {text : Text} {made : List Call}
    (woven : Woven inline calls parts weaving text final made) : Shows (pointersAmong parts) text := by
  induction woven with
  | done weaving => exact .nothing _
  | prose c _ ih => exact ih.prepend [c]
  | @pointer later _ _ _ _ reference pointer _ ih =>
    have first : pointersAmong (.reference reference :: later) =
        [reference.render] ++ pointersAmong later := by
      simp [pointersAmong, Piece.reference?, pointer]
    rw [first]
    exact (Shows.self _).append ih
  | @shown later _ _ _ _ _ reference outcome inlines _ _ ih =>
    have same : pointersAmong (.reference reference :: later) = pointersAmong later := by
      simp [pointersAmong, Piece.reference?, inlines]
    rw [same]
    exact ih.prepend _

/-- A text shows the pointers of every content that was loaded by calls. -/
def Pointing (calls : List Call) (text : Text) : Prop :=
  ∀ call ∈ calls, ∀ content, call.source = some content → Shows (pointers content) text

variable {provider : Provider σ} {limit : Nat}

variable (provider limit) in
/-- That a text shows the pointers of the contents is carried upwards. The pointers of a content are
    shown by what it is composed to, and later by all that this is part of. -/
theorem carried_pointing : Carried provider limit Pointing where
  nothing _ := by simp [Pointing]
  append first second := by
    intro call member content loaded
    rcases List.mem_append.mp member with early | late
    · exact (first call early content loaded).extend _
    · exact (second call late content loaded).prepend _
  trim kept := fun call member content loaded =>
    (kept call member content loaded).trim solid_of_mem_pointers
  met _ _ _ := by simp [Pointing]
  failed _ _ _ _ := by simp [Pointing]
  composed woven kept := by
    refine List.forall_mem_cons.mpr ⟨?_, kept⟩
    intro content same
    cases same
    exact pointers_of_woven woven

/-- Where a section has prose, what is shown of the sections shows its pointers. If there are any,
    the section is not empty, and so it is not left out.

    Proof: by induction on the tags. The block of the first is composed in place, and its text shows
    its pointers (`pointers_of_woven`), also when it is trimmed. If the trimmed text is empty, it
    shows no parts, so there are no pointers. For the others what is shown of the first section is
    put in front. -/
theorem pointers_of_sections {document : Document} {tags : List Tag} {weaving final : Weaving σ}
    {composed : List (Tag × Text)}
    (ran : (composeSections provider limit document tags).run weaving = (.ok composed, final)) :
    ∀ tag ∈ tags, ∀ block, proseBlock? document tag = some block →
      Shows (pointers block.text) (shownSections composed) := by
  induction tags generalizing weaving composed with
  | nil => simp
  | cons tag later ih =>
    rw [composeSections_cons] at ran
    obtain ⟨text, middle, first, rest⟩ := Step.ok_of_bind ran
    obtain ⟨others, changed, second, ended⟩ := Step.ok_of_bind rest
    cases ended
    rw [List.forall_mem_cons]
    constructor
    · intro block prose
      rw [prose] at first
      obtain ⟨woven, _, composed, trimmed⟩ := Step.ok_of_bind first
      cases trimmed
      have shows : Shows (pointers block.text) (Text.trim woven) :=
        (pointers_of_woven (woven_of_weave (fun _ _ => []) composed)).trim solid_of_mem_pointers
      split
      · rename_i empty
        rw [List.isEmpty_iff.mp empty] at shows
        exact shows.extend (shownSections others)
      · exact ((shows.prepend _).extend _).extend (shownSections others)
    · intro other member block prose
      have shows := ih second other member block prose
      split
      · exact shows
      · exact shows.prepend _

/-- The parts of a role show the pointers of the sections with prose. The section of the personality
    comes before the executions, the other two come behind them. -/
theorem pointers_of_parts {document : Document} {weaving final : Weaving σ} {parts : RoleParts}
    {thoughts executions : NameSet}
    (ran : (composeParts provider limit document thoughts executions).run weaving =
      (.ok parts, final)) :
    ∀ tag ∈ Tag.sections, ∀ block, proseBlock? document tag = some block →
      Shows (pointers block.text)
        (shownSkills "Thinking".toList parts.thoughts ++
          (shownSections parts.personality ++
            (shownSkills "Execution".toList parts.executions ++ shownSections parts.others))) := by
  obtain ⟨thoughts, afterThoughts, loadedThoughts, rest⟩ := Step.ok_of_bind ran
  obtain ⟨personality, afterPersonality, composedPersonality, rest⟩ := Step.ok_of_bind rest
  obtain ⟨executions, afterExecutions, loadedExecutions, rest⟩ := Step.ok_of_bind rest
  obtain ⟨others, afterOthers, composedOthers, ended⟩ := Step.ok_of_bind rest
  cases ended
  have first := pointers_of_sections composedPersonality
  have second := pointers_of_sections composedOthers
  rw [Tag.sections, List.forall_mem_cons]
  constructor
  · intro block prose
    exact ((first .personality List.mem_cons_self block prose).extend _).prepend _
  · intro tag member block prose
    exact (((second tag member block prose).prepend _).prepend _).prepend _

/-- All references to a resource in the sections of a document, and in the contents that calls have
    loaded, are lazy. -/
structure OnlyPointedAt (document : Document) (calls : List Call) (key : Key) : Prop where
  sections : ∀ tag ∈ Tag.sections, ∀ block, document.block? tag = some block →
    ∀ token ∈ block.tokens, token.reference.key = key → token.reference.loading = .lazy
  contents : ∀ call ∈ calls, ∀ content, call.source = some content →
    ∀ token ∈ tokens content, token.reference.key = key → token.reference.loading = .lazy

/-- A reference that is to be inlined has a place in its text, and is not lazy. -/
theorem token_of_inlined {text : Text} {reference : Reference} (member : reference ∈ inlined text) :
    ∃ token ∈ tokens text, token.reference = reference ∧ reference.loading ≠ .lazy := by
  obtain ⟨scanned, inlines⟩ := List.mem_filter.mp member
  rw [references_eq_map_tokens] at scanned
  obtain ⟨token, placed, same⟩ := List.mem_map.mp scanned
  exact ⟨token, placed, same, Loading.inlines_iff.mp inlines⟩

namespace OnlyPointedAt

variable {document : Document} {calls : List Call} {key : Key}

/-- No section asks for a resource that is only pointed at. -/
theorem unasked (only : OnlyPointedAt document calls key) : ¬ Asks document key := by
  rintro ⟨tag, known, block, found, reference, inside, same⟩
  obtain ⟨token, placed, rfl, eager⟩ := token_of_inlined inside
  exact eager (only.sections tag known block found token placed same)

/-- No content that was loaded asks for it. -/
theorem closed (only : OnlyPointedAt document calls key) : Closed (fun other => other ≠ key) calls := by
  intro call member content loaded reference inside same
  obtain ⟨token, placed, rfl, eager⟩ := token_of_inlined inside
  exact eager (only.contents call member content loaded token placed same)

end OnlyPointedAt

section Uncalled

variable {info : RoleInfo} {document : Document} {world : σ} {key : Key}

/-- A resource that is only pointed at is not called for. -/
theorem uncalled_of_pointedAt
    (only : OnlyPointedAt document (roleCalls provider limit info document world) key) :
    ∀ call ∈ roleCalls provider limit info document world, call.key ≠ key := by
  apply reached_of_role _ only.closed
  rintro other asks rfl
  exact only.unasked asks

/-- What is not called for is not loaded. The provider that takes notes loads the same as the one
    that does not, and it notes the calls that load. -/
theorem unloaded_of_uncalled
    (uncalled : ∀ call ∈ roleCalls provider limit info document world, call.key ≠ key) :
    key ∉ ((composeRole provider.noting limit info document).run (world, [])).2.2 := by
  rw [role_noting]
  intro member
  obtain ⟨call, loads, same⟩ := List.mem_map.mp member
  exact uncalled call (List.mem_filter.mp loads).1 same

/-- What is not called for is met only if it is the role itself. Whatever a run has met in the end
    was met at its beginning or called for, and a role begins with itself as the one resource that
    was met. -/
theorem unmet_of_uncalled
    (uncalled : ∀ call ∈ roleCalls provider limit info document world, call.key ≠ key) {ready : σ}
    (readied : provider.ready.run world = (.ok (), ready))
    (met : ((performAll provider limit (roleTasks document)).run
      ⟨ready, rolePass info⟩).2.pass.isVisited key = true) :
    key = ⟨roleProtocol, info.id⟩ := by
  have run := run_tasks provider limit (roleTasks document) ⟨ready, rolePass info⟩
  rw [roleCalls, readied] at uncalled
  obtain own | ⟨call, member, same⟩ := run.visited key met
  · simpa [rolePass, Pass.withVisited, Pass.isVisited] using own
  · exact absurd same (uncalled call member)

/-- What is not called for is not left out anywhere, and shown as no skill. References that are left
    out and skills come of calls for their keys. -/
theorem unshown_of_uncalled
    (uncalled : ∀ call ∈ roleCalls provider limit info document world, call.key ≠ key)
    {role : ComposedRole} {after : σ}
    (composed : (composeRole provider limit info document).run world = (.ok role, after)) :
    key ∉ role.suppressed ∧ ∀ skill ∈ role.skills, skill.key ≠ key := by
  constructor
  · rw [(records_of_role composed).2.2]
    intro member
    obtain ⟨call, met, same⟩ := List.mem_map.mp member
    exact uncalled call (List.mem_filter.mp met).1 same
  · intro skill member same
    obtain ⟨_, _, start, _, ran, among⟩ := calls_of_skill composed skill member
    obtain ⟨call, own, refers, _⟩ := mem_calls_of_within ran
    apply uncalled call (among.subset own)
    rw [Call.key, refers, ← same]
    rfl

end Uncalled

/-- The references that a role refers to lazily stay in its text as pointers, unless they stand in a
    section without prose. Of every section with prose, and of every document that was loaded, the
    text of a composed role shows all pointers in their order. A resource to which the sections and
    the loaded documents refer by pointers only is not loaded, and no call is for it; it is met only
    if it is the role itself, is not left out anywhere and is not among the skills.

    Proof: the parts of the role show the pointers of its sections (`pointers_of_parts`) and of the
    contents of its calls (`carried_pointing`), and the text shows the parts. The keys that are not
    only pointed at have what the sections ask for and what the loaded contents refer to, so all
    calls are for such keys (`reached_of_role`); what is not called for is not loaded, not met and
    not shown. -/
theorem pointers_remain (provider : Provider σ) (limit : Nat) (info : RoleInfo)
    (document : Document) (world : σ) :
    let calls := roleCalls provider limit info document world
    let loaded := ((composeRole provider.noting limit info document).run (world, [])).2.2
    (∀ role after, (composeRole provider limit info document).run world = (.ok role, after) →
      (∀ tag ∈ Tag.sections, ∀ block, proseBlock? document tag = some block →
        Shows (pointers block.text) role.text) ∧
      ∀ call ∈ calls, ∀ content, call.source = some content →
        Shows (pointers content) role.text) ∧
    ∀ key, OnlyPointedAt document calls key →
      key ∉ loaded ∧ (∀ call ∈ calls, call.key ≠ key) ∧
      (∀ ready, provider.ready.run world = (.ok (), ready) →
        ((performAll provider limit (roleTasks document)).run ⟨ready, rolePass info⟩).2.pass.isVisited
          key = true → key = ⟨roleProtocol, info.id⟩) ∧
      ∀ role after, (composeRole provider limit info document).run world = (.ok role, after) →
        key ∉ role.suppressed ∧ (∀ skill ∈ role.skills, skill.key ≠ key) ∧
        (∀ id ∈ role.thoughts, (⟨thoughtProtocol, id⟩ : Key) ≠ key) ∧
        ∀ id ∈ role.executions, (⟨executionProtocol, id⟩ : Key) ≠ key := by
  intro calls loaded
  constructor
  · intro role after composed
    obtain ⟨ready, parts, final, readied, made, _, rfl, _⟩ := tasks_of_composeRole composed
    have made' : calls = allCalls provider limit (roleTasks document) ⟨ready, rolePass info⟩ := by
      simp only [calls, roleCalls, readied]
    rw [text_of_assemble, made']
    constructor
    · intro tag known block prose
      exact ((pointers_of_parts made tag known block prose).prepend _).extend _
    · intro call member content source
      have shows := (carried_pointing provider limit).parts made call member content source
      exact (shows.prepend _).extend _
  · intro key only
    have uncalled : ∀ call ∈ calls, call.key ≠ key := uncalled_of_pointedAt only
    refine ⟨unloaded_of_uncalled uncalled, uncalled, ?_, ?_⟩
    · intro ready readied
      exact unmet_of_uncalled uncalled readied
    · intro role after composed
      obtain ⟨unsuppressed, skillless⟩ := unshown_of_uncalled uncalled composed
      obtain ⟨_, _, _, _, _, _, rfl, _⟩ := tasks_of_composeRole composed
      refine ⟨unsuppressed, skillless, ?_, ?_⟩
      · rintro id hoisted rfl
        exact only.unasked (asks_of_mem_idsOf hoisted)
      · rintro id hoisted rfl
        exact only.unasked (asks_of_mem_idsOf hoisted)

/-- The document of a role with a pointer in prose and a document to be loaded. -/
def pointingRole : Document :=
  ⟨"<personality>Calm: @doc://a @?doc://b.</personality>".toList,
    [⟨"personality".toList, 13, 38⟩]⟩

/-- A library with a document that has a pointer in it. -/
def pointingLibrary : Library :=
  Library.ofFiles "doc".toList [("a".toList, "\nSee @?doc://c".toList)]

/-- The composition of that role from that library. -/
def composePointing : Except Fault ComposedRole × Library :=
  (composeRole Library.provider 8 (RoleInfo.plain "r".toList) pointingRole).run pointingLibrary

/-- Both pointers are shown, and the resource of the one in the document is not touched. The
    provider notes that it is not asked for it. -/
theorem pointing_role_shown :
    ∃ role after, composePointing = (.ok role, after) ∧
      Shows ["@?doc://b".toList] role.text ∧ Shows ["@?doc://c".toList] role.text ∧
      (⟨"doc".toList, "c".toList⟩ : Key) ∉ role.suppressed ∧
      (⟨"doc".toList, "c".toList⟩ : Key) ∉
        ((composeRole Library.provider.noting 8 (RoleInfo.plain "r".toList) pointingRole).run
          (pointingLibrary, [])).2.2 := by
  have ended : composePointing.1.isOk = true := by decide +kernel
  have sources : (roleCalls Library.provider 8 (RoleInfo.plain "r".toList) pointingRole
      pointingLibrary).map Call.source = [some "\nSee @?doc://c".toList] := by decide +kernel
  have prose : proseBlock? pointingRole .personality =
      some ⟨.personality, "Calm: @doc://a @?doc://b.".toList⟩ := by decide +kernel
  have only : OnlyPointedAt pointingRole (roleCalls Library.provider 8 (RoleInfo.plain "r".toList)
      pointingRole pointingLibrary) ⟨"doc".toList, "c".toList⟩ := by
    constructor
    · have checked : (Tag.sections.all fun tag => (pointingRole.block? tag).all fun block =>
          block.tokens.all fun token =>
            decide (token.reference.key = ⟨"doc".toList, "c".toList⟩ →
              token.reference.loading = .lazy)) = true := by decide +kernel
      simpa only [List.all_eq_true, Option.all_eq_true, decide_eq_true_eq] using checked
    · intro call member content loaded
      have among := List.mem_map_of_mem (f := Call.source) member
      rw [sources, loaded, List.mem_singleton] at among
      cases among
      decide +kernel
  rcases composed : composePointing with ⟨fault | role, after⟩
  · rw [composed] at ended
    cases ended
  · obtain ⟨shown, untouched⟩ := pointers_remain Library.provider 8 (RoleInfo.plain "r".toList)
      pointingRole pointingLibrary
    obtain ⟨inSections, inContents⟩ := shown role after composed
    obtain ⟨unloaded, _, _, silent⟩ := untouched _ only
    obtain ⟨call, member, loaded⟩ := List.mem_map.mp (sources ▸ List.mem_singleton_self _)
    exact ⟨role, after, rfl, inSections .personality List.mem_cons_self _ prose,
      inContents call member _ loaded, (silent role after composed).1, unloaded⟩

/-- The document of a role with a section that is a list of a pointer only. -/
def listingRole : Document :=
  ⟨"<knowledge>@?thought://a</knowledge>".toList, [⟨"knowledge".toList, 11, 24⟩]⟩

/-- The pointer of a section without prose is not shown, although the section is a list of nothing
    else. -/
theorem listed_pointer_vanishes :
    ∃ block role after, listingRole.block? .knowledge = some block ∧
      pointers block.text = ["@?thought://a".toList] ∧
      (composeRole Library.provider 8 (RoleInfo.plain "r".toList) listingRole).run
          (Library.ofFiles "doc".toList []) = (.ok role, after) ∧
      ¬ Shows (pointers block.text) role.text := by
  have found : listingRole.block? .knowledge = some ⟨.knowledge, "@?thought://a".toList⟩ := by
    decide +kernel
  have pointed : pointers "@?thought://a".toList = ["@?thought://a".toList] := by decide +kernel
  have hidden : ((composeRole Library.provider 8 (RoleInfo.plain "r".toList) listingRole).run
      (Library.ofFiles "doc".toList [])).1.toOption.map
        (fun role => Text.holds role.text "@?thought://a".toList) = some false := by
    decide +kernel
  rcases composed : (composeRole Library.provider 8 (RoleInfo.plain "r".toList) listingRole).run
      (Library.ofFiles "doc".toList []) with ⟨fault | role, after⟩
  · rw [composed] at hidden
    cases hidden
  · rw [composed] at hidden
    refine ⟨_, role, after, found, pointed, rfl, ?_⟩
    intro shows
    rw [pointed] at shows
    have absent : Text.holds role.text "@?thought://a".toList = false := Option.some.inj hidden
    rw [Bool.eq_false_iff, ne_eq, Text.holds_iff] at absent
    exact absent shows.isInfix

end Composition

end RoleWeave
