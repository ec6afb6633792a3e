import Mathlib.Data.List.Forall2
import RoleWeave.Proofs.Composition.Reach

/-!
# Compositions side by side

Two compositions are run side by side, with two providers. Their outcomes correspond if they are both
values, which fit each other, or both faults, which do. What is shown of a reference that failed is no
more than the wording of its fault, so a role comes out the same on both sides as soon as faults that
fit have the same wording: `corresponds_role` says so, given that inlining the references runs in
parallel that the composition reaches.
-/

namespace RoleWeave

/-- Faults with the same wording have the same marker. -/
theorem Fault.marker_congr {fault other : Fault} (same : fault.message = other.message) :
    fault.marker = other.marker := by
  unfold marker
  rw [same]

/-- Two outcomes that are both values or both faults, which fit each other. -/
inductive Corresponds {α β : Type} (Fits : Fault → Fault → Prop) (Value : α → β → Prop) :
    Except Fault α → Except Fault β → Prop where
  | ok {value : α} {other : β} (same : Value value other) :
      Corresponds Fits Value (.ok value) (.ok other)
  | error {fault other : Fault} (fits : Fits fault other) :
      Corresponds Fits Value (.error fault) (.error other)

/-- Outcomes correspond in all respects exactly if they are equal. -/
theorem corresponds_eq_iff {α : Type} {first second : Except Fault α} :
    Corresponds Eq Eq first second ↔ first = second := by
  constructor
  · intro corresponds
    cases corresponds with
    | ok same => rw [same]
    | error fits => rw [fits]
  · rintro rfl
    cases first with
    | error fault => exact .error rfl
    | ok value => exact .ok rfl

namespace Inline

/-- Two references came to the same: to the same content, to nothing, or to faults that fit each
    other. -/
inductive Matches (Fits : Fault → Fault → Prop) : Inline → Inline → Prop where
  | content (text : Text) : Matches Fits (.content text) (.content text)
  | suppressed : Matches Fits .suppressed .suppressed
  | failed {fault other : Fault} (fits : Fits fault other) :
      Matches Fits (.failed fault) (.failed other)

/-- An outcome is the same as itself. -/
theorem Matches.refl (outcome : Inline) : Matches Eq outcome outcome := by
  cases outcome with
  | content text => exact .content text
  | suppressed => exact .suppressed
  | failed fault => exact .failed rfl

end Inline

namespace Composition

variable {σ τ : Type}

/-- Two steps come to corresponding outcomes from related weavings, and leave related weavings. -/
def Parallel {α β : Type} (Related : Weaving σ → Weaving τ → Prop) (Fits : Fault → Fault → Prop)
    (Value : α → β → Prop) (first : Step (Weaving σ) α) (second : Step (Weaving τ) β) : Prop :=
  ∀ weaving other, Related weaving other →
    Corresponds Fits Value (first.run weaving).1 (second.run other).1 ∧
      Related (first.run weaving).2 (second.run other).2

section Sequences

variable {Related : Weaving σ → Weaving τ → Prop} {Fits : Fault → Fault → Prop}

/-- Values that fit are parallel. -/
theorem Parallel.value {α β : Type} {Value : α → β → Prop} {value : α} {other : β}
    (same : Value value other) :
    Parallel Related Fits Value (pure value) (pure other) :=
  fun _ _ related => ⟨.ok same, related⟩

/-- Sequences are parallel if both their parts are. The second parts run from the values and the
    weavings that the first parts came to, which fit and are related. -/
theorem Parallel.bind {α β γ δ : Type} {Value : α → β → Prop} {Result : γ → δ → Prop}
    {first : Step (Weaving σ) α} {second : Step (Weaving τ) β} {next : α → Step (Weaving σ) γ}
    {otherNext : β → Step (Weaving τ) δ} (before : Parallel Related Fits Value first second)
    (after : ∀ value other, Value value other →
      Parallel Related Fits Result (next value) (otherNext other)) :
    Parallel Related Fits Result (first >>= next) (second >>= otherNext) := by
  intro weaving other related
  obtain ⟨corresponds, stillRelated⟩ := before weaving other related
  rw [Step.run_bind, Step.run_bind]
  generalize first.run weaving = ran at corresponds stillRelated ⊢
  generalize second.run other = otherRan at corresponds stillRelated ⊢
  obtain ⟨outcome, changed⟩ := ran
  obtain ⟨otherOutcome, otherChanged⟩ := otherRan
  cases corresponds with
  | ok same => exact after _ _ same changed otherChanged stillRelated
  | error fits => exact ⟨.error fits, stillRelated⟩

/-- What is shown of outcomes that match is the same, if faults that fit have the same wording. A
    failure shows its wording and nothing else of its fault. -/
theorem shown_of_matches (worded : ∀ fault other, Fits fault other → fault.message = other.message)
    {outcome other : Inline} (same : outcome.Matches Fits other) : outcome.shown = other.shown := by
  cases same with
  | content text => rfl
  | suppressed => rfl
  | failed fits =>
    unfold Inline.shown
    exact Fault.marker_congr (worded _ _ fits)

/-- Weaving the same pieces is parallel if inlining each of their references is.

    Proof: by induction on the pieces. Prose and pointers are written without a step. The outcomes
    of a reference match, so the same is shown of them on both sides, and the later pieces follow in
    parallel. -/
theorem parallel_weave (worded : ∀ fault other, Fits fault other → fault.message = other.message)
    {inline : Reference → Step (Weaving σ) Inline}
    {otherInline : Reference → Step (Weaving τ) Inline} {parts : List Piece}
    (each : ∀ reference, Piece.reference reference ∈ parts → reference.loading.inlines = true →
      Parallel Related Fits (Inline.Matches Fits) (inline reference) (otherInline reference)) :
    Parallel Related Fits Eq (weave inline parts) (weave otherInline parts) := by
  induction parts with
  | nil => exact .value rfl
  | cons piece later ih =>
    have rest := ih (fun reference member => each reference (List.mem_cons_of_mem piece member))
    cases piece with
    | prose c =>
      apply Parallel.bind rest
      rintro text _ rfl
      exact .value rfl
    | reference reference =>
      rw [weave, weave]
      split
      · rename_i inlines
        apply Parallel.bind (each reference List.mem_cons_self inlines)
        intro outcome other same
        rw [shown_of_matches worded same]
        apply Parallel.bind rest
        rintro text _ rfl
        exact .value rfl
      · apply Parallel.bind rest
        rintro text _ rfl
        exact .value rfl

end Sequences

section Roles

variable {Related : Weaving σ → Weaving τ → Prop} {Fits : Fault → Fault → Prop}
  {Reached : Key → Prop} {provider : Provider σ} {otherProvider : Provider τ} {limit : Nat}

/-- Two skills are those of one key, and their outcomes match. -/
def SameSkill (Fits : Fault → Fault → Prop) (skill other : Key × Inline) : Prop :=
  skill.1 = other.1 ∧ skill.2.Matches Fits other.2

/-- The parts of two roles match. -/
structure RoleParts.Matches (Fits : Fault → Fault → Prop) (parts other : RoleParts) : Prop where
  thoughts : List.Forall₂ (SameSkill Fits) parts.thoughts other.thoughts
  personality : parts.personality = other.personality
  executions : List.Forall₂ (SameSkill Fits) parts.executions other.executions
  others : parts.others = other.others

section Shown

variable (worded : ∀ fault other, Fits fault other → fault.message = other.message)

include worded

/-- Lists of outcomes that match are shown alike. An outcome that is left out on one side is left
    out on the other. -/
theorem shownList_of_matches {outcomes others : List Inline}
    (same : List.Forall₂ (Inline.Matches Fits) outcomes others) :
    shownList outcomes = shownList others := by
  have shown : (outcomes.filter (fun outcome => outcome != .suppressed)).map Inline.shown =
      (others.filter (fun outcome => outcome != .suppressed)).map Inline.shown := by
    induction same with
    | nil => rfl
    | cons first _ ih =>
      have here := shown_of_matches worded first
      cases first with
      | suppressed => exact ih
      | content text =>
        rw [List.filter_cons_of_pos rfl, List.filter_cons_of_pos rfl, List.map_cons, List.map_cons, ih]
      | failed fits =>
        rw [List.filter_cons_of_pos rfl, List.filter_cons_of_pos rfl, List.map_cons, List.map_cons,
          here, ih]
  rw [shownList, shownList, shown]

/-- Skills that match are shown alike, each under the heading of its key. Their outcomes differ at
    most in a fault, and the faults of both have the same wording. -/
theorem shownSkills_of_matches (heading : Text) {skills others : List (Key × Inline)}
    (same : List.Forall₂ (SameSkill Fits) skills others) :
    shownSkills heading skills = shownSkills heading others := by
  have shown : skills.flatMap (fun skill => shownSkill skill.1 skill.2) =
      others.flatMap (fun skill => shownSkill skill.1 skill.2) := by
    induction same with
    | nil => rfl
    | @cons skill other _ _ first _ ih =>
      obtain ⟨key, outcome⟩ := skill
      obtain ⟨_, otherOutcome⟩ := other
      obtain ⟨rfl, same⟩ := first
      have here := shown_of_matches worded same
      have alike : shownSkill key outcome = shownSkill key otherOutcome := by
        cases same with
        | content text => rfl
        | suppressed => rfl
        | failed fits => simp only [shownSkill, here]
      rw [List.flatMap_cons, List.flatMap_cons, alike, ih]
  rw [shownSkills, shownSkills, shown]
  cases same <;> rfl

omit worded in
/-- Skills that match have the same contents. Only those that came to content have one, and their
    texts are the same. -/
theorem skillsOf_matches {skills others : List (Key × Inline)}
    (same : List.Forall₂ (SameSkill Fits) skills others) :
    skills.filterMap (fun skill => skillOf? skill.1 skill.2) =
      others.filterMap (fun skill => skillOf? skill.1 skill.2) := by
  induction same with
  | nil => rfl
  | @cons skill other _ _ first _ ih =>
    obtain ⟨key, outcome⟩ := skill
    obtain ⟨_, otherOutcome⟩ := other
    obtain ⟨rfl, same⟩ := first
    have alike : skillOf? key outcome = skillOf? key otherOutcome := by
      cases same <;> rfl
    rw [List.filterMap_cons, List.filterMap_cons, alike, ih]

/-- Parts that match make up the same role. -/
theorem assemble_of_matches (info : RoleInfo) (thoughts executions : NameSet)
    {parts other : RoleParts} (same : parts.Matches Fits other) (pass : Pass) :
    assemble info thoughts executions parts pass = assemble info thoughts executions other pass := by
  rw [assemble, assemble, shownSkills_of_matches worded _ same.thoughts,
    shownSkills_of_matches worded _ same.executions, same.personality, same.others,
    skillsOf_matches (List.rel_append same.thoughts same.executions)]

end Shown

section Parts

variable (worded : ∀ fault other, Fits fault other → fault.message = other.message)
  (each : ∀ reference : Reference, Reached reference.key →
    Parallel Related Fits (Inline.Matches Fits) (inlineAt provider limit 0 reference)
      (inlineAt otherProvider limit 0 reference))

include each

/-- References inlined one after another come to outcomes that match, by induction on the
    references. -/
theorem parallel_all {references : List Reference}
    (reached : ∀ reference ∈ references, Reached reference.key) :
    Parallel Related Fits (List.Forall₂ (Inline.Matches Fits)) (inlineAll provider limit references)
      (inlineAll otherProvider limit references) := by
  induction references with
  | nil => exact .value .nil
  | cons reference later ih =>
    obtain ⟨here, rest⟩ := List.forall_mem_cons.mp reached
    apply Parallel.bind (each reference here)
    intro outcome other same
    apply Parallel.bind (ih rest)
    exact fun outcomes others sameLater => .value (.cons same sameLater)

/-- Skills are loaded in parallel. They are references inlined one after another, and the outcomes
    are put together with the same keys. -/
theorem parallel_skills {protocol : Text} {ids : NameSet}
    (reached : ∀ id ∈ ids, Reached ⟨protocol, id⟩) :
    Parallel Related Fits (List.Forall₂ (SameSkill Fits))
      (loadSkills provider limit protocol ids) (loadSkills otherProvider limit protocol ids) := by
  apply Parallel.bind (parallel_all each (List.forall_mem_map.mpr reached))
  intro outcomes others same
  apply Parallel.value
  generalize ids.names.map (Key.mk protocol) = keys
  induction same generalizing keys with
  | nil => cases keys <;> exact .nil
  | cons first _ ih =>
    cases keys with
    | nil => exact .nil
    | cons key keys => exact .cons ⟨rfl, first⟩ (ih keys)

include worded

/-- A section is composed to the same text, whether it is composed in place or inlined as a list. In
    a list only those references are inlined that the block has. -/
theorem parallel_section {block : Block}
    (reached : ∀ reference ∈ inlined block.text, Reached reference.key) :
    Parallel Related Fits Eq (composeSection provider limit (planOf block))
      (composeSection otherProvider limit (planOf block)) := by
  unfold planOf
  split
  · have woven : Parallel Related Fits Eq (composeBlock provider limit block)
        (composeBlock otherProvider limit block) :=
      parallel_weave worded (fun reference member inlines =>
        each reference (reached reference (mem_inlined member inlines)))
    apply Parallel.bind woven
    rintro text _ rfl
    exact .value rfl
  · apply Parallel.bind (parallel_all each
      (fun reference member => reached reference (List.mem_filter.mp member).1))
    intro outcomes others same
    rw [shownList_of_matches worded same]
    exact .value rfl

/-- So are the sections with any tags. A section that comes to an empty text is left out on both
    sides. -/
theorem parallel_sections {document : Document} {tags : List Tag}
    (reached : ∀ tag ∈ tags, ∀ block, document.block? tag = some block →
      ∀ reference ∈ inlined block.text, Reached reference.key) :
    Parallel Related Fits Eq (composeSections provider limit document tags)
      (composeSections otherProvider limit document tags) := by
  induction tags with
  | nil => exact .value rfl
  | cons tag later ih =>
    obtain ⟨here, rest⟩ := List.forall_mem_cons.mp reached
    rw [composeSections, composeSections]
    cases found : document.block? tag with
    | none => exact ih rest
    | some block =>
      apply Parallel.bind (parallel_section worded each (here block found))
      rintro text _ rfl
      apply Parallel.bind (ih rest)
      rintro others _ rfl
      exact .value rfl

/-- The parts of a role come out matching each other, if the composition reaches what the sections
    ask for. They are four steps one after the other, and each is parallel. -/
theorem parallel_parts {document : Document} (asked : ∀ key, Asks document key → Reached key) :
    Parallel Related Fits (RoleParts.Matches Fits)
      (composeParts provider limit document (idsOf thoughtProtocol (listedReferences document))
        (idsOf executionProtocol (listedReferences document)))
      (composeParts otherProvider limit document (idsOf thoughtProtocol (listedReferences document))
        (idsOf executionProtocol (listedReferences document))) := by
  have skills : ∀ protocol, ∀ id ∈ idsOf protocol (listedReferences document),
      Reached ⟨protocol, id⟩ :=
    fun protocol id member => asked _ (asks_of_mem_idsOf member)
  have sections : ∀ tags : List Tag, (∀ tag ∈ tags, tag ∈ Tag.sections) → ∀ tag ∈ tags,
      ∀ block, document.block? tag = some block →
        ∀ reference ∈ inlined block.text, Reached reference.key :=
    fun tags known tag member block found reference inside =>
      asked _ ⟨tag, known tag member, block, found, reference, inside, rfl⟩
  apply Parallel.bind (parallel_skills each (skills thoughtProtocol))
  intro thoughts otherThoughts sameThoughts
  apply Parallel.bind (parallel_sections worded each (sections [.personality] (by decide)))
  rintro personality _ rfl
  apply Parallel.bind (parallel_skills each (skills executionProtocol))
  intro executions otherExecutions sameExecutions
  apply Parallel.bind (parallel_sections worded each (sections [.principle, .knowledge] (by decide)))
  rintro others _ rfl
  exact .value ⟨sameThoughts, rfl, sameExecutions, rfl⟩

variable (Reached) in
/-- Once everything is ready, a role comes out the same on both sides, or with faults that fit.

    Proof: the parts are composed in parallel, from related weavings. If both come to parts, these
    match and the passes are the same, so `assemble` makes one role of them. If both come to faults,
    these fit. The worlds that are left are those of the weavings. -/
theorem corresponds_role (samePass : ∀ weaving other, Related weaving other → weaving.pass = other.pass)
    {info : RoleInfo} {document : Document} (asked : ∀ key, Asks document key → Reached key)
    {world ready : σ} {otherWorld otherReady : τ} (readied : provider.ready.run world = (.ok (), ready))
    (otherReadied : otherProvider.ready.run otherWorld = (.ok (), otherReady))
    (related : Related ⟨ready, rolePass info⟩ ⟨otherReady, rolePass info⟩) :
    Corresponds Fits Eq ((composeRole provider limit info document).run world).1
        ((composeRole otherProvider limit info document).run otherWorld).1 ∧
      ∃ final otherFinal, Related final otherFinal ∧
        ((composeRole provider limit info document).run world).2 = final.world ∧
        ((composeRole otherProvider limit info document).run otherWorld).2 = otherFinal.world := by
  obtain ⟨corresponds, stillRelated⟩ := parallel_parts worded each asked _ _ related
  rw [composeRole, composeRole, Step.run_bind, Step.run_bind, readied, otherReadied]
  rw [rolePass] at corresponds stillRelated
  simp only [Step.run_of]
  generalize (composeParts provider limit document (idsOf thoughtProtocol (listedReferences document))
    (idsOf executionProtocol (listedReferences document))).run
      ⟨ready, Pass.withVisited [⟨roleProtocol, info.id⟩]⟩ = ran at corresponds stillRelated ⊢
  generalize (composeParts otherProvider limit document
    (idsOf thoughtProtocol (listedReferences document))
    (idsOf executionProtocol (listedReferences document))).run
      ⟨otherReady, Pass.withVisited [⟨roleProtocol, info.id⟩]⟩ = otherRan at corresponds stillRelated ⊢
  obtain ⟨outcome, final⟩ := ran
  obtain ⟨otherOutcome, otherFinal⟩ := otherRan
  have pass : final.pass = otherFinal.pass := samePass _ _ stillRelated
  cases corresponds with
  | ok same =>
    refine ⟨.ok ?_, final, otherFinal, stillRelated, rfl, rfl⟩
    rw [pass]
    exact assemble_of_matches worded info _ _ same _
  | error fits => exact ⟨.error fits, final, otherFinal, stillRelated, rfl, rfl⟩

end Parts

end Roles

end Composition

end RoleWeave
