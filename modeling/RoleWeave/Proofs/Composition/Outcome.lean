import RoleWeave.Proofs.Composition.Call

/-!
# Compositions that come to an outcome

A composition that no fault ends can be followed along what it composes. `Woven` follows the pieces
of a text: each keeps its text, or gives way to what is shown of its outcome. `Inlined` says how a
reference came to its outcome: it was left out, it failed by itself, or its content was composed.
Both carry the calls that were made, so that what is shown can be compared with them.
-/

namespace RoleWeave.Composition

variable {σ : Type}

/-- The text that pieces are composed to, the weaving that is left and the calls that are made, if
    `calls` are those made for a single reference. -/
inductive Woven (inline : Reference → Step (Weaving σ) Inline)
    (calls : Reference → Weaving σ → List Call) :
    List Piece → Weaving σ → Text → Weaving σ → List Call → Prop where
  /-- Without pieces nothing happens. -/
  | done (weaving : Weaving σ) : Woven inline calls [] weaving [] weaving []
  /-- Prose keeps its text. -/
  | prose {later : List Piece} {weaving final : Weaving σ} {text : Text} {made : List Call}
      (c : Char) (rest : Woven inline calls later weaving text final made) :
      Woven inline calls (.prose c :: later) weaving (c :: text) final made
  /-- So does a pointer. -/
  | pointer {later : List Piece} {weaving final : Weaving σ} {text : Text} {made : List Call}
      {reference : Reference} (pointer : reference.loading.inlines = false)
      (rest : Woven inline calls later weaving text final made) :
      Woven inline calls (.reference reference :: later) weaving (reference.render ++ text) final
        made
  /-- Any other reference gives way to what is shown of its outcome. -/
  | shown {later : List Piece} {weaving changed final : Weaving σ} {text : Text}
      {made : List Call} {reference : Reference} {outcome : Inline}
      (inlines : reference.loading.inlines = true)
      (ran : (inline reference).run weaving = (.ok outcome, changed))
      (rest : Woven inline calls later changed text final made) :
      Woven inline calls (.reference reference :: later) weaving (outcome.shown ++ text) final
        (calls reference weaving ++ made)

/-- Pieces that are composed to a text are woven into it.

    Proof: by induction on the pieces. Since no fault ended them, each came to its own part of the
    text: prose to itself, a pointer to its rendering, and any other reference to what inlining it
    made, from where the pieces behind it went on. -/
theorem woven_of_weave {inline : Reference → Step (Weaving σ) Inline}
    (calls : Reference → Weaving σ → List Call) {parts : List Piece} {weaving final : Weaving σ}
    {text : Text} (ran : (weave inline parts).run weaving = (.ok text, final)) :
    Woven inline calls parts weaving text final (weaveCalls inline calls parts weaving) := by
  induction parts generalizing weaving text with
  | nil =>
    cases ran
    exact .done _
  | cons piece later ih =>
    cases piece with
    | prose c =>
      obtain ⟨rest, changed, woven, ended⟩ := Step.ok_of_bind ran
      cases ended
      exact .prose c (ih woven)
    | reference reference =>
      by_cases inlines : reference.loading.inlines = true
      · simp only [weave, inlines, if_true] at ran
        obtain ⟨outcome, changed, inlined, further⟩ := Step.ok_of_bind ran
        obtain ⟨rest, ended, woven, same⟩ := Step.ok_of_bind further
        cases same
        simp only [weaveCalls, inlines, if_true, inlined]
        exact .shown inlines inlined (ih woven)
      · have pointer : reference.loading.inlines = false := by simpa using inlines
        simp only [weave, pointer, Bool.false_eq_true, if_false] at ran
        obtain ⟨rest, ended, woven, same⟩ := Step.ok_of_bind ran
        cases same
        simp only [weaveCalls, pointer, Bool.false_eq_true, if_false]
        exact .pointer pointer (ih woven)

/-- How a reference comes to an outcome, with the weaving that is left and the calls made. -/
inductive Inlined (provider : Provider σ) (limit : Nat) :
    (allowance : Nat) → Reference → Weaving σ → Inline → Weaving σ → List Call → Prop where
  /-- The resource had been met before. -/
  | met {allowance : Nat} {reference : Reference} {weaving : Weaving σ}
      (known : weaving.pass.isVisited reference.key = true) :
      Inlined provider limit allowance reference weaving .suppressed
        (weaving.suppress reference.key)
        [⟨reference, allowance, weaving.pass, none, .ok .suppressed⟩]
  /-- The reference stands at the limit on depth. -/
  | cut {reference : Reference} {weaving : Weaving σ}
      (fresh : weaving.pass.isVisited reference.key = false) :
      Inlined provider limit 0 reference weaving
        (.failed (.unresolved reference.render (.depthExceeded limit)))
        ((weaving.visit reference.key).fail reference
          (.unresolved reference.render (.depthExceeded limit)))
        [⟨reference, 0, weaving.pass, none,
          .ok (.failed (.unresolved reference.render (.depthExceeded limit)))⟩]
  /-- The content cannot be had. -/
  | refused {allowance : Nat} {reference : Reference} {weaving changed : Weaving σ}
      {fault : Fault} (fresh : weaving.pass.isVisited reference.key = false)
      (fetched : (fetch provider reference).run (weaving.visit reference.key) =
        (.error fault, changed))
      (single : fault.isLocal = true) :
      Inlined provider limit (allowance + 1) reference weaving
        (.failed (fault.attach reference.render))
        (changed.fail reference (fault.attach reference.render))
        [⟨reference, allowance + 1, weaving.pass, none,
          .ok (.failed (fault.attach reference.render))⟩]
  /-- The content is composed. -/
  | composed {allowance : Nat} {reference : Reference} {weaving fetched final : Weaving σ}
      {content text : Text} {nested : List Call}
      (fresh : weaving.pass.isVisited reference.key = false)
      (loaded : (fetch provider reference).run (weaving.visit reference.key) =
        (.ok content, fetched))
      (woven : Woven (inlineWithin provider limit allowance)
        (callsWithin provider limit allowance) (pieces content) fetched text final nested) :
      Inlined provider limit (allowance + 1) reference weaving (.content text) final
        (⟨reference, allowance + 1, weaving.pass, some content, .ok (.content text)⟩ :: nested)

/-- There is no other way for a reference to come to an outcome.

    Proof: the resource was met, or it is cut off at the limit, or it is fetched. A fetch that is
    refused makes the reference fail, and one that ends the composition comes to no outcome. The
    content of a fetch is woven into the text that is shown, unless a fault ends it, and then there
    is no outcome either. -/
theorem inlined_of_within {provider : Provider σ} {limit allowance : Nat} {reference : Reference}
    {weaving final : Weaving σ} {outcome : Inline}
    (ran : (inlineWithin provider limit allowance reference).run weaving = (.ok outcome, final)) :
    Inlined provider limit allowance reference weaving outcome final
      (callsWithin provider limit allowance reference weaving) := by
  by_cases known : weaving.pass.isVisited reference.key = true
  · obtain ⟨met, calls⟩ := within_met provider limit allowance known
    rw [met] at ran
    cases ran
    rw [calls]
    exact .met known
  · have fresh : weaving.pass.isVisited reference.key = false := by simpa using known
    cases allowance with
    | zero =>
      obtain ⟨cut, calls⟩ := within_cut provider limit fresh
      rw [cut] at ran
      cases ran
      rw [calls]
      exact .cut fresh
    | succ allowance =>
      rcases loaded : (fetch provider reference).run (weaving.visit reference.key) with
        ⟨fault | content, changed⟩
      · by_cases single : fault.isLocal = true
        · obtain ⟨refused, calls⟩ := within_refused allowance fresh loaded single
          rw [refused] at ran
          cases ran
          rw [calls]
          exact .refused fresh loaded single
        · have whole : fault.isLocal = false := by simpa using single
          obtain ⟨stopped, _⟩ := within_stopped allowance fresh loaded whole
          rw [stopped] at ran
          cases ran
      · rcases composed : (weave (inlineWithin provider limit allowance) (pieces content)).run
          changed with ⟨fault | text, ended⟩
        · obtain ⟨_, broken, _⟩ := within_broken allowance fresh loaded composed
          rw [broken] at ran
          cases ran
        · obtain ⟨done, calls⟩ := within_composed allowance fresh loaded composed
          rw [done] at ran
          cases ran
          rw [calls]
          exact .composed fresh loaded (woven_of_weave _ composed)

/-- The call for a reference that came to an outcome is among the calls made. It is the first of
    them. -/
theorem mem_calls_of_within {provider : Provider σ} {limit allowance : Nat}
    {reference : Reference} {weaving final : Weaving σ} {outcome : Inline}
    (ran : (inlineWithin provider limit allowance reference).run weaving = (.ok outcome, final)) :
    ∃ call ∈ callsWithin provider limit allowance reference weaving,
      call.reference = reference ∧ call.outcome = .ok outcome := by
  have inlined := inlined_of_within ran
  generalize callsWithin provider limit allowance reference weaving = calls at inlined ⊢
  cases inlined <;> exact ⟨_, List.mem_cons_self, rfl, rfl⟩

end RoleWeave.Composition
