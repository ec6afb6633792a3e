import RoleWeave.Composition.Pass
import RoleWeave.Markup.Document

/-!
# Inlining

Composition replaces references by the contents of the resources they point at, and the references
in those contents in their turn. A resource is shown where it is met first and left out wherever it
is met again, so composition comes to an end on circular references as well. A limit on the depth
of nesting holds beside that.

A fault that belongs to a single reference is shown in its place. Any other fault ends the
composition; what the pass has recorded until then stays recorded.

Where the contents come from is a `Provider`, about which nothing is assumed.
-/

namespace RoleWeave

/-- Where composition gets its resources from. -/
structure Provider (σ : Type) where
  /-- Make everything ready that resources are found with. -/
  ready : Step σ Unit
  /-- Load the content of the resource that is pointed at. -/
  load : Reference → Step σ Text

/-- What became of a reference. -/
inductive Inline where
  /-- The composed content of the resource. -/
  | content (text : Text)
  /-- The resource had been met before. -/
  | suppressed
  /-- The resource could not be loaded or composed. -/
  | failed (fault : Fault)
deriving DecidableEq, Repr

/-- What stands in the place of a reference. -/
def Inline.shown : Inline → Text
  | .content text => Text.trim text
  | .suppressed => []
  | .failed fault => fault.marker

namespace Composition

variable {σ : Type}

/-- Come to the content of a reference by `step`, unless its resource has been met already. The
    resource counts as met from here on, whatever becomes of the step. -/
def guard (reference : Reference) (step : Step (Weaving σ) Text) : Step (Weaving σ) Inline :=
  .of (fun weaving =>
    let key := reference.key
    if weaving.pass.isVisited key then
      (.ok .suppressed, { weaving with pass := weaving.pass.suppress key })
    else
      match step.run { weaving with pass := weaving.pass.visit key } with
      | (.ok content, changed) => (.ok (.content content), changed)
      | (.error fault, changed) =>
          if fault.isLocal then
            let attached := fault.attach reference.render
            (.ok (.failed attached),
              { changed with pass := changed.pass.fail reference attached })
          else (.error fault, changed))

/-- Compose pieces of text in their order. Prose and pointers stay as they are, and every other
    reference gives way to what `inline` makes of it. -/
def weave (inline : Reference → Step (Weaving σ) Inline) : List Piece → Step (Weaving σ) Text
  | [] => return []
  | .prose c :: later => return c :: (← weave inline later)
  | .reference reference :: later =>
      if reference.loading.inlines then do
        let outcome ← inline reference
        return outcome.shown ++ (← weave inline later)
      else return reference.render ++ (← weave inline later)

/-- Load the content of a reference and see whether it is a document. -/
def fetch (provider : Provider σ) (reference : Reference) : Step (Weaving σ) Text := do
  let content ← Weaving.outside (provider.load reference)
  match Document.parse content with
  | .ok _ => return content
  | .error fault => throw (.unresolved reference.render fault)

/-- Inline a reference below which references may still be nested `allowance` deep. -/
def inlineWithin (provider : Provider σ) (limit : Nat) :
    (allowance : Nat) → Reference → Step (Weaving σ) Inline
  | 0, reference => guard reference (throw (.depthExceeded limit))
  | allowance + 1, reference =>
      guard reference (do
        let content ← fetch provider reference
        weave (inlineWithin provider limit allowance) (pieces content))

/-- Inline a reference that stands at a depth. -/
def inlineAt (provider : Provider σ) (limit depth : Nat) (reference : Reference) :
    Step (Weaving σ) Inline :=
  inlineWithin provider limit (limit - depth) reference

/-- Inline references one after another, outside of any text. -/
def inlineAll (provider : Provider σ) (limit : Nat) :
    List Reference → Step (Weaving σ) (List Inline)
  | [] => return []
  | reference :: later => do
      let outcome ← inlineAt provider limit 0 reference
      return outcome :: (← inlineAll provider limit later)

/-- Compose a text. -/
def composeText (provider : Provider σ) (limit : Nat) (text : Text) : Step (Weaving σ) Text :=
  weave (inlineAt provider limit 0) (pieces text)

/-- Compose a block in place. -/
def composeBlock (provider : Provider σ) (limit : Nat) (block : Block) :
    Step (Weaving σ) Text :=
  composeText provider limit block.text

/-- A reference whose resource has been met is left out, and `step` is not taken. -/
theorem guard_met {weaving : Weaving σ} {reference : Reference}
    (step : Step (Weaving σ) Text) (known : weaving.pass.isVisited reference.key = true) :
    (guard reference step).run weaving =
      (.ok .suppressed, { weaving with pass := weaving.pass.suppress reference.key }) := by
  simp [guard, known]

/-- The content that `step` comes to is that of a reference whose resource is met first. The step
    runs with the resource met already. -/
theorem guard_ok {weaving changed : Weaving σ} {reference : Reference} {content : Text}
    {step : Step (Weaving σ) Text} (fresh : weaving.pass.isVisited reference.key = false)
    (taken : step.run { weaving with pass := weaving.pass.visit reference.key } =
      (.ok content, changed)) :
    (guard reference step).run weaving = (.ok (.content content), changed) := by
  simp [guard, fresh, taken]

/-- A fault that belongs to the reference is attached to it and recorded. The composition goes
    on. -/
theorem guard_single {weaving changed : Weaving σ} {reference : Reference} {fault : Fault}
    {step : Step (Weaving σ) Text} (fresh : weaving.pass.isVisited reference.key = false)
    (taken : step.run { weaving with pass := weaving.pass.visit reference.key } =
      (.error fault, changed))
    (single : fault.isLocal = true) :
    (guard reference step).run weaving =
      (.ok (.failed (fault.attach reference.render)),
        { changed with pass := changed.pass.fail reference (fault.attach reference.render) }) := by
  simp [guard, fresh, taken, single]

/-- Any other fault passes through, and nothing is recorded. The step was taken with the resource
    met, and what it left is all that is left. -/
theorem guard_whole {weaving changed : Weaving σ} {reference : Reference} {fault : Fault}
    {step : Step (Weaving σ) Text} (fresh : weaving.pass.isVisited reference.key = false)
    (taken : step.run { weaving with pass := weaving.pass.visit reference.key } =
      (.error fault, changed))
    (whole : fault.isLocal = false) :
    (guard reference step).run weaving = (.error fault, changed) := by
  simp [guard, fresh, taken, whole]

/-- A fault that passes a guard belongs to no single reference. A guard ends with a fault only if
    the step does and the fault is of this kind. -/
theorem isLocal_of_guard {weaving : Weaving σ} {reference : Reference} {fault : Fault}
    {step : Step (Weaving σ) Text}
    (ended : ((guard reference step).run weaving).1 = .error fault) : fault.isLocal = false := by
  by_cases known : weaving.pass.isVisited reference.key = true
  · rw [guard_met step known] at ended
    cases ended
  · have fresh : weaving.pass.isVisited reference.key = false := by simpa using known
    rcases taken : step.run { weaving with pass := weaving.pass.visit reference.key } with
      ⟨content | other, changed⟩
    · by_cases single : content.isLocal = true
      · rw [guard_single fresh taken single] at ended
        cases ended
      · have whole : content.isLocal = false := by simpa using single
        rw [guard_whole fresh taken whole] at ended
        cases ended
        exact whole
    · rw [guard_ok fresh taken] at ended
      cases ended

/-- What fetching comes to is what loading comes to, unless the content is no document. Then the
    fault of reading is attached to the reference. The pass stays as it is in any case. -/
theorem fetch_eq (provider : Provider σ) (reference : Reference) (weaving : Weaving σ) :
    (fetch provider reference).run weaving =
      match (provider.load reference).run weaving.world with
      | (.error fault, world) => (.error fault, { weaving with world := world })
      | (.ok content, world) =>
          match Document.parse content with
          | .ok _ => (.ok content, { weaving with world := world })
          | .error fault =>
              (.error (.unresolved reference.render fault), { weaving with world := world }) := by
  rw [fetch, Step.run_bind]
  simp only [Weaving.outside, Step.within, Step.run_of]
  rcases (provider.load reference).run weaving.world with ⟨fault | content, world⟩
  · rfl
  · simp only
    cases Document.parse content <;> rfl

/-- Fetching changes the world only. -/
theorem pass_of_fetch {provider : Provider σ} {reference : Reference}
    {weaving changed : Weaving σ} {outcome : Except Fault Text}
    (fetched : (fetch provider reference).run weaving = (outcome, changed)) :
    changed.pass = weaving.pass := by
  rw [fetch_eq] at fetched
  split at fetched
  · cases fetched
    rfl
  · split at fetched <;> cases fetched <;> rfl

/-- What is fetched is a document. Content that is loaded but cannot be read makes the fetch fail
    with the fault of reading it. -/
theorem parses_of_fetch {provider : Provider σ} {reference : Reference}
    {weaving changed : Weaving σ} {content : Text}
    (fetched : (fetch provider reference).run weaving = (.ok content, changed)) :
    ∃ document, Document.parse content = .ok document := by
  rw [fetch_eq] at fetched
  rcases loaded : (provider.load reference).run weaving.world with ⟨fault | text, world⟩
  · simp [loaded] at fetched
  · cases read : Document.parse text with
    | error fault => simp [loaded, read] at fetched
    | ok document =>
      simp only [loaded, read, Prod.mk.injEq, Except.ok.injEq] at fetched
      exact ⟨document, fetched.1 ▸ read⟩

/-- Prose is composed to itself, and takes no step. -/
theorem run_weave_prose (inline : Reference → Step (Weaving σ) Inline) (c : Char)
    (later : List Piece) (weaving : Weaving σ) :
    (weave inline (.prose c :: later)).run weaving =
      match (weave inline later).run weaving with
      | (.ok text, changed) => (.ok (c :: text), changed)
      | (.error fault, changed) => (.error fault, changed) := by
  simp only [weave, bind_pure_comp, Step.run_map]
  rcases (weave inline later).run weaving with ⟨fault | text, changed⟩ <;> rfl

/-- A pointer is composed to itself, as it was written, and takes no step. Neither the world nor the
    pass is changed by it, so the rest goes on where the text began. -/
theorem run_weave_pointer (inline : Reference → Step (Weaving σ) Inline)
    {reference : Reference} (pointer : reference.loading.inlines = false) (later : List Piece)
    (weaving : Weaving σ) :
    (weave inline (.reference reference :: later)).run weaving =
      match (weave inline later).run weaving with
      | (.ok text, changed) => (.ok (reference.render ++ text), changed)
      | (.error fault, changed) => (.error fault, changed) := by
  simp only [weave, pointer, Bool.false_eq_true, if_false, bind_pure_comp, Step.run_map]
  rcases (weave inline later).run weaving with ⟨fault | text, changed⟩ <;> rfl

/-- Any other reference is composed to what is shown of its outcome. A fault ends the weaving, and
    what is behind it is not come to. -/
theorem run_weave_reference (inline : Reference → Step (Weaving σ) Inline)
    {reference : Reference} (inlines : reference.loading.inlines = true) (later : List Piece)
    (weaving : Weaving σ) :
    (weave inline (.reference reference :: later)).run weaving =
      match (inline reference).run weaving with
      | (.error fault, changed) => (.error fault, changed)
      | (.ok outcome, changed) =>
          match (weave inline later).run changed with
          | (.ok text, final) => (.ok (outcome.shown ++ text), final)
          | (.error fault, final) => (.error fault, final) := by
  simp only [weave, inlines, if_true, bind_pure_comp, Step.run_bind]
  rcases (inline reference).run weaving with ⟨fault | outcome, changed⟩
  · rfl
  · simp only [Step.run_map]
    rcases (weave inline later).run changed with ⟨fault | text, final⟩ <;> rfl

/-- Pieces without a reference to inline are composed to their own text, whatever `inline` does,
    and nothing changes. -/
theorem weave_plain (inline : Reference → Step (Weaving σ) Inline) (text : List Piece)
    (plain : ∀ reference, Piece.reference reference ∈ text →
      reference.loading.inlines = false) (weaving : Weaving σ) :
    (weave inline text).run weaving = (.ok (text.flatMap Piece.render), weaving) := by
  induction text with
  | nil => rfl
  | cons piece later ih =>
    have rest := ih (fun reference member => plain reference (List.mem_cons_of_mem piece member))
    cases piece with
    | prose c => simp [weave, Step.run_map, rest, Piece.render]
    | reference reference =>
      have pointer := plain reference (by simp)
      simp [weave, pointer, Step.run_map, rest, Piece.render]

end Composition

end RoleWeave
