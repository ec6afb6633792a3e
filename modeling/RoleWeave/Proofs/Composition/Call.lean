import RoleWeave.Composition.Inlining

/-!
# The calls of a composition

A composition comes to one reference after another: to those of the text that is composed, and,
inside each that is loaded, to those of its content. A `Call` is one such arrival, with the pass
that it found and the outcome it came to. The calls of a composition are listed depth first, in the
order in which they begin, by recursions that follow the definitions of `weave` and `inlineWithin`
and take every state and outcome from their runs.

`Run` says what a composition can do to a weaving while it makes its calls, one constructor for
each way in which a call can go. `run_within` and `run_weave` say that every composition is such a
run, so that an invariant of compositions is an induction over `Run`.
-/

namespace RoleWeave

/-- An arrival of a composition at a reference that is to be inlined, and what became of it. -/
structure Call where
  reference : Reference
  /-- How deep references may still be nested from here on. It is zero at the limit on depth. -/
  allowance : Nat
  /-- The pass that the call found. -/
  before : Pass
  /-- The content that was loaded for the reference, if that is a document. -/
  source : Option Text
  outcome : Except Fault Inline

namespace Call

/-- The resource that the call is about. The marker of the reference does not matter. -/
def key (call : Call) : Key := call.reference.key

/-- Whether the resource had been met before the call. -/
def met (call : Call) : Bool := call.before.isVisited call.key

/-- Whether the call ended otherwise than by leaving its reference out. -/
def emits (call : Call) : Bool :=
  match call.outcome with
  | .ok .suppressed => false
  | _ => true

/-- Whether the call came to the content of its resource. -/
def hasContent (call : Call) : Bool :=
  match call.outcome with
  | .ok (.content _) => true
  | _ => false

/-- A call that came to content did not leave its reference out. The outcomes of a call exclude one
    another, and content is one that emits. -/
theorem emits_of_hasContent (call : Call) (content : call.hasContent = true) :
    call.emits = true := by
  unfold hasContent at content
  unfold emits
  split at content
  · rename_i shown
    rw [shown]
  · cases content

/-- Whether the call asks for its resource: it met it first, and above the limit on depth. -/
def loads (call : Call) : Bool := !call.met && decide (0 < call.allowance)

/-- The record of the call among the failures, if it failed. -/
def failure? (call : Call) : Option Failure :=
  match call.outcome with
  | .ok (.failed fault) => some ⟨call.reference.render, fault.message⟩
  | _ => none

end Call

namespace Weaving

variable {σ : Type}

/-- The weaving after its pass has met a resource. -/
def visit (weaving : Weaving σ) (key : Key) : Weaving σ :=
  { weaving with pass := weaving.pass.visit key }

/-- The weaving after a reference was left out. -/
def suppress (weaving : Weaving σ) (key : Key) : Weaving σ :=
  { weaving with pass := weaving.pass.suppress key }

/-- The weaving after a reference has failed. -/
def fail (weaving : Weaving σ) (reference : Reference) (fault : Fault) : Weaving σ :=
  { weaving with pass := weaving.pass.fail reference fault }

end Weaving

/-- The fault that ended a step, if it did not come to a value. -/
def Step.fault? {α : Type} : Except Fault α → Option Fault
  | .ok _ => none
  | .error fault => some fault

namespace Composition

variable {σ : Type}

/-- The calls made while pieces of text are composed, if `calls` are those made for a single
    reference. They end where a fault ends the composition. -/
def weaveCalls (inline : Reference → Step (Weaving σ) Inline)
    (calls : Reference → Weaving σ → List Call) : List Piece → Weaving σ → List Call
  | [], _ => []
  | .prose _ :: later, weaving => weaveCalls inline calls later weaving
  | .reference reference :: later, weaving =>
      if reference.loading.inlines then
        calls reference weaving ++
          match (inline reference).run weaving with
          | (.ok _, changed) => weaveCalls inline calls later changed
          | (.error _, _) => []
      else weaveCalls inline calls later weaving

/-- The calls made while a reference is inlined: its own, and after it those nested in the content
    that was fetched for it. -/
def callsWithin (provider : Provider σ) (limit : Nat) :
    (allowance : Nat) → Reference → Weaving σ → List Call
  | 0, reference, weaving =>
      [⟨reference, 0, weaving.pass, none,
        ((inlineWithin provider limit 0 reference).run weaving).1⟩]
  | allowance + 1, reference, weaving =>
      let outcome := ((inlineWithin provider limit (allowance + 1) reference).run weaving).1
      if weaving.pass.isVisited reference.key then
        [⟨reference, allowance + 1, weaving.pass, none, outcome⟩]
      else
        match (fetch provider reference).run (weaving.visit reference.key) with
        | (.error _, _) => [⟨reference, allowance + 1, weaving.pass, none, outcome⟩]
        | (.ok content, fetched) =>
            ⟨reference, allowance + 1, weaving.pass, some content, outcome⟩ ::
              weaveCalls (inlineWithin provider limit allowance)
                (callsWithin provider limit allowance) (pieces content) fetched

/-- The calls made while a reference is inlined that stands at a depth. -/
def callsAt (provider : Provider σ) (limit depth : Nat) (reference : Reference)
    (weaving : Weaving σ) : List Call :=
  callsWithin provider limit (limit - depth) reference weaving

/-- The calls made while a block is composed. -/
def blockCalls (provider : Provider σ) (limit : Nat) (block : Block) (weaving : Weaving σ) :
    List Call :=
  weaveCalls (inlineAt provider limit 0) (callsAt provider limit 0) (pieces block.text) weaving

/-- What a composition can do to a weaving: the fault it ends with, if any, the weaving it leaves,
    and the calls it makes. -/
inductive Run (provider : Provider σ) (limit : Nat) :
    Weaving σ → Option Fault → Weaving σ → List Call → Prop where
  /-- Without references nothing happens. -/
  | idle (weaving : Weaving σ) : Run provider limit weaving none weaving []
  /-- References are come to one after another, until a fault ends the composition. -/
  | chain {start middle final : Weaving σ} {stop : Option Fault} {first second : List Call}
      (before : Run provider limit start none middle first)
      (after : Run provider limit middle stop final second) :
      Run provider limit start stop final (first ++ second)
  /-- A reference to a resource that was met before is left out. -/
  | met {weaving : Weaving σ} {reference : Reference} (allowance : Nat)
      (known : weaving.pass.isVisited reference.key = true) :
      Run provider limit weaving none (weaving.suppress reference.key)
        [⟨reference, allowance, weaving.pass, none, .ok .suppressed⟩]
  /-- At the limit on depth a reference fails without being asked for. -/
  | cut {weaving : Weaving σ} {reference : Reference}
      (fresh : weaving.pass.isVisited reference.key = false) :
      Run provider limit weaving none
        ((weaving.visit reference.key).fail reference
          (.unresolved reference.render (.depthExceeded limit)))
        [⟨reference, 0, weaving.pass, none,
          .ok (.failed (.unresolved reference.render (.depthExceeded limit)))⟩]
  /-- A reference whose content cannot be had fails by itself. -/
  | refused {weaving changed : Weaving σ} {reference : Reference} {fault : Fault}
      (allowance : Nat) (fresh : weaving.pass.isVisited reference.key = false)
      (fetched : (fetch provider reference).run (weaving.visit reference.key) =
        (.error fault, changed))
      (single : fault.isLocal = true) :
      Run provider limit weaving none (changed.fail reference (fault.attach reference.render))
        [⟨reference, allowance + 1, weaving.pass, none,
          .ok (.failed (fault.attach reference.render))⟩]
  /-- A fault that belongs to no single reference ends the composition. -/
  | stopped {weaving changed : Weaving σ} {reference : Reference} {fault : Fault}
      (allowance : Nat) (fresh : weaving.pass.isVisited reference.key = false)
      (fetched : (fetch provider reference).run (weaving.visit reference.key) =
        (.error fault, changed))
      (whole : fault.isLocal = false) :
      Run provider limit weaving (some fault) changed
        [⟨reference, allowance + 1, weaving.pass, none, .error fault⟩]
  /-- The content of a reference is composed in its turn. -/
  | composed {weaving fetched final : Weaving σ} {reference : Reference} {content : Text}
      {nested : List Call} (allowance : Nat) (text : Text)
      (fresh : weaving.pass.isVisited reference.key = false)
      (loaded : (fetch provider reference).run (weaving.visit reference.key) =
        (.ok content, fetched))
      (inner : Run provider limit fetched none final nested) :
      Run provider limit weaving none final
        (⟨reference, allowance + 1, weaving.pass, some content, .ok (.content text)⟩ :: nested)
  /-- A fault inside the content of a reference ends the composition around it as well. -/
  | broken {weaving fetched final : Weaving σ} {reference : Reference} {content : Text}
      {fault : Fault} {nested : List Call} (allowance : Nat)
      (fresh : weaving.pass.isVisited reference.key = false)
      (loaded : (fetch provider reference).run (weaving.visit reference.key) =
        (.ok content, fetched))
      (inner : Run provider limit fetched (some fault) final nested)
      (whole : fault.isLocal = false) :
      Run provider limit weaving (some fault) final
        (⟨reference, allowance + 1, weaving.pass, some content, .error fault⟩ :: nested)

section Runs

variable {provider : Provider σ} {limit : Nat}

/-- Composing pieces is a run if inlining each of their references is one.

    Proof: by induction on the pieces. Prose and pointers make no calls and change nothing. A
    reference that is inlined is a run by assumption; a fault that ends it ends the composition and
    is a run by itself, and otherwise the later pieces follow it in a chain. -/
theorem run_weave {inline : Reference → Step (Weaving σ) Inline}
    {calls : Reference → Weaving σ → List Call}
    (each : ∀ reference weaving, Run provider limit weaving
      (Step.fault? ((inline reference).run weaving).1) ((inline reference).run weaving).2
      (calls reference weaving))
    (text : List Piece) (weaving : Weaving σ) :
    Run provider limit weaving (Step.fault? ((weave inline text).run weaving).1)
      ((weave inline text).run weaving).2 (weaveCalls inline calls text weaving) := by
  induction text generalizing weaving with
  | nil => exact .idle weaving
  | cons piece later ih =>
    cases piece with
    | prose c =>
      have rest := ih weaving
      rw [run_weave_prose]
      rcases ended : (weave inline later).run weaving with ⟨fault | text, changed⟩ <;>
        rw [ended] at rest <;> exact rest
    | reference reference =>
      by_cases inlines : reference.loading.inlines = true
      · have first := each reference weaving
        rw [run_weave_reference inline inlines]
        simp only [weaveCalls, inlines, if_true]
        rcases made : (inline reference).run weaving with ⟨fault | outcome, changed⟩
        · rw [made] at first
          simp only [List.append_nil]
          exact first
        · rw [made] at first
          have rest := ih changed
          rcases ended : (weave inline later).run changed with ⟨fault | text, final⟩ <;>
            simp only [ended] at rest ⊢ <;> exact .chain first rest
      · have pointer : reference.loading.inlines = false := by simpa using inlines
        have rest := ih weaving
        rw [run_weave_pointer inline pointer]
        simp only [weaveCalls, pointer, Bool.false_eq_true, if_false]
        rcases ended : (weave inline later).run weaving with ⟨fault | text, changed⟩ <;>
          rw [ended] at rest <;> exact rest

/-- A fault that ends the composition of pieces belongs to no single reference, if that holds of the
    faults that end the inlining of their references.

    Proof: by induction on the pieces. Prose and pointers end nothing, so the fault is one of the
    pieces behind them. Behind a reference that is inlined it is the fault of that reference, or
    again one of the pieces behind it. -/
theorem isLocal_of_weave {inline : Reference → Step (Weaving σ) Inline}
    (each : ∀ reference weaving fault, ((inline reference).run weaving).1 = .error fault →
      fault.isLocal = false)
    (text : List Piece) (weaving : Weaving σ) {fault : Fault}
    (ended : ((weave inline text).run weaving).1 = .error fault) : fault.isLocal = false := by
  induction text generalizing weaving with
  | nil => cases ended
  | cons piece later ih =>
    cases piece with
    | prose c =>
      rw [run_weave_prose] at ended
      rcases rest : (weave inline later).run weaving with ⟨other | text, changed⟩ <;>
        simp only [rest] at ended
      · exact ih weaving (by rw [rest]; exact ended)
      · cases ended
    | reference reference =>
      by_cases inlines : reference.loading.inlines = true
      · rw [run_weave_reference inline inlines] at ended
        rcases made : (inline reference).run weaving with ⟨other | outcome, changed⟩ <;>
          simp only [made] at ended
        · cases ended
          exact each reference weaving fault (by rw [made])
        · rcases rest : (weave inline later).run changed with ⟨other | text, final⟩ <;>
            simp only [rest] at ended
          · exact ih changed (by rw [rest]; exact ended)
          · cases ended
      · have pointer : reference.loading.inlines = false := by simpa using inlines
        rw [run_weave_pointer inline pointer] at ended
        rcases rest : (weave inline later).run weaving with ⟨other | text, changed⟩ <;>
          simp only [rest] at ended
        · exact ih weaving (by rw [rest]; exact ended)
        · cases ended

end Runs

section Inlining

variable (provider : Provider σ) (limit : Nat)

/-- A fault that ends the inlining of a reference belongs to no single reference. -/
theorem isLocal_of_within (allowance : Nat) (reference : Reference) (weaving : Weaving σ)
    {fault : Fault}
    (ended : ((inlineWithin provider limit allowance reference).run weaving).1 = .error fault) :
    fault.isLocal = false := by
  cases allowance <;> exact isLocal_of_guard ended

/-- Where the resource was met before, the reference is left out, at any depth. It makes one call,
    which loads nothing. -/
theorem within_met {weaving : Weaving σ} {reference : Reference} (allowance : Nat)
    (known : weaving.pass.isVisited reference.key = true) :
    (inlineWithin provider limit allowance reference).run weaving =
        (.ok .suppressed, weaving.suppress reference.key) ∧
      callsWithin provider limit allowance reference weaving =
        [⟨reference, allowance, weaving.pass, none, .ok .suppressed⟩] := by
  have ran : (inlineWithin provider limit allowance reference).run weaving =
      (.ok .suppressed, weaving.suppress reference.key) := by
    cases allowance <;> exact guard_met _ known
  refine ⟨ran, ?_⟩
  cases allowance <;> simp [callsWithin, known, ran]

/-- At the limit on depth, a reference to any other resource fails. The resource counts as met from
    then on, and the failure is recorded. -/
theorem within_cut {weaving : Weaving σ} {reference : Reference}
    (fresh : weaving.pass.isVisited reference.key = false) :
    (inlineWithin provider limit 0 reference).run weaving =
        (.ok (.failed (.unresolved reference.render (.depthExceeded limit))),
          (weaving.visit reference.key).fail reference
            (.unresolved reference.render (.depthExceeded limit))) ∧
      callsWithin provider limit 0 reference weaving =
        [⟨reference, 0, weaving.pass, none,
          .ok (.failed (.unresolved reference.render (.depthExceeded limit)))⟩] := by
  have ran : (inlineWithin provider limit 0 reference).run weaving =
      (.ok (.failed (.unresolved reference.render (.depthExceeded limit))),
        (weaving.visit reference.key).fail reference
          (.unresolved reference.render (.depthExceeded limit))) :=
    guard_single fresh (Step.run_throw _ _) rfl
  exact ⟨ran, by simp [callsWithin, ran]⟩

variable {provider limit}

/-- Above the limit, a fault that belongs to the reference and ends its fetching is what the
    reference fails with. The fault names the reference, and the composition goes on behind it. -/
theorem within_refused {weaving changed : Weaving σ} {reference : Reference} {fault : Fault}
    (allowance : Nat) (fresh : weaving.pass.isVisited reference.key = false)
    (fetched : (fetch provider reference).run (weaving.visit reference.key) =
      (.error fault, changed))
    (single : fault.isLocal = true) :
    (inlineWithin provider limit (allowance + 1) reference).run weaving =
        (.ok (.failed (fault.attach reference.render)),
          changed.fail reference (fault.attach reference.render)) ∧
      callsWithin provider limit (allowance + 1) reference weaving =
        [⟨reference, allowance + 1, weaving.pass, none,
          .ok (.failed (fault.attach reference.render))⟩] := by
  have taken := Step.run_bind (fetch provider reference) (fun content =>
    weave (inlineWithin provider limit allowance) (pieces content)) (weaving.visit reference.key)
  simp only [fetched] at taken
  have ran : (inlineWithin provider limit (allowance + 1) reference).run weaving =
      (.ok (.failed (fault.attach reference.render)),
        changed.fail reference (fault.attach reference.render)) :=
    guard_single fresh taken single
  exact ⟨ran, by simp [callsWithin, fresh, fetched, ran]⟩

/-- Any other fault that ends the fetching ends the composition. It is neither recorded nor attached
    to the reference. -/
theorem within_stopped {weaving changed : Weaving σ} {reference : Reference} {fault : Fault}
    (allowance : Nat) (fresh : weaving.pass.isVisited reference.key = false)
    (fetched : (fetch provider reference).run (weaving.visit reference.key) =
      (.error fault, changed))
    (whole : fault.isLocal = false) :
    (inlineWithin provider limit (allowance + 1) reference).run weaving =
        (.error fault, changed) ∧
      callsWithin provider limit (allowance + 1) reference weaving =
        [⟨reference, allowance + 1, weaving.pass, none, .error fault⟩] := by
  have taken := Step.run_bind (fetch provider reference) (fun content =>
    weave (inlineWithin provider limit allowance) (pieces content)) (weaving.visit reference.key)
  simp only [fetched] at taken
  have ran : (inlineWithin provider limit (allowance + 1) reference).run weaving =
      (.error fault, changed) := guard_whole fresh taken whole
  exact ⟨ran, by simp [callsWithin, fresh, fetched, ran]⟩

/-- What is fetched is composed, and the reference comes to the text that comes of it. Its calls are
    its own and behind it those of the content. -/
theorem within_composed {weaving fetched final : Weaving σ} {reference : Reference}
    {content text : Text} (allowance : Nat)
    (fresh : weaving.pass.isVisited reference.key = false)
    (loaded : (fetch provider reference).run (weaving.visit reference.key) =
      (.ok content, fetched))
    (woven : (weave (inlineWithin provider limit allowance) (pieces content)).run fetched =
      (.ok text, final)) :
    (inlineWithin provider limit (allowance + 1) reference).run weaving =
        (.ok (.content text), final) ∧
      callsWithin provider limit (allowance + 1) reference weaving =
        ⟨reference, allowance + 1, weaving.pass, some content, .ok (.content text)⟩ ::
          weaveCalls (inlineWithin provider limit allowance)
            (callsWithin provider limit allowance) (pieces content) fetched := by
  have taken := Step.run_bind (fetch provider reference) (fun content =>
    weave (inlineWithin provider limit allowance) (pieces content)) (weaving.visit reference.key)
  simp only [loaded, woven] at taken
  have ran : (inlineWithin provider limit (allowance + 1) reference).run weaving =
      (.ok (.content text), final) := guard_ok fresh taken
  exact ⟨ran, by simp [callsWithin, fresh, loaded, ran]⟩

/-- A fault that ends the composition of what is fetched belongs to no single reference. It ends the
    composition around as well. The calls up to it stay calls of the composition. -/
theorem within_broken {weaving fetched final : Weaving σ} {reference : Reference}
    {content : Text} {fault : Fault} (allowance : Nat)
    (fresh : weaving.pass.isVisited reference.key = false)
    (loaded : (fetch provider reference).run (weaving.visit reference.key) =
      (.ok content, fetched))
    (woven : (weave (inlineWithin provider limit allowance) (pieces content)).run fetched =
      (.error fault, final)) :
    fault.isLocal = false ∧
      (inlineWithin provider limit (allowance + 1) reference).run weaving =
        (.error fault, final) ∧
      callsWithin provider limit (allowance + 1) reference weaving =
        ⟨reference, allowance + 1, weaving.pass, some content, .error fault⟩ ::
          weaveCalls (inlineWithin provider limit allowance)
            (callsWithin provider limit allowance) (pieces content) fetched := by
  have whole : fault.isLocal = false :=
    isLocal_of_weave (fun reference weaving _ => isLocal_of_within provider limit allowance
      reference weaving) (pieces content) fetched (by rw [woven])
  have taken := Step.run_bind (fetch provider reference) (fun content =>
    weave (inlineWithin provider limit allowance) (pieces content)) (weaving.visit reference.key)
  simp only [loaded, woven] at taken
  have ran : (inlineWithin provider limit (allowance + 1) reference).run weaving =
      (.error fault, final) := guard_whole fresh taken whole
  exact ⟨whole, ran, by simp [callsWithin, fresh, loaded, ran]⟩

variable (provider limit)

/-- Inlining a reference is a run.

    Proof: by induction on how deep references may still be nested. The cases are those of inlining,
    each of which is known by one of the lemmas above: the resource was met, the limit is reached,
    fetching fails in one way or the other, or the content is composed to a text or to a fault. In
    the last two cases the composition of the content is a run by induction and `run_weave`. -/
theorem run_within (allowance : Nat) (reference : Reference) (weaving : Weaving σ) :
    Run provider limit weaving
      (Step.fault? ((inlineWithin provider limit allowance reference).run weaving).1)
      ((inlineWithin provider limit allowance reference).run weaving).2
      (callsWithin provider limit allowance reference weaving) := by
  induction allowance generalizing reference weaving with
  | zero =>
    by_cases known : weaving.pass.isVisited reference.key = true
    · obtain ⟨ran, calls⟩ := within_met provider limit 0 known
      rw [ran, calls]
      exact .met 0 known
    · have fresh : weaving.pass.isVisited reference.key = false := by simpa using known
      obtain ⟨ran, calls⟩ := within_cut provider limit fresh
      rw [ran, calls]
      exact .cut fresh
  | succ allowance ih =>
    by_cases known : weaving.pass.isVisited reference.key = true
    · obtain ⟨ran, calls⟩ := within_met provider limit (allowance + 1) known
      rw [ran, calls]
      exact .met (allowance + 1) known
    · have fresh : weaving.pass.isVisited reference.key = false := by simpa using known
      rcases fetched : (fetch provider reference).run (weaving.visit reference.key) with
        ⟨fault | content, changed⟩
      · by_cases single : fault.isLocal = true
        · obtain ⟨ran, calls⟩ := within_refused allowance fresh fetched single
          rw [ran, calls]
          exact .refused allowance fresh fetched single
        · have whole : fault.isLocal = false := by simpa using single
          obtain ⟨ran, calls⟩ := within_stopped allowance fresh fetched whole
          rw [ran, calls]
          exact .stopped allowance fresh fetched whole
      · have inner := run_weave ih (pieces content) changed
        rcases woven : (weave (inlineWithin provider limit allowance) (pieces content)).run changed
          with ⟨fault | text, final⟩
        · obtain ⟨whole, ran, calls⟩ := within_broken allowance fresh fetched woven
          rw [woven] at inner
          rw [ran, calls]
          exact .broken allowance fresh fetched inner whole
        · obtain ⟨ran, calls⟩ := within_composed allowance fresh fetched woven
          rw [woven] at inner
          rw [ran, calls]
          exact .composed allowance text fresh fetched inner

/-- Inlining a reference at a depth is a run. -/
theorem run_at (depth : Nat) (reference : Reference) (weaving : Weaving σ) :
    Run provider limit weaving
      (Step.fault? ((inlineAt provider limit depth reference).run weaving).1)
      ((inlineAt provider limit depth reference).run weaving).2
      (callsAt provider limit depth reference weaving) :=
  run_within provider limit (limit - depth) reference weaving

/-- Composing a block is a run. -/
theorem run_block (block : Block) (weaving : Weaving σ) :
    Run provider limit weaving
      (Step.fault? ((composeBlock provider limit block).run weaving).1)
      ((composeBlock provider limit block).run weaving).2
      (blockCalls provider limit block weaving) :=
  run_weave (run_at provider limit 0) (pieces block.text) weaving

end Inlining

end Composition

end RoleWeave
