import RoleWeave.Reference.Basic
import RoleWeave.Step

/-!
# Passes

A pass is the memory of one composition. It knows which resources have been met, so that each is
loaded at most once, and it keeps a record of the references that failed and of those that were
left out because their resource had been met before.
-/

namespace RoleWeave

/-- A reference that failed, and the wording of its fault. -/
structure Failure where
  reference : Text
  fault : Text
deriving DecidableEq, Repr

/-- Whether a composition shows everything it refers to. -/
inductive Status where
  | composed
  | partiallyFailed
deriving DecidableEq, Repr

/-- The memory of one composition. -/
structure Pass where
  visited : List Key
  failures : List Failure
  suppressed : List Key
deriving DecidableEq, Repr, Inhabited

namespace Pass

/-- A pass that counts these keys as met already. -/
def withVisited (keys : List Key) : Pass := ⟨keys, [], []⟩

/-- A pass that has met nothing. -/
def new : Pass := withVisited []

/-- Whether a resource has been met. -/
def isVisited (pass : Pass) (key : Key) : Bool :=
  pass.visited.contains key

/-- Note that a resource has been met. -/
def visit (pass : Pass) (key : Key) : Pass :=
  if pass.isVisited key then pass else { pass with visited := key :: pass.visited }

/-- Record a reference that was left out. -/
def suppress (pass : Pass) (key : Key) : Pass :=
  { pass with suppressed := pass.suppressed ++ [key] }

/-- Record a reference that failed. -/
def fail (pass : Pass) (reference : Reference) (fault : Fault) : Pass :=
  { pass with failures := pass.failures ++ [⟨reference.render, fault.message⟩] }

/-- A composition is complete when no reference failed. -/
def status (pass : Pass) : Status :=
  if pass.failures.isEmpty then .composed else .partiallyFailed

/-- A resource that was met stays met, and no other is met by that. Meeting it again changes
    nothing, so both cases come to the same answer. -/
@[simp] theorem isVisited_visit (pass : Pass) (key tested : Key) :
    (pass.visit key).isVisited tested = (tested == key || pass.isVisited tested) := by
  unfold visit
  by_cases known : pass.isVisited key = true
  · by_cases same : tested = key
    · subst same
      simp [known]
    · simp [known, same]
  · rw [if_neg known, Bool.eq_iff_iff]
    simp [isVisited]

/-- A reference that is left out meets no resource. -/
@[simp] theorem isVisited_suppress (pass : Pass) (key tested : Key) :
    (pass.suppress key).isVisited tested = pass.isVisited tested := rfl

/-- Neither does a failure that is recorded. -/
@[simp] theorem isVisited_fail (pass : Pass) (reference : Reference) (fault : Fault)
    (tested : Key) : (pass.fail reference fault).isVisited tested = pass.isVisited tested := rfl

/-- Meeting a resource records no failure. -/
@[simp] theorem failures_visit (pass : Pass) (key : Key) :
    (pass.visit key).failures = pass.failures := by
  unfold visit
  split <;> rfl

/-- Nor does it record a reference as left out. -/
@[simp] theorem suppressed_visit (pass : Pass) (key : Key) :
    (pass.visit key).suppressed = pass.suppressed := by
  unfold visit
  split <;> rfl

end Pass

/-- A world that resources are loaded from, and the pass of the composition under way. -/
structure Weaving (σ : Type) where
  world : σ
  pass : Pass

/-- Let a step on the world work during a composition. -/
def Weaving.outside {σ α : Type} (step : Step σ α) : Step (Weaving σ) α :=
  step.within Weaving.world (fun weaving world => { weaving with world := world })

end RoleWeave
