import RoleWeave.Fault

/-!
# Steps

A step changes a state and comes to a value or to a fault. The changes made before a fault stay
made, so the state is threaded outside and the fault inside.
-/

namespace RoleWeave

/-- A computation that may fail and that changes a state in either case. -/
abbrev Step (σ α : Type) := ExceptT Fault (StateM σ) α

namespace Step

variable {σ τ α : Type}

/-- Run a step from a state. -/
def run (step : Step σ α) (state : σ) : Except Fault α × σ :=
  step state

/-- The step of a function from states to outcomes and states. -/
def of (f : σ → Except Fault α × σ) : Step σ α :=
  f

/-- The step that looks at the state and leaves it as it is. -/
def look (f : σ → Except Fault α) : Step σ α :=
  of (fun state => (f state, state))

/-- Let a step on one part of a larger state work on that state. -/
def within (part : τ → σ) (update : τ → σ → τ) (step : Step σ α) : Step τ α :=
  of (fun whole =>
    let (outcome, changed) := step.run (part whole)
    (outcome, update whole changed))

/-- A step that is given by a function runs as the function says. -/
@[simp] theorem run_of (f : σ → Except Fault α × σ) (state : σ) : (of f).run state = f state := rfl

/-- To look at the state leaves it as it is. -/
@[simp] theorem run_look (f : σ → Except Fault α) (state : σ) :
    (look f).run state = (f state, state) := rfl

/-- A value alone changes nothing. -/
@[simp] theorem run_pure (value : α) (state : σ) :
    Step.run (pure value : Step σ α) state = (.ok value, state) := rfl

/-- A fault alone changes nothing either. -/
@[simp] theorem run_throw (fault : Fault) (state : σ) :
    Step.run (throw fault : Step σ α) state = (.error fault, state) := rfl

/-- A sequence of two steps stops at the fault of the first, with the state that the first left.
    Otherwise the second goes on from the value and the state of the first. -/
theorem run_bind {β : Type} (first : Step σ α) (second : α → Step σ β) (state : σ) :
    Step.run (first >>= second) state =
      match first.run state with
      | (.ok value, changed) => (second value).run changed
      | (.error fault, changed) => (.error fault, changed) := by
  simp only [run, bind, ExceptT.bind, ExceptT.mk, StateT.bind, ExceptT.bindCont]
  cases first state with
  | mk outcome changed => cases outcome <;> rfl

/-- A sequence of two steps that comes to a value is one in which both do. -/
theorem ok_of_bind {β : Type} {first : Step σ α} {second : α → Step σ β} {state final : σ}
    {value : β} (ended : Step.run (first >>= second) state = (.ok value, final)) :
    ∃ middle changed, first.run state = (.ok middle, changed) ∧
      (second middle).run changed = (.ok value, final) := by
  rw [run_bind] at ended
  rcases begun : first.run state with ⟨fault | middle, changed⟩
  · simp [begun] at ended
  · simp only [begun] at ended
    exact ⟨middle, changed, rfl, ended⟩

/-- A function of the value of a step leaves its fault and its state alone. -/
theorem run_map {β : Type} (f : α → β) (step : Step σ α) (state : σ) :
    Step.run (f <$> step) state =
      match step.run state with
      | (.ok value, changed) => (.ok (f value), changed)
      | (.error fault, changed) => (.error fault, changed) := by
  rw [← bind_pure_comp, run_bind]
  rfl

end Step

end RoleWeave
