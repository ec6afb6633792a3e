import RoleWeave.Registry.Index
import RoleWeave.Registry.Source
import RoleWeave.Text.Quoted

/-!
# Bootstrap

A bootstrap asks the sources one after another, in the order of their precedence, and gathers
what they deliver. It stops at the first source that fails, and it is suspended where a source
stays pending. `proceed` takes it as far as one poll goes, `gather` takes it to its end.

How often each source has been called is counted beside the bootstrap, since the counts outlive a
bootstrap that fails or is given up.
-/

namespace RoleWeave

/-- A bootstrap that is suspended in a call of a source. -/
structure Bootstrap where
  /-- What the sources before have delivered. -/
  gathered : Index
  /-- The name of the source that is called. -/
  awaited : Text
  /-- The position of that source. -/
  position : Nat
  /-- For how many further polls the call stays pending. -/
  delay : Nat
  /-- What comes of the call then. -/
  outcome : Except Fault (List Descriptor)
  /-- The sources still to be called. -/
  later : List Source

/-- How far a poll takes a bootstrap. -/
inductive Progress where
  | suspended (bootstrap : Bootstrap)
  | failed (fault : Fault)
  | complete (index : Index)

namespace Bootstrap

/-- The fault of a bootstrap whose source failed. A fault that is one of the registry already is
    passed on, any other is attached to the source. -/
def sourceFault (source : Text) : Fault → Fault
  | .initialization reason => .initialization reason
  | fault =>
      .initialization
        ("source ".toList ++ Text.quoted source ++ " failed: ".toList ++ fault.message)

/-- The number of the next call of the source at a position. -/
def nextCall (calls : List Nat) (position : Nat) : Nat :=
  calls.getD position 0 + 1

/-- Ask the sources from a position on, until one stays pending or fails. Answers also with the
    counts of calls. -/
def proceed (storage : Storage) (gathered : Index) (position : Nat) :
    List Source → (calls : List Nat) → Progress × List Nat
  | [], calls => (.complete gathered, calls)
  | source :: later, calls =>
      let call := nextCall calls position
      let counted := calls.set position call
      let delivery := source.deliver storage call
      match delivery.delay with
      | delay + 1 =>
          (.suspended ⟨gathered, source.name, position, delay, delivery.outcome, later⟩, counted)
      | 0 =>
          match delivery.outcome with
          | .error fault => (.failed (sourceFault source.name fault), counted)
          | .ok found =>
              proceed storage (gathered.deliver source.name found) (position + 1) later counted

/-- Poll a suspended bootstrap. -/
def resume (storage : Storage) (bootstrap : Bootstrap) (calls : List Nat) :
    Progress × List Nat :=
  match bootstrap.delay with
  | delay + 1 => (.suspended { bootstrap with delay := delay }, calls)
  | 0 =>
      match bootstrap.outcome with
      | .error fault => (.failed (sourceFault bootstrap.awaited fault), calls)
      | .ok found =>
          proceed storage (bootstrap.gathered.deliver bootstrap.awaited found)
            (bootstrap.position + 1) bootstrap.later calls

/-- Ask the sources from a position on and wait for each of them. -/
def gather (storage : Storage) (gathered : Index) (position : Nat) :
    List Source → (calls : List Nat) → Except Fault Index × List Nat
  | [], calls => (.ok gathered, calls)
  | source :: later, calls =>
      let call := nextCall calls position
      let counted := calls.set position call
      match (source.deliver storage call).outcome with
      | .error fault => (.error (sourceFault source.name fault), counted)
      | .ok found =>
          gather storage (gathered.deliver source.name found) (position + 1) later counted

/-- Every fault of a bootstrap is one of the registry. -/
theorem sourceFault_initialization (source : Text) (fault : Fault) :
    ∃ reason, sourceFault source fault = .initialization reason := by
  cases fault <;> exact ⟨_, rfl⟩

/-- A bootstrap that no source suspends comes to the same end under both readings: step by step, and
    as one fold over the sources. By induction on the sources. -/
theorem proceed_eq_gather {storage : Storage} {sources : List Source}
    (prompt : ∀ source ∈ sources, ∀ call, (source.deliver storage call).delay = 0)
    (gathered : Index) (position : Nat) (calls : List Nat) :
    proceed storage gathered position sources calls =
      match gather storage gathered position sources calls with
      | (.ok index, counted) => (.complete index, counted)
      | (.error fault, counted) => (.failed fault, counted) := by
  induction sources generalizing gathered position calls with
  | nil => rfl
  | cons source later ih =>
    have atOnce := prompt source (by simp) (nextCall calls position)
    have others : ∀ other ∈ later, ∀ call, (other.deliver storage call).delay = 0 :=
      fun other member => prompt other (List.mem_cons_of_mem source member)
    simp only [proceed, gather, atOnce]
    cases (source.deliver storage (nextCall calls position)).outcome with
    | error fault => rfl
    | ok found => exact ih others _ _ _

end Bootstrap

end RoleWeave
