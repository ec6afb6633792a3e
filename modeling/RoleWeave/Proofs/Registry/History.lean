import RoleWeave.Proofs.Registry.Asking

/-!
# The history of a registry

Any number of callers poll and give up in any order. The registry itself keeps only what it needs
to go on; here every bootstrap that was ever begun stays on record, with the calls it made, how far
it came, and whether its caller gave it up. Every answer is on record too.

What a poll does depends on whose turn it is. `Registry.turn` says that apart from the poll itself,
and `Registry.poll_eq` that the poll does nothing else.
-/

namespace RoleWeave

/-- What a caller does. A caller starts with its first poll, at whatever storage it meets. -/
inductive Move where
  | poll (storage : Storage) (ticket : Nat)
  | drop (ticket : Nat)

/-! ## Whose turn it is -/

/-- What a poll means for the caller. -/
inductive Turn where
  /-- The registry is ready. -/
  | settled
  /-- The bootstrap of the caller goes on. -/
  | goesOn (bootstrap : Bootstrap)
  /-- A bootstrap begins. -/
  | begins
  /-- Another caller goes first. -/
  | waits

namespace Registry

/-- What the next poll of a caller means. -/
def turn (registry : Registry) (ticket : Nat) : Turn :=
  if registry.index.isSome then .settled
  else
    match registry.running with
    | some (holder, bootstrap) => if holder = ticket then .goesOn bootstrap else .waits
    | none =>
        match registry.queue with
        | [] => .begins
        | first :: _ => if first = ticket then .begins else .waits

variable {registry : Registry} {storage : Storage} {ticket : Nat} {bootstrap : Bootstrap}

/-- A poll does what the turn of its caller says. The cases of both are the same: whether the index
    is set, who runs a bootstrap, and who is first in line. -/
theorem poll_eq (registry : Registry) (storage : Storage) (ticket : Nat) :
    registry.poll storage ticket =
      match registry.turn ticket with
      | .settled =>
          (.done, { registry with phase := .ready, queue := registry.queue.erase ticket })
      | .goesOn bootstrap => registry.settle ticket (bootstrap.resume storage registry.calls)
      | .begins => { registry with queue := registry.queue.tail }.begin storage ticket
      | .waits => registry.wait ticket := by
  obtain ⟨sources, calls, index, phase, running, queue⟩ := registry
  unfold poll turn
  dsimp only
  by_cases ready : index.isSome = true
  · rw [if_pos ready, if_pos ready]
  rw [if_neg ready, if_neg ready]
  rcases running with _ | ⟨holder, bootstrap⟩
  · rcases queue with _ | ⟨first, later⟩
    · rfl
    · by_cases mine : first = ticket
      · simp only [if_pos mine]
        rfl
      · simp only [if_neg mine]
  · by_cases mine : holder = ticket
    · simp only [if_pos mine]
    · simp only [if_neg mine]

/-- What the turn of a caller says of the registry. -/
inductive Due (registry : Registry) (ticket : Nat) : Turn → Prop
  | settled {index : Index} :
      registry.index = some index → Due registry ticket .settled
  | goesOn {bootstrap : Bootstrap} :
      registry.index = none → registry.running = some (ticket, bootstrap) →
      Due registry ticket (.goesOn bootstrap)
  | begins :
      registry.index = none → registry.running = none → Due registry ticket .begins
  | waits :
      registry.index = none → Due registry ticket .waits

/-- The turn of a caller is due: what it says of the registry holds. The cases are those in which
    the turn is decided: an index, a bootstrap that runs and the queue. -/
theorem due (registry : Registry) (ticket : Nat) : Due registry ticket (registry.turn ticket) := by
  unfold turn
  cases held : registry.index with
  | some index => exact .settled held
  | none =>
    rw [if_neg (by simp)]
    split
    · rename_i holder bootstrap running
      split
      · rename_i mine
        exact .goesOn held (by rw [running, mine])
      · exact .waits held
    · rename_i running
      split
      · exact .begins held running
      · split
        · exact .begins held running
        · exact .waits held

/-- Once the registry is ready it is over for everyone. -/
theorem turn_of_ready {index : Index} (ready : registry.index = some index) (ticket : Nat) :
    registry.turn ticket = .settled := by
  rw [turn, ready]
  rfl

/-- While no bootstrap runs, it is the turn of the first in line, or of anyone if nobody waits.
    There is no index yet, or the caller would be done. -/
theorem turn_of_first (unset : registry.index = none) (free : registry.running = none)
    (first : ∀ other ∈ registry.queue.head?, other = ticket) : registry.turn ticket = .begins := by
  rw [turn, unset, free, if_neg (by simp)]
  cases line : registry.queue with
  | nil => rfl
  | cons other later =>
    have mine : other = ticket := first other (by rw [line]; rfl)
    exact if_pos mine

/-- Who waits changes the queue at most. -/
theorem wait_eq (registry : Registry) (ticket : Nat) :
    ∃ queue, registry.wait ticket = (.pending, { registry with queue := queue }) := by
  unfold wait
  split
  · exact ⟨registry.queue, rfl⟩
  · exact ⟨_, rfl⟩

/-- Giving up one's bootstrap frees the registry. -/
theorem drop_of_held (held : registry.running = some (ticket, bootstrap)) :
    registry.drop ticket = { registry with running := none, phase := .uninitialized } := by
  rw [drop, held]
  exact if_pos rfl

/-- Giving up without running a bootstrap is to leave the queue. -/
theorem drop_of_not_held (free : ∀ bootstrap, registry.running ≠ some (ticket, bootstrap)) :
    registry.drop ticket = { registry with queue := registry.queue.erase ticket } := by
  unfold drop
  split
  · rename_i holder bootstrap running
    have other : holder ≠ ticket := fun same => free bootstrap (by rw [running, same])
    rw [if_neg other]
  · rfl

end Registry

/-! ## The record -/

/-- Where a bootstrap stands. -/
inductive Standing where
  /-- It has neither finished nor been given up. -/
  | underway
  /-- It has failed or been given up. -/
  | lost
  /-- It has set the index. -/
  | fulfilled
deriving DecidableEq

/-- A bootstrap on record. -/
structure Attempt where
  /-- The ticket of the caller that runs it. -/
  ticket : Nat
  /-- The calls that it has made. -/
  asked : List Ask
  /-- How far it has come. -/
  progress : Progress
  /-- Whether its caller has given it up. -/
  dropped : Bool

namespace Attempt

/-- Where the bootstrap stands. -/
def standing (attempt : Attempt) : Standing :=
  if attempt.dropped then .lost
  else
    match attempt.progress with
    | .suspended _ => .underway
    | .failed _ => .lost
    | .complete _ => .fulfilled

/-- The bootstrap that a caller begins, as far as its first poll takes it. -/
def begun (storage : Storage) (ticket : Nat) (sources : List Source) (calls : List Nat) : Attempt :=
  ⟨ticket, Bootstrap.asks storage 0 sources calls,
    (Bootstrap.proceed storage Index.empty 0 sources calls).1, false⟩

/-- What a poll of a caller makes of a bootstrap on record. -/
def polled (storage : Storage) (ticket : Nat) (calls : List Nat) (attempt : Attempt) : Attempt :=
  match attempt with
  | ⟨holder, asked, .suspended bootstrap, false⟩ =>
      if holder = ticket then
        ⟨holder, asked ++ bootstrap.furtherAsks storage calls,
          (bootstrap.resume storage calls).1, false⟩
      else attempt
  | _ => attempt

/-- What it means for a bootstrap on record that a caller gives up. -/
def abandoned (ticket : Nat) (attempt : Attempt) : Attempt :=
  if attempt.standing = .underway ∧ attempt.ticket = ticket then { attempt with dropped := true }
  else attempt

variable {storage : Storage} {ticket : Nat} {calls : List Nat} {attempt : Attempt}

/-- A poll changes only what is underway. -/
theorem polled_of_still (still : attempt.standing ≠ .underway) :
    attempt.polled storage ticket calls = attempt := by
  unfold polled
  split
  · exact absurd rfl still
  · rfl

/-- Giving up changes only what is underway. -/
theorem abandoned_of_still (still : attempt.standing ≠ .underway) :
    attempt.abandoned ticket = attempt :=
  if_neg fun concerned => still concerned.1

end Attempt

/-- A registry and its history. -/
structure Watched where
  registry : Registry
  /-- All bootstraps that were ever begun, the latest first. -/
  attempts : List Attempt
  /-- All answers with the tickets of those who got them, the latest first. -/
  answers : List (Nat × Poll)

namespace Watched

/-- A registry that nobody has asked for yet. -/
def fresh (sources : List Source) : Watched :=
  ⟨Registry.ofSources sources, [], []⟩

/-- A caller polls. -/
def poll (watched : Watched) (storage : Storage) (ticket : Nat) : Watched :=
  let registry := watched.registry
  { registry := (registry.poll storage ticket).2
    attempts :=
      match registry.turn ticket with
      | .begins => .begun storage ticket registry.sources registry.calls :: watched.attempts
      | .goesOn _ => watched.attempts.map (.polled storage ticket registry.calls)
      | _ => watched.attempts
    answers := (ticket, (registry.poll storage ticket).1) :: watched.answers }

/-- A caller gives up. -/
def drop (watched : Watched) (ticket : Nat) : Watched :=
  { watched with
    registry := watched.registry.drop ticket
    attempts := watched.attempts.map (.abandoned ticket) }

/-- One move of a caller. -/
def move (watched : Watched) : Move → Watched
  | .poll storage ticket => watched.poll storage ticket
  | .drop ticket => watched.drop ticket

/-- Moves one after another. -/
def moves (watched : Watched) (steps : List Move) : Watched :=
  steps.foldl move watched

/-- The history of a registry under the moves of its callers. -/
def history (sources : List Source) (steps : List Move) : Watched :=
  (fresh sources).moves steps

/-- The calls of all bootstraps on record. -/
def asked (watched : Watched) : List Ask :=
  watched.attempts.flatMap Attempt.asked

end Watched

end RoleWeave
