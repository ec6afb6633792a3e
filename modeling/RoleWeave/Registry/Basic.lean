import RoleWeave.Registry.Bootstrap

/-!
# The registry

The registry knows all resources once its sources have been asked. Any number of callers may want
it filled; each has a ticket and polls. One caller at a time runs the bootstrap, the others
queue behind it. When the bootstrap succeeds the index is set for good and every caller is done.
When it fails, or its caller gives up, the first in the queue starts anew at its next poll.

The phase is noted beside the index: at the first poll of a bootstrap, at its end, and when it is
given up.
-/

namespace RoleWeave

/-- How far the registry is. -/
inductive Phase where
  | uninitialized
  | initializing
  | ready
deriving DecidableEq, Repr, Inhabited

/-- What a poll answers to its caller. -/
inductive Poll where
  | pending
  | done
  | failed (fault : Fault)
deriving DecidableEq, Repr

/-- The registry and those who wait for it. -/
structure Registry where
  /-- The sources, those of lower precedence first. -/
  sources : List Source
  /-- How often each source has been called. -/
  calls : List Nat
  /-- What the one successful bootstrap has gathered. -/
  index : Option Index
  phase : Phase
  /-- The ticket of the caller that runs the bootstrap, and the bootstrap itself. -/
  running : Option (Nat × Bootstrap)
  /-- The tickets of the callers that wait for their turn, the first in line first. -/
  queue : List Nat

namespace Registry

/-- A registry that has not been asked for yet. -/
def ofSources (sources : List Source) : Registry :=
  ⟨sources, sources.map (fun _ => 0), none, .uninitialized, none, []⟩

/-- How far the registry is: ready as soon as there is an index, else as noted. -/
def state (registry : Registry) : Phase :=
  if registry.index.isSome then .ready else registry.phase

/-- What is known so far. Nothing is known before the bootstrap has succeeded. -/
def known (registry : Registry) : Index :=
  registry.index.getD Index.empty

/-- Whether a caller has begun to wait and is not done yet. -/
def isActive (registry : Registry) (ticket : Nat) : Bool :=
  registry.running.any (fun run => run.1 == ticket) || registry.queue.contains ticket

/-- Note how far a poll has taken the bootstrap of a caller. -/
def settle (registry : Registry) (ticket : Nat) : Progress × List Nat → Poll × Registry
  | (.suspended bootstrap, calls) =>
      (.pending, { registry with
        calls := calls, phase := .initializing, running := some (ticket, bootstrap) })
  | (.failed fault, calls) =>
      (.failed fault, { registry with
        calls := calls, phase := .uninitialized, running := none })
  | (.complete index, calls) =>
      (.done, { registry with
        calls := calls, phase := .ready, running := none, index := some index })

/-- Begin a bootstrap for a caller whose turn it is. -/
def begin (registry : Registry) (storage : Storage) (ticket : Nat) : Poll × Registry :=
  registry.settle ticket
    (Bootstrap.proceed storage Index.empty 0 registry.sources registry.calls)

/-- Let a caller stay in line, at the end if it is new. -/
def wait (registry : Registry) (ticket : Nat) : Poll × Registry :=
  (.pending,
    if registry.queue.contains ticket then registry
    else { registry with queue := registry.queue ++ [ticket] })

/-- Poll for a caller. A caller that is not known yet is a new one. -/
def poll (registry : Registry) (storage : Storage) (ticket : Nat) : Poll × Registry :=
  if registry.index.isSome then
    (.done, { registry with phase := .ready, queue := registry.queue.erase ticket })
  else
    match registry.running with
    | some (holder, bootstrap) =>
        if holder = ticket then
          registry.settle ticket (bootstrap.resume storage registry.calls)
        else registry.wait ticket
    | none =>
        match registry.queue with
        | [] => registry.begin storage ticket
        | first :: later =>
            if first = ticket then { registry with queue := later }.begin storage ticket
            else registry.wait ticket

/-- Let a caller give up. Its bootstrap, if it runs one, is given up with it. -/
def drop (registry : Registry) (ticket : Nat) : Registry :=
  match registry.running with
  | some (holder, _) =>
      if holder = ticket then
        { registry with running := none, phase := .uninitialized }
      else { registry with queue := registry.queue.erase ticket }
  | none => { registry with queue := registry.queue.erase ticket }

/-- The answer to a caller that would have to wait for others who do not move. -/
def occupied : Fault :=
  .other "another caller is filling the registry".toList

/-- Have the registry filled and wait for it. -/
def fill (registry : Registry) (storage : Storage) : Except Fault Unit × Registry :=
  if registry.index.isSome then (.ok (), { registry with phase := .ready })
  else if registry.running.isSome || !registry.queue.isEmpty then (.error occupied, registry)
  else
    match Bootstrap.gather storage Index.empty 0 registry.sources registry.calls with
    | (.ok index, calls) =>
        (.ok (), { registry with calls := calls, phase := .ready, index := some index })
    | (.error fault, calls) =>
        (.error fault, { registry with calls := calls, phase := .uninitialized })

end Registry

end RoleWeave
