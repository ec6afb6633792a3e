import RoleWeave.Proofs.Registry.Soundness

/-!
# One bootstrap at a time

Whatever the callers do, at most one bootstrap is underway, each calls the sources in order and
stops at the first failure, and the first one that completes is the last that was begun: from then
on every caller is done at its next poll and nothing is called any more. If none was lost before,
it was the only one, and so it has called each source exactly once.
-/

namespace RoleWeave

/-- The bootstraps that are underway are those that the registry runs: one if it is busy, and none
    otherwise. -/
theorem Consistent.underway_eq {attempts : List Attempt} {registry : Registry}
    (consistent : Consistent attempts registry) :
    (attempts.filter (·.standing = .underway)).map Attempt.ticket =
      registry.running.toList.map Prod.fst := by
  have none {lost : List Attempt} (all : ∀ attempt ∈ lost, attempt.standing = .lost) :
      lost.filter (·.standing = .underway) = [] :=
    List.filter_eq_nil_iff.mpr fun attempt member => by simp [all attempt member]
  cases consistent with
  | idle lost _ free _ =>
    rw [none lost, free]
    rfl
  | busy lost _ held _ =>
    rw [List.filter_cons_of_pos (by rfl), none lost, held]
    rfl
  | ready lost _ free _ =>
    rw [List.filter_cons_of_neg (by simp [Attempt.standing]), none lost, free]
    rfl

/-! ## Once the registry is ready -/

/-- Nothing has changed but the answers and the queue: the index is still the same, no source has
    been called, and no bootstrap was begun. -/
structure Unmoved (before after : Watched) : Prop where
  index : after.registry.index = before.registry.index
  calls : after.registry.calls = before.registry.calls
  attempts : after.attempts = before.attempts

namespace Sound

variable {sources : List Source} {watched : Watched} {index : Index}

/-- A ready registry stays as it is whatever a caller does. Who polls is done, and who gives up runs
    nothing. -/
theorem unmoved_move (sound : Sound sources watched) (set : watched.registry.index = some index)
    (step : Move) : Unmoved watched (watched.move step) := by
  obtain ⟨_, _, _, latest, free, _, _⟩ := sound.consistent.latest_of_set set
  cases step with
  | poll storage ticket =>
    have settled := Registry.turn_of_ready set ticket
    have answered := watched.registry.poll_eq storage ticket
    rw [settled] at answered
    rw [Watched.move, Watched.poll, settled, answered]
    exact ⟨rfl, rfl, rfl⟩
  | drop ticket =>
    have nothing : ∀ bootstrap, watched.registry.running ≠ some (ticket, bootstrap) := by simp [free]
    rw [Watched.move, Watched.drop, Registry.drop_of_not_held nothing,
      sound.consistent.map_abandoned nothing]
    exact ⟨rfl, rfl, rfl⟩

/-- It stays so for good, by induction on the moves. -/
theorem unmoved_moves (sound : Sound sources watched) (set : watched.registry.index = some index)
    (steps : List Move) : Unmoved watched (watched.moves steps) := by
  induction steps generalizing watched with
  | nil => exact ⟨rfl, rfl, rfl⟩
  | cons step later ih =>
    have first := sound.unmoved_move set step
    have rest := ih (sound.move step) (first.index.trans set)
    exact ⟨rest.index.trans first.index, rest.calls.trans first.calls,
      rest.attempts.trans first.attempts⟩

/-- If no bootstrap was lost, the one that has set the index has called each source once. It is the
    only one on record, so the counts are those of its own calls. -/
theorem calls_of_none_lost (sound : Sound sources watched)
    (set : watched.registry.index = some index)
    (kept : ∀ attempt ∈ watched.attempts, attempt.standing ≠ .lost) :
    watched.registry.calls = sources.map (fun _ => 1) := by
  obtain ⟨ticket, asked, older, latest, _, _, lost⟩ := sound.consistent.latest_of_set set
  have only : older = [] :=
    List.eq_nil_iff_forall_not_mem.mpr fun attempt earlier =>
      kept attempt (by rw [latest]; exact List.mem_cons_of_mem _ earlier) (lost attempt earlier)
  have reached : Reached sources asked (.complete index) :=
    sound.reached _ (by rw [latest]; exact List.mem_cons_self)
  have whole : watched.asked = asked := by
    rw [Watched.asked, latest, only, List.flatMap_singleton]
  have once : ∀ position ∈ List.range sources.length, tally asked position = 1 :=
    fun position inside =>
      reached.inOrder.tally_eq_one reached.all_of_complete (List.mem_range.mp inside)
  rw [sound.counts, whole, List.map_congr_left once]
  simp

/-- Who is answered that a bootstrap failed, has lost one. -/
theorem lost_of_failed (sound : Sound sources watched) {ticket : Nat} {fault : Fault}
    (answered : (ticket, Poll.failed fault) ∈ watched.answers) :
    ∃ attempt ∈ watched.attempts, attempt.standing = .lost := by
  obtain ⟨⟨_, _, _, dropped⟩, member, _, rfl⟩ := sound.faulted ticket fault answered
  exact ⟨_, member, by cases dropped <;> rfl⟩

end Sound

/-- Whatever the sources do and however the polls of any number of callers interleave: at most one
    bootstrap is underway. Each bootstrap calls the sources in order and stops at the first failure,
    and the counts of calls are those of the bootstraps. Once somebody is done the index, the calls
    and the bootstraps stay as they are, and everybody who polls is done. If no bootstrap failed or
    was given up, each source has been called exactly once as soon as anybody has finished.

    Proof: every history is sound. The bootstraps underway are those that the registry runs, and it
    runs one at most. Their calls are in order however far they are, and are counted as they are
    made. Whoever is done has found the index set, and from then on nothing moves
    (`unmoved_moves`). -/
theorem single_flight (sources : List Source) (steps : List Move) :
    let watched := Watched.history sources steps
    (watched.attempts.filter (·.standing = .underway)).length ≤ 1 ∧
    (∀ attempt ∈ watched.attempts, InOrder sources attempt.asked) ∧
    watched.registry.calls = (List.range sources.length).map (tally watched.asked) ∧
    (∀ ticket, (ticket, Poll.done) ∈ watched.answers →
      ∃ index, watched.registry.index = some index ∧
        ∀ later, Unmoved watched (watched.moves later) ∧
          ∀ storage caller, ((watched.moves later).registry.poll storage caller).1 = .done) ∧
    (∀ ticket answer, (ticket, answer) ∈ watched.answers → answer ≠ .pending →
      (∀ attempt ∈ watched.attempts, attempt.standing ≠ .lost) →
        watched.registry.calls = sources.map (fun _ => 1)) := by
  intro watched
  have sound : Sound sources watched := Watched.sound sources steps
  refine ⟨?_, fun attempt member => (sound.reached attempt member).inOrder, sound.counts, ?_, ?_⟩
  · have tickets := congrArg List.length sound.consistent.underway_eq
    rw [List.length_map, List.length_map] at tickets
    rw [tickets]
    exact Option.length_toList_le
  · intro ticket answered
    obtain ⟨index, set⟩ := Option.isSome_iff_exists.mp (sound.finished ticket answered)
    refine ⟨index, set, fun later => ?_⟩
    have unmoved := sound.unmoved_moves set later
    refine ⟨unmoved, fun storage caller => ?_⟩
    rw [Registry.poll_eq, Registry.turn_of_ready (unmoved.index.trans set)]
  · intro ticket answer answered finished kept
    cases answer with
    | pending => exact absurd rfl finished
    | done =>
      obtain ⟨index, set⟩ := Option.isSome_iff_exists.mp (sound.finished ticket answered)
      exact sound.calls_of_none_lost set kept
    | failed fault =>
      obtain ⟨attempt, member, lost⟩ := sound.lost_of_failed answered
      exact absurd lost (kept attempt member)

end RoleWeave
