import RoleWeave.Proofs.Registry.History

/-!
# How history and registry belong together

`Sound` says what holds of a registry and its history after any moves of the callers. It holds of a
registry that nobody has asked for yet (`Sound.fresh`), each move keeps it (`Sound.poll`,
`Sound.drop`), and so it holds of every history (`Watched.sound`). All that is proved of bootstraps
is read off it.
-/

namespace RoleWeave

/-- The record and the registry agree on what is going on. In each case all bootstraps but the
    latest are lost. -/
inductive Consistent : List Attempt → Registry → Prop
  /-- No bootstrap is underway, and none has set the index. -/
  | idle {attempts : List Attempt} {registry : Registry} :
      (∀ attempt ∈ attempts, attempt.standing = .lost) →
      registry.index = none → registry.running = none → registry.phase = .uninitialized →
      Consistent attempts registry
  /-- The latest bootstrap is the one that the registry runs. -/
  | busy {older : List Attempt} {registry : Registry} {ticket : Nat} {asked : List Ask}
      {bootstrap : Bootstrap} :
      (∀ attempt ∈ older, attempt.standing = .lost) →
      registry.index = none → registry.running = some (ticket, bootstrap) →
      registry.phase = .initializing →
      Consistent (⟨ticket, asked, .suspended bootstrap, false⟩ :: older) registry
  /-- The latest bootstrap has set the index. -/
  | ready {older : List Attempt} {registry : Registry} {ticket : Nat} {asked : List Ask}
      {index : Index} :
      (∀ attempt ∈ older, attempt.standing = .lost) →
      registry.index = some index → registry.running = none → registry.phase = .ready →
      Consistent (⟨ticket, asked, .complete index, false⟩ :: older) registry

namespace Consistent

/-- Only index, bootstrap and phase of the registry matter for whether record and registry agree.
    The queue and the counts may differ. -/
theorem congr {attempts : List Attempt} {registry other : Registry}
    (consistent : Consistent attempts registry) (index : other.index = registry.index)
    (running : other.running = registry.running) (phase : other.phase = registry.phase) :
    Consistent attempts other := by
  cases consistent with
  | idle lost unset free noted =>
    exact .idle lost (index.trans unset) (running.trans free) (phase.trans noted)
  | busy lost unset held noted =>
    exact .busy lost (index.trans unset) (running.trans held) (phase.trans noted)
  | ready lost set free noted =>
    exact .ready lost (index.trans set) (running.trans free) (phase.trans noted)

variable {attempts : List Attempt} {registry : Registry}

/-- Where no bootstrap runs and none has set the index, all are lost. -/
theorem lost_of_free (consistent : Consistent attempts registry) (unset : registry.index = none)
    (free : registry.running = none) : ∀ attempt ∈ attempts, attempt.standing = .lost := by
  cases consistent with
  | idle lost _ _ _ => exact lost
  | busy _ _ held _ => simp [held] at free
  | ready _ set _ _ => simp [set] at unset

/-- The bootstrap that runs is the latest on record, and those before it are lost. Of the three ways
    to agree, only one has a bootstrap running. -/
theorem latest_of_held {ticket : Nat} {bootstrap : Bootstrap}
    (consistent : Consistent attempts registry)
    (held : registry.running = some (ticket, bootstrap)) :
    ∃ asked older, attempts = ⟨ticket, asked, .suspended bootstrap, false⟩ :: older ∧
      registry.index = none ∧ ∀ attempt ∈ older, attempt.standing = .lost := by
  cases consistent with
  | idle _ _ free _ => simp [free] at held
  | busy lost unset same _ =>
    cases same.symm.trans held
    exact ⟨_, _, rfl, unset, lost⟩
  | ready _ _ free _ => simp [free] at held

/-- So it is underway. -/
theorem underway_of_held {ticket : Nat} {bootstrap : Bootstrap}
    (consistent : Consistent attempts registry)
    (held : registry.running = some (ticket, bootstrap)) :
    ∃ attempt ∈ attempts, attempt.standing = .underway ∧ attempt.ticket = ticket := by
  obtain ⟨asked, older, rfl, _, _⟩ := consistent.latest_of_held held
  exact ⟨_, List.mem_cons_self, rfl, rfl⟩

/-- The bootstrap that has set the index is the latest on record, and none runs. Those before it are
    lost. -/
theorem latest_of_set {index : Index} (consistent : Consistent attempts registry)
    (set : registry.index = some index) :
    ∃ ticket asked older, attempts = ⟨ticket, asked, .complete index, false⟩ :: older ∧
      registry.running = none ∧ registry.phase = .ready ∧
      ∀ attempt ∈ older, attempt.standing = .lost := by
  cases consistent with
  | idle _ unset _ _ => simp [unset] at set
  | busy _ unset _ _ => simp [unset] at set
  | ready lost same free noted =>
    cases same.symm.trans set
    exact ⟨_, _, _, rfl, free, noted, lost⟩

end Consistent

/-- What changes only bootstraps that are underway keeps those that are lost. -/
theorem map_of_lost {attempts : List Attempt} {change : Attempt → Attempt}
    (lost : ∀ attempt ∈ attempts, attempt.standing = .lost)
    (still : ∀ attempt, attempt.standing ≠ .underway → change attempt = attempt) :
    attempts.map change = attempts := by
  refine (List.map_congr_left fun attempt member => ?_).trans (List.map_id attempts)
  exact still attempt (by rw [lost attempt member]; decide)

/-- Who runs no bootstrap gives none up. A bootstrap that is underway is that of another caller, and
    one that was lost or fulfilled is not touched by it. -/
theorem Consistent.map_abandoned {attempts : List Attempt} {registry : Registry} {ticket : Nat}
    (consistent : Consistent attempts registry)
    (free : ∀ bootstrap, registry.running ≠ some (ticket, bootstrap)) :
    attempts.map (.abandoned ticket) = attempts := by
  have older {lost : List Attempt} (all : ∀ attempt ∈ lost, attempt.standing = .lost) :
      lost.map (.abandoned ticket) = lost :=
    map_of_lost all fun _ => Attempt.abandoned_of_still
  cases consistent with
  | idle lost _ _ _ => exact older lost
  | @busy rest _ holder asked bootstrap lost _ held _ =>
    have other : holder ≠ ticket := fun same => free bootstrap (by rw [held, same])
    rw [List.map_cons, older lost]
    exact congrArg (· :: rest) (if_neg fun concerned => other concerned.2)
  | @ready rest _ _ _ _ lost _ _ _ =>
    rw [List.map_cons, older lost]
    have still : Standing.fulfilled ≠ .underway := by decide
    exact congrArg (· :: rest) (Attempt.abandoned_of_still still)

/-- What holds of a history after any moves. -/
structure Sound (sources : List Source) (watched : Watched) : Prop where
  sources_eq : watched.registry.sources = sources
  /-- The counts of calls are those of the calls on record. -/
  counts : watched.registry.calls = (List.range sources.length).map (tally watched.asked)
  /-- Every bootstrap began with the first source and an empty index. -/
  reached : ∀ attempt ∈ watched.attempts, Reached sources attempt.asked attempt.progress
  consistent : Consistent watched.attempts watched.registry
  /-- Nobody is done before the index is set. -/
  finished : ∀ ticket, (ticket, Poll.done) ∈ watched.answers → watched.registry.index.isSome
  /-- Every fault that was answered is that of a bootstrap of the same caller. -/
  faulted : ∀ ticket fault, (ticket, Poll.failed fault) ∈ watched.answers →
    ∃ attempt ∈ watched.attempts, attempt.ticket = ticket ∧ attempt.progress = .failed fault

/-- What a bootstrap that is underway may rely on: the index is not set, nobody is done, and the
    bootstraps before it are lost. -/
private structure Ground (sources : List Source) (registry : Registry) (older : List Attempt)
    (answers : List (Nat × Poll)) : Prop where
  sources_eq : registry.sources = sources
  unset : registry.index = none
  lost : ∀ attempt ∈ older, attempt.standing = .lost
  reached : ∀ attempt ∈ older, Reached sources attempt.asked attempt.progress
  unfinished : ∀ ticket, (ticket, Poll.done) ∉ answers
  faulted : ∀ ticket fault, (ticket, Poll.failed fault) ∈ answers →
    ∃ attempt ∈ older, attempt.ticket = ticket ∧ attempt.progress = .failed fault

/-- However far a poll takes a bootstrap, the history is sound once that is noted.

    Proof: a poll leaves the bootstrap suspended, failed or complete. In each case the registry is
    settled accordingly, so record and registry agree, the counts are those that the poll has left,
    and what is answered is what the record says: that the caller waits, its fault, or that the
    index is set. -/
private theorem Ground.settle {sources : List Source} {registry : Registry} {older : List Attempt}
    {answers : List (Nat × Poll)} (ground : Ground sources registry older answers) (ticket : Nat)
    {asked : List Ask} {step : Progress × List Nat} (reached : Reached sources asked step.1)
    (counts : step.2 = (List.range sources.length).map
      (tally (asked ++ older.flatMap Attempt.asked))) :
    Sound sources
      ⟨(registry.settle ticket step).2, ⟨ticket, asked, step.1, false⟩ :: older,
        (ticket, (registry.settle ticket step).1) :: answers⟩ := by
  obtain ⟨progress, calls⟩ := step
  dsimp only at reached counts
  refine ⟨?_, ?_, List.forall_mem_cons.mpr ⟨reached, ground.reached⟩, ?_, ?_, ?_⟩
  · cases progress <;> exact ground.sources_eq
  · cases progress <;> exact counts
  · cases progress with
    | suspended bootstrap => exact .busy ground.lost ground.unset rfl rfl
    | failed fault =>
      exact .idle (List.forall_mem_cons.mpr ⟨rfl, ground.lost⟩) ground.unset rfl rfl
    | complete index => exact .ready ground.lost rfl rfl rfl
  · intro other member
    rcases List.mem_cons.mp member with same | before
    · cases progress with
      | complete index => rfl
      | suspended bootstrap => cases same
      | failed fault => cases same
    · exact absurd before (ground.unfinished other)
  · intro other fault member
    rcases List.mem_cons.mp member with same | before
    · refine ⟨_, List.mem_cons_self, ?_⟩
      cases progress with
      | failed cause =>
        cases same
        exact ⟨rfl, rfl⟩
      | suspended bootstrap => cases same
      | complete index => cases same
    · obtain ⟨attempt, earlier, told⟩ := ground.faulted other fault before
      exact ⟨attempt, List.mem_cons_of_mem _ earlier, told⟩

namespace Sound

variable {sources : List Source} {watched : Watched}

/-- Before anyone polls nothing is on record, and nothing has been counted. -/
theorem fresh (sources : List Source) : Sound sources (.fresh sources) where
  sources_eq := rfl
  counts := by
    have none : tally [] = fun _ => 0 := rfl
    simp [Watched.fresh, Watched.asked, Registry.ofSources, none]
  reached := fun attempt member => absurd member List.not_mem_nil
  consistent := .idle (fun attempt member => absurd member List.not_mem_nil) rfl rfl rfl
  finished := fun ticket member => absurd member List.not_mem_nil
  faulted := fun ticket fault member => absurd member List.not_mem_nil

/-- While the index is not set nobody is done. -/
private theorem unfinished (sound : Sound sources watched)
    (unset : watched.registry.index = none) (ticket : Nat) :
    (ticket, Poll.done) ∉ watched.answers := by
  intro member
  have set := sound.finished ticket member
  rw [unset] at set
  cases set

/-- While a bootstrap is suspended, every fault that was answered is that of an older one. The one
    that is suspended has not failed, so it answered nothing. -/
private theorem faulted_older {registry : Registry} {older : List Attempt}
    {answers : List (Nat × Poll)} {holder : Nat} {asked : List Ask} {bootstrap : Bootstrap}
    {dropped : Bool}
    (sound : Sound sources
      ⟨registry, ⟨holder, asked, .suspended bootstrap, dropped⟩ :: older, answers⟩)
    (ticket : Nat) (fault : Fault) (member : (ticket, Poll.failed fault) ∈ answers) :
    ∃ attempt ∈ older, attempt.ticket = ticket ∧ attempt.progress = .failed fault := by
  obtain ⟨attempt, recorded, told⟩ := sound.faulted ticket fault member
  rcases List.mem_cons.mp recorded with rfl | earlier
  · cases told.2
  · exact ⟨attempt, earlier, told⟩

/-- Who waits behind whom does not matter for the record. -/
private theorem requeue {registry : Registry} {attempts : List Attempt}
    {answers : List (Nat × Poll)} (sound : Sound sources ⟨registry, attempts, answers⟩)
    (queue : List Nat) : Sound sources ⟨{ registry with queue := queue }, attempts, answers⟩ :=
  ⟨sound.sources_eq, sound.counts, sound.reached, sound.consistent.congr rfl rfl rfl,
    sound.finished, sound.faulted⟩

/-- An answer that says no more than what is known may be given: that the registry is ready only if
    it is, and no fault. -/
private theorem answer {registry : Registry} {attempts : List Attempt}
    {answers : List (Nat × Poll)} (sound : Sound sources ⟨registry, attempts, answers⟩)
    (ticket : Nat) {said : Poll} (true_of_done : said = .done → registry.index.isSome)
    (no_fault : ∀ fault, said ≠ .failed fault) :
    Sound sources ⟨registry, attempts, (ticket, said) :: answers⟩ where
  sources_eq := sound.sources_eq
  counts := sound.counts
  reached := sound.reached
  consistent := sound.consistent
  finished := by
    intro other member
    rcases List.mem_cons.mp member with same | before
    · exact true_of_done (Prod.mk.inj same).2.symm
    · exact sound.finished other before
  faulted := by
    intro other fault member
    rcases List.mem_cons.mp member with same | before
    · exact absurd (Prod.mk.inj same).2.symm (no_fault fault)
    · exact sound.faulted other fault before

/-- Further calls are counted as they join the record. The counts do not depend on the order in
    which the record holds the calls. -/
private theorem recount (sound : Sound sources watched) {further whole : List Ask}
    (bounded : ∀ ask ∈ further, ask.position < sources.length)
    (joined : whole.Perm (watched.asked ++ further)) :
    Bootstrap.recount watched.registry.calls further =
      (List.range sources.length).map (tally whole) := by
  rw [sound.counts]
  exact Bootstrap.recount_perm bounded joined

/-- A bootstrap that begins joins the record. It has made its calls from the first source on, with
    nothing gathered before. -/
private theorem begins {registry : Registry} {attempts : List Attempt}
    {answers : List (Nat × Poll)} (sound : Sound sources ⟨registry, attempts, answers⟩)
    (unset : registry.index = none) (free : registry.running = none) (storage : Storage)
    (ticket : Nat) (queue : List Nat) :
    let step := { registry with queue := queue }.begin storage ticket
    Sound sources
      ⟨step.2, .begun storage ticket registry.sources registry.calls :: attempts,
        (ticket, step.1) :: answers⟩ := by
  have ground : Ground sources { registry with queue := queue } attempts answers :=
    ⟨sound.sources_eq, unset, sound.consistent.lost_of_free unset free, sound.reached,
      sound.unfinished unset, sound.faulted⟩
  have reached : Reached sources (Bootstrap.asks storage 0 registry.sources registry.calls)
      (Bootstrap.proceed storage Index.empty 0 registry.sources registry.calls).1 :=
    Bootstrap.proceed_reached .nothing sound.sources_eq.symm
  refine ground.settle ticket reached (Bootstrap.proceed_counts.trans ?_)
  exact sound.recount (fun _ => reached.inOrder.position_lt) List.perm_append_comm

/-- A bootstrap that goes on is prolonged on the record.

    Proof: it is the latest on record, and those before it are lost, so it may rely on the ground
    that they leave. Polling it keeps its record in order (`resume_reached`) and counts the calls
    that it makes (`resume_counts`), which join those that were counted. -/
private theorem goesOn {registry : Registry} {attempts : List Attempt}
    {answers : List (Nat × Poll)} (sound : Sound sources ⟨registry, attempts, answers⟩)
    {ticket : Nat} {bootstrap : Bootstrap} (held : registry.running = some (ticket, bootstrap))
    (storage : Storage) :
    let step := registry.settle ticket (bootstrap.resume storage registry.calls)
    Sound sources
      ⟨step.2, attempts.map (.polled storage ticket registry.calls), (ticket, step.1) :: answers⟩ := by
  obtain ⟨asked, older, rfl, unset, lost⟩ := sound.consistent.latest_of_held held
  obtain ⟨reached, reachedOlder⟩ := List.forall_mem_cons.mp sound.reached
  have ground : Ground sources registry older answers :=
    { sources_eq := sound.sources_eq
      unset := unset
      lost := lost
      reached := reachedOlder
      unfinished := sound.unfinished unset
      faulted := sound.faulted_older }
  have longer : Reached sources (asked ++ bootstrap.furtherAsks storage registry.calls)
      (bootstrap.resume storage registry.calls).1 :=
    Bootstrap.resume_reached reached
  -- All others on record are lost, so the poll prolongs the latest bootstrap only.
  have latest : Attempt.polled storage ticket registry.calls
        ⟨ticket, asked, .suspended bootstrap, false⟩ =
      ⟨ticket, asked ++ bootstrap.furtherAsks storage registry.calls,
        (bootstrap.resume storage registry.calls).1, false⟩ :=
    if_pos rfl
  rw [List.map_cons, latest, map_of_lost lost fun _ => Attempt.polled_of_still]
  refine ground.settle ticket longer (Bootstrap.resume_counts.trans ?_)
  refine sound.recount ?_ ?_
  · exact fun ask member => longer.inOrder.position_lt (List.mem_append_right asked member)
  · rw [Watched.asked, List.flatMap_cons, List.append_assoc, List.append_assoc]
    exact List.perm_append_comm.append_left asked

/-- A poll keeps a history sound.

    Proof: there are four turns. Who finds the registry ready leaves the queue and is done. A
    bootstrap that goes on is `goesOn`, one that begins is `begins`. Who waits changes the queue at
    most, and is told to wait. -/
theorem poll (sound : Sound sources watched) (storage : Storage) (ticket : Nat) :
    Sound sources (watched.poll storage ticket) := by
  obtain ⟨registry, attempts, answers⟩ := watched
  have due := registry.due ticket
  have answered := registry.poll_eq storage ticket
  unfold Watched.poll
  dsimp only
  cases turn : registry.turn ticket with
  | settled =>
    rw [turn] at due answered
    cases due with
    | settled set =>
      -- The phase is noted once more, but it was noted when the index was set.
      obtain ⟨_, _, _, _, _, noted, _⟩ := sound.consistent.latest_of_set set
      rw [answered, ← show registry.phase = .ready from noted]
      exact (sound.requeue _).answer ticket (fun _ => by simp [set]) (fun _ => by simp)
  | waits =>
    rw [turn] at answered
    obtain ⟨queue, waiting⟩ := registry.wait_eq ticket
    rw [answered, waiting]
    exact (sound.requeue queue).answer ticket (fun said => by cases said) (fun _ => by simp)
  | begins =>
    rw [turn] at due answered
    cases due with
    | begins unset free =>
      rw [answered]
      exact sound.begins unset free storage ticket registry.queue.tail
  | goesOn bootstrap =>
    rw [turn] at due answered
    cases due with
    | goesOn unset held =>
      rw [answered]
      exact sound.goesOn held storage

/-- Giving up keeps a history sound.

    Proof: if the caller runs a bootstrap, it is the latest on record and counts as lost from then
    on, and the registry runs none. The other attempts were lost before and are not touched. If the
    caller runs none, nothing changes but the queue. -/
theorem drop (sound : Sound sources watched) (ticket : Nat) :
    Sound sources (watched.drop ticket) := by
  obtain ⟨registry, attempts, answers⟩ := watched
  unfold Watched.drop
  dsimp only
  by_cases held : ∃ bootstrap, registry.running = some (ticket, bootstrap)
  · obtain ⟨bootstrap, held⟩ := held
    obtain ⟨asked, older, rfl, unset, lost⟩ := sound.consistent.latest_of_held held
    have latest : Attempt.abandoned ticket ⟨ticket, asked, .suspended bootstrap, false⟩ =
        ⟨ticket, asked, .suspended bootstrap, true⟩ :=
      if_pos ⟨rfl, rfl⟩
    rw [Registry.drop_of_held held, List.map_cons, latest,
      map_of_lost lost fun _ => Attempt.abandoned_of_still]
    exact {
      sources_eq := sound.sources_eq
      counts := sound.counts
      reached := List.forall_mem_cons.mpr (List.forall_mem_cons.mp sound.reached)
      consistent := .idle (List.forall_mem_cons.mpr ⟨rfl, lost⟩) unset rfl rfl
      finished := sound.finished
      faulted := fun other fault member => by
        obtain ⟨attempt, earlier, told⟩ := sound.faulted_older other fault member
        exact ⟨attempt, List.mem_cons_of_mem _ earlier, told⟩ }
  · have free : ∀ bootstrap, registry.running ≠ some (ticket, bootstrap) :=
      fun bootstrap same => held ⟨bootstrap, same⟩
    rw [Registry.drop_of_not_held free, sound.consistent.map_abandoned free]
    exact sound.requeue _

/-- So does every move. -/
theorem move (sound : Sound sources watched) (step : Move) : Sound sources (watched.move step) := by
  cases step with
  | poll storage ticket => exact sound.poll storage ticket
  | drop ticket => exact sound.drop ticket

/-- And so do moves one after another. -/
theorem moves (sound : Sound sources watched) (steps : List Move) :
    Sound sources (watched.moves steps) := by
  induction steps generalizing watched with
  | nil => exact sound
  | cons step later ih => exact ih (sound.move step)

end Sound

/-- Every history is sound, since each move keeps it so. -/
theorem Watched.sound (sources : List Source) (steps : List Move) :
    Sound sources (history sources steps) :=
  (Sound.fresh sources).moves steps

end RoleWeave
