import RoleWeave.Proofs.Registry.Soundness

/-!
# What a lost bootstrap leaves behind

Nothing, but the counts of calls. The reported state follows the history exactly, nothing is known
while the registry is not ready, whoever only waits may give up unnoticed, every fault that is
answered is one of the registry, and the next bootstrap begins with the first source and an empty
index.
-/

namespace RoleWeave

/-- Nothing is known: there is no index, and so no moment since when the registry is ready, and
    every question to it has the empty answer. -/
structure Registry.Blank (registry : Registry) : Prop where
  unset : registry.index = none
  size : registry.known.size = 0
  find : ∀ protocol id, registry.known.find? protocol id = none
  byProtocol : ∀ protocol, registry.known.byProtocol protocol = []
  hasProtocol : ∀ protocol, registry.known.hasProtocol protocol = false
  protocols : registry.known.protocols.names = []

/-- Without an index nothing is known, and every question has the answer of an empty index. -/
theorem Registry.blank_of_unset {registry : Registry} (unset : registry.index = none) :
    registry.Blank := by
  have nothing : registry.known = Index.empty := by rw [known, unset, Option.getD_none]
  constructor
  · exact unset
  all_goals rw [nothing]
  · rfl
  · exact fun protocol id => rfl
  · exact fun protocol => rfl
  · exact fun protocol => rfl
  · rfl

/-- The fault that is answered for the cause of a failed call. -/
inductive Reports (source : Source) : (cause fault : Fault) → Prop
  /-- A fault of the registry is passed on as it is. -/
  | own {reason : Text} :
      Reports source (.initialization reason) (.initialization reason)
  /-- Any other is wrapped once, with the name of the source. -/
  | wrapped {cause : Fault} :
      (∀ reason, cause ≠ .initialization reason) →
      Reports source cause
        (.initialization
          ("source ".toList ++ Text.quoted source.name ++ " failed: ".toList ++ cause.message))

/-- This is how the fault of a bootstrap comes about. -/
theorem Bootstrap.reports_sourceFault (source : Source) (cause : Fault) :
    Reports source cause (sourceFault source.name cause) := by
  cases cause with
  | initialization reason => exact .own
  | _ => exact .wrapped fun reason same => by cases same

/-! ## The reported state -/

/-- The reported state is exact: ready if the index is set, initializing if it is not but a
    bootstrap is underway, and uninitialized otherwise. -/
structure Reported (attempts : List Attempt) (registry : Registry) : Prop where
  ready : registry.state = .ready ↔ registry.index.isSome
  initializing : registry.state = .initializing ↔
    registry.index = none ∧ ∃ attempt ∈ attempts, attempt.standing = .underway
  uninitialized : registry.state = .uninitialized ↔
    registry.index = none ∧ ∀ attempt ∈ attempts, attempt.standing ≠ .underway

/-- It is exact wherever record and registry agree.

    Proof: there are three cases. Without a bootstrap the registry is uninitialized, and all on
    record are lost. While one runs it is initializing, and that one is underway. Once the index is
    set it is ready, the bootstrap that has set it is finished and those before it are lost. In each
    case the reported state is one of the three, so the other two statements are false on both
    sides. -/
theorem Consistent.reported {attempts : List Attempt} {registry : Registry}
    (consistent : Consistent attempts registry) : Reported attempts registry := by
  cases consistent with
  | idle lost unset free noted =>
    have state : registry.state = .uninitialized := by rw [Registry.state, unset]; exact noted
    have still : ∀ attempt ∈ attempts, attempt.standing ≠ .underway :=
      fun attempt member => by simp [lost attempt member]
    constructor
    · simp [state, unset]
    · simp only [state, unset, true_and, reduceCtorEq, false_iff, not_exists, not_and]
      exact still
    · simp only [state, unset, true_and, true_iff]
      exact still
  | @busy older _ ticket asked bootstrap lost unset held noted =>
    have state : registry.state = .initializing := by rw [Registry.state, unset]; exact noted
    have latest : ∃ attempt ∈ (⟨ticket, asked, .suspended bootstrap, false⟩ :: older : List Attempt),
        attempt.standing = .underway :=
      ⟨_, List.mem_cons_self, rfl⟩
    constructor
    · simp [state, unset]
    · simp only [state, unset, true_and, true_iff]
      exact latest
    · simp only [state, unset, true_and, reduceCtorEq, false_iff]
      obtain ⟨attempt, member, underway⟩ := latest
      exact fun still => still attempt member underway
  | ready lost set free noted =>
    have state : registry.state = .ready := by rw [Registry.state, set]; rfl
    constructor <;> simp [state, set]

namespace Sound

variable {sources : List Source} {watched : Watched}

/-- Whoever runs no bootstrap may give up unnoticed. The caller leaves the queue, and nothing else
    about the registry changes. -/
theorem drop_unnoticed (sound : Sound sources watched) {ticket : Nat}
    (idle : ∀ attempt ∈ watched.attempts, attempt.standing = .underway → attempt.ticket ≠ ticket) :
    watched.registry.drop ticket =
      { watched.registry with queue := watched.registry.queue.erase ticket } := by
  refine Registry.drop_of_not_held fun bootstrap held => ?_
  obtain ⟨attempt, member, underway, same⟩ := sound.consistent.underway_of_held held
  exact idle attempt member underway same

/-- A fault is answered for the last call of a bootstrap of the same caller. The bootstrap is on
    record as failed, so its last call failed, and its fault is the answer or the cause of it. -/
theorem reports_of_failed (sound : Sound sources watched) {ticket : Nat} {fault : Fault}
    (answered : (ticket, Poll.failed fault) ∈ watched.answers) :
    ∃ attempt ∈ watched.attempts, attempt.ticket = ticket ∧
      ∃ earlier source cause, attempt.asked = earlier ++ [⟨earlier.length, .error cause⟩] ∧
        sources[earlier.length]? = some source ∧ source.Delivers (.error cause) ∧
        Reports source cause fault := by
  obtain ⟨⟨holder, asked, progress, dropped⟩, member, same, rfl⟩ :=
    sound.faulted ticket fault answered
  have reached : Reached sources asked (.failed fault) := sound.reached _ member
  refine ⟨_, member, same, ?_⟩
  cases reached with
  | failed _ here genuine =>
    exact ⟨_, _, _, rfl, here, genuine, Bootstrap.reports_sourceFault _ _⟩

/-- While no bootstrap is underway, the next poll in line begins one anew. A registry that reports
    that it is not initialized has neither an index nor a bootstrap that runs. -/
theorem begins_anew (sound : Sound sources watched)
    (uninitialized : watched.registry.state = .uninitialized) {ticket : Nat}
    (first : ∀ other ∈ watched.registry.queue.head?, other = ticket) :
    watched.registry.turn ticket = .begins := by
  obtain ⟨unset, still⟩ := sound.consistent.reported.uninitialized.mp uninitialized
  have free : watched.registry.running = none := by
    refine Option.eq_none_iff_forall_not_mem.mpr fun ⟨holder, bootstrap⟩ held => ?_
    obtain ⟨attempt, member, underway, _⟩ := sound.consistent.underway_of_held held
    exact still attempt member underway
  exact Registry.turn_of_first unset free first

end Sound

/-- Whatever the sources do and however the polls of any number of callers interleave: the reported
    state is exact, and while the registry is not ready nothing is known. Whoever only waits gives
    up without a change of state or index. Every fault that is answered is one of the registry: the
    fault of the last call that a bootstrap of the same caller made, as it is or wrapped once. Every
    bootstrap has gathered in an empty index what its own calls delivered, from the first source on,
    and so will the next one that begins.

    Proof: every history is sound. Record and registry agree, so what is reported is exact
    (`Consistent.reported`), and a registry that is not ready has no index. What is said of faults
    and of bootstraps is read off the record, and that the next one begins anew is `begins_anew`. -/
theorem lost_bootstraps_leave_nothing (sources : List Source) (steps : List Move) :
    let watched := Watched.history sources steps
    let registry := watched.registry
    Reported watched.attempts registry ∧
    (registry.state ≠ .ready → registry.Blank) ∧
    (∀ ticket,
      (∀ attempt ∈ watched.attempts, attempt.standing = .underway → attempt.ticket ≠ ticket) →
        (registry.drop ticket).state = registry.state ∧
        (registry.drop ticket).index = registry.index) ∧
    (∀ ticket fault, (ticket, Poll.failed fault) ∈ watched.answers →
      ∃ attempt ∈ watched.attempts, attempt.ticket = ticket ∧
        ∃ earlier source cause, attempt.asked = earlier ++ [⟨earlier.length, .error cause⟩] ∧
          sources[earlier.length]? = some source ∧ source.Delivers (.error cause) ∧
          Reports source cause fault) ∧
    (∀ attempt ∈ watched.attempts, Reached sources attempt.asked attempt.progress) ∧
    (∀ storage ticket, registry.state = .uninitialized →
      (∀ other ∈ registry.queue.head?, other = ticket) →
        registry.poll storage ticket =
          { registry with queue := registry.queue.tail }.settle ticket
            (Bootstrap.proceed storage Index.empty 0 sources registry.calls)) := by
  intro watched registry
  have sound : Sound sources watched := Watched.sound sources steps
  have reported : Reported watched.attempts registry := sound.consistent.reported
  refine ⟨reported, ?_, ?_, fun _ _ => sound.reports_of_failed, sound.reached, ?_⟩
  · intro unready
    refine Registry.blank_of_unset (Option.not_isSome_iff_eq_none.mp fun set => ?_)
    exact unready (reported.ready.mpr set)
  · intro ticket idle
    rw [sound.drop_unnoticed idle]
    exact ⟨rfl, rfl⟩
  · intro storage ticket uninitialized first
    rw [Registry.poll_eq, sound.begins_anew uninitialized first, ← sound.sources_eq]
    rfl

/-- Two sources that stay pending once. The first caller gives up while it waits for the second
    source; the next one calls the first source again, and both are done in the end. -/
example :
    let source (name : String) := Source.wavering name.toList [] 0 default 1
    let poll := Move.poll Storage.empty
    let watched := Watched.history [source "pkg", source "dir"]
      [poll 1, poll 2, poll 1, .drop 1, poll 2, poll 2, poll 2, poll 1]
    watched.answers.map Prod.snd =
        [.done, .done, .pending, .pending, .pending, .pending, .pending] ∧
      watched.registry.calls = [2, 2] ∧ watched.registry.state = .ready ∧
      watched.attempts.map Attempt.standing = [.fulfilled, .lost] := by
  decide

end RoleWeave
