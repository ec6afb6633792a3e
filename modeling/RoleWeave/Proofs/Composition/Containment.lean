import RoleWeave.Proofs.Composition.Accounting
import RoleWeave.Proofs.Composition.Outcome
import RoleWeave.Proofs.Composition.Recording
import RoleWeave.Proofs.Library.Faults

/-!
# Failures are contained

A composition comes to a text unless a load fails with a fault that belongs to no single reference.
Such a fault passes through unchanged, and it is recorded for none of the references around it.
Every other failure is recorded and shown, attached to the reference that failed and to no other.

Of a library in which every protocol is a directory or a catalogue more can be said. Its loads fail
with faults of their own only, once its registry is ready, and so every composition from it comes to
an end; and none of its faults is attached to a reference when it is met, so every failure names one
reference.
-/

namespace RoleWeave

/-- In the worlds of a class, a provider stays within the class and fails with these faults only. -/
structure Provider.Keeps {σ : Type} (provider : Provider σ) (Inside : σ → Prop)
    (allowed : Fault → Prop) : Prop where
  fails : ∀ reference world, Inside world →
    FailsWithin allowed ((provider.load reference).run world).1
  stays : ∀ reference world, Inside world → Inside ((provider.load reference).run world).2

/-- If the call failed, its fault is attached to its own reference, once. -/
def Call.FailsOnce (call : Call) : Prop :=
  ∀ fault, call.outcome = .ok (.failed fault) →
    ∃ cause, fault = .unresolved call.reference.render cause ∧ cause.isAttached = false

/-- A text that is no document is refused with a position and a reason, and with no other kind of
    fault. -/
theorem Document.fault_of_parse {raw : Text} {fault : Fault}
    (refused : Document.parse raw = .error fault) :
    ∃ position reason, fault = .parse position reason := by
  unfold Document.parse at refused
  split at refused
  · cases refused
  · cases refused
    exact ⟨_, _, rfl⟩

namespace Composition

variable {σ : Type} {provider : Provider σ} {limit : Nat}

/-- What a composition comes to is decided by its loads. -/
structure Contained {α : Type} (outcome : Except Fault α) (loads : List Load) : Prop where
  /-- It comes to a value exactly if every load comes to content or fails by itself. -/
  returns : (∃ value, outcome = .ok value) ↔ ∀ load ∈ loads, load.contained = true
  /-- Otherwise its fault is that of the first load that does neither, after which there is none. -/
  first : ∀ fault, outcome = .error fault → fault.isLocal = false ∧
    ∃ before reference, loads = before ++ [⟨reference, .error fault⟩] ∧
      ∀ load ∈ before, load.contained = true

/-- A composition whose end is known from its loads is contained. If it ends well, every load came
    to content or failed by itself; if not, the last load did neither, and so not all of them
    did. -/
theorem Ends.contained {α : Type} {outcome : Except Fault α} {loads : List Load}
    (ends : Ends (Step.fault? outcome) loads) : Contained outcome loads := by
  cases outcome with
  | ok value =>
    cases ends with
    | well contained =>
      constructor
      · exact ⟨fun _ => contained, fun _ => ⟨value, rfl⟩⟩
      · intro fault same
        cases same
  | error fault =>
    cases ends with
    | @badly before reference _ contained whole =>
      constructor
      · constructor
        · rintro ⟨value, same⟩
          cases same
        · intro all
          have last := all ⟨reference, .error fault⟩ (by simp)
          simp only [Load.contained, whole, Bool.false_eq_true] at last
      · intro other same
        cases same
        exact ⟨whole, before, reference, rfl, contained⟩

/-- A fault of a fetch is one of the provider's, or says that the content is no document.

    Proof: fetching is loading and then reading what was loaded. A fault of the load is passed on as
    it is. What was loaded is read without a change to the world, and if it is no document, the
    fault is that of reading, which is attached to the reference. -/
theorem fetch_keeps {Inside : σ → Prop} {allowed : Fault → Prop}
    (keeps : provider.Keeps Inside allowed) {reference : Reference}
    {weaving changed : Weaving σ} {outcome : Except Fault Text}
    (fetched : (fetch provider reference).run weaving = (outcome, changed))
    (inside : Inside weaving.world) :
    Inside changed.world ∧
      FailsWithin (fun fault => allowed fault ∨ ∃ position reason,
        fault = .unresolved reference.render (.parse position reason)) outcome := by
  have stays := keeps.stays reference weaving.world inside
  have fails := keeps.fails reference weaving.world inside
  constructor
  · rw [← world_of_fetch, fetched] at stays
    exact stays
  · rw [fetch_eq] at fetched
    rcases loaded : (provider.load reference).run weaving.world with ⟨fault | content, world⟩
    · rw [loaded] at fetched fails
      cases fetched
      exact .error (.inl (fails fault rfl))
    · rw [loaded] at fetched
      cases read : Document.parse content with
      | ok document =>
        simp only [read] at fetched
        cases fetched
        exact .ok _
      | error fault =>
        simp only [read] at fetched
        cases fetched
        obtain ⟨position, reason, rfl⟩ := Document.fault_of_parse read
        exact .error (.inr ⟨position, reason, rfl⟩)

/-- A run from a provider that keeps to its worlds and to its faults ends with such a fault, if with
    any. If the faults come without a reference, every call that failed has a single one.

    Proof: by induction on the run, which stays in the worlds of the provider. A call that fails by
    itself has a fault of its fetch: one of the provider's, which gets the reference attached, or
    one of reading, which has it already and keeps it. A fault that ends a run is one of the
    provider's, because faults of reading belong to their references and end nothing. A call at the
    limit fails with a fault of its own. -/
theorem Run.keeps {Inside : σ → Prop} {allowed : Fault → Prop}
    (keeps : provider.Keeps Inside allowed)
    (bare : ∀ fault, allowed fault → fault.isAttached = false)
    {start final : Weaving σ} {stop : Option Fault} {calls : List Call}
    (run : Run provider limit start stop final calls) (inside : Inside start.world) :
    Inside final.world ∧ (∀ fault, stop = some fault → allowed fault) ∧
      ∀ call ∈ calls, call.FailsOnce := by
  -- A call that did not fail has nothing to show.
  have silent : ∀ call : Call, call.failure? = none → call.FailsOnce := by
    intro call none fault same
    simp [Call.failure?, same] at none
  induction run with
  | idle weaving => exact ⟨inside, by simp, by simp⟩
  | chain _ _ before after =>
    obtain ⟨middle, _, first⟩ := before inside
    obtain ⟨final, stops, second⟩ := after middle
    exact ⟨final, stops, List.forall_mem_append.mpr ⟨first, second⟩⟩
  | met allowance known =>
    exact ⟨inside, by simp, List.forall_mem_singleton.mpr (silent _ rfl)⟩
  | cut fresh =>
    refine ⟨inside, by simp, List.forall_mem_singleton.mpr ?_⟩
    intro fault same
    cases same
    exact ⟨_, rfl, rfl⟩
  | @refused weaving changed reference fault allowance fresh fetched single =>
    obtain ⟨still, fails⟩ := fetch_keeps keeps fetched inside
    refine ⟨still, by simp, List.forall_mem_singleton.mpr ?_⟩
    intro found same
    cases same
    rcases fails fault rfl with allowedFault | ⟨position, reason, rfl⟩
    · have unattached := bare fault allowedFault
      refine ⟨fault, ?_, unattached⟩
      cases fault <;> first | rfl | cases unattached
    · exact ⟨.parse position reason, rfl, rfl⟩
  | @stopped weaving changed reference fault allowance fresh fetched whole =>
    obtain ⟨still, fails⟩ := fetch_keeps keeps fetched inside
    refine ⟨still, ?_, List.forall_mem_singleton.mpr (silent _ rfl)⟩
    intro found same
    cases same
    rcases fails fault rfl with allowedFault | ⟨position, reason, rfl⟩
    · exact allowedFault
    · cases whole
  | composed allowance text fresh loaded _ inner =>
    obtain ⟨final, stops, nested⟩ := inner (fetch_keeps keeps loaded inside).1
    exact ⟨final, stops, List.forall_mem_cons.mpr ⟨silent _ rfl, nested⟩⟩
  | broken allowance fresh loaded _ whole inner =>
    obtain ⟨final, stops, nested⟩ := inner (fetch_keeps keeps loaded inside).1
    exact ⟨final, stops, List.forall_mem_cons.mpr ⟨silent _ rfl, nested⟩⟩

/-- The fault that ends a run belongs to no single reference, and those of the calls that failed all
    do. By induction on the run; what decides between the two is asked in each of its cases. -/
theorem Run.apart {start final : Weaving σ} {stop : Option Fault} {calls : List Call}
    (run : Run provider limit start stop final calls) :
    (∀ fault, stop = some fault → fault.isLocal = false) ∧
      ∀ call ∈ calls, ∀ fault, call.outcome = .ok (.failed fault) → fault.isLocal = true := by
  induction run with
  | idle weaving => exact ⟨by simp, by simp⟩
  | chain _ _ before after =>
    exact ⟨after.1, List.forall_mem_append.mpr ⟨before.2, after.2⟩⟩
  | met allowance known => exact ⟨by simp, by simp⟩
  | cut fresh => exact ⟨by simp, by simp [Fault.isLocal]⟩
  | refused allowance fresh fetched single => exact ⟨by simp, by simp [Fault.isLocal_attach]⟩
  | stopped allowance fresh fetched whole => exact ⟨by simpa using whole, by simp⟩
  | composed allowance text fresh loaded _ inner =>
    exact ⟨inner.1, List.forall_mem_cons.mpr ⟨by simp, inner.2⟩⟩
  | broken allowance fresh loaded _ whole inner =>
    exact ⟨inner.1, List.forall_mem_cons.mpr ⟨by simp, inner.2⟩⟩

/-- A composition that makes these calls contains its failures. Beside a record of its loads it
    does what it does without, its loads decide how it ends, and it records the calls that failed,
    which are calls that failed by themselves. -/
def Contains {α : Type} (plain : Step (Weaving σ) α)
    (recording : Step (Weaving (σ × List Load)) α) (calls : List Call) (start : Weaving σ) : Prop :=
  ∃ outcome final loads, plain.run start = (outcome, final) ∧
    recording.run ⟨(start.world, []), start.pass⟩ =
      (outcome, ⟨(final.world, loads), final.pass⟩) ∧
    Contained outcome loads ∧
    final.pass.failures = start.pass.failures ++ calls.filterMap Call.failure? ∧
    ∀ call ∈ calls, ∀ fault, call.outcome = .ok (.failed fault) → fault.isLocal = true

/-- A composition contains its failures if it is a run, with and without a record, and the record
    changes nothing. The run with a record tells the loads and how they decide about its end, and
    the run without one has the same end. -/
theorem contains_of_runs {α : Type} {plain : Step (Weaving σ) α}
    {recording : Step (Weaving (σ × List Load)) α} {calls : List Call}
    {recordingCalls : Weaving (σ × List Load) → List Call}
    (alike : Alike (Beside Prod.fst) plain recording) {start : Weaving σ}
    (run : Run provider limit start (Step.fault? (plain.run start).1) (plain.run start).2 calls)
    (recorded : ∀ weaving, Run provider.recording limit weaving
      (Step.fault? (recording.run weaving).1) (recording.run weaving).2
      (recordingCalls weaving)) :
    Contains plain recording calls start := by
  obtain ⟨outcome, final, changed, ran, recordingRan, samePass, sameWorld⟩ :=
    alike start ⟨(start.world, []), start.pass⟩ ⟨rfl, rfl⟩
  obtain ⟨loads, added, ends⟩ := (recorded ⟨(start.world, []), start.pass⟩).ends
  rw [recordingRan] at added ends
  rw [ran] at run
  refine ⟨outcome, final, loads, ran, ?_, ends.contained, run.accounted.failures, run.apart.2⟩
  rw [recordingRan]
  obtain ⟨⟨world, record⟩, pass⟩ := changed
  cases samePass
  cases sameWorld
  cases added
  rfl

/-- So does the composition of a role, once everything is ready.

    Proof: the two compositions of the role do the same beside the record. Getting ready records
    nothing, so after a fault there the record is empty. After that the role is a run of its parts,
    and its loads decide how the parts end; assembling them cannot fail. -/
theorem role_contained (provider : Provider σ) (limit : Nat) (info : RoleInfo)
    (document : Document) (world : σ) :
    ∃ outcome after loads,
      (composeRole provider limit info document).run world = (outcome, after) ∧
      (composeRole provider.recording limit info document).run (world, []) =
        (outcome, (after, loads)) ∧
      match (provider.ready.run world).1 with
      | .error fault => outcome = .error fault ∧ loads = []
      | .ok _ => Contained outcome loads := by
  obtain ⟨same, _⟩ :=
    role_mirrored (recording_mirrors provider) limit info document (world, [])
  have left := world_of_composeRole provider.recording limit info document (world, [])
  have ended := fault_of_composeRole provider.recording limit info document (world, [])
  have readied : provider.recording.ready.run (world, []) =
      ((provider.ready.run world).1, ((provider.ready.run world).2, [])) := rfl
  rw [readied] at left ended
  rcases composed : (composeRole provider.recording limit info document).run (world, []) with
    ⟨outcome, after, loads⟩
  rw [composed] at same left ended
  refine ⟨outcome, after, loads, same, rfl, ?_⟩
  rcases answered : provider.ready.run world with ⟨fault | _, ready⟩ <;>
    rw [answered] at left ended <;> dsimp only at left ended
  · cases left
    cases outcome with
    | ok role => cases ended
    | error other =>
      cases ended
      exact ⟨rfl, rfl⟩
  · obtain ⟨made, added, ends⟩ :=
      (run_tasks provider.recording limit (roleTasks document) ⟨(ready, []), rolePass info⟩).ends
    rw [← left] at added
    rw [← ended] at ends
    cases added
    exact ends.contained

end Composition

namespace Library

/-- A library in which no protocol was given a fault to fail with has directories and catalogues
    only. A protocol that was never registered has no resolver at all. -/
theorem located_of_resolvers {library : Library}
    (each : ∀ entry ∈ library.table.resolvers, ∀ fault, entry.2 ≠ .failing fault) :
    library.Located := by
  intro name fault same
  unfold Table.resolver at same
  split at same
  · rename_i found known
    cases same
    obtain ⟨before, after, split, _⟩ := List.lookup_eq_some_iff.mp known
    exact each (name, .failing fault) (by rw [split]; simp) fault rfl
  · cases same

/-- What a load leaves of a library is what filling its registry leaves of it. -/
theorem left_of_load (library : Library) (reference : Reference) :
    ((provider.load reference).run library).2 = (fill.run library).2 := by
  rw [run_load]
  rcases fill.run library with ⟨fault | _, settled⟩ <;> rfl

/-- A library keeps its protocols. If each is a directory or a catalogue, no load fails with a fault
    that is attached to a reference. -/
theorem keeps_located : provider.Keeps Located (fun fault => fault.isAttached = false) where
  fails reference _ located := located.unattached_load reference
  stays reference library located := by
    rw [left_of_load]
    exact located

/-- Once its registry is ready, such a library stays ready, and its loads fail with faults of their
    own only. Nothing is left to fill, so a load asks the directory or the catalogue at once. -/
theorem keeps_ready :
    provider.Keeps (fun library => library.Located ∧ library.registry.index.isSome = true)
      (fun fault => fault.isOrdinary = true) where
  fails := by
    rintro reference library ⟨located, ready⟩
    rw [load_of_settles (settles_of_ready ready)]
    have same : Located { library with registry := { library.registry with phase := .ready } } :=
      located
    exact same.ordinary_answer reference
  stays := by
    rintro reference library ⟨located, ready⟩
    rw [load_of_settles (settles_of_ready ready)]
    exact ⟨located, ready⟩

end Library

namespace Composition

/-- A step of a run whose faults are ordinary comes to a value. A fault that ended it would be
    ordinary and so belong to a single reference, and such faults end no run. -/
theorem value_of_keeps {σ α : Type} {provider : Provider σ} {limit : Nat} {Inside : σ → Prop}
    (keeps : provider.Keeps Inside (fun fault => fault.isOrdinary = true))
    {start final : Weaving σ} {outcome : Except Fault α} {calls : List Call}
    (run : Run provider limit start (Step.fault? outcome) final calls)
    (inside : Inside start.world) : ∃ value, outcome = .ok value := by
  cases outcome with
  | ok value => exact ⟨value, rfl⟩
  | error fault =>
    have ordinary := (run.keeps keeps (fun _ ordinary => (Fault.of_isOrdinary ordinary).2.1)
      inside).2.1 fault rfl
    have whole := run.apart.1 fault rfl
    rw [(Fault.of_isOrdinary ordinary).1] at whole
    cases whole

/-- From a library in which every protocol is a directory or a catalogue, whatever fails does so
    with a fault that names its reference once. The registry need not be ready, since its own faults
    come without a reference too. -/
theorem located_fails_once (limit : Nat) {start : Weaving Library}
    (located : start.world.Located) :
    (∀ block, ∀ call ∈ blockCalls Library.provider limit block start, call.FailsOnce) ∧
      (∀ depth reference, ∀ call ∈ callsAt Library.provider limit depth reference start,
        call.FailsOnce) ∧
      ∀ info document, ∀ call ∈ roleCalls Library.provider limit info document start.world,
        call.FailsOnce := by
  have once : ∀ {stop final calls}, Run Library.provider limit start stop final calls →
      ∀ call ∈ calls, call.FailsOnce :=
    fun run => (run.keeps Library.keeps_located (fun _ bare => bare) located).2.2
  refine ⟨fun block => once (run_block _ _ _ _), fun depth reference => once (run_at _ _ _ _ _), ?_⟩
  intro info document
  rw [roleCalls]
  rcases readied : Library.provider.ready.run start.world with ⟨fault | _, ready⟩
  · simp
  · have still : ready.Located := by
      have left : (Library.fill.run start.world).2 = ready := congrArg Prod.snd readied
      rw [← left]
      exact located
    exact ((run_tasks _ _ _ _).keeps Library.keeps_located (fun _ bare => bare) still).2.2

/-- From a library in which every protocol is a directory or a catalogue, all compositions come to a
    value once the registry is ready.

    Proof: blocks and references are runs, so `value_of_keeps` gives the value. For a role, getting
    ready changes nothing in a library that is ready, and the composition of its parts is a run. -/
theorem located_returns (limit : Nat) {start : Weaving Library} (located : start.world.Located)
    (ready : start.world.registry.index.isSome = true) :
    (∀ block, ∃ text final,
      (composeBlock Library.provider limit block).run start = (.ok text, final)) ∧
    (∀ depth reference, ∃ inline final,
      (inlineAt Library.provider limit depth reference).run start = (.ok inline, final)) ∧
    ∀ info document, ∃ role after,
      (composeRole Library.provider limit info document).run start.world = (.ok role, after) := by
  refine ⟨?_, ?_, ?_⟩
  · intro block
    obtain ⟨text, same⟩ := value_of_keeps Library.keeps_ready
      (run_block Library.provider limit block start) ⟨located, ready⟩
    exact ⟨text, _, Prod.ext same rfl⟩
  · intro depth reference
    obtain ⟨inline, same⟩ := value_of_keeps Library.keeps_ready
      (run_at Library.provider limit depth reference start) ⟨located, ready⟩
    exact ⟨inline, _, Prod.ext same rfl⟩
  · intro info document
    have filled := Library.settles_of_ready ready
    have ended := fault_of_composeRole Library.provider limit info document start.world
    have readied : Library.provider.ready.run start.world = _ := filled
    simp only [readied] at ended
    have run := run_tasks Library.provider limit (roleTasks document)
      ⟨{ start.world with registry := { start.world.registry with phase := .ready } },
        rolePass info⟩
    rw [← ended] at run
    obtain ⟨role, same⟩ := value_of_keeps Library.keeps_ready run ⟨located, ready⟩
    exact ⟨role, _, Prod.ext same rfl⟩

/-- Failures are contained. Composing a block, inlining a reference at any depth and composing a
    role come to a value exactly if every load of theirs comes to content or fails by itself, and
    otherwise to the fault of the first load that does neither, unchanged and unrecorded. For a
    role, getting ready comes before all loads and can fail with any fault.

    From a library in which every protocol is a directory or a catalogue, whatever fails does so
    with a fault that names its reference once. Once the registry of the library is ready, its loads
    fail by themselves if they fail, and so all compositions come to a value.

    Proof: for any provider, a record of the loads is kept beside the world. It changes nothing
    about a composition, and the runs with and without it give `Contains`. For a library,
    `located_fails_once` and `located_returns` are the two parts, and the outcome of inlining a
    reference is that of the first of its calls. -/
theorem failures_are_contained (limit : Nat) :
    (∀ {σ : Type} (provider : Provider σ),
      (∀ block start,
        Contains (composeBlock provider limit block) (composeBlock provider.recording limit block)
          (blockCalls provider limit block start) start) ∧
      (∀ depth reference start,
        Contains (inlineAt provider limit depth reference)
          (inlineAt provider.recording limit depth reference)
          (callsAt provider limit depth reference start) start) ∧
      ∀ info document world, ∃ outcome after loads,
        (composeRole provider limit info document).run world = (outcome, after) ∧
        (composeRole provider.recording limit info document).run (world, []) =
          (outcome, (after, loads)) ∧
        match (provider.ready.run world).1 with
        | .error fault => outcome = .error fault ∧ loads = []
        | .ok _ => Contained outcome loads) ∧
    ∀ start : Weaving Library, start.world.Located →
      ((∀ block, ∀ call ∈ blockCalls Library.provider limit block start, call.FailsOnce) ∧
        (∀ depth reference, ∀ call ∈ callsAt Library.provider limit depth reference start,
          call.FailsOnce) ∧
        ∀ info document, ∀ call ∈ roleCalls Library.provider limit info document start.world,
          call.FailsOnce) ∧
      (∀ depth reference fault final,
        (inlineAt Library.provider limit depth reference).run start = (.ok (.failed fault), final) →
        ∃ cause, fault = .unresolved reference.render cause ∧ cause.isAttached = false) ∧
      (start.world.registry.index.isSome = true →
        (∀ reference, FailsWithin (fun fault => fault.isLocal = true)
          ((Library.provider.load reference).run start.world).1) ∧
        (∀ block, ∃ text final,
          (composeBlock Library.provider limit block).run start = (.ok text, final)) ∧
        (∀ depth reference, ∃ inline final,
          (inlineAt Library.provider limit depth reference).run start = (.ok inline, final)) ∧
        ∀ info document, ∃ role after,
          (composeRole Library.provider limit info document).run start.world =
            (.ok role, after)) := by
  constructor
  · intro σ provider
    have each := agrees_mirrored (recording_mirrors provider) limit
    refine ⟨?_, ?_, role_contained provider limit⟩
    · intro block start
      exact contains_of_runs (agrees_weave (fun reference _ _ => each _ reference)).alike
        (run_block provider limit block start) (run_block provider.recording limit block)
    · intro depth reference start
      exact contains_of_runs (each _ reference).alike (run_at provider limit depth reference start)
        (run_at provider.recording limit depth reference)
  · intro start located
    have once := located_fails_once limit located
    refine ⟨once, ?_, ?_⟩
    · intro depth reference fault final ran
      obtain ⟨call, member, rfl, failed⟩ := mem_calls_of_within ran
      exact once.2.1 depth _ call member fault failed
    · intro ready
      refine ⟨?_, located_returns limit located ready⟩
      intro reference fault failed
      exact (Fault.of_isOrdinary
        (Library.keeps_ready.fails reference start.world ⟨located, ready⟩ fault failed)).1

/-- A library with a directory and a catalogue. One of its files refers to another one, and one is no
    document. -/
def troubledLibrary : Library where
  storage := Storage.empty.setPack "package".toList
    ⟨Pack.defaultRoot, [("a".toList, "@package://g".toList), ("b".toList, "<rule>".toList)]⟩
  registry := { Registry.ofSources [] with index := some Index.empty, phase := .ready }
  table := (Table.empty.register "package".toList (.directory (.pack "package".toList))).register
    "thought".toList (.catalogue "package".toList)

/-- References to the two files, and others that are unknown, missing and unsafe. -/
def troubledBlock : Block :=
  ⟨.knowledge,
    "@package://a @package://b @ghost://c @thought://d @package://../e @package://f".toList⟩

/-- With no room below the first file, the reference in it fails by itself, and so do the references
    after it. The block comes to a text all the same. -/
theorem troubled_returns :
    troubledLibrary.Located ∧ troubledLibrary.registry.index.isSome = true ∧
      (∃ text final, (composeBlock Library.provider 1 troubledBlock).run
          ⟨troubledLibrary, Pass.new⟩ = (.ok text, final) ∧
        final.pass.failures.map Failure.reference =
          ["@package://g".toList, "@package://b".toList, "@ghost://c".toList, "@thought://d".toList,
            "@package://../e".toList, "@package://f".toList]) ∧
      ∀ call ∈ blockCalls Library.provider 1 troubledBlock ⟨troubledLibrary, Pass.new⟩,
        call.FailsOnce := by
  have located : troubledLibrary.Located := by
    apply Library.located_of_resolvers
    simp [troubledLibrary, Table.register, Table.empty]
  have ready : troubledLibrary.registry.index.isSome = true := rfl
  have recorded : ((composeBlock Library.provider 1 troubledBlock).run
      ⟨troubledLibrary, Pass.new⟩).2.pass.failures.map Failure.reference =
        ["@package://g".toList, "@package://b".toList, "@ghost://c".toList, "@thought://d".toList,
          "@package://../e".toList, "@package://f".toList] := by decide +kernel
  obtain ⟨⟨once, _⟩, _, returns⟩ :=
    (failures_are_contained 1).2 ⟨troubledLibrary, Pass.new⟩ located
  obtain ⟨_, composes, _⟩ := returns ready
  obtain ⟨text, final, ran⟩ := composes troubledBlock
  rw [ran] at recorded
  exact ⟨located, ready, ⟨text, final, ran, recorded⟩, once troubledBlock⟩

end Composition

end RoleWeave
