import Mathlib.Data.List.Nodup
import RoleWeave.Registry.Basic

/-!
# What a bootstrap asks

A bootstrap calls one source after another. Its calls are recorded as a list, each with the
position of the source and what comes of the call. `Delivered` says what has been gathered once all
of the recorded calls have come to resources, and `Reached` how far a bootstrap can be after the
calls recorded for it: it may still wait for the last one, have failed in the last one, or be
complete.

A poll prolongs the record and keeps it in order. It does not matter how the polls are spread over
the calls, what the storage is at each of them, or how often the sources have been called before.
-/

namespace RoleWeave

/-- A call of a source: the position of the source, and what comes of the call. -/
structure Ask where
  position : Nat
  outcome : Except Fault (List Descriptor)

namespace Source

/-- Some call of the source has this outcome. -/
def Delivers (source : Source) (outcome : Except Fault (List Descriptor)) : Prop :=
  ∃ storage call, (source.deliver storage call).outcome = outcome

end Source

namespace Bootstrap

/-- The calls that `proceed` makes. -/
def asks (storage : Storage) (position : Nat) : List Source → (calls : List Nat) → List Ask
  | [], _ => []
  | source :: later, calls =>
      let call := nextCall calls position
      let counted := calls.set position call
      let delivery := source.deliver storage call
      ⟨position, delivery.outcome⟩ ::
        match delivery.delay, delivery.outcome with
        | 0, .ok _ => asks storage (position + 1) later counted
        | _, _ => []

/-- The calls that `resume` makes. -/
def furtherAsks (storage : Storage) (bootstrap : Bootstrap) (calls : List Nat) : List Ask :=
  match bootstrap.delay, bootstrap.outcome with
  | 0, .ok _ => asks storage (bootstrap.position + 1) bootstrap.later calls
  | _, _ => []

/-- The counts of calls after further calls. -/
def recount (calls : List Nat) (asked : List Ask) : List Nat :=
  asked.foldl (fun calls ask => calls.set ask.position (nextCall calls ask.position)) calls

variable {storage : Storage} {source : Source} {later : List Source} {calls : List Nat}
  {position : Nat}

/-- The bootstrap that has just called a source. -/
def called (storage : Storage) (gathered : Index) (position : Nat) (source : Source)
    (later : List Source) (calls : List Nat) : Bootstrap :=
  let delivery := source.deliver storage (nextCall calls position)
  ⟨gathered, source.name, position, delivery.delay, delivery.outcome, later⟩

/-- To proceed is to call the next source and to poll that call. -/
theorem proceed_cons {gathered : Index} :
    proceed storage gathered position (source :: later) calls =
      (called storage gathered position source later calls).resume storage
        (calls.set position (nextCall calls position)) :=
  rfl

/-- The calls made by proceeding are that call and those made by polling it. -/
theorem asks_cons {gathered : Index} :
    asks storage position (source :: later) calls =
      ⟨position, (source.deliver storage (nextCall calls position)).outcome⟩ ::
        (called storage gathered position source later calls).furtherAsks storage
          (calls.set position (nextCall calls position)) :=
  rfl

end Bootstrap

/-! ## The record of a bootstrap -/

/-- The first sources have been called in order, each of these calls has come to resources, and
    these have been gathered in an index that was empty before. -/
inductive Delivered (sources : List Source) : List Ask → Index → Prop
  | nothing : Delivered sources [] Index.empty
  | next {asked : List Ask} {gathered : Index} {source : Source} {found : List Descriptor} :
      Delivered sources asked gathered →
      sources[asked.length]? = some source →
      source.Delivers (.ok found) →
      Delivered sources (asked ++ [⟨asked.length, .ok found⟩]) (gathered.deliver source.name found)

/-- How far a bootstrap is after the calls recorded for it. -/
inductive Reached (sources : List Source) : List Ask → Progress → Prop
  /-- All sources have delivered. -/
  | complete {asked : List Ask} {index : Index} :
      Delivered sources asked index →
      asked.length = sources.length →
      Reached sources asked (.complete index)
  /-- The sources before have delivered, and the last call is waited for. -/
  | suspended {earlier : List Ask} {gathered : Index} {source : Source} {delay : Nat}
      {outcome : Except Fault (List Descriptor)} :
      Delivered sources earlier gathered →
      sources[earlier.length]? = some source →
      source.Delivers outcome →
      Reached sources (earlier ++ [⟨earlier.length, outcome⟩])
        (.suspended ⟨gathered, source.name, earlier.length, delay, outcome,
          sources.drop (earlier.length + 1)⟩)
  /-- The sources before have delivered, and the last call has failed. -/
  | failed {earlier : List Ask} {gathered : Index} {source : Source} {cause : Fault} :
      Delivered sources earlier gathered →
      sources[earlier.length]? = some source →
      source.Delivers (.error cause) →
      Reached sources (earlier ++ [⟨earlier.length, .error cause⟩])
        (.failed (Bootstrap.sourceFault source.name cause))

/-! ## The order of the calls -/

/-- The recorded calls are calls of the sources, made in the order of the sources, each at most
    once, and none is made behind one that fails. -/
structure InOrder (sources : List Source) (asked : List Ask) : Prop where
  positions : asked.map Ask.position = List.range asked.length
  bounded : asked.length ≤ sources.length
  genuine : ∀ ask ∈ asked, ∃ source,
    sources[ask.position]? = some source ∧ source.Delivers ask.outcome
  stopped : ∀ earlier ask later cause,
    asked = earlier ++ ask :: later → ask.outcome = .error cause → later = []

namespace InOrder

variable {sources : List Source} {asked : List Ask}

/-- One more call at the next position keeps the order if no call before has failed.

    Proof: the positions are those of the calls before and then the next one, which is the position
    of a source. The call is genuine, as are those before it. That none is made behind one that
    fails has to be checked for calls before it, and none of these has failed. -/
theorem snoc {source : Source} {outcome : Except Fault (List Descriptor)}
    (ordered : InOrder sources asked) (here : sources[asked.length]? = some source)
    (genuine : source.Delivers outcome) (unfailed : ∀ ask ∈ asked, ∃ found, ask.outcome = .ok found) :
    InOrder sources (asked ++ [⟨asked.length, outcome⟩]) where
  positions := by
    rw [List.map_append, ordered.positions, List.length_append, List.length_singleton,
      List.range_succ]
    rfl
  bounded := by
    rw [List.length_append, List.length_singleton]
    exact (List.getElem?_eq_some_iff.mp here).1
  genuine := by
    intro ask member
    rcases List.mem_append.mp member with before | last
    · exact ordered.genuine ask before
    · rw [List.mem_singleton.mp last]
      exact ⟨source, here, genuine⟩
  stopped := by
    intro earlier ask later cause split failed
    rcases List.eq_nil_or_concat later with none | ⟨between, last, rfl⟩
    · exact none
    · -- The call that failed is not the last one, so it is one of those before.
      rw [List.concat_eq_append, ← List.cons_append, ← List.append_assoc] at split
      have before : ask ∈ asked := by
        rw [List.append_inj_left' split rfl]
        exact List.mem_append_right earlier List.mem_cons_self
      obtain ⟨found, came⟩ := unfailed ask before
      rw [came] at failed
      cases failed

/-- A call of the record is one of a source that there is. -/
theorem position_lt (ordered : InOrder sources asked) {ask : Ask} (member : ask ∈ asked) :
    ask.position < sources.length := by
  obtain ⟨source, here, _⟩ := ordered.genuine ask member
  exact (List.getElem?_eq_some_iff.mp here).1

end InOrder

namespace Delivered

variable {sources : List Source} {asked : List Ask} {gathered : Index}

/-- No recorded call has failed if all have delivered. By induction on what was delivered, to which
    each call adds what it found. -/
theorem unfailed (delivered : Delivered sources asked gathered) :
    ∀ ask ∈ asked, ∃ found, ask.outcome = .ok found := by
  induction delivered with
  | nothing => exact fun ask member => absurd member List.not_mem_nil
  | @next asked gathered source found _ _ _ ih =>
    intro ask member
    rcases List.mem_append.mp member with before | last
    · exact ih ask before
    · exact ⟨found, by rw [List.mem_singleton.mp last]⟩

/-- Calls that have delivered are in order. -/
theorem inOrder (delivered : Delivered sources asked gathered) : InOrder sources asked := by
  induction delivered with
  | nothing =>
    exact ⟨rfl, Nat.zero_le _, fun ask member => absurd member List.not_mem_nil,
      fun earlier ask later cause split _ => by simp at split⟩
  | next delivered here genuine ih => exact ih.snoc here genuine delivered.unfailed

end Delivered

namespace Reached

variable {sources : List Source} {asked : List Ask} {progress : Progress}

/-- A complete bootstrap has called all sources. -/
theorem all_of_complete {index : Index} (reached : Reached sources asked (.complete index)) :
    asked.length = sources.length := by
  cases reached with
  | complete _ all => exact all

/-- However far a bootstrap is, its calls are in order. -/
theorem inOrder (reached : Reached sources asked progress) : InOrder sources asked := by
  cases reached with
  | complete delivered _ => exact delivered.inOrder
  | suspended delivered here genuine => exact delivered.inOrder.snoc here genuine delivered.unfailed
  | failed delivered here genuine => exact delivered.inOrder.snoc here genuine delivered.unfailed

end Reached

/-! ## A poll prolongs the record -/

namespace Bootstrap

variable {storage : Storage} {sources : List Source} {source : Source} {earlier : List Ask}
  {gathered : Index} {delay : Nat} {outcome : Except Fault (List Descriptor)}

/-- Polling a call keeps the record in order if proceeding behind it does. A call that stays pending
    or fails is the last of the record, and one that delivers is followed by the calls of
    proceeding. -/
private theorem resume_reached_of {calls : List Nat} (delivered : Delivered sources earlier gathered)
    (here : sources[earlier.length]? = some source) (genuine : source.Delivers outcome)
    (onward : ∀ asked index, Delivered sources asked index → asked.length = earlier.length + 1 →
      Reached sources (asked ++ asks storage asked.length (sources.drop asked.length) calls)
        (proceed storage index asked.length (sources.drop asked.length) calls).1) :
    let bootstrap : Bootstrap :=
      ⟨gathered, source.name, earlier.length, delay, outcome, sources.drop (earlier.length + 1)⟩
    Reached sources
      (earlier ++ ⟨earlier.length, outcome⟩ :: bootstrap.furtherAsks storage calls)
      (bootstrap.resume storage calls).1 := by
  dsimp only [furtherAsks, resume]
  cases delay with
  | succ delay => exact .suspended delivered here genuine
  | zero =>
    cases outcome with
    | error cause => exact .failed delivered here genuine
    | ok found =>
      have longer := onward _ _ (.next delivered here genuine) List.length_append
      rwa [List.append_assoc, List.singleton_append, List.length_append,
        List.length_singleton] at longer

/-- Proceeding from a record in order leaves a record in order. By induction on the sources that are
    left, where the first is called and polled and the others follow behind it. -/
theorem proceed_reached {asked : List Ask} {later : List Source} {calls : List Nat}
    (delivered : Delivered sources asked gathered) (rest : sources.drop asked.length = later) :
    Reached sources (asked ++ asks storage asked.length later calls)
      (proceed storage gathered asked.length later calls).1 := by
  induction later generalizing asked gathered calls with
  | nil =>
    have all : asked.length = sources.length :=
      Nat.le_antisymm delivered.inOrder.bounded (List.drop_eq_nil_iff.mp rest)
    rw [asks, List.append_nil]
    exact .complete delivered all
  | cons source later ih =>
    have here : sources[asked.length]? = some source := by
      rw [← List.head?_drop, rest, List.head?_cons]
    have behind : sources.drop (asked.length + 1) = later := by
      rw [← List.tail_drop, rest, List.tail_cons]
    rw [proceed_cons, asks_cons]
    subst behind
    refine resume_reached_of delivered here ⟨storage, _, rfl⟩ fun longer index onward length => ?_
    have same : sources.drop longer.length = sources.drop (asked.length + 1) := by rw [length]
    rw [same]
    exact ih onward same

/-- So does polling a bootstrap that is suspended in the last call of its record. What comes of that
    call is known already, and it has to be waited for. -/
theorem resume_reached {asked : List Ask} {bootstrap : Bootstrap} {calls : List Nat}
    (reached : Reached sources asked (.suspended bootstrap)) :
    Reached sources (asked ++ bootstrap.furtherAsks storage calls)
      (bootstrap.resume storage calls).1 := by
  cases reached with
  | suspended delivered here genuine =>
    rw [List.append_assoc, List.singleton_append]
    exact resume_reached_of delivered here genuine fun _ _ onward _ => proceed_reached onward rfl

end Bootstrap

/-! ## The counts of calls -/

/-- How many of the recorded calls are calls of the source at a position. -/
def tally (asked : List Ask) (position : Nat) : Nat :=
  asked.countP (fun ask => ask.position == position)

/-- Calls in order that reach the last source call each source once. Their positions are those of
    the sources, and no position is there twice. -/
theorem InOrder.tally_eq_one {sources : List Source} {asked : List Ask}
    (ordered : InOrder sources asked) (all : asked.length = sources.length) {position : Nat}
    (inside : position < sources.length) : tally asked position = 1 := by
  have counted : tally asked position = (asked.map Ask.position).count position := by
    rw [tally, List.count, List.countP_map]
    rfl
  rw [counted, ordered.positions, all]
  exact List.count_eq_one_of_mem List.nodup_range (List.mem_range.mpr inside)

namespace Bootstrap

variable {storage : Storage} {gathered : Index}

/-- Polling a call counts the calls that it makes if proceeding behind it does. Waiting and failing
    make none. -/
private theorem resume_counts_of {bootstrap : Bootstrap} {calls : List Nat}
    (onward : ∀ index, (proceed storage index (bootstrap.position + 1) bootstrap.later calls).2 =
      recount calls (asks storage (bootstrap.position + 1) bootstrap.later calls)) :
    (bootstrap.resume storage calls).2 = recount calls (bootstrap.furtherAsks storage calls) := by
  obtain ⟨index, awaited, position, delay, outcome, later⟩ := bootstrap
  dsimp only [resume, furtherAsks] at onward ⊢
  cases delay with
  | succ delay => rfl
  | zero =>
    cases outcome with
    | error cause => rfl
    | ok found => exact onward _

/-- Proceeding counts the calls that it makes. By induction on the sources that are left; where one
    suspends or fails, no further call is made and none is counted. -/
theorem proceed_counts {sources : List Source} {position : Nat} {calls : List Nat} :
    (proceed storage gathered position sources calls).2 =
      recount calls (asks storage position sources calls) := by
  induction sources generalizing gathered position calls with
  | nil => rfl
  | cons source later ih =>
    rw [proceed_cons, asks_cons, recount, List.foldl_cons]
    exact resume_counts_of fun _ => ih

/-- Polling a suspended bootstrap counts the calls that it makes. -/
theorem resume_counts {bootstrap : Bootstrap} {calls : List Nat} :
    (bootstrap.resume storage calls).2 = recount calls (bootstrap.furtherAsks storage calls) :=
  resume_counts_of fun _ => proceed_counts

/-- One call raises the count at its position by one and no other count. The position has to be that
    of a source, or there would be nothing to raise. -/
theorem set_nextCall {count position : Nat} {before : Nat → Nat} (bounded : position < count) :
    ((List.range count).map before).set position
        (nextCall ((List.range count).map before) position) =
      (List.range count).map (fun other => before other + if position = other then 1 else 0) := by
  refine List.ext_getElem (by simp) fun other inside _ => ?_
  by_cases same : position = other
  · subst same
    simp [nextCall, bounded]
  · simp [same]

/-- Counts that are tallies become the tallies with the further calls. By induction on these, of
    which each raises one count. -/
theorem recount_tally {count : Nat} {before : Nat → Nat} {asked : List Ask}
    (bounded : ∀ ask ∈ asked, ask.position < count) :
    recount ((List.range count).map before) asked =
      (List.range count).map (fun position => before position + tally asked position) := by
  induction asked generalizing before with
  | nil => rfl
  | cons ask asked ih =>
    have here : ask.position < count := bounded ask List.mem_cons_self
    have others : ∀ other ∈ asked, other.position < count :=
      fun other member => bounded other (List.mem_cons_of_mem ask member)
    rw [recount, List.foldl_cons, set_nextCall here]
    refine (ih others).trans (List.map_congr_left fun position _ => ?_)
    rw [tally, tally, List.countP_cons]
    simp only [beq_iff_eq]
    omega

/-- Counts that are the tally of a record become that of the record with the further calls. -/
theorem recount_perm {count : Nat} {before further whole : List Ask}
    (bounded : ∀ ask ∈ further, ask.position < count) (joined : whole.Perm (before ++ further)) :
    recount ((List.range count).map (tally before)) further =
      (List.range count).map (tally whole) := by
  refine (recount_tally bounded).trans (List.map_congr_left fun position _ => ?_)
  rw [tally, tally, tally, joined.countP_eq, List.countP_append]

end Bootstrap

end RoleWeave
