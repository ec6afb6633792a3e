import RoleWeave.Proofs.Composition.Mirror

/-!
# The account that a pass keeps

What a pass records is determined by the calls made on it. At most one call for a resource does
anything but leave its reference out, and none does for a resource that had been met before. The
references left out and the failures are recorded in the order of their calls, and nothing that
was met is forgotten. `Accounted` gathers these facts; they hold of nothing, they hold of two
sequences of calls one after the other if they hold of each, and so they hold of every run and of
every session.

Loading is accounted for as well. `Provider.noting` is a provider that notes what is asked of it,
and what it has noted after a session are the resources of the calls that were made first and
above the limit on depth.
-/

namespace RoleWeave

namespace Pass

/-- Whatever the first pass has met, the second has met as well. -/
def Within (earlier later : Pass) : Prop :=
  ∀ key, earlier.isVisited key = true → later.isVisited key = true

/-- A pass has met what it has met. -/
theorem Within.refl (pass : Pass) : pass.Within pass := fun _ known => known

/-- If each of two passes goes on from the one before it, the last has met whatever the first
    had. -/
theorem Within.trans {first second third : Pass} (before : first.Within second)
    (after : second.Within third) : first.Within third :=
  fun key known => after key (before key known)

/-- Meeting a resource forgets nothing. -/
theorem within_visit (pass : Pass) (key : Key) : pass.Within (pass.visit key) := by
  intro tested known
  simp [known]

end Pass

namespace Composition

/-- The account of calls that took a pass from `start` to `final`. -/
structure Accounted (start final : Pass) (calls : List Call) : Prop where
  /-- Of the calls for one resource, at most one does anything but leave its reference out. -/
  once : ((calls.filter Call.emits).map Call.key).Nodup
  /-- No such call is made for a resource that was met before. -/
  fresh : ∀ call ∈ calls, call.emits = true → start.isVisited call.key = false
  /-- A call leaves its reference out exactly if it finds that the resource has been met. -/
  exact : ∀ call ∈ calls, call.emits = !call.met
  /-- From the first pass over those that the calls find to the last, nothing is forgotten. -/
  grows : (start :: (calls.map Call.before ++ [final])).Pairwise Pass.Within
  /-- In the end the resource of every call has been met. -/
  known : ∀ call ∈ calls, final.isVisited call.key = true
  /-- The references left out are those that met a resource again, in the order of their calls. -/
  suppressed : final.suppressed = start.suppressed ++ (calls.filter Call.met).map Call.key
  /-- The failures are those of the calls, in their order. -/
  failures : final.failures = start.failures ++ calls.filterMap Call.failure?

namespace Accounted

variable {start middle final : Pass} {first second : List Call}

/-- Nothing is forgotten from the beginning to the end. -/
theorem within (account : Accounted start final first) : start.Within final := by
  have grows := account.grows
  rw [List.pairwise_cons] at grows
  exact grows.1 final (by simp)

/-- Without calls nothing changes but what has been met. No failure and no reference left out is
    recorded. -/
theorem of_visit (pass : Pass) (key : Key) : Accounted pass (pass.visit key) [] where
  once := by simp
  fresh := by simp
  exact := by simp
  grows := by simpa using Pass.within_visit pass key
  known := by simp
  suppressed := by simp
  failures := by simp

/-- Nothing is accounted for by no calls. -/
theorem idle (pass : Pass) : Accounted pass pass [] where
  once := by simp
  fresh := by simp
  exact := by simp
  grows := by simpa using Pass.Within.refl pass
  known := by simp
  suppressed := by simp
  failures := by simp

/-- The passes of two sequences of calls are in one order if the first sequence ends where the
    second begins. What a pass of the first has met is met in the middle, and so in every pass of
    the second. -/
theorem pairwise_append {first second : List Pass} {start middle final : Pass}
    (before : (start :: (first ++ [middle])).Pairwise Pass.Within)
    (after : (middle :: (second ++ [final])).Pairwise Pass.Within) :
    (start :: (first ++ second ++ [final])).Pairwise Pass.Within := by
  rw [← List.cons_append, List.pairwise_append] at before
  obtain ⟨firstOrdered, _, reached⟩ := before
  obtain ⟨left, secondOrdered⟩ := List.pairwise_cons.mp after
  rw [List.append_assoc, ← List.cons_append, List.pairwise_append]
  refine ⟨firstOrdered, secondOrdered, ?_⟩
  intro earlier member later follows
  exact (reached earlier member middle (by simp)).trans (left later follows)

/-- Two sequences of calls, one after the other, are accounted for if each is. What the first
    sequence did was met when the second began, so the second did something else.

    Proof: what is listed is put together field by field. For the field on resources that occur
    once, a resource with a call of each sequence that did something would be met in the middle
    because of the first and unmet there because of the second. -/
theorem chain (before : Accounted start middle first) (after : Accounted middle final second) :
    Accounted start final (first ++ second) where
  once := by
    rw [List.filter_append, List.map_append, List.nodup_append]
    refine ⟨before.once, after.once, ?_⟩
    intro key early tested late same
    subst same
    obtain ⟨call, member, rfl⟩ := List.mem_map.mp early
    obtain ⟨other, otherMember, sameKey⟩ := List.mem_map.mp late
    have reached : middle.isVisited call.key = true :=
      before.known call (List.mem_filter.mp member).1
    obtain ⟨among, emits⟩ := List.mem_filter.mp otherMember
    have unmet : middle.isVisited other.key = false := after.fresh other among emits
    rw [sameKey, reached] at unmet
    cases unmet
  fresh := by
    intro call member emits
    rcases List.mem_append.mp member with early | late
    · exact before.fresh call early emits
    · have unmet : middle.isVisited call.key = false := after.fresh call late emits
      apply Bool.eq_false_iff.mpr
      intro visited
      rw [before.within call.key visited] at unmet
      cases unmet
  exact := by
    intro call member
    rcases List.mem_append.mp member with early | late
    · exact before.exact call early
    · exact after.exact call late
  grows := by
    rw [List.map_append]
    exact pairwise_append before.grows after.grows
  known := by
    intro call member
    rcases List.mem_append.mp member with early | late
    · exact after.within call.key (before.known call early)
    · exact after.known call late
  suppressed := by
    rw [after.suppressed, before.suppressed, List.filter_append, List.map_append,
      List.append_assoc]
  failures := by
    rw [after.failures, before.failures, List.filterMap_append, List.append_assoc]

/-- A call that finds a resource that was met leaves its reference out. It records that and does
    nothing else. -/
theorem again (call : Call) (outcome : call.outcome = .ok .suppressed) (known : call.met = true) :
    Accounted call.before (call.before.suppress call.key) [call] where
  once := by simp [Call.emits, outcome]
  fresh := by simp [Call.emits, outcome]
  exact := by simp [Call.emits, outcome, known]
  grows := by
    have same : call.before.Within (call.before.suppress call.key) := fun _ known => known
    simpa [Pass.Within.refl] using same
  known := by
    have visited : call.before.isVisited call.key = true := known
    simpa using visited
  suppressed := by simp [Pass.suppress, known]
  failures := by simp [Pass.suppress, Call.failure?, outcome]

/-- A call that meets a resource first is accounted for together with the calls nested in it, which
    begin with the resource met.

    Proof: the nested calls do something only for resources that were not met when they began, and
    that of the call itself was. So it is none of theirs, and its resource and theirs are those that
    were unmet before. The call records nothing of its own, so what is recorded is what they
    record. -/
theorem first_met (call : Call) {nested : List Call} (emits : call.emits = true)
    (unmet : call.met = false) (silent : call.failure? = none)
    (inner : Accounted (call.before.visit call.key) final nested) :
    Accounted call.before final (call :: nested) where
  once := by
    rw [List.filter_cons_of_pos (by simpa using emits), List.map_cons, List.nodup_cons]
    refine ⟨?_, inner.once⟩
    intro again
    obtain ⟨other, member, sameKey⟩ := List.mem_map.mp again
    obtain ⟨among, emitsToo⟩ := List.mem_filter.mp member
    have fresh := inner.fresh other among emitsToo
    simp [sameKey] at fresh
  fresh := by
    intro other member otherEmits
    rcases List.mem_cons.mp member with rfl | deeper
    · exact unmet
    · have fresh := inner.fresh other deeper otherEmits
      rw [Pass.isVisited_visit, Bool.or_eq_false_iff] at fresh
      exact fresh.2
  exact := by
    intro other member
    rcases List.mem_cons.mp member with rfl | deeper
    · rw [emits, unmet]
      rfl
    · exact inner.exact other deeper
  grows := by
    have single : (call.before :: ([call.before] ++ [call.before.visit call.key])).Pairwise
        Pass.Within := by
      simpa [Pass.Within.refl] using Pass.within_visit call.before call.key
    simpa using pairwise_append single inner.grows
  known := by
    intro other member
    rcases List.mem_cons.mp member with rfl | deeper
    · exact inner.within other.key (by simp)
    · exact inner.known other deeper
  suppressed := by
    have skipped : (call :: nested).filter Call.met = nested.filter Call.met := by
      simp [unmet]
    rw [skipped, inner.suppressed, Pass.suppressed_visit]
  failures := by
    rw [inner.failures, List.filterMap_cons_none silent, Pass.failures_visit]

/-- A call that meets a resource first and fails by itself is accounted for by its failure. It has
    no calls nested in it. -/
theorem first_failed (call : Call) {fault : Fault}
    (outcome : call.outcome = .ok (.failed fault)) (unmet : call.met = false) :
    Accounted call.before ((call.before.visit call.key).fail call.reference fault) [call] where
  once := by
    have emits : call.emits = true := by simp [Call.emits, outcome]
    simp [emits]
  fresh := by
    intro other member _
    rw [List.mem_singleton.mp member]
    exact unmet
  exact := by simp [Call.emits, outcome, unmet]
  grows := by
    have met : call.before.Within
        ((call.before.visit call.key).fail call.reference fault) :=
      Pass.within_visit call.before call.key
    simpa [Pass.Within.refl] using met
  known := by simp
  suppressed := by simp [Pass.fail, unmet]
  failures := by simp [Pass.fail, Call.failure?, outcome]

end Accounted

variable {σ : Type} {provider : Provider σ} {limit : Nat}

/-- Every run is accounted for.

    Proof: by induction on the run. Each way in which a call can go is one of `again`,
    `first_failed` and `first_met`, with the calls nested in it accounted for by induction;
    references one after another are `chain`. What fetching does to the pass is nothing but to have
    met the resource (`pass_of_fetch`). -/
theorem Run.accounted {start final : Weaving σ} {stop : Option Fault} {calls : List Call}
    (run : Run provider limit start stop final calls) :
    Accounted start.pass final.pass calls := by
  induction run with
  | idle weaving => exact .idle weaving.pass
  | chain _ _ before after => exact before.chain after
  | @met weaving reference allowance known =>
    exact .again ⟨reference, allowance, weaving.pass, none, .ok .suppressed⟩ rfl known
  | @cut weaving reference fresh =>
    exact .first_failed ⟨reference, 0, weaving.pass, none,
      .ok (.failed (.unresolved reference.render (.depthExceeded limit)))⟩ rfl fresh
  | @refused weaving changed reference fault allowance fresh fetched single =>
    have entered : changed.pass = weaving.pass.visit reference.key := pass_of_fetch fetched
    simp only [Weaving.fail, entered]
    exact .first_failed ⟨reference, allowance + 1, weaving.pass, none,
      .ok (.failed (fault.attach reference.render))⟩ rfl fresh
  | @stopped weaving changed reference fault allowance fresh fetched whole =>
    have entered : changed.pass = weaving.pass.visit reference.key := pass_of_fetch fetched
    rw [entered]
    exact .first_met ⟨reference, allowance + 1, weaving.pass, none, .error fault⟩ rfl fresh rfl
      (.idle _)
  | @composed weaving fetched final reference content nested allowance text fresh loaded _
      account =>
    have entered : fetched.pass = weaving.pass.visit reference.key := pass_of_fetch loaded
    rw [entered] at account
    exact .first_met ⟨reference, allowance + 1, weaving.pass, some content, .ok (.content text)⟩
      rfl fresh rfl account
  | @broken weaving fetched final reference content fault nested allowance fresh loaded _ _
      account =>
    have entered : fetched.pass = weaving.pass.visit reference.key := pass_of_fetch loaded
    rw [entered] at account
    exact .first_met ⟨reference, allowance + 1, weaving.pass, some content, .error fault⟩
      rfl fresh rfl account

/-- Whatever is done with a pass, one thing after another, is accounted for. By induction on what is
    asked for; a resource that is met on demand is a change without calls. -/
theorem session_accounted (provider : Provider σ) (limit : Nat) (requests : List Request)
    (start : Weaving σ) :
    Accounted start.pass (session provider limit requests start).pass
      (sessionCalls provider limit requests start) := by
  induction requests generalizing start with
  | nil => exact .idle start.pass
  | cons request later ih =>
    have rest := ih (serve provider limit request start)
    cases request with
    | visit key => exact (Accounted.of_visit start.pass key).chain rest
    | compose task => exact (run_task provider limit task start).accounted.chain rest

end Composition

/-- The provider that notes the resources it is asked for, in a list beside the world. -/
def Provider.noting {σ : Type} (provider : Provider σ) : Provider (σ × List Key) where
  ready := provider.ready.within Prod.fst (fun noted world => (world, noted.2))
  load reference := .of (fun noted =>
    (((provider.load reference).run noted.1).1,
      ((provider.load reference).run noted.1).2, noted.2 ++ [reference.key]))

namespace Composition

variable {σ : Type} {provider : Provider σ} {limit : Nat}

/-- A weaving, and the same with notes beside its world. -/
def Noted (weaving : Weaving σ) (noted : Weaving (σ × List Key)) : Prop :=
  noted.pass = weaving.pass ∧ noted.world.1 = weaving.world

/-- Taking notes does not change what is loaded. -/
theorem noting_mirrors (provider : Provider σ) : provider.noting.Mirrors provider Prod.fst :=
  ⟨fun _ => rfl, fun _ _ => rfl⟩

/-- Taking notes changes nothing about inlining. -/
theorem agrees_noting (provider : Provider σ) (limit allowance : Nat) (reference : Reference) :
    Agrees Noted Eq (inlineWithin provider limit allowance reference)
      (inlineWithin provider.noting limit allowance reference)
      (callsWithin provider limit allowance reference)
      (callsWithin provider.noting limit allowance reference) :=
  agrees_mirrored (noting_mirrors provider) limit allowance reference

/-- The notes of a run of the noting provider are the resources of the calls that load.

    Proof: by induction on the run. A call that finds its resource met and one at the limit on depth
    load nothing and leave no note. Any other call asks for its resource once, which leaves one note
    in front of those of the calls nested in it. -/
theorem Run.notes {start final : Weaving (σ × List Key)} {stop : Option Fault}
    {calls : List Call} (run : Run provider.noting limit start stop final calls) :
    final.world.2 = start.world.2 ++ (calls.filter Call.loads).map Call.key := by
  have fetchedNote : ∀ {reference : Reference} {weaving changed : Weaving (σ × List Key)}
      {outcome : Except Fault Text},
      (fetch provider.noting reference).run weaving = (outcome, changed) →
      changed.world.2 = weaving.world.2 ++ [reference.key] := by
    intro reference weaving changed outcome fetched
    have world := world_of_fetch provider.noting reference weaving
    rw [fetched] at world
    exact congrArg Prod.snd world
  induction run with
  | idle weaving => simp
  | chain _ _ before after =>
    rw [after, before, List.filter_append, List.map_append, List.append_assoc]
  | @met weaving reference allowance known =>
    have again : (Call.mk reference allowance weaving.pass none (.ok .suppressed)).met = true :=
      known
    simp [Weaving.suppress, Call.loads, again]
  | cut fresh => simp [Weaving.fail, Weaving.visit, Call.loads]
  | @refused weaving changed reference fault allowance fresh fetched single =>
    have unmet : (Call.mk reference (allowance + 1) weaving.pass none
        (.ok (.failed (fault.attach reference.render)))).met = false := fresh
    simpa [Weaving.fail, Weaving.visit, Call.loads, Call.key, unmet] using fetchedNote fetched
  | @stopped weaving changed reference fault allowance fresh fetched whole =>
    have unmet : (Call.mk reference (allowance + 1) weaving.pass none (.error fault)).met =
        false := fresh
    simpa [Weaving.visit, Call.loads, Call.key, unmet] using fetchedNote fetched
  | @composed weaving fetched final reference content nested allowance text fresh loaded _ ih =>
    have unmet : (Call.mk reference (allowance + 1) weaving.pass (some content)
        (.ok (.content text))).met = false := fresh
    rw [ih, fetchedNote loaded]
    simp [Call.loads, unmet, Weaving.visit, Call.key]
  | @broken weaving fetched final reference content fault nested allowance fresh loaded _ _ ih =>
    have unmet : (Call.mk reference (allowance + 1) weaving.pass (some content)
        (.error fault)).met = false := fresh
    rw [ih, fetchedNote loaded]
    simp [Call.loads, unmet, Weaving.visit, Call.key]

/-- The notes of a session are the resources of its calls that load, in the order of the calls. By
    induction on what is asked for. -/
theorem notes_of_session (requests : List Request) (start : Weaving (σ × List Key)) :
    (session provider.noting limit requests start).world.2 =
      start.world.2 ++
        ((sessionCalls provider.noting limit requests start).filter Call.loads).map Call.key := by
  induction requests generalizing start with
  | nil => simp [session, sessionCalls]
  | cons request later ih =>
    rw [session, ih, sessionCalls, List.filter_append, List.map_append, ← List.append_assoc]
    cases request with
    | visit key => simp [serve, requestCalls, Weaving.visit]
    | compose task =>
      have task := (run_task provider.noting limit task start).notes
      simp only [serve, requestCalls, task]

/-- Calls that load do something else than leave their references out. So no resource is loaded
    twice, and none that had been met at the beginning is loaded at all. -/
theorem Accounted.nodup_loads {start final : Pass} {calls : List Call}
    (account : Accounted start final calls) :
    ((calls.filter Call.loads).map Call.key).Nodup ∧
      ∀ key ∈ (calls.filter Call.loads).map Call.key, start.isVisited key = false := by
  have emits : ∀ call ∈ calls, call.loads = true → call.emits = true := by
    intro call member loads
    rw [account.exact call member]
    simp only [Call.loads, Bool.and_eq_true] at loads
    exact loads.1
  constructor
  · have fewer : (calls.filter Call.loads).Sublist (calls.filter Call.emits) := by
      have again : (calls.filter Call.emits).filter Call.loads = calls.filter Call.loads := by
        rw [List.filter_filter]
        refine List.filter_congr (fun call member => ?_)
        have both := emits call member
        cases loads : call.loads <;> simp_all
      exact again ▸ List.filter_sublist
    exact account.once.sublist (fewer.map Call.key)
  · intro key member
    obtain ⟨call, loading, rfl⟩ := List.mem_map.mp member
    obtain ⟨among, loads⟩ := List.mem_filter.mp loading
    exact account.fresh call among (emits call among loads)

end Composition

end RoleWeave
