import RoleWeave.Proofs.Composition.Concatenation
import RoleWeave.Proofs.Composition.Retention

/-!
# What an interrupted composition leaves behind

A fault that belongs to no single reference ends a composition, but it takes nothing back. The pass
has met the resources of all references that were come to, the one among them at which the fault
arose, and counts them as met from then on, although nothing of the composition was ever shown. So
whoever makes the same call again with the same pass, now that everything can be loaded, gets less
than at first: `fault_uses_up_references` says that every reference that was come to is left out,
and that the composition goes on behind the one that the fault arose in. `retry_shows_nothing` is a
library that recovers while the pass does not.
-/

namespace RoleWeave.Composition

variable {σ : Type} {provider : Provider σ} {limit : Nat}

/-- What a composition that a fault ended leaves in the pass, with the calls that it made. -/
structure LeftBehind (start final : Pass) (fault : Fault) (calls : List Call) : Prop where
  /-- The last call is the one that the fault arose in. Its resource had not been met before. -/
  last : ∃ earlier call, calls = earlier ++ [call] ∧ call.outcome = .error fault ∧
    start.isVisited call.key = false
  /-- What the pass has met beyond what it had met is what there were calls for. -/
  visited : ∀ key, final.isVisited key = true ↔
    start.isVisited key = true ∨ ∃ call ∈ calls, call.key = key
  /-- The references that failed until then stay recorded, the fault itself is not recorded. -/
  failures : final.failures = start.failures ++ calls.filterMap Call.failure?
  /-- The references left out until then stay recorded. -/
  suppressed : final.suppressed = start.suppressed ++ (calls.filter Call.met).map Call.key

/-- A run that a fault ended made a last call, which ended with that fault. By induction on the run:
    the last call is the one that could not fetch, or the last of those nested in it. -/
theorem Run.last_broken {start final : Weaving σ} {stop : Option Fault} {calls : List Call}
    {fault : Fault} (run : Run provider limit start stop final calls)
    (broken : stop = some fault) :
    ∃ earlier call, calls = earlier ++ [call] ∧ call.outcome = .error fault := by
  induction run with
  | idle | met | cut | refused | composed => cases broken
  | @chain _ _ _ _ first _ _ _ _ after =>
    obtain ⟨earlier, call, rfl, ended⟩ := after broken
    exact ⟨first ++ earlier, call, (List.append_assoc ..).symm, ended⟩
  | stopped allowance fresh fetched whole =>
    cases broken
    exact ⟨[], _, rfl, rfl⟩
  | broken allowance fresh loaded inner whole ih =>
    obtain ⟨earlier, call, rfl, ended⟩ := ih broken
    exact ⟨_ :: earlier, call, rfl, ended⟩

/-- Every run that a fault ended leaves the resources of its calls behind as met. The last of them
    was not met before, because the call for it did something else than leave its reference out. -/
theorem Run.leftBehind {start final : Weaving σ} {fault : Fault} {calls : List Call}
    (run : Run provider limit start (some fault) final calls) :
    LeftBehind start.pass final.pass fault calls where
  last := by
    obtain ⟨earlier, call, rfl, ended⟩ := run.last_broken rfl
    have emits : call.emits = true := by simp [Call.emits, ended]
    exact ⟨earlier, call, rfl, ended, run.accounted.fresh call (by simp) emits⟩
  visited key := by
    constructor
    · exact run.visited key
    · rintro (early | ⟨call, member, rfl⟩)
      · exact run.accounted.within key early
      · exact run.accounted.known call member
  failures := run.accounted.failures
  suppressed := run.accounted.suppressed

/-- Whatever is done with a pass later, and with whatever world, references to the resources of
    these calls are left out. -/
def UsedUp (provider : Provider σ) (limit : Nat) (pass : Pass) (calls : List Call) : Prop :=
  ∀ (world : σ) (requests : List Request),
    ∀ later ∈ sessionCalls provider limit requests ⟨world, pass⟩,
      (∃ call ∈ calls, call.key = later.key) → later.outcome = .ok .suppressed

/-- A call that emits nothing leaves its reference out. -/
theorem outcome_of_silent {call : Call} (silent : call.emits = false) :
    call.outcome = .ok .suppressed := by
  unfold Call.emits at silent
  split at silent
  · assumption
  · cases silent

/-- What an interrupted composition came to is used up. Whatever is done later is accounted for, and
    an account lets a call emit only what had not been met at its beginning. -/
theorem LeftBehind.usedUp {start final : Pass} {fault : Fault} {calls : List Call}
    (left : LeftBehind start final fault calls) (provider : Provider σ) (limit : Nat) :
    UsedUp provider limit final calls := by
  intro world requests later member among
  have known : final.isVisited later.key = true := (left.visited later.key).mpr (.inr among)
  have account := session_accounted provider limit requests ⟨world, final⟩
  refine outcome_of_silent (Bool.eq_false_iff.mpr fun emits => ?_)
  rw [account.fresh later member emits] at known
  cases known

/-- Whatever becomes of a reference, a call is made for it. It is the first of those made while the
    reference is inlined. -/
theorem own_call (provider : Provider σ) (limit allowance : Nat) (reference : Reference)
    (weaving : Weaving σ) :
    ∃ call ∈ callsWithin provider limit allowance reference weaving, call.key = reference.key := by
  cases allowance with
  | zero => exact ⟨_, List.mem_singleton_self _, rfl⟩
  | succ allowance =>
    unfold callsWithin
    split
    · exact ⟨_, List.mem_singleton_self _, rfl⟩
    · split
      · exact ⟨_, List.mem_singleton_self _, rfl⟩
      · exact ⟨_, List.mem_cons_self, rfl⟩

/-- Whatever becomes of a reference, its resource has been met afterwards, and so has all that was
    met before. -/
theorem met_after (provider : Provider σ) (limit depth : Nat) (reference : Reference)
    (weaving : Weaving σ) :
    let changed := ((inlineAt provider limit depth reference).run weaving).2
    changed.pass.isVisited reference.key = true ∧ weaving.pass.Within changed.pass := by
  have account := (run_at provider limit depth reference weaving).accounted
  obtain ⟨call, member, same⟩ := own_call provider limit (limit - depth) reference weaving
  exact ⟨same ▸ account.known call member, account.within⟩

/-- Where a fault ends the inlining of references one after another: the references in `earlier`
    came to outcomes, and the fault arose in `broken`. -/
structure Interrupted (provider : Provider σ) (limit : Nat) (start final : Weaving σ)
    (fault : Fault) (earlier : List Reference) (broken : Reference) : Prop where
  /-- The references before came to outcomes, and then the fault arose. -/
  arose : ∃ outcomes middle, (inlineAll provider limit earlier).run start = (.ok outcomes, middle) ∧
    (inlineAt provider limit 0 broken).run middle = (.error fault, final)
  /-- The resources of all these references count as met. -/
  met : ∀ reference ∈ earlier ++ [broken], final.pass.isVisited reference.key = true
  kept : start.pass.Within final.pass

/-- A fault ends the inlining of references one after another at one of them. By induction on the
    references: the fault arose in the first, or behind it, and then all up to that one came to
    outcomes. -/
theorem interrupted_at {references : List Reference} {start final : Weaving σ} {fault : Fault}
    (ended : (inlineAll provider limit references).run start = (.error fault, final)) :
    ∃ earlier broken later, references = earlier ++ broken :: later ∧
      Interrupted provider limit start final fault earlier broken := by
  induction references generalizing start with
  | nil => cases ended
  | cons reference later ih =>
    obtain ⟨met, kept⟩ := met_after provider limit 0 reference start
    rw [inlineAll, Step.run_bind] at ended
    rcases made : (inlineAt provider limit 0 reference).run start with ⟨other | outcome, changed⟩
    · simp only [made, Prod.mk.injEq, Except.error.injEq] at ended met kept
      obtain ⟨rfl, rfl⟩ := ended
      exact ⟨[], reference, later, rfl, ⟨[], start, rfl, made⟩, by simpa using met, kept⟩
    · simp only [made, bind_pure_comp, Step.run_map] at ended met kept
      rcases rest : (inlineAll provider limit later).run changed with ⟨other | others, reached⟩
      · simp only [rest, Prod.mk.injEq, Except.error.injEq] at ended
        obtain ⟨rfl, rfl⟩ := ended
        obtain ⟨earlier, broken, behind, rfl, arose, metThen, keptThen⟩ := ih rest
        obtain ⟨outcomes, middle, before, here⟩ := arose
        refine ⟨reference :: earlier, broken, behind, rfl,
          ⟨outcome :: outcomes, middle, ?_, here⟩, ?_, kept.trans keptThen⟩
        · rw [inlineAll, Step.run_bind]
          simp only [made, bind_pure_comp, Step.run_map, before]
        · exact List.forall_mem_cons.mpr ⟨keptThen _ met, metThen⟩
      · simp [rest] at ended

/-- The pass that has recorded these references as left out as well. -/
def suppressAll (pass : Pass) (references : List Reference) : Pass :=
  references.foldl (fun pass reference => pass.suppress reference.key) pass

/-- References to resources that were met before are left out, in any world, and then those behind
    them are come to. That they are left out is recorded, which makes no resource unmet again. -/
theorem inlineAll_skips (provider : Provider σ) (limit : Nat) {references : List Reference}
    {pass : Pass}
    (known : ∀ reference ∈ references, pass.isVisited reference.key = true)
    (later : List Reference) (world : σ) :
    (inlineAll provider limit (references ++ later)).run ⟨world, pass⟩ =
      ((List.replicate references.length .suppressed ++ ·) <$> inlineAll provider limit later).run
        ⟨world, suppressAll pass references⟩ := by
  induction references generalizing pass with
  | nil => simp [suppressAll]
  | cons reference others ih =>
    have left : (inlineAt provider limit 0 reference).run ⟨world, pass⟩ =
        (.ok .suppressed, ⟨world, pass.suppress reference.key⟩) :=
      (within_met provider limit (limit - 0) (known reference List.mem_cons_self)).1
    have rest := @ih (pass.suppress reference.key)
      (fun other member => known other (List.mem_cons_of_mem _ member))
    have same : suppressAll (pass.suppress reference.key) others =
        suppressAll pass (reference :: others) := rfl
    rw [List.cons_append, inlineAll, Step.run_bind]
    simp only [left, bind_pure_comp, Step.run_map, rest, same]
    rcases (inlineAll provider limit later).run ⟨world, suppressAll pass (reference :: others)⟩
      with ⟨fault | outcomes, final⟩
    · rfl
    · simp [List.replicate_succ]

/-- A fault that ends the inlining of a reference or the composition of a block takes nothing back.
    The pass has met what it had met and the resources of all calls that were made, the last of
    which is the one that the fault arose in, and failures and references left out until then stay
    recorded. All these resources are used up: whatever becomes of the world, later references to
    them are left out. So the same call with the same pass comes to nothing for a reference. For a
    block, it leaves out the references up to the one that the fault arose in, and goes on with
    those behind.

    Proof: both are runs that a fault ended, so `Run.leftBehind` and `LeftBehind.usedUp` apply. A
    reference that was inlined is met, so inlining it once more leaves it out. Composing a block is
    inlining its references one after another; `interrupted_at` finds the one that the fault arose
    in, and `inlineAll_skips` leaves out those up to it. -/
theorem fault_uses_up_references (provider : Provider σ) (limit : Nat) (start after : Weaving σ)
    (fault : Fault) :
    (∀ depth reference,
      (inlineAt provider limit depth reference).run start = (.error fault, after) →
      let calls := callsAt provider limit depth reference start
      LeftBehind start.pass after.pass fault calls ∧ UsedUp provider limit after.pass calls ∧
        ∀ world, (inlineAt provider limit depth reference).run ⟨world, after.pass⟩ =
          (.ok .suppressed, ⟨world, after.pass.suppress reference.key⟩)) ∧
    ∀ block : Block,
      (composeBlock provider limit block).run start = (.error fault, after) →
      let calls := blockCalls provider limit block start
      LeftBehind start.pass after.pass fault calls ∧ UsedUp provider limit after.pass calls ∧
        ∃ earlier broken later, inlined block.text = earlier ++ broken :: later ∧
          Interrupted provider limit start after fault earlier broken ∧
          ∀ world, (composeBlock provider limit block).run ⟨world, after.pass⟩ =
            ((fun outcomes => shownAmong (pieces block.text)
                (List.replicate (earlier.length + 1) .suppressed ++ outcomes)) <$>
              inlineAll provider limit later).run
                ⟨world, suppressAll after.pass (earlier ++ [broken])⟩ := by
  constructor
  · intro depth reference ended calls
    have run := run_at provider limit depth reference start
    have met := (met_after provider limit depth reference start).1
    rw [ended] at run met
    have left := run.leftBehind
    refine ⟨left, left.usedUp provider limit, fun world => ?_⟩
    have known : (Weaving.mk world after.pass).pass.isVisited reference.key = true := met
    exact (within_met provider limit (limit - depth) known).1
  · intro block ended calls
    have run := run_block provider limit block start
    rw [ended] at run
    have left := run.leftBehind
    have woven : composeBlock provider limit block =
        shownAmong (pieces block.text) <$> inlineAll provider limit (inlined block.text) :=
      weave_eq_inlineAll (pieces block.text)
    refine ⟨left, left.usedUp provider limit, ?_⟩
    have broken : (inlineAll provider limit (inlined block.text)).run start =
        (.error fault, after) := by
      rw [woven, Step.run_map] at ended
      rcases made : (inlineAll provider limit (inlined block.text)).run start with
        ⟨other | outcomes, changed⟩
      · simpa [made] using ended
      · simp [made] at ended
    obtain ⟨earlier, broken, later, same, interrupted⟩ := interrupted_at broken
    refine ⟨earlier, broken, later, same, interrupted, fun world => ?_⟩
    have skips := inlineAll_skips provider limit interrupted.met later world
    rw [woven, same, List.append_cons, Step.run_map, skips, Step.run_map, Step.run_map,
      List.length_append, List.length_singleton]
    rcases (inlineAll provider limit later).run
      ⟨world, suppressAll after.pass (earlier ++ [broken])⟩ with ⟨other | outcomes, final⟩ <;> rfl

/-- A library whose source fails when it is asked first, and then knows one thought. -/
def waveringLibrary : Library where
  storage := Storage.empty.setPack "package".toList
    ⟨Pack.defaultRoot, [("a".toList, "ALPHA".toList)]⟩
  registry := Registry.ofSources
    [.wavering "p".toList [Descriptor.plain "thought".toList "a".toList "a".toList] 1
      (.config "index offline".toList) 0]
  table := Table.semantic.register "package".toList (.directory (.pack "package".toList))

/-- A reference to the thought. -/
def thoughtReference : Reference :=
  Reference.plain "thought".toList "a".toList

/-- A block that refers to the thought. -/
def thoughtBlock : Block :=
  ⟨.knowledge, "see @thought://a".toList⟩

/-- The fault of the bootstrap that fails. -/
def indexOffline : Fault :=
  .initialization "source \"p\" failed: Config error: index offline".toList

/-- The bootstrap fails in the call for the thought, and with the same pass the reference to it is
    left out from then on, by itself and in the block, although the thought was never shown. -/
theorem thought_used_up :
    (∃ after, (inlineAt Library.provider 8 0 thoughtReference).run ⟨waveringLibrary, Pass.new⟩ =
        (.error indexOffline, after) ∧
      ∀ world, (inlineAt Library.provider 8 0 thoughtReference).run ⟨world, after.pass⟩ =
        (.ok .suppressed, ⟨world, after.pass.suppress thoughtReference.key⟩)) ∧
    ∃ after, (composeBlock Library.provider 8 thoughtBlock).run ⟨waveringLibrary, Pass.new⟩ =
        (.error indexOffline, after) ∧
      LeftBehind Pass.new after.pass indexOffline
        (blockCalls Library.provider 8 thoughtBlock ⟨waveringLibrary, Pass.new⟩) := by
  have inlining : ((inlineAt Library.provider 8 0 thoughtReference).run
      ⟨waveringLibrary, Pass.new⟩).1 = .error indexOffline := by decide +kernel
  have composing : ((composeBlock Library.provider 8 thoughtBlock).run
      ⟨waveringLibrary, Pass.new⟩).1 = .error indexOffline := by decide +kernel
  obtain ⟨ofReference, _⟩ := fault_uses_up_references Library.provider 8
    ⟨waveringLibrary, Pass.new⟩ _ indexOffline
  obtain ⟨_, ofBlock⟩ := fault_uses_up_references Library.provider 8
    ⟨waveringLibrary, Pass.new⟩ _ indexOffline
  obtain ⟨_, _, again⟩ := ofReference 0 thoughtReference (Prod.ext inlining rfl)
  obtain ⟨left, _, _⟩ := ofBlock thoughtBlock (Prod.ext composing rfl)
  exact ⟨⟨_, Prod.ext inlining rfl, again⟩, _, Prod.ext composing rfl, left⟩

/-- The block is composed twice with one pass. The bootstrap fails at first, and then it does not,
    but the second call shows nothing of the thought and records the reference as left out. With a
    pass that the first call has not been made with, the second call shows the thought. -/
theorem retry_shows_nothing :
    let compose := (composeBlock Library.provider 8 thoughtBlock).run
    let failed := compose ⟨waveringLibrary, Pass.new⟩
    let retried := compose failed.2
    let fresh := compose ⟨failed.2.world, Pass.new⟩
    failed.1 = .error indexOffline ∧ failed.2.pass = ⟨[thoughtReference.key], [], []⟩ ∧
      retried.1 = .ok "see ".toList ∧ retried.2.pass.suppressed = [thoughtReference.key] ∧
      fresh.1 = .ok "see ALPHA".toList ∧ fresh.2.pass.suppressed = [] := by
  decide +kernel

end RoleWeave.Composition
