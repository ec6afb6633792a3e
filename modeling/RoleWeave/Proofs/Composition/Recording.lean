import RoleWeave.Proofs.Composition.Mirror

/-!
# The loads of a composition

A provider can record what it loads and what each load comes to, in a list beside its world. It is a
mirror of the provider, so recording changes nothing about a composition, and after the composition
the record holds its loads in their order.

A load is contained if it comes to content or fails by itself. The fault that ends a composition is
that of its last load, the first that is not contained: `Ends` says so of a fault and a record, and
`Run.ends` of every run.
-/

namespace RoleWeave

/-- A load, and what it came to. -/
structure Load where
  reference : Reference
  outcome : Except Fault Text

/-- Whether a load came to content, or to a fault that belongs to its reference alone. -/
def Load.contained (load : Load) : Bool :=
  match load.outcome with
  | .ok _ => true
  | .error fault => fault.isLocal

/-- The provider that records its loads beside its world. -/
def Provider.recording {σ : Type} (provider : Provider σ) : Provider (σ × List Load) where
  ready := provider.ready.within Prod.fst (fun recorded world => (world, recorded.2))
  load reference := .of (fun recorded =>
    (((provider.load reference).run recorded.1).1,
      ((provider.load reference).run recorded.1).2,
      recorded.2 ++ [⟨reference, ((provider.load reference).run recorded.1).1⟩]))

namespace Composition

variable {σ : Type} {provider : Provider σ} {limit : Nat}

/-- Recording loads does not change them. -/
theorem recording_mirrors (provider : Provider σ) : provider.recording.Mirrors provider Prod.fst :=
  ⟨fun _ => rfl, fun _ _ => rfl⟩

/-- The fault of an outcome, unless it belongs to a single reference. -/
def stop? {α : Type} : Except Fault α → Option Fault
  | .ok _ => none
  | .error fault => if fault.isLocal then none else some fault

/-- The fault that ended a composition, if any, and the loads that it made. -/
inductive Ends : Option Fault → List Load → Prop where
  /-- Every load is contained. -/
  | well {loads : List Load} (contained : ∀ load ∈ loads, load.contained = true) :
      Ends none loads
  /-- The last load failed with the fault, and every one before it is contained. -/
  | badly {before : List Load} {reference : Reference} {fault : Fault}
      (contained : ∀ load ∈ before, load.contained = true) (whole : fault.isLocal = false) :
      Ends (some fault) (before ++ [⟨reference, .error fault⟩])

/-- Contained loads may have been made before. The fault is still that of the last load, and all
    before it are contained. -/
theorem Ends.after {stop : Option Fault} {before loads : List Load} (ends : Ends stop loads)
    (well : Ends none before) : Ends stop (before ++ loads) := by
  cases well with
  | well earlier =>
    cases ends with
    | well contained =>
      apply Ends.well
      intro load member
      rcases List.mem_append.mp member with early | late
      · exact earlier load early
      · exact contained load late
    | badly contained whole =>
      rw [← List.append_assoc]
      refine .badly ?_ whole
      intro load member
      rcases List.mem_append.mp member with early | late
      · exact earlier load early
      · exact contained load late

/-- A fetch makes one load. If the load is not contained, the fetch fails with its fault; that the
    content is no document concerns the reference alone.

    Proof: by what is loaded. A fault of the load is the fault of the fetch, and whether it is
    contained is whether the fault is local. Loaded content is contained, whether or not it can be
    read. -/
theorem ends_of_fetch {reference : Reference} {weaving changed : Weaving (σ × List Load)}
    {outcome : Except Fault Text}
    (fetched : (fetch provider.recording reference).run weaving = (outcome, changed)) :
    ∃ load, changed.world.2 = weaving.world.2 ++ [load] ∧ Ends (stop? outcome) [load] := by
  have world := world_of_fetch provider.recording reference weaving
  rw [fetched] at world
  refine ⟨_, congrArg Prod.snd world, ?_⟩
  rw [fetch_eq] at fetched
  simp only [Provider.recording, Step.run_of] at fetched
  rcases loaded : (provider.load reference).run weaving.world.1 with ⟨fault | content, left⟩
  · rw [loaded] at fetched
    cases fetched
    cases single : fault.isLocal with
    | true =>
      simp only [stop?, single, if_true]
      apply Ends.well
      simpa [Load.contained] using single
    | false =>
      simp only [stop?, single, Bool.false_eq_true, if_false]
      have none_before : ∀ load ∈ ([] : List Load), load.contained = true := by simp
      exact .badly none_before single
  · have contained : Ends none [(⟨reference, .ok content⟩ : Load)] :=
      .well (by simp [Load.contained])
    rw [loaded] at fetched
    cases read : Document.parse content <;> simp only [read] at fetched <;> cases fetched <;>
      exact contained

/-- What a run adds to the record, and how it ended.

    Proof: by induction on the run. A call that does not fetch adds nothing. A fetch adds its load,
    which is contained if the call failed by itself and not contained if it ended the run; behind a
    content come the loads of the calls nested in it. In a chain the loads of the first part are all
    contained. -/
theorem Run.ends {start final : Weaving (σ × List Load)} {stop : Option Fault}
    {calls : List Call} (run : Run provider.recording limit start stop final calls) :
    ∃ loads, final.world.2 = start.world.2 ++ loads ∧ Ends stop loads := by
  have nothing : Ends none [] := .well (by simp)
  induction run with
  | idle weaving => exact ⟨[], by simp, nothing⟩
  | chain _ _ before after =>
    obtain ⟨first, firstAdded, well⟩ := before
    obtain ⟨second, secondAdded, ends⟩ := after
    exact ⟨first ++ second, by rw [secondAdded, firstAdded, List.append_assoc], ends.after well⟩
  | met allowance known => exact ⟨[], by simp [Weaving.suppress], nothing⟩
  | cut fresh => exact ⟨[], by simp [Weaving.fail, Weaving.visit], nothing⟩
  | refused allowance fresh fetched single =>
    obtain ⟨load, added, ends⟩ := ends_of_fetch fetched
    simp only [stop?, single, if_true] at ends
    exact ⟨[load], added, ends⟩
  | stopped allowance fresh fetched whole =>
    obtain ⟨load, added, ends⟩ := ends_of_fetch fetched
    simp only [stop?, whole, Bool.false_eq_true, if_false] at ends
    exact ⟨[load], added, ends⟩
  | composed allowance text fresh loaded _ inner =>
    obtain ⟨load, added, well⟩ := ends_of_fetch loaded
    obtain ⟨later, addedLater, ends⟩ := inner
    exact ⟨[load] ++ later, by rw [addedLater, added, List.append_assoc]; rfl, ends.after well⟩
  | broken allowance fresh loaded _ whole inner =>
    obtain ⟨load, added, well⟩ := ends_of_fetch loaded
    obtain ⟨later, addedLater, ends⟩ := inner
    exact ⟨[load] ++ later, by rw [addedLater, added, List.append_assoc]; rfl, ends.after well⟩

end Composition

end RoleWeave
