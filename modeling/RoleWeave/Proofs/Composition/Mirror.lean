import RoleWeave.Proofs.Composition.Simulation

/-!
# Providers with more to their worlds

A provider may keep something beside its world, such as a record of what it is asked for. If it
loads as another provider does from the part of its world that the other one knows, it is a mirror
of that provider: every composition from it comes to the same outcome, makes the same calls and
leaves the same pass.
-/

namespace RoleWeave

/-- A provider does what another one does from a view of its world. -/
structure Provider.Mirrors {σ τ : Type} (other : Provider τ) (provider : Provider σ)
    (view : τ → σ) : Prop where
  ready : ∀ world, provider.ready.run (view world) =
    ((other.ready.run world).1, view (other.ready.run world).2)
  load : ∀ reference world, (provider.load reference).run (view world) =
    (((other.load reference).run world).1, view ((other.load reference).run world).2)

namespace Composition

variable {σ τ : Type} {provider : Provider σ} {other : Provider τ} {view : τ → σ}

/-- A weaving, and the same with more to its world. -/
def Beside (view : τ → σ) (weaving : Weaving σ) (wider : Weaving τ) : Prop :=
  wider.pass = weaving.pass ∧ view wider.world = weaving.world

/-- What fetching leaves in the world is what loading leaves in it. Reading what was loaded changes
    nothing. -/
theorem world_of_fetch (provider : Provider σ) (reference : Reference) (weaving : Weaving σ) :
    ((fetch provider reference).run weaving).2.world =
      ((provider.load reference).run weaving.world).2 := by
  rw [fetch_eq]
  rcases (provider.load reference).run weaving.world with ⟨fault | content, world⟩
  · rfl
  · dsimp only
    cases Document.parse content <;> rfl

/-- Fetching from a mirror comes to the same outcome and leaves the same world in view. What was
    loaded is the same on both sides, and is read in the same way. -/
theorem fetch_mirrored (mirrors : other.Mirrors provider view) (reference : Reference)
    {weaving : Weaving σ} {wider : Weaving τ} (beside : Beside view weaving wider) :
    ∃ outcome changed otherChanged,
      (fetch provider reference).run weaving = (outcome, changed) ∧
        (fetch other reference).run wider = (outcome, otherChanged) ∧
        Beside view changed otherChanged := by
  obtain ⟨samePass, sameWorld⟩ := beside
  have loaded := mirrors.load reference wider.world
  rw [sameWorld] at loaded
  rw [fetch_eq, fetch_eq, loaded]
  rcases (other.load reference).run wider.world with ⟨fault | content, world⟩
  · exact ⟨_, _, _, rfl, rfl, samePass, rfl⟩
  · dsimp only
    cases Document.parse content <;> exact ⟨_, _, _, rfl, rfl, samePass, rfl⟩

/-- Inlining from a mirror agrees with inlining.

    Proof: by induction on how deep references may still be nested. The passes are the same, so the
    reference is left out on both sides or on neither, and it is at the limit on both. Otherwise
    fetching comes to the same outcome. A fault is treated by its kind, and a content is woven on
    both sides with references that agree by induction. -/
theorem agrees_mirrored (mirrors : other.Mirrors provider view) (limit allowance : Nat)
    (reference : Reference) :
    Agrees (Beside view) Eq (inlineWithin provider limit allowance reference)
      (inlineWithin other limit allowance reference)
      (callsWithin provider limit allowance reference)
      (callsWithin other limit allowance reference) := by
  induction allowance generalizing reference with
  | zero =>
    rintro weaving wider ⟨samePass, sameWorld⟩
    by_cases known : weaving.pass.isVisited reference.key = true
    · obtain ⟨ran, calls⟩ := within_met provider limit 0 known
      obtain ⟨otherRan, otherCalls⟩ := within_met other limit 0 (samePass ▸ known)
      rw [calls, otherCalls, samePass]
      refine ⟨_, _, _, ran, otherRan, ⟨?_, sameWorld⟩, .cons rfl .nil⟩
      simp only [Weaving.suppress, samePass]
    · have fresh : weaving.pass.isVisited reference.key = false := by simpa using known
      obtain ⟨ran, calls⟩ := within_cut provider limit fresh
      obtain ⟨otherRan, otherCalls⟩ := within_cut other limit (samePass ▸ fresh)
      rw [calls, otherCalls, samePass]
      refine ⟨_, _, _, ran, otherRan, ⟨?_, sameWorld⟩, .cons rfl .nil⟩
      simp only [Weaving.fail, Weaving.visit, samePass]
  | succ allowance ih =>
    apply agrees_within (fun _ _ beside => beside.1.symm) _ _ (fun _ _ beside => beside)
      (fun _ _ _ => rfl)
    · rintro weaving wider beside _
      have visited : Beside view (weaving.visit reference.key) (wider.visit reference.key) :=
        ⟨by simp only [Weaving.visit, beside.1], beside.2⟩
      obtain ⟨outcome, changed, otherChanged, fetched, otherFetched, still⟩ :=
        fetch_mirrored mirrors reference visited
      exact ⟨outcome, changed, otherChanged, fetched, otherFetched, still,
        fun content _ => agrees_weave (fun nested _ _ => ih nested)⟩
    · rintro weaving wider ⟨samePass, sameWorld⟩
      exact ⟨by simp only [Weaving.suppress, samePass], sameWorld⟩
    · rintro weaving wider fault ⟨samePass, sameWorld⟩
      exact ⟨by simp only [Weaving.fail, samePass], sameWorld⟩

/-- A role is composed from a mirror as it is composed from the world that it shows, with the same
    calls.

    Proof: getting ready comes to the same on both sides. A fault ends both. Otherwise the passes
    begin side by side, and two references are composed in parallel as long as they do, which
    `corresponds_role` extends to the role and `agrees_tasks` to its calls. Corresponding results
    are equal, since faults are compared with all they say. -/
theorem role_mirrored (mirrors : other.Mirrors provider view) (limit : Nat) (info : RoleInfo)
    (document : Document) (world : τ) :
    (composeRole provider limit info document).run (view world) =
        (((composeRole other limit info document).run world).1,
          view ((composeRole other limit info document).run world).2) ∧
      roleCalls provider limit info document (view world) =
        roleCalls other limit info document world := by
  have readied := mirrors.ready world
  rcases answered : other.ready.run world with ⟨fault | _, ready⟩ <;> rw [answered] at readied
  · rw [composeRole, composeRole, Step.run_bind, Step.run_bind, roleCalls, roleCalls, readied,
      answered]
    exact ⟨rfl, rfl⟩
  · have beside : Beside view ⟨view ready, rolePass info⟩ ⟨ready, rolePass info⟩ := ⟨rfl, rfl⟩
    constructor
    · have each : ∀ reference : Reference, True → Parallel (Beside view) Eq (Inline.Matches Eq)
          (inlineAt provider limit 0 reference) (inlineAt other limit 0 reference) :=
        fun reference _ => (agrees_mirrored mirrors _ _ reference).parallel Inline.Matches.refl
      obtain ⟨corresponds, final, otherFinal, ⟨_, sameWorld⟩, left, otherLeft⟩ :=
        corresponds_role (fun _ => True) (fun _ _ => congrArg Fault.message) each
          (fun _ _ beside => beside.1.symm) (fun _ _ => trivial) readied answered beside
      refine Prod.ext (corresponds_eq_iff.mp corresponds) ?_
      rw [left, otherLeft, sameWorld]
    · obtain ⟨_, _, _, _, _, _, sameCalls⟩ :=
        agrees_tasks (agrees_mirrored mirrors limit) (roleTasks document) _ _ beside
      rw [roleCalls, roleCalls, readied, answered]
      exact List.forall₂_eq_eq_eq ▸ sameCalls

end Composition

end RoleWeave
