import RoleWeave.Proofs.Composition.Call
import RoleWeave.Proofs.Library.Settled

/-!
# Compositions from a steady provider

A provider is steady in some worlds if it answers alike in all of them and never leaves them. What a
call of a composition comes to is then known from its reference, from whether its resource was met,
and from how deep it stands: `Call.Follows` says how, and `Run.follows` says that every call follows.

A library that settles is steady from the first load on.
-/

namespace RoleWeave

variable {σ : Type}

namespace Provider

/-- What loading a reference comes to in a world. -/
def answerIn (provider : Provider σ) (world : σ) (reference : Reference) : Except Fault Text :=
  ((provider.load reference).run world).1

/-- In some worlds, which it does not leave, a provider gives the same answers. -/
structure Steady (provider : Provider σ) (Settled : σ → Prop)
    (answer : Reference → Except Fault Text) : Prop where
  answers : ∀ world reference, Settled world → provider.answerIn world reference = answer reference
  stays : ∀ world reference, Settled world → Settled ((provider.load reference).run world).2

end Provider

namespace Library

/-- A library that settles answers from the library that it settles to. -/
theorem answerIn_of_settles {library settled : Library} (settles : Settles library settled) :
    provider.answerIn library = settled.answer := by
  funext reference
  rw [Provider.answerIn, load_of_settles settles]

/-- The libraries that settle to the same library are steady. Each of them answers as the settled
    one does and settles to it again. -/
theorem steady_of_settles {library settled : Library} (settles : Settles library settled) :
    provider.Steady (fun world => Settles world settled) (provider.answerIn library) where
  answers := by
    intro world reference reaches
    rw [answerIn_of_settles settles, answerIn_of_settles reaches]
  stays := by
    intro world reference reaches
    rw [load_of_settles reaches]
    exact reaches.again

end Library

namespace Composition

/-- What fetching a reference comes to, given what loading one comes to. -/
def fetched (answer : Reference → Except Fault Text) (reference : Reference) :
    Except Fault Text :=
  match answer reference with
  | .error fault => .error fault
  | .ok content =>
      match Document.parse content with
      | .ok _ => .ok content
      | .error fault => .error (.unresolved reference.render fault)

/-- The content that a steady provider comes to is one that it loads, since fetching changes no
    content. -/
theorem answer_of_fetched {answer : Reference → Except Fault Text} {reference : Reference}
    {content : Text} (comes : fetched answer reference = .ok content) :
    answer reference = .ok content := by
  unfold fetched at comes
  split at comes
  · cases comes
  · rename_i loaded found
    split at comes
    · cases comes
      exact found
    · cases comes

end Composition

namespace Call

/-- A call comes to what its reference, its pass and its depth demand. -/
structure Follows (answer : Reference → Except Fault Text) (limit : Nat) (call : Call) : Prop where
  again : call.met = true → call.outcome = .ok .suppressed
  cut : call.met = false → call.allowance = 0 →
    call.outcome =
      .ok (.failed (.unresolved call.reference.render (.depthExceeded limit)))
  refused : ∀ fault, call.loads = true →
    Composition.fetched answer call.reference = .error fault →
    call.outcome =
      if fault.isLocal then .ok (.failed (fault.attach call.reference.render)) else .error fault
  composed : ∀ content, call.loads = true →
    Composition.fetched answer call.reference = .ok content →
    call.source = some content ∧
      ((∃ text, call.outcome = .ok (.content text)) ∨
        ∃ fault, fault.isLocal = false ∧ call.outcome = .error fault)

/-- A call that failed above the limit on depth failed as fetching its reference does.

    Proof: the call did not leave its reference out, so its resource was unmet and it asked for it.
    If fetching gives a fault, the outcome is that fault with the reference attached. If it gives
    content, the call came to a text or was ended, and it did not fail. -/
theorem Follows.cause {answer : Reference → Except Fault Text} {limit : Nat} {call : Call}
    (follows : call.Follows answer limit) (above : call.met = true ∨ 0 < call.allowance)
    {fault : Fault} (failed : call.outcome = .ok (.failed fault)) :
    ∃ cause, Composition.fetched answer call.reference = .error cause ∧
      fault = cause.attach call.reference.render := by
  cases known : call.met with
  | true =>
    rw [follows.again known] at failed
    cases failed
  | false =>
    have loads : call.loads = true := by
      have positive : 0 < call.allowance := by simpa [known] using above
      simp [loads, known, positive]
    cases comes : Composition.fetched answer call.reference with
    | error cause =>
      have outcome := follows.refused cause loads comes
      rw [failed] at outcome
      split at outcome
      · cases outcome
        exact ⟨cause, rfl, rfl⟩
      · cases outcome
    | ok content =>
      obtain ⟨_, ⟨text, outcome⟩ | ⟨other, _, outcome⟩⟩ := follows.composed content loads comes
      · rw [failed] at outcome
        cases outcome
      · rw [failed] at outcome
        cases outcome

end Call

namespace Composition

section Steady

variable {provider : Provider σ} {Settled : σ → Prop} {answer : Reference → Except Fault Text}
  {limit : Nat}

/-- Fetching from a steady provider comes to what its answers demand, and leaves the world among
    those in which it is steady. -/
theorem fetch_of_steady (steady : provider.Steady Settled answer) (weaving : Weaving σ)
    (settled : Settled weaving.world) (reference : Reference) :
    ∃ world, Settled world ∧
      (fetch provider reference).run weaving =
        (fetched answer reference, { weaving with world := world }) := by
  have answers := steady.answers weaving.world reference settled
  have stays := steady.stays weaving.world reference settled
  rw [fetch_eq, fetched, ← answers, Provider.answerIn]
  rcases loaded : (provider.load reference).run weaving.world with ⟨fault | content, world⟩
  · rw [loaded] at stays
    exact ⟨world, stays, rfl⟩
  · rw [loaded] at stays
    simp only
    cases Document.parse content <;> exact ⟨world, stays, rfl⟩

/-- What a fetch from a steady provider came to and left. The pass has no part in it. -/
theorem fetched_of_steady (steady : provider.Steady Settled answer) {weaving changed : Weaving σ}
    {reference : Reference} {outcome : Except Fault Text} (settled : Settled weaving.world)
    (ran : (fetch provider reference).run (weaving.visit reference.key) = (outcome, changed)) :
    fetched answer reference = outcome ∧ Settled changed.world := by
  obtain ⟨world, stays, known⟩ :=
    fetch_of_steady steady (weaving.visit reference.key) settled reference
  rw [ran] at known
  cases known
  exact ⟨rfl, stays⟩

/-- Every call of a run follows the answers of a steady provider, and the run stays among the worlds
    in which it is steady.

    Proof: by induction on the run. A call that finds its resource met and one at the limit do not
    ask the provider. A fetch comes to what the answers demand by `fetched_of_steady`, whether the
    call fails by it, is ended by it or composes the content; the calls nested in a call follow by
    induction. -/
theorem Run.follows (steady : provider.Steady Settled answer) {start final : Weaving σ}
    {stop : Option Fault} {calls : List Call}
    (run : Run provider limit start stop final calls) (settled : Settled start.world) :
    (∀ call ∈ calls, call.Follows answer limit) ∧ Settled final.world := by
  induction run with
  | idle weaving => exact ⟨by simp, settled⟩
  | chain _ _ before after =>
    obtain ⟨first, reached⟩ := before settled
    obtain ⟨second, ended⟩ := after reached
    exact ⟨List.forall_mem_append.mpr ⟨first, second⟩, ended⟩
  | @met weaving reference allowance known =>
    have again : (Call.mk reference allowance weaving.pass none (.ok .suppressed)).met = true :=
      known
    refine ⟨List.forall_mem_singleton.mpr ?_, settled⟩
    constructor <;> simp [again, Call.loads]
  | @cut weaving reference fresh =>
    refine ⟨List.forall_mem_singleton.mpr ?_, settled⟩
    constructor <;> simp [Call.met, Call.key, fresh, Call.loads]
  | @refused weaving changed reference fault allowance fresh ran single =>
    obtain ⟨comes, stays⟩ := fetched_of_steady steady settled ran
    refine ⟨List.forall_mem_singleton.mpr ?_, stays⟩
    constructor <;> simp [Call.met, Call.key, fresh, comes, single]
  | @stopped weaving changed reference fault allowance fresh ran whole =>
    obtain ⟨comes, stays⟩ := fetched_of_steady steady settled ran
    refine ⟨List.forall_mem_singleton.mpr ?_, stays⟩
    constructor <;> simp [Call.met, Call.key, fresh, comes, whole]
  | @composed weaving entered final reference content nested allowance text fresh ran _ ih =>
    obtain ⟨comes, stays⟩ := fetched_of_steady steady settled ran
    obtain ⟨deeper, ended⟩ := ih stays
    refine ⟨List.forall_mem_cons.mpr ⟨?_, deeper⟩, ended⟩
    constructor <;> simp [Call.met, Call.key, fresh, comes]
  | @broken weaving entered final reference content fault nested allowance fresh ran _ whole ih =>
    obtain ⟨comes, stays⟩ := fetched_of_steady steady settled ran
    obtain ⟨deeper, ended⟩ := ih stays
    refine ⟨List.forall_mem_cons.mpr ⟨?_, deeper⟩, ended⟩
    constructor <;> simp [Call.met, Call.key, fresh, comes, whole]

end Steady

end Composition

end RoleWeave
