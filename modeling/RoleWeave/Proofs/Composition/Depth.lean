import Mathlib.Data.Finset.Card
import RoleWeave.Proofs.Composition.Accounting
import RoleWeave.Proofs.Composition.Steady
import RoleWeave.Proofs.Library.Faults

/-!
# The limit on depth

A composition nests references at most as deep as there are resources that its pass has not met: to
come to the content of one, a resource has to be met first, and what was met stays met. Where all
references lead to finitely many resources, a limit of that size or more is never reached, and so
compositions under any two such limits are the same.

The measure is `unspent`, the resources among finitely many that a pass has not met. Inside the
content of a reference it is smaller than at the reference, and a reference to one of these
resources at which it is empty is left out before the limit is looked at.
-/

namespace RoleWeave

namespace Composition

/-- The keys among finitely many that a pass has not met. -/
def unspent (keys : Finset Key) (pass : Pass) : Finset Key :=
  keys.filter (fun key => pass.isVisited key = false)

/-- Meeting a resource spends it, so that fewer are unspent than before. This is what bounds the
    depth of a composition by the number of its keys. -/
theorem card_unspent_visit {keys : Finset Key} {pass : Pass} {key : Key} (among : key ∈ keys)
    (fresh : pass.isVisited key = false) :
    (unspent keys (pass.visit key)).card < (unspent keys pass).card := by
  apply Finset.card_lt_card
  refine (Finset.ssubset_iff_of_subset ?_).mpr ⟨key, Finset.mem_filter.mpr ⟨among, fresh⟩, ?_⟩
  · intro tested member
    obtain ⟨inside, unmet⟩ := Finset.mem_filter.mp member
    rw [Pass.isVisited_visit, Bool.or_eq_false_iff] at unmet
    exact Finset.mem_filter.mpr ⟨inside, unmet.2⟩
  · intro member
    obtain ⟨_, unmet⟩ := Finset.mem_filter.mp member
    simp at unmet

/-- Where nothing is unspent, every one of the resources has been met. -/
theorem visited_of_unspent_zero {keys : Finset Key} {pass : Pass} {key : Key}
    (spent : (unspent keys pass).card = 0) (among : key ∈ keys) : pass.isVisited key = true := by
  cases known : pass.isVisited key with
  | true => rfl
  | false =>
    have member : key ∈ unspent keys pass := Finset.mem_filter.mpr ⟨among, known⟩
    rw [Finset.card_eq_zero.mp spent] at member
    cases member

/-- The same weaving, in a world in which the provider is steady, with no more unspent than a
    bound. -/
def Spending {σ : Type} (Settled : σ → Prop) (keys : Finset Key) (bound : Nat)
    (weaving other : Weaving σ) : Prop :=
  weaving = other ∧ Settled weaving.world ∧ (unspent keys weaving.pass).card ≤ bound

end Composition

/-- The limit on depth does not decide what the call comes to: its resource had been met, or it
    stands above the limit. -/
def Call.Above (call : Call) : Prop :=
  call.met = true ∨ 0 < call.allowance

namespace Composition

section Depth

variable {σ : Type} {provider : Provider σ} {Settled : σ → Prop}
  {answer : Reference → Except Fault Text} {keys : Finset Key}

/-- Under two limits that leave as much room as is unspent, inlining is the same, and all its calls
    are above the limit.

    Proof: by induction on the room. Without room every key is spent, so the resource was met and
    the reference is left out under both limits. With room, a resource that was met is left out as
    well, and meeting another one spends its key. What it loads is the same under both limits; its
    content refers to keys among those in question, and for them there is less unspent and one less
    of room. -/
theorem agrees_deep (steady : provider.Steady Settled answer)
    (closed : ∀ reference, reference.key ∈ keys → ∀ content,
      fetched answer reference = .ok content → ∀ nested ∈ inlined content, nested.key ∈ keys)
    {limit otherLimit allowance otherAllowance : Nat} (room : Nat) (enough : room ≤ allowance)
    (otherEnough : room ≤ otherAllowance) (reference : Reference) (among : reference.key ∈ keys) :
    Agrees (Spending Settled keys room) (fun call _ => call.Above)
      (inlineWithin provider limit allowance reference)
      (inlineWithin provider otherLimit otherAllowance reference)
      (callsWithin provider limit allowance reference)
      (callsWithin provider otherLimit otherAllowance reference) := by
  induction room generalizing allowance otherAllowance reference with
  | zero =>
    rintro weaving _ ⟨rfl, settled, spent⟩
    have known : weaving.pass.isVisited reference.key = true :=
      visited_of_unspent_zero (Nat.le_zero.mp spent) among
    obtain ⟨ran, calls⟩ := within_met provider limit allowance known
    obtain ⟨otherRan, otherCalls⟩ := within_met provider otherLimit otherAllowance known
    rw [calls, otherCalls]
    exact ⟨_, _, _, ran, otherRan, ⟨rfl, settled, spent⟩, .cons (.inl known) .nil⟩
  | succ room ih =>
    obtain ⟨lower, rfl⟩ : ∃ lower, allowance = lower + 1 := ⟨allowance - 1, by omega⟩
    obtain ⟨otherLower, rfl⟩ : ∃ lower, otherAllowance = lower + 1 :=
      ⟨otherAllowance - 1, by omega⟩
    have left : ∀ weaving other, Spending Settled keys room weaving other →
        Spending Settled keys (room + 1) weaving other := by
      rintro weaving _ ⟨rfl, settled, spent⟩
      exact ⟨rfl, settled, Nat.le_succ_of_le spent⟩
    refine agrees_within ?_ ?_ ?_ left (fun _ _ _ => .inr (Nat.succ_pos lower)) ?_
    · rintro weaving _ ⟨rfl, _, _⟩
      rfl
    · rintro weaving _ ⟨rfl, settled, spent⟩
      exact ⟨rfl, settled, spent⟩
    · rintro weaving _ fault ⟨rfl, settled, spent⟩
      exact ⟨rfl, settled, spent⟩
    · rintro weaving _ ⟨rfl, settled, spent⟩ fresh
      obtain ⟨world, stays, ran⟩ :=
        fetch_of_steady steady (weaving.visit reference.key) settled reference
      have spends : (unspent keys (weaving.pass.visit reference.key)).card ≤ room := by
        have less := card_unspent_visit among fresh
        omega
      refine ⟨_, _, _, ran, ran, ⟨rfl, stays, spends⟩, ?_⟩
      intro content comes
      refine agrees_weave (fun nested member inlines => ?_)
      exact ih (by omega) (by omega) nested
        (closed reference among content comes nested (mem_inlined member inlines))

/-- Composing a block under two limits that leave as much room as is unspent is the same, and all
    its calls are above the limit. Each of its references is inlined as `agrees_deep` says. -/
theorem agrees_block (steady : provider.Steady Settled answer)
    (closed : ∀ reference, reference.key ∈ keys → ∀ content,
      fetched answer reference = .ok content → ∀ nested ∈ inlined content, nested.key ∈ keys)
    {block : Block} (covered : ∀ reference ∈ inlined block.text, reference.key ∈ keys)
    {limit otherLimit room : Nat} (enough : room ≤ limit) (otherEnough : room ≤ otherLimit) :
    Agrees (Spending Settled keys room) (fun call _ => call.Above)
      (composeBlock provider limit block) (composeBlock provider otherLimit block)
      (blockCalls provider limit block) (blockCalls provider otherLimit block) := by
  refine agrees_weave (fun reference member inlines => ?_)
  exact agrees_deep steady closed room (by omega) (by omega) reference
    (covered reference (mem_inlined member inlines))

end Depth

/-- That a document cannot be read is not a matter of depth, so fetching is none if loading is
    not. -/
theorem shallow_fetched {answer : Reference → Except Fault Text} {reference : Reference}
    (loads : Shallow (answer reference)) : Shallow (fetched answer reference) := by
  unfold fetched
  split
  · rename_i fault found
    exact .error (loads fault found)
  · split
    · exact .ok _
    · rename_i fault unread
      unfold Document.parse at unread
      split at unread
      · cases unread
      · cases unread
        exact .error rfl

/-- The pass alone bounds the nesting of references. Let all references of a block lead to finitely
    many keys, directly or through the contents of their resources. With a limit on depth that is no
    smaller than the number of these keys that the pass has not met, no call is decided by the
    limit: every failure has the cause with which the failing reference itself is loaded or parsed,
    which is not about depth unless a protocol says so of its own accord. Under any other such limit
    the composition has the same result and leaves the same pass.

    Proof: a library whose registry is ready answers the same whenever it is asked, so it is a
    steady provider and `agrees_block` applies, with the limit on one side and itself or another one
    on the other. The calls above the limit that failed did so by fetching, as `Steady` knows. The
    failures are recorded in the order of the calls because every run is accounted for. -/
theorem depth_never_binds {library : Library} (ready : library.registry.index.isSome = true)
    (block : Block) (pass : Pass) (keys : Finset Key)
    (covered : ∀ reference ∈ inlined block.text, reference.key ∈ keys)
    (closed : ∀ key ∈ keys, ∀ content,
      Library.provider.answerIn library (Reference.plain key.protocol key.id) = .ok content →
      ∀ reference ∈ inlined content, reference.key ∈ keys)
    (limit : Nat) (enough : (unspent keys pass).card ≤ limit) :
    (∀ call ∈ blockCalls Library.provider limit block ⟨library, pass⟩,
      call.Above ∧ ∀ fault, call.outcome = .ok (.failed fault) →
        (∃ cause, fetched (Library.provider.answerIn library) call.reference = .error cause ∧
          fault = cause.attach call.reference.render) ∧
        (library.Depthless → fault.aboutDepth = false)) ∧
    ((composeBlock Library.provider limit block).run ⟨library, pass⟩).2.pass.failures =
      pass.failures ++
        (blockCalls Library.provider limit block ⟨library, pass⟩).filterMap Call.failure? ∧
    ∀ other, (unspent keys pass).card ≤ other →
      (composeBlock Library.provider other block).run ⟨library, pass⟩ =
        (composeBlock Library.provider limit block).run ⟨library, pass⟩ := by
  obtain ⟨settled, settles, sameTable⟩ :
      ∃ settled, Library.Settles library settled ∧ settled.table = library.table :=
    ⟨_, Library.settles_of_ready ready, rfl⟩
  have steady := Library.steady_of_settles settles
  have closedHere : ∀ reference, reference.key ∈ keys → ∀ content,
      fetched (Library.provider.answerIn library) reference = .ok content →
      ∀ nested ∈ inlined content, nested.key ∈ keys := by
    intro reference among content comes
    refine closed reference.key among content ?_
    have loaded := answer_of_fetched comes
    rw [Library.answerIn_of_settles settles] at loaded ⊢
    exact loaded ▸ settled.answer_key rfl
  have spending : Spending (fun world => Library.Settles world settled) keys
      (unspent keys pass).card ⟨library, pass⟩ ⟨library, pass⟩ := ⟨rfl, settles, Nat.le_refl _⟩
  have run := run_block Library.provider limit block ⟨library, pass⟩
  refine ⟨?_, run.accounted.failures, ?_⟩
  · intro call member
    obtain ⟨_, _, _, _, _, _, same⟩ :=
      agrees_block steady closedHere covered enough enough _ _ spending
    have above : call.Above := List.forall₂_same.mp same call member
    refine ⟨above, fun fault failed => ?_⟩
    obtain ⟨cause, comes, same⟩ :=
      ((run.follows steady settles).1 call member).cause above failed
    refine ⟨⟨cause, comes, same⟩, fun depthless => ?_⟩
    have depthlessToo : settled.Depthless := by
      intro name other
      rw [sameTable]
      exact depthless name other
    rw [same, Fault.aboutDepth_attach]
    rw [Library.answerIn_of_settles settles] at comes
    exact shallow_fetched (Library.shallow_answer depthlessToo call.reference) cause comes
  · intro other room
    obtain ⟨_, _, _, ran, otherRan, ⟨same, _, _⟩, _⟩ :=
      agrees_block steady closedHere covered enough room _ _ spending
    rw [ran, otherRan, same]

/-- Two documents that refer to each other. -/
def mutualPair : Library :=
  Library.ofFiles "doc".toList
    [("a".toList, "A @doc://b".toList), ("b".toList, "B @doc://a".toList)]

/-- Under any limit of at least two, the documents that refer to each other are composed alike: each
    is shown once, and the reference back to the first is left out.

    Two is the number of their keys. That these are closed under reference is checked document by
    document, and the runs under the limit two are computed. -/
theorem mutual_alike :
    ((composeBlock Library.provider 2 ⟨.knowledge, "@doc://a".toList⟩).run
        ⟨mutualPair, Pass.new⟩).1 = .ok "A B".toList ∧
      ((composeBlock Library.provider 2 ⟨.knowledge, "@doc://a".toList⟩).run
        ⟨mutualPair, Pass.new⟩).2.pass.suppressed = [⟨"doc".toList, "a".toList⟩] ∧
      ∀ other, 2 ≤ other →
        (composeBlock Library.provider other ⟨.knowledge, "@doc://a".toList⟩).run
            ⟨mutualPair, Pass.new⟩ =
          (composeBlock Library.provider 2 ⟨.knowledge, "@doc://a".toList⟩).run
            ⟨mutualPair, Pass.new⟩ := by
  have keyOf : ∀ key ∈ ({⟨"doc".toList, "a".toList⟩, ⟨"doc".toList, "b".toList⟩} : Finset Key),
      key = ⟨"doc".toList, "a".toList⟩ ∨ key = ⟨"doc".toList, "b".toList⟩ := by simp
  have closed : ∀ key ∈ ({⟨"doc".toList, "a".toList⟩, ⟨"doc".toList, "b".toList⟩} : Finset Key),
      ∀ content,
      Library.provider.answerIn mutualPair (Reference.plain key.protocol key.id) = .ok content →
      ∀ reference ∈ inlined content,
        reference.key ∈ ({⟨"doc".toList, "a".toList⟩, ⟨"doc".toList, "b".toList⟩} : Finset Key) := by
    intro key among content loaded
    rcases keyOf key among with rfl | rfl
    · have known : content = "A @doc://b".toList := by
        cases loaded
        rfl
      subst known
      decide
    · have known : content = "B @doc://a".toList := by
        cases loaded
        rfl
      subst known
      decide
  obtain ⟨_, _, alike⟩ := @depth_never_binds mutualPair rfl
    ⟨.knowledge, "@doc://a".toList⟩ Pass.new
    {⟨"doc".toList, "a".toList⟩, ⟨"doc".toList, "b".toList⟩} (by decide) closed 2 (by decide)
  exact ⟨by decide +kernel, by decide +kernel,
    fun other enough => alike other (Nat.le_trans (by decide) enough)⟩

end Composition

end RoleWeave
