import RoleWeave.Proofs.Composition.Correspondence

/-!
# Compositions that agree

Two compositions can be run side by side: with two providers, or with two limits on depth. They
agree if they come to the same outcomes, leave weavings that are related again, and make calls that
correspond to each other one by one. Agreement is kept by weaving pieces and by the guard around a
reference, so it has to be shown for fetching alone.
-/

namespace RoleWeave.Composition

variable {σ τ : Type}

/-- Two steps, with their calls, come to the same outcome from related weavings, leave related
    weavings and make corresponding calls. -/
def Agrees {α : Type} (Related : Weaving σ → Weaving τ → Prop) (Same : Call → Call → Prop)
    (first : Step (Weaving σ) α) (second : Step (Weaving τ) α)
    (firstCalls : Weaving σ → List Call) (secondCalls : Weaving τ → List Call) : Prop :=
  ∀ weaving other, Related weaving other →
    ∃ outcome changed otherChanged,
      first.run weaving = (outcome, changed) ∧ second.run other = (outcome, otherChanged) ∧
        Related changed otherChanged ∧
        List.Forall₂ Same (firstCalls weaving) (secondCalls other)

/-- Weaving the same pieces agrees if inlining each of their references does.

    Proof: by induction on the pieces. Prose and pointers are no steps. For a reference that is
    inlined, both sides come to the same outcome and make corresponding calls; if it is a fault,
    both end there, and otherwise the later pieces agree from the weavings that it has left, and
    their calls follow. -/
theorem agrees_weave {Related : Weaving σ → Weaving τ → Prop} {Same : Call → Call → Prop}
    {inline : Reference → Step (Weaving σ) Inline} {calls : Reference → Weaving σ → List Call}
    {otherInline : Reference → Step (Weaving τ) Inline}
    {otherCalls : Reference → Weaving τ → List Call} {text : List Piece}
    (each : ∀ reference, Piece.reference reference ∈ text → reference.loading.inlines = true →
      Agrees Related Same (inline reference) (otherInline reference) (calls reference)
        (otherCalls reference)) :
    Agrees Related Same (weave inline text) (weave otherInline text)
      (weaveCalls inline calls text) (weaveCalls otherInline otherCalls text) := by
  induction text with
  | nil => exact fun weaving other related => ⟨.ok [], weaving, other, rfl, rfl, related, .nil⟩
  | cons piece later ih =>
    have rest := ih (fun reference member => each reference (List.mem_cons_of_mem piece member))
    intro weaving other related
    cases piece with
    | prose c =>
      obtain ⟨outcome, changed, otherChanged, ran, otherRan, stillRelated, sameCalls⟩ :=
        rest weaving other related
      rw [run_weave_prose, run_weave_prose, ran, otherRan]
      cases outcome <;> exact ⟨_, _, _, rfl, rfl, stillRelated, sameCalls⟩
    | reference reference =>
      by_cases inlines : reference.loading.inlines = true
      · obtain ⟨outcome, changed, otherChanged, ran, otherRan, stillRelated, sameCalls⟩ :=
          each reference (by simp) inlines weaving other related
        rw [run_weave_reference inline inlines, run_weave_reference otherInline inlines]
        simp only [weaveCalls, inlines, if_true, ran, otherRan]
        cases outcome with
        | error fault =>
          exact ⟨_, _, _, rfl, rfl, stillRelated, List.rel_append sameCalls .nil⟩
        | ok shown =>
          obtain ⟨text, final, otherFinal, woven, otherWoven, finallyRelated, sameLater⟩ :=
            rest changed otherChanged stillRelated
          simp only [woven, otherWoven]
          cases text <;>
            exact ⟨_, _, _, rfl, rfl, finallyRelated, List.rel_append sameCalls sameLater⟩
      · have pointer : reference.loading.inlines = false := by simpa using inlines
        obtain ⟨outcome, changed, otherChanged, ran, otherRan, stillRelated, sameCalls⟩ :=
          rest weaving other related
        rw [run_weave_pointer inline pointer, run_weave_pointer otherInline pointer, ran, otherRan]
        simp only [weaveCalls, pointer, Bool.false_eq_true, if_false]
        cases outcome <;> exact ⟨_, _, _, rfl, rfl, stillRelated, sameCalls⟩

/-- Inlining the same reference above the limit agrees if fetching its content does, with `Inside`
    relating the weavings while that content is composed.

    Proof: the passes are the same, so both sides have met the resource or neither has. If they
    have, both leave the reference out. If not, both fetch, and come to the same outcome. A fault
    that belongs to the reference is recorded on both sides, and any other ends both. A content is
    composed on both sides, which agrees by assumption; what is behind it depends on the outcome
    alone, and the call for the reference comes before the calls of the content on both sides. -/
theorem agrees_within {Related Inside : Weaving σ → Weaving τ → Prop}
    {Same : Call → Call → Prop} {provider : Provider σ} {otherProvider : Provider τ}
    {limit otherLimit allowance otherAllowance : Nat} {reference : Reference}
    (samePass : ∀ weaving other, Related weaving other → weaving.pass = other.pass)
    (skipped : ∀ weaving other, Related weaving other →
      Related (weaving.suppress reference.key) (other.suppress reference.key))
    (recorded : ∀ weaving other fault, Related weaving other →
      Related (weaving.fail reference fault) (other.fail reference fault))
    (left : ∀ weaving other, Inside weaving other → Related weaving other)
    (similar : ∀ before source outcome,
      Same ⟨reference, allowance + 1, before, source, outcome⟩
        ⟨reference, otherAllowance + 1, before, source, outcome⟩)
    (fetched : ∀ weaving other, Related weaving other →
      weaving.pass.isVisited reference.key = false →
      ∃ outcome changed otherChanged,
        (fetch provider reference).run (weaving.visit reference.key) = (outcome, changed) ∧
        (fetch otherProvider reference).run (other.visit reference.key) =
          (outcome, otherChanged) ∧
        Inside changed otherChanged ∧
        ∀ content, outcome = .ok content →
          Agrees Inside Same
            (weave (inlineWithin provider limit allowance) (pieces content))
            (weave (inlineWithin otherProvider otherLimit otherAllowance) (pieces content))
            (weaveCalls (inlineWithin provider limit allowance)
              (callsWithin provider limit allowance) (pieces content))
            (weaveCalls (inlineWithin otherProvider otherLimit otherAllowance)
              (callsWithin otherProvider otherLimit otherAllowance) (pieces content))) :
    Agrees Related Same (inlineWithin provider limit (allowance + 1) reference)
      (inlineWithin otherProvider otherLimit (otherAllowance + 1) reference)
      (callsWithin provider limit (allowance + 1) reference)
      (callsWithin otherProvider otherLimit (otherAllowance + 1) reference) := by
  intro weaving other related
  have pass : weaving.pass = other.pass := samePass weaving other related
  by_cases known : weaving.pass.isVisited reference.key = true
  · obtain ⟨ran, calls⟩ := within_met provider limit (allowance + 1) known
    obtain ⟨otherRan, otherCalls⟩ :=
      within_met otherProvider otherLimit (otherAllowance + 1) (pass ▸ known)
    rw [calls, otherCalls, ← pass]
    exact ⟨_, _, _, ran, otherRan, skipped weaving other related, .cons (similar _ _ _) .nil⟩
  · have fresh : weaving.pass.isVisited reference.key = false := by simpa using known
    have otherFresh : other.pass.isVisited reference.key = false := pass ▸ fresh
    obtain ⟨outcome, changed, otherChanged, loaded, otherLoaded, inside, nested⟩ :=
      fetched weaving other related fresh
    cases outcome with
    | error fault =>
      by_cases single : fault.isLocal = true
      · obtain ⟨ran, calls⟩ := within_refused allowance fresh loaded single
        obtain ⟨otherRan, otherCalls⟩ :=
          within_refused otherAllowance otherFresh otherLoaded single
        rw [calls, otherCalls, ← pass]
        exact ⟨_, _, _, ran, otherRan, recorded _ _ _ (left _ _ inside),
          .cons (similar _ _ _) .nil⟩
      · have whole : fault.isLocal = false := by simpa using single
        obtain ⟨ran, calls⟩ := within_stopped allowance fresh loaded whole
        obtain ⟨otherRan, otherCalls⟩ :=
          within_stopped otherAllowance otherFresh otherLoaded whole
        rw [calls, otherCalls, ← pass]
        exact ⟨_, _, _, ran, otherRan, left _ _ inside, .cons (similar _ _ _) .nil⟩
    | ok content =>
      obtain ⟨text, final, otherFinal, woven, otherWoven, stillInside, sameCalls⟩ :=
        nested content rfl changed otherChanged inside
      cases text with
      | error fault =>
        obtain ⟨_, ran, calls⟩ := within_broken allowance fresh loaded woven
        obtain ⟨_, otherRan, otherCalls⟩ :=
          within_broken otherAllowance otherFresh otherLoaded otherWoven
        rw [calls, otherCalls, ← pass]
        exact ⟨_, _, _, ran, otherRan, left _ _ stillInside, .cons (similar _ _ _) sameCalls⟩
      | ok text =>
        obtain ⟨ran, calls⟩ := within_composed allowance fresh loaded woven
        obtain ⟨otherRan, otherCalls⟩ :=
          within_composed otherAllowance otherFresh otherLoaded otherWoven
        rw [calls, otherCalls, ← pass]
        exact ⟨_, _, _, ran, otherRan, left _ _ stillInside, .cons (similar _ _ _) sameCalls⟩

/-- Steps that agree do so also where they are taken for their effect only. Whether one came to a
    value stays the same. -/
theorem agrees_discard {α : Type} {Related : Weaving σ → Weaving τ → Prop}
    {Same : Call → Call → Prop} {first : Step (Weaving σ) α} {second : Step (Weaving τ) α}
    {firstCalls : Weaving σ → List Call} {secondCalls : Weaving τ → List Call}
    (agrees : Agrees Related Same first second firstCalls secondCalls) :
    Agrees Related Same (discard first) (discard second) firstCalls secondCalls := by
  intro weaving other related
  obtain ⟨outcome, changed, otherChanged, ran, otherRan, stillRelated, sameCalls⟩ :=
    agrees weaving other related
  rw [discard, discard, Step.run_map, Step.run_map, ran, otherRan]
  cases outcome <;> exact ⟨_, _, _, rfl, rfl, stillRelated, sameCalls⟩

section Tasks

variable {Related : Weaving σ → Weaving τ → Prop} {Same : Call → Call → Prop}
  {provider : Provider σ} {otherProvider : Provider τ} {limit : Nat}

/-- Tasks agree if inlining does. To compose a block is to weave its pieces, which makes no calls
    but those of its references. -/
theorem agrees_task
    (each : ∀ allowance reference, Agrees Related Same
      (inlineWithin provider limit allowance reference)
      (inlineWithin otherProvider limit allowance reference)
      (callsWithin provider limit allowance reference)
      (callsWithin otherProvider limit allowance reference))
    (task : Task) :
    Agrees Related Same (perform provider limit task) (perform otherProvider limit task)
      (taskCalls provider limit task) (taskCalls otherProvider limit task) := by
  cases task with
  | block block => exact agrees_discard (agrees_weave (fun reference _ _ => each _ reference))
  | inline depth reference => exact agrees_discard (each _ reference)

/-- Tasks one after another agree if inlining does. By induction on the tasks, of which the first
    that ends with a fault does so on both sides. -/
theorem agrees_tasks
    (each : ∀ allowance reference, Agrees Related Same
      (inlineWithin provider limit allowance reference)
      (inlineWithin otherProvider limit allowance reference)
      (callsWithin provider limit allowance reference)
      (callsWithin otherProvider limit allowance reference))
    (tasks : List Task) :
    Agrees Related Same (performAll provider limit tasks) (performAll otherProvider limit tasks)
      (allCalls provider limit tasks) (allCalls otherProvider limit tasks) := by
  induction tasks with
  | nil => exact fun weaving other related => ⟨.ok (), weaving, other, rfl, rfl, related, .nil⟩
  | cons task later ih =>
    intro weaving other related
    obtain ⟨outcome, changed, otherChanged, ran, otherRan, stillRelated, sameCalls⟩ :=
      agrees_task each task weaving other related
    simp only [performAll, Step.run_bind, allCalls, ran, otherRan]
    cases outcome with
    | error fault => exact ⟨_, _, _, rfl, rfl, stillRelated, List.rel_append sameCalls .nil⟩
    | ok _ =>
      obtain ⟨ended, final, otherFinal, made, otherMade, finallyRelated, sameLater⟩ :=
        ih changed otherChanged stillRelated
      exact ⟨ended, final, otherFinal, made, otherMade, finallyRelated,
        List.rel_append sameCalls sameLater⟩

/-- Sessions leave related weavings and make corresponding calls if inlining agrees, and marking a
    resource as met relates weavings that were related. A session goes on after a fault, with what
    the task has left on each side. -/
theorem agrees_session
    (each : ∀ allowance reference, Agrees Related Same
      (inlineWithin provider limit allowance reference)
      (inlineWithin otherProvider limit allowance reference)
      (callsWithin provider limit allowance reference)
      (callsWithin otherProvider limit allowance reference))
    (visited : ∀ weaving other key, Related weaving other →
      Related (weaving.visit key) (other.visit key))
    (requests : List Request) {weaving : Weaving σ} {other : Weaving τ}
    (related : Related weaving other) :
    Related (session provider limit requests weaving)
        (session otherProvider limit requests other) ∧
      List.Forall₂ Same (sessionCalls provider limit requests weaving)
        (sessionCalls otherProvider limit requests other) := by
  induction requests generalizing weaving other with
  | nil => exact ⟨related, .nil⟩
  | cons request later ih =>
    cases request with
    | visit key => exact ih (visited weaving other key related)
    | compose task =>
      obtain ⟨outcome, changed, otherChanged, ran, otherRan, stillRelated, sameCalls⟩ :=
        agrees_task each task weaving other related
      obtain ⟨finallyRelated, sameLater⟩ := ih stillRelated
      simp only [session, sessionCalls, serve, requestCalls, ran, otherRan]
      exact ⟨finallyRelated, List.rel_append sameCalls sameLater⟩

end Tasks

/-- Two steps come to the same outcome from related weavings and leave related weavings. -/
def Alike {α : Type} (Related : Weaving σ → Weaving τ → Prop) (first : Step (Weaving σ) α)
    (second : Step (Weaving τ) α) : Prop :=
  ∀ weaving other, Related weaving other →
    ∃ outcome changed otherChanged,
      first.run weaving = (outcome, changed) ∧ second.run other = (outcome, otherChanged) ∧
        Related changed otherChanged

/-- Steps that agree are alike. What is said of their calls is left out. -/
theorem Agrees.alike {α : Type} {Related : Weaving σ → Weaving τ → Prop}
    {Same : Call → Call → Prop} {first : Step (Weaving σ) α} {second : Step (Weaving τ) α}
    {firstCalls : Weaving σ → List Call} {secondCalls : Weaving τ → List Call}
    (agrees : Agrees Related Same first second firstCalls secondCalls) :
    Alike Related first second := by
  intro weaving other related
  obtain ⟨outcome, changed, otherChanged, ran, otherRan, stillRelated, _⟩ :=
    agrees weaving other related
  exact ⟨outcome, changed, otherChanged, ran, otherRan, stillRelated⟩

/-- Steps that agree are parallel, as far as values fit themselves. Their outcomes correspond
    because they are the same. -/
theorem Agrees.parallel {α : Type} {Related : Weaving σ → Weaving τ → Prop}
    {Same : Call → Call → Prop} {first : Step (Weaving σ) α} {second : Step (Weaving τ) α}
    {firstCalls : Weaving σ → List Call} {secondCalls : Weaving τ → List Call}
    (agrees : Agrees Related Same first second firstCalls secondCalls) {Value : α → α → Prop}
    (itself : ∀ value, Value value value) : Parallel Related Eq Value first second := by
  intro weaving other related
  obtain ⟨outcome, changed, otherChanged, ran, otherRan, stillRelated, _⟩ :=
    agrees weaving other related
  rw [ran, otherRan]
  refine ⟨?_, stillRelated⟩
  cases outcome with
  | error fault => exact .error rfl
  | ok value => exact .ok (itself value)

end RoleWeave.Composition
