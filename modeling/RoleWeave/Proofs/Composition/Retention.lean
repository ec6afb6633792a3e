import RoleWeave.Proofs.Composition.Accounting
import RoleWeave.Proofs.Composition.Steady

/-!
# What the pass costs

A resource counts as met as soon as a composition comes to a reference to it, whatever becomes of
the reference. So the first reference to a resource decides for all of them: if it stands above the
limit on depth, the content is shown there and once, and if it stands at the limit, the content is
not shown at all, although later references to the resource may stand above the limit.
`content_iff_first_above` says so for the composition of blocks and of roles, and `lost_content` is a
block that loses the content of a resource that it refers to without any nesting.
-/

namespace RoleWeave.Composition

variable {σ : Type} {provider : Provider σ} {limit : Nat}

/-- What a pass has met after it met a resource is that resource, or it was met before. -/
theorem met_of_visit {pass : Pass} {entered key : Key}
    (known : (pass.visit entered).isVisited key = true) :
    pass.isVisited key = true ∨ entered = key := by
  rw [Pass.isVisited_visit, Bool.or_eq_true, beq_iff_eq] at known
  rcases known with here | early
  · exact .inr here.symm
  · exact .inl early

/-- What was met when a call and those nested in it are over had been met before, or one of them was
    for it. Entering the call meets nothing but its own resource. -/
theorem visited_of_nested {pass reached : Pass} {call : Call} {nested : List Call} {key : Key}
    (entered : reached = pass.visit call.key)
    (inner : reached.isVisited key = true ∨ ∃ other ∈ nested, other.key = key) :
    pass.isVisited key = true ∨ ∃ other ∈ call :: nested, other.key = key := by
  rcases inner with known | ⟨other, member, same⟩
  · rw [entered] at known
    rcases met_of_visit known with early | here
    · exact .inl early
    · exact .inr ⟨call, List.mem_cons_self, here⟩
  · exact .inr ⟨other, List.mem_cons_of_mem _ member, same⟩

/-- A resource that was met in the end had been met at the beginning, or a call was for it. By
    induction on the run. -/
theorem Run.visited {start final : Weaving σ} {stop : Option Fault} {calls : List Call}
    (run : Run provider limit start stop final calls) (key : Key)
    (known : final.pass.isVisited key = true) :
    start.pass.isVisited key = true ∨ ∃ call ∈ calls, call.key = key := by
  induction run with
  | idle weaving => exact .inl known
  | chain _ _ before after =>
    rcases after known with reached | ⟨call, member, same⟩
    · rcases before reached with early | ⟨call, member, same⟩
      · exact .inl early
      · exact .inr ⟨call, List.mem_append_left _ member, same⟩
    · exact .inr ⟨call, List.mem_append_right _ member, same⟩
  | met allowance visited => exact .inl known
  | cut fresh => exact visited_of_nested rfl (.inl known)
  | refused allowance fresh ran single =>
    exact visited_of_nested (pass_of_fetch ran) (.inl known)
  | stopped allowance fresh ran whole =>
    exact visited_of_nested (pass_of_fetch ran) (.inl known)
  | composed allowance text fresh ran _ ih =>
    exact visited_of_nested (pass_of_fetch ran) (ih known)
  | broken allowance fresh ran _ whole ih =>
    exact visited_of_nested (pass_of_fetch ran) (ih known)

/-- The first call for a resource is the foremost of all calls, or it comes after that one, which
    then is for another resource. -/
theorem first_of_cons {call first : Call} {later : List Call} {key : Key}
    (found : (call :: later).find? (fun call => call.key == key) = some first) :
    (call.key = key ∧ call = first) ∨
      (call.key ≠ key ∧ later.find? (fun call => call.key == key) = some first) := by
  by_cases same : call.key = key
  · rw [List.find?_cons_of_pos (by simpa using same)] at found
    exact .inl ⟨same, Option.some.inj found⟩
  · rw [List.find?_cons_of_neg (by simpa using same)] at found
    exact .inr ⟨same, found⟩

/-- If a call finds its resource unmet, then so does the first call for a resource among it and
    those nested in it, provided that this holds of the nested ones. The call itself meets no other
    resource. -/
theorem first_unmet_of_nested {pass reached : Pass} {call first : Call} {nested : List Call}
    {key : Key} (found : (call :: nested).find? (fun call => call.key == key) = some first)
    (unmet : call.met = false) (fresh : pass.isVisited key = false)
    (entered : reached = pass.visit call.key)
    (inner : reached.isVisited key = false →
      nested.find? (fun call => call.key == key) = some first → first.met = false) :
    first.met = false := by
  rcases first_of_cons found with ⟨_, rfl⟩ | ⟨other, deeper⟩
  · exact unmet
  · have apart : key ≠ call.key := fun same => other same.symm
    exact inner (by simp [entered, fresh, apart]) deeper

/-- The first call for a resource that had not been met finds it so.

    Proof: by induction on the run. In a chain the first call is in the first part, or there is none
    for the resource in that part; then the resource is unmet where the second part begins, since a
    run meets nothing without a call for it (`Run.visited`). Within a call it is
    `first_unmet_of_nested`. -/
theorem Run.first_unmet {start final : Weaving σ} {stop : Option Fault} {calls : List Call}
    (run : Run provider limit start stop final calls) {key : Key} {first : Call}
    (fresh : start.pass.isVisited key = false)
    (found : calls.find? (fun call => call.key == key) = some first) : first.met = false := by
  have missing : ∀ {pass : Pass}, pass.isVisited key = false →
      [].find? (fun call : Call => call.key == key) = some first → first.met = false := by
    intro pass _ none
    cases none
  induction run with
  | idle weaving => exact missing fresh found
  | @chain start middle final stop earlier later before after ihBefore ihAfter =>
    rw [List.find?_append] at found
    cases early : earlier.find? (fun call => call.key == key) with
    | some call =>
      rw [early, Option.some_or] at found
      exact ihBefore fresh (early.trans found)
    | none =>
      rw [early, Option.none_or] at found
      refine ihAfter ?_ found
      apply Bool.eq_false_iff.mpr
      intro known
      rcases before.visited key known with visited | ⟨call, member, same⟩
      · rw [fresh] at visited
        cases visited
      · have other := List.find?_eq_none.mp early call member
        simp [same] at other
  | met allowance known =>
    rcases first_of_cons found with ⟨same, rfl⟩ | ⟨_, none⟩
    · rw [← same] at fresh
      exact fresh
    · cases none
  | cut unmet => exact first_unmet_of_nested found unmet fresh rfl missing
  | refused allowance unmet ran single =>
    exact first_unmet_of_nested found unmet fresh (pass_of_fetch ran) missing
  | stopped allowance unmet ran whole =>
    exact first_unmet_of_nested found unmet fresh (pass_of_fetch ran) missing
  | composed allowance text unmet ran _ ih =>
    exact first_unmet_of_nested found unmet fresh (pass_of_fetch ran) ih
  | broken allowance unmet ran _ whole ih =>
    exact first_unmet_of_nested found unmet fresh (pass_of_fetch ran) ih

/-- In a run that no fault ended, no call was ended by one. A fault that ends a call ends all that
    it is nested in. -/
theorem Run.completed {start final : Weaving σ} {stop : Option Fault} {calls : List Call}
    (run : Run provider limit start stop final calls) (done : stop = none) :
    ∀ call ∈ calls, ∃ outcome, call.outcome = .ok outcome := by
  induction run with
  | idle weaving => simp
  | chain _ _ before after => exact List.forall_mem_append.mpr ⟨before rfl, after done⟩
  | met allowance known => simp
  | cut fresh => simp
  | refused allowance fresh ran single => simp
  | stopped allowance fresh ran whole => cases done
  | composed allowance text fresh ran _ ih =>
    exact List.forall_mem_cons.mpr ⟨⟨_, rfl⟩, ih done⟩
  | broken allowance fresh ran _ whole ih => cases done

/-- How often the content of a resource is come to. -/
def contentCount (key : Key) (calls : List Call) : Nat :=
  calls.countP (fun call => call.key == key && call.hasContent)

/-- Among accounted calls, the content of a resource is come to as often as by the one call that
    found it unmet.

    Proof: of the calls for the resource only one does anything but leave its reference out, and the
    call that found the resource unmet does. So it is the only one of them, and a call that came to
    content is such a call. -/
theorem Accounted.contentCount_eq {start final : Pass} {calls : List Call}
    (account : Accounted start final calls) {first : Call} (member : first ∈ calls)
    (unmet : first.met = false) :
    contentCount first.key calls = if first.hasContent then 1 else 0 := by
  have emits : first.emits = true := by simp [account.exact first member, unmet]
  -- The calls for the resource that emit anything are the one that found it unmet.
  have only : (calls.filter Call.emits).filter (fun call => call.key == first.key) = [first] := by
    have among : first ∈ (calls.filter Call.emits).filter (fun call => call.key == first.key) := by
      simp [member, emits]
    have atMost : ((calls.filter Call.emits).filter (fun call => call.key == first.key)).length ≤
        1 := by
      have once := List.nodup_iff_count.mp account.once first.key
      rw [List.count, List.countP_map, List.countP_eq_length_filter] at once
      exact once
    have atLeast := List.length_pos_of_mem among
    obtain ⟨call, single⟩ := List.length_eq_one_iff.mp (Nat.le_antisymm atMost atLeast)
    rw [single] at among ⊢
    rw [List.mem_singleton.mp among]
  have narrowed : calls.filter (fun call => call.key == first.key && call.hasContent) =
      ((calls.filter Call.emits).filter (fun call => call.key == first.key)).filter
        Call.hasContent := by
    rw [List.filter_filter, List.filter_filter]
    refine List.filter_congr (fun call _ => ?_)
    cases content : call.hasContent with
    | false => simp
    | true => simp [call.emits_of_hasContent content]
  rw [contentCount, List.countP_eq_length_filter, narrowed, only]
  cases content : first.hasContent <;> simp [content]

/-- What becomes of a resource that can be loaded and is a document: with `first` as the first call
    for it, its content is come to once or not at all, and in the latter case the limit on depth is
    what the first call fails with. -/
structure Retained (limit : Nat) (calls : List Call) (first : Call) : Prop where
  content : contentCount first.key calls = if 0 < first.allowance then 1 else 0
  cut : first.allowance = 0 →
    first.outcome = .ok (.failed (.unresolved first.reference.render (.depthExceeded limit)))
  later : ∀ call ∈ calls, call.key = first.key → call.met = true → call.outcome = .ok .suppressed

/-- The first call for a resource decides whether its content is come to.

    Proof: that call finds the resource unmet. What it comes to is known, because the provider is
    steady: if it stands above the limit, it fetches the content, and since no fault ended the run
    it comes to it; at the limit it fails with that. No other call comes to the content, and those
    that find it met leave their references out. -/
theorem Run.retained {Settled : σ → Prop} {answer : Reference → Except Fault Text}
    (steady : provider.Steady Settled answer) {start final : Weaving σ} {calls : List Call}
    (run : Run provider limit start none final calls) (settled : Settled start.world)
    {key : Key} {first : Call} {content : Text} (fresh : start.pass.isVisited key = false)
    (found : calls.find? (fun call => call.key == key) = some first)
    (comes : ∀ reference : Reference, reference.key = key →
      fetched answer reference = .ok content) :
    Retained limit calls first := by
  have member : first ∈ calls := List.mem_of_find?_eq_some found
  have same : first.key = key := by simpa using List.find?_some found
  have unmet : first.met = false := run.first_unmet fresh found
  obtain ⟨follows, _⟩ := run.follows steady settled
  refine ⟨?_, (follows first member).cut unmet, ?_⟩
  · rw [run.accounted.contentCount_eq member unmet]
    by_cases above : 0 < first.allowance
    · have loads : first.loads = true := by simp [Call.loads, unmet, above]
      have shown : first.hasContent = true := by
        obtain ⟨_, ⟨text, outcome⟩ | ⟨fault, _, outcome⟩⟩ :=
          (follows first member).composed content loads (comes first.reference same)
        · simp [Call.hasContent, outcome]
        · obtain ⟨value, ended⟩ := run.completed rfl first member
          rw [ended] at outcome
          cases outcome
      simp [shown, above]
    · have spent : first.allowance = 0 := by omega
      have hidden : first.hasContent = false := by
        simp [Call.hasContent, (follows first member).cut unmet spent]
      simp [hidden, above]
  · intro call inside _ known
    exact (follows call inside).again known

/-- Let a resource be loaded by a library and be a document, and let no composition have met it. In
    every composition of a block or of a role that comes to an end, the first call for the resource
    decides: exactly one call comes to its content if the first call stands above the limit on
    depth, and otherwise none does, wherever the later calls stand.

    Proof: a library that loads something settles, and from then on it is a steady provider with the
    answers that it gives now. Reading the content is no trouble, so it is what a fetch of the
    resource comes to. The composition of a block or of a role is a run that no fault ended, and
    `Run.retained` applies to it. -/
theorem content_iff_first_above {library : Library} {key : Key} {content : Text}
    {document : Document}
    (loads : Library.provider.answerIn library (Reference.plain key.protocol key.id) = .ok content)
    (parses : Document.parse content = .ok document) (limit : Nat) :
    (∀ block pass text after first,
      (composeBlock Library.provider limit block).run ⟨library, pass⟩ = (.ok text, after) →
      pass.isVisited key = false →
      (blockCalls Library.provider limit block ⟨library, pass⟩).find?
        (fun call => call.key == key) = some first →
      Retained limit (blockCalls Library.provider limit block ⟨library, pass⟩) first) ∧
    ∀ info document role after first,
      (composeRole Library.provider limit info document).run library = (.ok role, after) →
      key ≠ ⟨roleProtocol, info.id⟩ →
      (roleCalls Library.provider limit info document library).find?
        (fun call => call.key == key) = some first →
      Retained limit (roleCalls Library.provider limit info document library) first := by
  obtain ⟨after, loaded⟩ : ∃ after,
      (Library.provider.load (Reference.plain key.protocol key.id)).run library =
        (.ok content, after) := ⟨_, Prod.ext loads rfl⟩
  obtain ⟨settles, answered⟩ := Library.settles_of_load loaded
  have steady := Library.steady_of_settles settles
  have comes : ∀ reference : Reference, reference.key = key →
      fetched (Library.provider.answerIn library) reference = .ok content := by
    intro reference same
    have known : Library.provider.answerIn library reference = .ok content := by
      rw [Library.answerIn_of_settles settles, ← answered]
      exact after.answer_key same
    simp [fetched, known, parses]
  constructor
  · intro block pass text final first ran fresh found
    have run := run_block Library.provider limit block ⟨library, pass⟩
    rw [ran] at run
    exact run.retained steady settles fresh found comes
  · intro info document role final first ran other found
    obtain ⟨ready, _, ended, readied, _, performed, _, _⟩ := tasks_of_composeRole ran
    have filled : Library.Settles library ready := readied
    have same : ready = after := by
      have both := filled.symm.trans settles
      cases both
      rfl
    subst same
    rw [roleCalls, readied] at found ⊢
    have run := run_tasks Library.provider limit (roleTasks document) ⟨ready, rolePass info⟩
    rw [performed] at run
    have fresh : (rolePass info).isVisited key = false := by
      simpa [rolePass, Pass.withVisited, Pass.isVisited] using other
    exact run.retained steady settles.again fresh found comes

/-- Two documents, the first of which refers to the second. -/
def nestedPair : Library :=
  Library.ofFiles "doc".toList [("a".toList, "@doc://b".toList), ("b".toList, "B".toList)]

/-- A block that refers to both. -/
def bothBlock : Block :=
  ⟨.knowledge, "@doc://a @doc://b".toList⟩

deriving instance DecidableEq for Call

/-- Under a limit of two, the block comes to the content of the second document inside the first.
    The call for it there stands above the limit. -/
theorem kept_content :
    ((composeBlock Library.provider 2 bothBlock).run ⟨nestedPair, Pass.new⟩).1 =
        .ok "B ".toList ∧
      Retained 2 (blockCalls Library.provider 2 bothBlock ⟨nestedPair, Pass.new⟩)
        ⟨Reference.plain "doc".toList "b".toList, 1, ⟨[⟨"doc".toList, "a".toList⟩], [], []⟩,
          some "B".toList, .ok (.content "B".toList)⟩ := by
  have loads : Library.provider.answerIn nestedPair (Reference.plain "doc".toList "b".toList) =
      .ok "B".toList := by decide +kernel
  have parses : Document.parse "B".toList = .ok ⟨"B".toList, []⟩ := by decide +kernel
  have shown : ((composeBlock Library.provider 2 bothBlock).run ⟨nestedPair, Pass.new⟩).1 =
      .ok "B ".toList := by decide +kernel
  have fresh : Pass.new.isVisited ⟨"doc".toList, "b".toList⟩ = false := by decide
  have found : (blockCalls Library.provider 2 bothBlock ⟨nestedPair, Pass.new⟩).find?
      (fun call => call.key == ⟨"doc".toList, "b".toList⟩) =
      some ⟨Reference.plain "doc".toList "b".toList, 1, ⟨[⟨"doc".toList, "a".toList⟩], [], []⟩,
        some "B".toList, .ok (.content "B".toList)⟩ := by decide +kernel
  refine ⟨shown, ?_⟩
  rcases ran : (composeBlock Library.provider 2 bothBlock).run ⟨nestedPair, Pass.new⟩ with
    ⟨outcome, after⟩
  have ended : outcome = .ok "B ".toList := by rw [ran] at shown; exact shown
  subst ended
  obtain ⟨ofBlock, _⟩ := @content_iff_first_above nestedPair ⟨"doc".toList, "b".toList⟩
    "B".toList ⟨"B".toList, []⟩ loads parses 2
  exact ofBlock bothBlock Pass.new _ _ _ ran fresh found

/-- Under a limit of one, the block loses the content of the second document: the reference to it
    inside the first is at the limit, and the reference in the block itself is left out, although
    the document loads and the second reference stands above the limit. -/
theorem lost_content :
    ((composeBlock Library.provider 1 bothBlock).run ⟨nestedPair, Pass.new⟩).1 =
        .ok ("[unresolved: Could not resolve @doc://b: Nesting depth limit exceeded: 1] ".toList) ∧
      Library.provider.answerIn nestedPair (Reference.plain "doc".toList "b".toList) =
        .ok "B".toList ∧
      Document.parse "B".toList = .ok ⟨"B".toList, []⟩ ∧
      (blockCalls Library.provider 1 bothBlock ⟨nestedPair, Pass.new⟩).any
        (fun call => call.key == ⟨"doc".toList, "b".toList⟩ && decide (0 < call.allowance)) =
          true ∧
      contentCount ⟨"doc".toList, "b".toList⟩
        (blockCalls Library.provider 1 bothBlock ⟨nestedPair, Pass.new⟩) = 0 := by
  decide +kernel

end RoleWeave.Composition
