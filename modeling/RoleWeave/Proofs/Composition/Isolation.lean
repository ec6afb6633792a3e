import RoleWeave.Proofs.Composition.Correspondence
import RoleWeave.Proofs.Composition.Steady
import RoleWeave.Proofs.Library.Resolution

/-!
# Composition depends on what it reaches

A set of keys that has what the sections of a document ask for, and with a resource also what its
content refers to, has all that a composition can reach. Two libraries that answer alike on such a set
compose the role alike, whatever else is in them (`composition_depends_on_reach`). To answer alike is to
give the same content, or to fail for the same kind of reason with the same wording: nothing else of a
fault is shown, recorded or asked about.

What a library answers for a key depends in turn on the protocol of the key and, where this one is a
catalogue, on the protocol at which the entry of the registry points. A protocol that is neither for any
key of the set can be registered or replaced, and nothing changes.
-/

namespace RoleWeave

/-- Two faults of the same kind with the same wording. -/
structure Fault.Alike (fault other : Fault) : Prop where
  kind : fault.ctorIdx = other.ctorIdx
  wording : fault.message = other.message

/-- A relation of faults that composition cannot tell from equality: it shows the wording of a fault
    only, and faults that are related are attached to a reference alike. -/
structure Fault.Congruent (Fits : Fault → Fault → Prop) : Prop where
  itself : ∀ fault, Fits fault fault
  wording : ∀ fault other, Fits fault other → fault.message = other.message
  isLocal : ∀ fault other, Fits fault other → fault.isLocal = other.isLocal
  attach : ∀ fault other reference, Fits fault other →
    Fits (fault.attach reference) (other.attach reference)

namespace Fault

/-- Equality is such a relation. -/
theorem congruent_eq : Congruent Eq where
  itself _ := rfl
  wording _ _ := congrArg message
  isLocal _ _ := congrArg Fault.isLocal
  attach _ _ reference := congrArg (Fault.attach reference)

/-- Faults that are attached to a reference already stay as they are. -/
theorem attach_eq (fault : Fault) (reference : Text) :
    fault.attach reference =
      if fault.isAttached then fault else .unresolved reference fault := by
  cases fault <;> rfl

variable {fault other : Fault}

/-- Whether a fault belongs to a single reference is a matter of its kind. -/
theorem isLocal_of_kind (same : fault.ctorIdx = other.ctorIdx) :
    fault.isLocal = other.isLocal := by
  cases fault <;> cases other <;> first | rfl | cases same

/-- So is whether it is attached to one. -/
theorem isAttached_of_kind (same : fault.ctorIdx = other.ctorIdx) :
    fault.isAttached = other.isAttached := by
  cases fault <;> cases other <;> first | rfl | cases same

/-- Faults of the same kind with the same wording are as good as equal to a composition. Whether a
    fault belongs to a reference and whether it is attached to one are matters of its kind, and a
    fault that gets attached is worded by what it was. -/
theorem congruent_alike : Congruent Alike where
  itself _ := ⟨rfl, rfl⟩
  wording _ _ alike := alike.wording
  isLocal _ _ alike := isLocal_of_kind alike.kind
  attach fault other reference alike := by
    rw [attach_eq, attach_eq, isAttached_of_kind alike.kind]
    split
    · exact alike
    · exact ⟨rfl,
        congrArg ("Could not resolve ".toList ++ reference ++ ": ".toList ++ ·) alike.wording⟩

end Fault

namespace Library

/-- What loading the resource with a key comes to. -/
def answerAt (library : Library) (key : Key) : Except Fault Text :=
  provider.answerIn library (Reference.plain key.protocol key.id)

/-- The library after a protocol was registered, or got another resolver. -/
def register (library : Library) (name : Text) (resolver : Resolver) : Library :=
  { library with table := library.table.register name resolver }

variable {library : Library} {name : Text} {resolver : Resolver} {reference : Reference}

/-- What the entry for a reference points at, if there is one and it can be read. -/
def aim? (library : Library) (reference : Reference) : Option Reference :=
  match library.table.resolver reference.protocol with
  | .ok (.catalogue defaultLocation) =>
      (library.registry.known.find? reference.protocol reference.resource).bind (fun descriptor =>
        (target reference.protocol defaultLocation descriptor.reference).toOption)
  | _ => none

/-- An entry points at what is computed from it. -/
theorem aim?_of_listed {aim : Reference} (listed : Listed library reference aim) :
    library.aim? reference = some aim := by
  obtain ⟨defaultLocation, descriptor, entry, points⟩ := listed
  simp only [aim?, entry.catalogue, entry.found, Option.bind_some, target_of_points points]
  rfl

/-- A ready library answers a reference as it answers its key. -/
theorem answerIn_eq_answerAt (ready : library.registry.index.isSome = true) (reference : Reference) :
    provider.answerIn library reference = library.answerAt reference.key := by
  rw [answerAt, answerIn_of_settles (settles_of_ready ready)]
  exact answer_key _ rfl

/-- The other protocols keep their resolvers. -/
theorem resolver_register_of_ne {protocol : Text} (apart : protocol ≠ name) :
    (library.register name resolver).table.resolver protocol = library.table.resolver protocol := by
  unfold Table.resolver
  rw [register, Table.lookup_register, if_neg apart]

/-- References with other protocols lead to the locations to which they led. -/
theorem resolveLocation_register (apart : reference.protocol ≠ name) :
    (library.register name resolver).resolveLocation reference =
      library.resolveLocation reference := by
  rw [resolveLocation, resolver_register_of_ne apart]
  rfl

/-- So do those that are looked up in the registry, if also what is found there has another
    protocol. The protocol of the reference keeps its resolver, so the same entry is looked up; what
    it points at is a reference with another protocol than the one that was registered. -/
theorem place_register (apart : reference.protocol ≠ name)
    (aimed : ∀ aim, Listed library reference aim → aim.protocol ≠ name) :
    (library.register name resolver).place reference = library.place reference := by
  rw [place, place, resolver_register_of_ne apart]
  cases known : library.table.resolver reference.protocol with
  | error fault => rfl
  | ok kept =>
    cases kept with
    | directory shelf => exact resolveLocation_register apart
    | failing fault => exact resolveLocation_register apart
    | catalogue defaultLocation =>
      cases found : library.registry.known.find? reference.protocol reference.resource with
      | none =>
        have foundToo : (library.register name resolver).registry.known.find?
            reference.protocol reference.resource = none := found
        simp only [bind, Except.bind, resolveListed, found, foundToo]
      | some descriptor =>
        have foundToo : (library.register name resolver).registry.known.find?
            reference.protocol reference.resource = some descriptor := found
        simp only [bind, Except.bind, resolveListed, found, foundToo]
        cases leads : target reference.protocol defaultLocation descriptor.reference with
        | error fault => rfl
        | ok aim =>
          apply resolveLocation_register
          exact aimed aim ⟨_, _, ⟨known, found⟩, points_of_target leads⟩

/-- References that lead to the same location are answered from the same storage. -/
theorem answer_register (apart : reference.protocol ≠ name)
    (aimed : ∀ aim, Listed library reference aim → aim.protocol ≠ name) :
    (library.register name resolver).answer reference = library.answer reference := by
  rw [answer, answer, place_register apart aimed]
  rfl

/-- A ready library answers the keys as before that have nothing to do with the protocol. What such
    a key leads to is found at the same location, and registering changes nothing that is stored. -/
theorem answerAt_register (ready : library.registry.index.isSome = true) {key : Key}
    (apart : key.protocol ≠ name)
    (aimed : ∀ aim, Listed library (Reference.plain key.protocol key.id) aim →
      aim.protocol ≠ name) :
    (library.register name resolver).answerAt key = library.answerAt key := by
  have settles := settles_of_ready ready
  have registered : Settles (library.register name resolver)
      ({ library with registry := { library.registry with phase := .ready } }.register name
        resolver) := settles_of_ready ready
  rw [answerAt, answerAt, answerIn_of_settles settles, answerIn_of_settles registered]
  apply answer_register apart
  rintro aim ⟨defaultLocation, descriptor, entry, points⟩
  exact aimed aim ⟨defaultLocation, descriptor, ⟨entry.catalogue, entry.found⟩, points⟩

end Library

namespace Composition

/-- The keys for which the sections of a document ask. -/
def askedKeys (document : Document) : List Key :=
  (Tag.sections.filterMap document.block?).flatMap (fun block =>
    (inlined block.text).map Reference.key)

/-- A key is among them exactly if a section asks for it. -/
theorem mem_askedKeys {document : Document} {key : Key} :
    key ∈ askedKeys document ↔ Asks document key := by
  simp only [askedKeys, List.mem_flatMap, List.mem_filterMap, List.mem_map, Asks]
  constructor
  · rintro ⟨block, ⟨tag, known, found⟩, asked⟩
    exact ⟨tag, known, block, found, asked⟩
  · rintro ⟨tag, known, block, found, asked⟩
    exact ⟨block, ⟨tag, known, found⟩, asked⟩

section Abreast

variable {σ τ : Type} {Settled : σ → Prop} {OtherSettled : τ → Prop} {Fits : Fault → Fault → Prop}

/-- Two weavings with the same pass, in worlds among certain ones. -/
structure Abreast (Settled : σ → Prop) (OtherSettled : τ → Prop) (weaving : Weaving σ)
    (other : Weaving τ) : Prop where
  samePass : weaving.pass = other.pass
  settled : Settled weaving.world
  otherSettled : OtherSettled other.world

/-- What is behind a guard runs in parallel, and so does the guard: faults that fit are recorded
    with the same wording.

    Proof: both sides have met the same resources, so both leave the reference out or neither does.
    In the second case the steps run on in parallel. If both come to a text, it is the content. If
    both come to faults, these belong to their references or not alike: then they are attached and
    recorded, with the same wording, or they end both sides. -/
theorem parallel_guard (congruent : Fault.Congruent Fits) {reference : Reference}
    {step : Step (Weaving σ) Text} {otherStep : Step (Weaving τ) Text}
    (parallel : Parallel (Abreast Settled OtherSettled) Fits Eq step otherStep) :
    Parallel (Abreast Settled OtherSettled) Fits (Inline.Matches Fits) (guard reference step)
      (guard reference otherStep) := by
  intro weaving other abreast
  obtain ⟨samePass, settled, otherSettled⟩ := abreast
  by_cases known : weaving.pass.isVisited reference.key = true
  · rw [guard_met step known, guard_met otherStep (samePass ▸ known)]
    exact ⟨.ok .suppressed, by rw [samePass], settled, otherSettled⟩
  · have fresh : weaving.pass.isVisited reference.key = false := by simpa using known
    have otherFresh : other.pass.isVisited reference.key = false := samePass ▸ fresh
    obtain ⟨corresponds, still⟩ := parallel (weaving.visit reference.key)
      (other.visit reference.key)
      ⟨by rw [Weaving.visit, Weaving.visit, samePass], settled, otherSettled⟩
    rcases taken : step.run (weaving.visit reference.key) with ⟨outcome, changed⟩
    rcases otherTaken : otherStep.run (other.visit reference.key) with ⟨otherOutcome, otherChanged⟩
    rw [taken, otherTaken] at corresponds still
    cases corresponds with
    | @ok content _ same =>
      cases same
      rw [guard_ok fresh taken, guard_ok otherFresh otherTaken]
      exact ⟨.ok (.content content), still⟩
    | @error fault otherFault fits =>
      have sameLocal := congruent.isLocal _ _ fits
      by_cases single : fault.isLocal = true
      · rw [guard_single fresh taken single,
          guard_single otherFresh otherTaken (sameLocal ▸ single)]
        have attached := congruent.attach _ _ reference.render fits
        have passes : changed.pass = otherChanged.pass := still.samePass
        refine ⟨.ok (.failed attached), ?_, still.settled, still.otherSettled⟩
        simp only [Pass.fail, passes, congruent.wording _ _ attached]
      · have whole : fault.isLocal = false := by simpa using single
        rw [guard_whole fresh taken whole, guard_whole otherFresh otherTaken (sameLocal ▸ whole)]
        exact ⟨.error fits, still⟩

variable {provider : Provider σ} {otherProvider : Provider τ}
  {answer otherAnswer : Reference → Except Fault Text} {Reached : Key → Prop}

/-- What is fetched for a reference corresponds if the answers to it do. What is fetched on both
    sides is what the answer was. If that is no document, both sides fail with the same fault. -/
theorem corresponds_fetched (congruent : Fault.Congruent Fits) {reference : Reference}
    (same : Corresponds Fits Eq (answer reference) (otherAnswer reference)) :
    Corresponds Fits (fun content other => content = other ∧ answer reference = .ok content)
      (fetched answer reference) (fetched otherAnswer reference) := by
  unfold fetched
  cases loaded : answer reference with
  | error fault =>
    rw [loaded] at same
    generalize otherAnswer reference = otherOutcome at same ⊢
    cases same with
    | error fits => exact .error fits
  | ok content =>
    rw [loaded] at same
    generalize otherAnswer reference = otherOutcome at same ⊢
    cases same with
    | ok equal =>
      cases equal
      dsimp only
      -- The content is a document on both sides, or it fails to be one in the same way.
      split
      · exact .ok ⟨rfl, rfl⟩
      · exact .error (congruent.itself _)

section Steady

variable (congruent : Fault.Congruent Fits) (steady : provider.Steady Settled answer)
  (otherSteady : otherProvider.Steady OtherSettled otherAnswer)

include congruent steady otherSteady

/-- Fetching from two steady providers runs in parallel if their answers correspond. Each of them
    comes to its answer and stays among its settled worlds. -/
theorem parallel_fetch {reference : Reference}
    (same : Corresponds Fits Eq (answer reference) (otherAnswer reference)) :
    Parallel (Abreast Settled OtherSettled) Fits
      (fun content other => content = other ∧ answer reference = .ok content)
      (fetch provider reference) (fetch otherProvider reference) := by
  intro weaving other abreast
  obtain ⟨world, settled, ran⟩ := fetch_of_steady steady weaving abreast.settled reference
  obtain ⟨otherWorld, otherSettled, otherRan⟩ :=
    fetch_of_steady otherSteady other abreast.otherSettled reference
  rw [ran, otherRan]
  exact ⟨corresponds_fetched congruent same, abreast.samePass, settled, otherSettled⟩

/-- Inlining from two steady providers that answer alike on a set of keys runs in parallel within
    this set.

    Proof: by induction on how deep references may still be nested. The guard is parallel if what is
    behind it is. At the limit that is one and the same fault. Otherwise fetching is parallel, what
    is fetched is the same on both sides and refers to keys of the set only, and so composing it is
    parallel by induction. -/
theorem parallel_within
    (same : ∀ reference : Reference, Reached reference.key →
      Corresponds Fits Eq (answer reference) (otherAnswer reference))
    (closed : ∀ reference : Reference, Reached reference.key → ∀ content,
      answer reference = .ok content → ∀ nested ∈ inlined content, Reached nested.key)
    (limit allowance : Nat) (reference : Reference) (reached : Reached reference.key) :
    Parallel (Abreast Settled OtherSettled) Fits (Inline.Matches Fits)
      (inlineWithin provider limit allowance reference)
      (inlineWithin otherProvider limit allowance reference) := by
  induction allowance generalizing reference with
  | zero =>
    apply parallel_guard congruent
    exact fun weaving other abreast => ⟨.error (congruent.itself _), abreast⟩
  | succ allowance ih =>
    apply parallel_guard congruent
    apply Parallel.bind (parallel_fetch congruent steady otherSteady (same reference reached))
    rintro content _ ⟨rfl, loaded⟩
    apply parallel_weave congruent.wording
    intro nested member inlines
    exact ih nested (closed reference reached content loaded nested (mem_inlined member inlines))

end Steady

/-- Two ready libraries that answer alike on a set of keys compose a role alike, if the set has what
    the sections ask for, and with a resource what its content refers to.

    Proof: a ready library is a steady provider, whose answer to a reference is that to its key.
    Getting ready changes nothing in it, so both sides start abreast, and `corresponds_role` applies
    with `parallel_within`. -/
theorem corresponds_of_ready (congruent : Fault.Congruent Fits) {library other : Library}
    (ready : library.registry.index.isSome = true) (otherReady : other.registry.index.isSome = true)
    {limit : Nat} {info : RoleInfo} {document : Document}
    (asked : ∀ key, Asks document key → Reached key)
    (closed : ∀ key, Reached key → ∀ content, library.answerAt key = .ok content →
      ∀ reference ∈ inlined content, Reached reference.key)
    (same : ∀ key, Reached key → Corresponds Fits Eq (library.answerAt key) (other.answerAt key)) :
    Corresponds Fits Eq
      ((composeRole Library.provider limit info document).run library).1
      ((composeRole Library.provider limit info document).run other).1 := by
  have settles := Library.settles_of_ready ready
  have otherSettles := Library.settles_of_ready otherReady
  have answers := Library.answerIn_eq_answerAt ready
  have otherAnswers := Library.answerIn_eq_answerAt otherReady
  have sameHere : ∀ reference : Reference, Reached reference.key →
      Corresponds Fits Eq (Library.provider.answerIn library reference)
        (Library.provider.answerIn other reference) := by
    intro reference reached
    rw [answers, otherAnswers]
    exact same reference.key reached
  have closedHere : ∀ reference : Reference, Reached reference.key → ∀ content,
      Library.provider.answerIn library reference = .ok content →
      ∀ nested ∈ inlined content, Reached nested.key := by
    intro reference reached content loaded
    rw [answers] at loaded
    exact closed reference.key reached content loaded
  have each := parallel_within congruent (Library.steady_of_settles settles)
    (Library.steady_of_settles otherSettles) sameHere closedHere limit limit
  exact (corresponds_role Reached congruent.wording each (fun _ _ abreast => abreast.samePass) asked
    settles otherSettles ⟨rfl, settles.again, otherSettles.again⟩).1

end Abreast

/-- Composition depends only on what it reaches. Let a set of keys have what the sections of a
    document ask for, and with every resource that a ready library loads what its content refers to.
    Any other ready library that loads the same for these keys, or fails for the same kind of reason
    with the same wording, composes the same role, or fails in this way; if its answers are the same
    in all respects, so is what it comes to. In particular, registering or replacing a protocol
    changes nothing, unless a key of the set has it or the entry for one points at it.

    Proof: both parts about another library are `corresponds_of_ready`, for faults that are alike
    and for equal ones. The library with another protocol registered is one that answers all keys of
    the set in the same way (`answerAt_register`). -/
theorem composition_depends_on_reach {library : Library}
    (ready : library.registry.index.isSome = true) (limit : Nat) (info : RoleInfo)
    (document : Document) {Reached : Key → Prop} (asked : ∀ key, Asks document key → Reached key)
    (closed : ∀ key, Reached key → ∀ content, library.answerAt key = .ok content →
      ∀ reference ∈ inlined content, Reached reference.key) :
    (∀ other : Library, other.registry.index.isSome = true →
      ((∀ key, Reached key →
          Corresponds Fault.Alike Eq (library.answerAt key) (other.answerAt key)) →
        Corresponds Fault.Alike Eq
          ((composeRole Library.provider limit info document).run library).1
          ((composeRole Library.provider limit info document).run other).1) ∧
      ((∀ key, Reached key → library.answerAt key = other.answerAt key) →
        ((composeRole Library.provider limit info document).run library).1 =
          ((composeRole Library.provider limit info document).run other).1)) ∧
    ∀ name resolver,
      (∀ key, Reached key → key.protocol ≠ name ∧
        ∀ aim, Library.Listed library (Reference.plain key.protocol key.id) aim →
          aim.protocol ≠ name) →
      ((composeRole Library.provider limit info document).run library).1 =
        ((composeRole Library.provider limit info document).run
          (library.register name resolver)).1 := by
  have exactly : ∀ other : Library, other.registry.index.isSome = true →
      (∀ key, Reached key → library.answerAt key = other.answerAt key) →
      ((composeRole Library.provider limit info document).run library).1 =
        ((composeRole Library.provider limit info document).run other).1 := by
    intro other otherReady same
    apply corresponds_eq_iff.mp
    apply corresponds_of_ready Fault.congruent_eq ready otherReady asked closed
    exact fun key reached => corresponds_eq_iff.mpr (same key reached)
  constructor
  · intro other otherReady
    refine ⟨?_, exactly other otherReady⟩
    exact corresponds_of_ready Fault.congruent_alike ready otherReady asked closed
  · intro name resolver apart
    apply exactly (library.register name resolver) ready
    intro key reached
    obtain ⟨own, aimed⟩ := apart key reached
    exact (Library.answerAt_register ready own aimed).symm

/-- A role that refers to a thought, and to a resource at a location that never answers. -/
def offlineRole : Document :=
  ⟨"<personality>@thought://calm and @net://news</personality>".toList,
    [⟨"personality".toList, 13, 44⟩]⟩

/-- A library with a directory, a catalogue and a location that never answers. -/
def offlineLibrary (files : List (Text × Text)) (entries : List Descriptor) (fault : Fault) :
    Library where
  storage := Storage.empty.setPack "files".toList ⟨Pack.defaultRoot, files⟩
  registry := { Registry.ofSources [] with index := some ⟨entries⟩, phase := .ready }
  table := ((Table.empty.register "files".toList (.directory (.pack "files".toList))).register
    "thought".toList (.catalogue "files".toList)).register "net".toList (.failing fault)

/-- The thought is kept in a file, which refers to another one. -/
def offline : Library :=
  offlineLibrary
    [("calm.md".toList, "Calm: @files://deep.md".toList), ("deep.md".toList, "Deep.".toList)]
    [Descriptor.plain "thought".toList "calm".toList "@files://calm.md".toList]
    (.io .missing "no route".toList)

/-- Another file and another thought are added, and the location never answers in another way. -/
def otherOffline : Library :=
  offlineLibrary [("secret.md".toList, "<role>".toList), ("deep.md".toList, "Deep.".toList),
      ("calm.md".toList, "Calm: @files://deep.md".toList)]
    [Descriptor.plain "thought".toList "secret".toList "@files://secret.md".toList,
      Descriptor.plain "thought".toList "calm".toList "@files://calm.md".toList]
    (.io .other "no route".toList)

/-- The keys that the role reaches. -/
def offlineKeys : List Key :=
  [⟨"thought".toList, "calm".toList⟩, ⟨"files".toList, "deep.md".toList⟩,
    ⟨"net".toList, "news".toList⟩]

/-- These are what the role asks for, and what the contents refer to that are loaded for them. Both
    are computed. -/
theorem offline_reach :
    (∀ key, Asks offlineRole key → key ∈ offlineKeys) ∧
    ∀ key ∈ offlineKeys, ∀ content, offline.answerAt key = .ok content →
      ∀ reference ∈ inlined content, reference.key ∈ offlineKeys := by
  constructor
  · have checked : ∀ key ∈ askedKeys offlineRole, key ∈ offlineKeys := by decide +kernel
    exact fun key asks => checked key (mem_askedKeys.mpr asks)
  · have checked : (offlineKeys.all fun key => (offline.answerAt key).toOption.all fun content =>
        (inlined content).all fun reference =>
          decide (reference.key ∈ offlineKeys)) = true := by decide +kernel
    simp only [List.all_eq_true, Option.all_eq_true, decide_eq_true_eq] at checked
    intro key among content loaded
    exact checked key among content (by rw [loaded]; rfl)

/-- The libraries answer these keys alike: two with the same contents, and one with faults of the
    same kind and wording. -/
theorem offline_answers : ∀ key ∈ offlineKeys,
    Corresponds Fault.Alike Eq (offline.answerAt key) (otherOffline.answerAt key) := by
  have thought : offline.answerAt ⟨"thought".toList, "calm".toList⟩ =
      .ok "Calm: @files://deep.md".toList := by decide +kernel
  have otherThought : otherOffline.answerAt ⟨"thought".toList, "calm".toList⟩ =
      .ok "Calm: @files://deep.md".toList := by decide +kernel
  have file : offline.answerAt ⟨"files".toList, "deep.md".toList⟩ = .ok "Deep.".toList := by
    decide +kernel
  have otherFile : otherOffline.answerAt ⟨"files".toList, "deep.md".toList⟩ =
      .ok "Deep.".toList := by decide +kernel
  have silent : offline.answerAt ⟨"net".toList, "news".toList⟩ =
      .error (.io .missing "no route".toList) := by decide +kernel
  have otherSilent : otherOffline.answerAt ⟨"net".toList, "news".toList⟩ =
      .error (.io .other "no route".toList) := by decide +kernel
  rw [offlineKeys, List.forall_mem_cons, List.forall_mem_cons, List.forall_mem_singleton, thought,
    otherThought, file, otherFile, silent, otherSilent]
  exact ⟨.ok rfl, .ok rfl, .error ⟨rfl, rfl⟩⟩

/-- The protocol of notes has nothing to do with them. No key has it, and no entry points at it.
    Both are checked for each of the keys at once. -/
theorem offline_apart : ∀ key ∈ offlineKeys, key.protocol ≠ "notes".toList ∧
    ∀ aim, Library.Listed offline (Reference.plain key.protocol key.id) aim →
      aim.protocol ≠ "notes".toList := by
  have checked : (offlineKeys.all fun key => decide (key.protocol ≠ "notes".toList) &&
      (offline.aim? (Reference.plain key.protocol key.id)).all fun aim =>
        decide (aim.protocol ≠ "notes".toList)) = true := by decide +kernel
  simp only [List.all_eq_true, Bool.and_eq_true, Option.all_eq_true, decide_eq_true_eq] at checked
  intro key among
  obtain ⟨own, aimed⟩ := checked key among
  exact ⟨own, fun aim listed => aimed aim (Library.aim?_of_listed listed)⟩

/-- The role is the same from both libraries, and when that protocol is added. It has the failure of
    the location that never answers. -/
theorem offline_role_alike :
    ∃ role, role.failures.length = 1 ∧
      ((composeRole Library.provider 8 (RoleInfo.plain "r".toList) offlineRole).run offline).1 =
        .ok role ∧
      ((composeRole Library.provider 8 (RoleInfo.plain "r".toList) offlineRole).run otherOffline).1 =
        .ok role ∧
      ((composeRole Library.provider 8 (RoleInfo.plain "r".toList) offlineRole).run
        (offline.register "notes".toList (.catalogue "net".toList))).1 = .ok role := by
  have failures : ((composeRole Library.provider 8 (RoleInfo.plain "r".toList) offlineRole).run
      offline).1.toOption.map (fun role => role.failures.length) = some 1 := by decide +kernel
  have ready : offline.registry.index.isSome = true := rfl
  obtain ⟨asked, closed⟩ := offline_reach
  obtain ⟨elsewhere, registered⟩ := composition_depends_on_reach ready 8
    (RoleInfo.plain "r".toList) offlineRole asked closed
  have corresponds := (elsewhere otherOffline rfl).1 offline_answers
  rw [← registered _ (.catalogue "net".toList) offline_apart]
  generalize ((composeRole Library.provider 8 (RoleInfo.plain "r".toList) offlineRole).run
    offline).1 = outcome at corresponds failures ⊢
  generalize ((composeRole Library.provider 8 (RoleInfo.plain "r".toList) offlineRole).run
    otherOffline).1 = otherOutcome at corresponds ⊢
  cases corresponds with
  | error fits => cases failures
  | @ok role _ equal =>
    cases equal
    exact ⟨role, Option.some.inj failures, rfl, rfl, rfl⟩

end Composition

end RoleWeave
