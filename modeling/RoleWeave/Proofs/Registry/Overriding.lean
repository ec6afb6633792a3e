import Mathlib.Data.Finset.Card
import RoleWeave.Proofs.Registry.Definition
import RoleWeave.Proofs.Registry.Soundness

/-!
# What an index keeps of many definitions

A key may be defined many times, by one source or by several. An index keeps of all definitions of a
key the last, at the place of the first. `Keeps` says so of its entries: it holds of the empty
index and of no definitions, one more definition preserves it, and so it holds of whatever the
sources have delivered once a bootstrap is complete. Every question to a registry is answered from
the entries, and `Overrides` says what the answers are.
-/

namespace RoleWeave

namespace Descriptor

/-- The last definition of a key. -/
def lastOf (defined : List Descriptor) (key : Key) : Option Descriptor :=
  defined.reverse.find? (fun descriptor => descriptor.key == key)

/-- The number of definitions before the first one of a key. -/
def firstAt (defined : List Descriptor) (key : Key) : Nat :=
  (defined.map Descriptor.key).idxOf key

variable {defined : List Descriptor} {descriptor : Descriptor} {key : Key}

/-- One more definition is the last of its key and changes nothing about the others. The last is
    looked for from the end, where it comes first. -/
theorem lastOf_snoc (defined : List Descriptor) (descriptor : Descriptor) (key : Key) :
    lastOf (defined ++ [descriptor]) key =
      if descriptor.key = key then some descriptor else lastOf defined key := by
  rw [lastOf, List.reverse_append, List.reverse_singleton, List.singleton_append, List.find?_cons]
  by_cases same : descriptor.key = key
  · simp [same]
  · rw [if_neg same, beq_false_of_ne same, lastOf]

/-- A key has a last definition as soon as it is defined. -/
theorem isSome_lastOf (defined : List Descriptor) (key : Key) :
    (lastOf defined key).isSome ↔ key ∈ defined.map Descriptor.key := by
  simp [lastOf]

/-- The first place of a key is one of the definitions. -/
theorem firstAt_lt (known : key ∈ defined.map Descriptor.key) :
    firstAt defined key < defined.length := by
  have inside := List.idxOf_lt_length_of_mem known
  rwa [List.length_map] at inside

/-- One more definition moves no key that is defined. -/
theorem firstAt_snoc_of_mem (descriptor : Descriptor)
    (known : key ∈ defined.map Descriptor.key) :
    firstAt (defined ++ [descriptor]) key = firstAt defined key := by
  rw [firstAt, List.map_append, List.idxOf_append_of_mem known, firstAt]

/-- A new key is first defined behind all others. -/
theorem firstAt_snoc_self (fresh : descriptor.key ∉ defined.map Descriptor.key) :
    firstAt (defined ++ [descriptor]) descriptor.key = defined.length := by
  simp [firstAt, List.idxOf_append_of_notMem fresh]

end Descriptor

/-- A definition adds a key at the end, unless the key is there already. Then the keys stay as they
    are. -/
theorem keys_placeDescriptor (descriptor : Descriptor) (entries : List Descriptor) :
    (placeDescriptor descriptor entries).map Descriptor.key =
      if descriptor.key ∈ entries.map Descriptor.key then entries.map Descriptor.key
      else entries.map Descriptor.key ++ [descriptor.key] := by
  induction entries with
  | nil => rfl
  | cons other rest ih =>
    rw [placeDescriptor]
    by_cases same : other.key = descriptor.key
    · simp [same]
    · have unlike : descriptor.key ≠ other.key := fun equal => same equal.symm
      rw [if_neg same, List.map_cons, ih]
      by_cases known : descriptor.key ∈ rest.map Descriptor.key <;> simp [known, unlike]

namespace Index

open Descriptor

/-- What an index finds are the last definitions, and its keys stand in the order of the first. -/
structure Keeps (defined : List Descriptor) (index : Index) : Prop where
  last : ∀ protocol id, index.find? protocol id = lastOf defined ⟨protocol, id⟩
  ordered : (index.entries.map Descriptor.key).Pairwise
    (fun before after => firstAt defined before < firstAt defined after)

namespace Keeps

variable {defined : List Descriptor} {index : Index}

/-- Without definitions an index is empty. -/
theorem nothing : Keeps [] Index.empty :=
  ⟨fun _ _ => rfl, List.Pairwise.nil⟩

/-- The keys of the entries are those that are defined. -/
theorem mem_keys (keeps : Keeps defined index) (key : Key) :
    key ∈ index.entries.map Descriptor.key ↔ key ∈ defined.map Descriptor.key := by
  have found : index.find? key.protocol key.id = lastOf defined key :=
    keeps.last key.protocol key.id
  rw [← isSome_lastOf defined, ← found]
  simp [Index.find?]

/-- No key has two entries. -/
theorem nodup (keeps : Keeps defined index) : (index.entries.map Descriptor.key).Nodup :=
  keeps.ordered.imp fun before same => absurd before (by simp [same])

/-- One more definition is kept as well. It is the last of its key; if the key is new, it is first
    defined behind all others, and if it is not, no key moves. -/
theorem insert (keeps : Keeps defined index) (descriptor : Descriptor) :
    Keeps (defined ++ [descriptor]) (index.insert descriptor) := by
  -- The keys that were defined before keep their places.
  have settled : (index.entries.map Descriptor.key).Pairwise (fun before after =>
      firstAt (defined ++ [descriptor]) before < firstAt (defined ++ [descriptor]) after) := by
    refine keeps.ordered.imp_of_mem fun {before after} first second lower => ?_
    rwa [firstAt_snoc_of_mem descriptor ((keeps.mem_keys before).mp first),
      firstAt_snoc_of_mem descriptor ((keeps.mem_keys after).mp second)]
  constructor
  · intro protocol id
    rw [find?_insert, lastOf_snoc, keeps.last]
  · rw [Index.insert, keys_placeDescriptor]
    split
    · exact settled
    · rename_i unknown
      refine List.pairwise_append.mpr ⟨settled, List.pairwise_singleton _ _, ?_⟩
      intro key known last member
      rw [List.mem_singleton.mp member,
        firstAt_snoc_of_mem descriptor ((keeps.mem_keys key).mp known),
        firstAt_snoc_self (mt (keeps.mem_keys descriptor.key).mpr unknown)]
      exact firstAt_lt ((keeps.mem_keys key).mp known)

/-- So is all that a source delivers. By induction on what was found, of which each definition is
    inserted in turn. -/
theorem deliver (keeps : Keeps defined index) (source : Text) (found : List Descriptor) :
    Keeps (defined ++ found.map (attributedTo source)) (index.deliver source found) := by
  induction found generalizing defined index with
  | nil => simpa [Index.deliver] using keeps
  | cons descriptor later ih =>
    have longer := ih (keeps.insert (descriptor.attributedTo source))
    rwa [List.append_assoc, List.singleton_append] at longer

/-- The entries are the last definitions of their keys. An entry is what the index finds under its
    key, because no key has two. -/
theorem mem_entries (keeps : Keeps defined index) (descriptor : Descriptor) :
    descriptor ∈ index.entries ↔ lastOf defined descriptor.key = some descriptor := by
  have found : index.find? descriptor.protocol descriptor.id = lastOf defined descriptor.key :=
    keeps.last descriptor.protocol descriptor.id
  rw [← found]
  constructor
  · intro member
    have known : (index.find? descriptor.protocol descriptor.id).isSome := by
      rw [found, isSome_lastOf, ← keeps.mem_keys]
      exact List.mem_map_of_mem member
    obtain ⟨other, same⟩ := Option.isSome_iff_exists.mp known
    have equal : other.key = descriptor.key := by
      have found := List.find?_some same
      exact beq_iff_eq.mp found
    rw [same, List.inj_on_of_nodup_map keeps.nodup (List.mem_of_find?_eq_some same) member equal]
  · exact List.mem_of_find?_eq_some

/-- A protocol occurs in the index exactly if something is defined under it. The keys of the index
    are those that are defined. -/
theorem exists_protocol (keeps : Keeps defined index) (protocol : Text) :
    (∃ descriptor ∈ index.entries, descriptor.protocol = protocol) ↔
      ∃ descriptor ∈ defined, descriptor.protocol = protocol := by
  have through : ∀ descriptors : List Descriptor,
      (∃ descriptor ∈ descriptors, descriptor.protocol = protocol) ↔
        ∃ key ∈ descriptors.map Descriptor.key, key.protocol = protocol := by
    intro descriptors
    simp [Descriptor.key]
  rw [through, through]
  simp only [keeps.mem_keys]

end Keeps

/-- The answers of an index that keeps the last definition of each key at the place of the first. -/
structure Overrides (defined : List Descriptor) (index : Index) : Prop where
  /-- A protocol lists the ids that are defined under it, -/
  ids : ∀ protocol id, id ∈ (index.byProtocol protocol).map Descriptor.id ↔
    ∃ descriptor ∈ defined, descriptor.protocol = protocol ∧ descriptor.id = id
  /-- each once, -/
  once : ∀ protocol, ((index.byProtocol protocol).map Descriptor.id).Nodup
  /-- in the order of the first definitions, -/
  ordered : ∀ protocol, (index.byProtocol protocol).Pairwise (fun before after =>
    firstAt defined before.key < firstAt defined after.key)
  /-- with what was defined last. -/
  last : ∀ protocol, ∀ descriptor ∈ index.byProtocol protocol,
    descriptor.protocol = protocol ∧ lastOf defined ⟨protocol, descriptor.id⟩ = some descriptor
  /-- The same is found under a key, and nothing under a key that is not defined. -/
  find : ∀ protocol id, index.find? protocol id = lastOf defined ⟨protocol, id⟩
  hasProtocol : ∀ protocol, index.hasProtocol protocol = true ↔
    ∃ descriptor ∈ defined, descriptor.protocol = protocol
  protocols : ∀ protocol, protocol ∈ index.protocols.names ↔
    ∃ descriptor ∈ defined, descriptor.protocol = protocol
  ascending : index.protocols.names.Pairwise (· < ·)
  size : index.size = (defined.map Descriptor.key).toFinset.card

/-- All answers are given from the entries.

    Proof: the keys of the entries are those that are defined, none has two entries, and they stand
    in the order of their first definitions. The descriptors of a protocol are the entries with it,
    so their ids are distinct and in that order; an entry is the last definition of its key, and so
    is what is found. The size counts the entries, and with them the keys. -/
theorem Keeps.overrides {defined : List Descriptor} {index : Index}
    (keeps : Keeps defined index) : Overrides defined index where
  ids := by
    intro protocol id
    have known := keeps.mem_keys ⟨protocol, id⟩
    simp only [List.mem_map, Descriptor.key, Key.mk.injEq] at known
    simpa [byProtocol, and_assoc] using known
  once := by
    intro protocol
    have keys : ((index.byProtocol protocol).map Descriptor.key).Nodup :=
      keeps.nodup.sublist (List.filter_sublist.map Descriptor.key)
    refine List.Nodup.map_on ?_ (List.Nodup.of_map _ keys)
    intro first firstMember second secondMember same
    have firstHere : first.protocol = protocol := by simpa using (List.mem_filter.mp firstMember).2
    have secondHere : second.protocol = protocol := by
      simpa using (List.mem_filter.mp secondMember).2
    refine List.inj_on_of_nodup_map keys firstMember secondMember ?_
    simp [Descriptor.key, firstHere, secondHere, same]
  ordered := by
    intro protocol
    exact (List.pairwise_map.mp keeps.ordered).sublist List.filter_sublist
  last := by
    intro protocol descriptor member
    obtain ⟨inside, here⟩ := List.mem_filter.mp member
    obtain rfl : descriptor.protocol = protocol := by simpa using here
    exact ⟨rfl, (keeps.mem_entries descriptor).mp inside⟩
  find := keeps.last
  hasProtocol := by
    intro protocol
    rw [← keeps.exists_protocol]
    simp [hasProtocol]
  protocols := by
    intro protocol
    rw [← keeps.exists_protocol]
    exact NameSet.mem_ofList.trans List.mem_map
  ascending := index.protocols.ascending
  size := by
    have distinct : (defined.map Descriptor.key).toFinset =
        (index.entries.map Descriptor.key).toFinset := by
      ext key
      rw [List.mem_toFinset, List.mem_toFinset, keeps.mem_keys]
    rw [distinct, List.toFinset_card_of_nodup keeps.nodup, List.length_map, Index.size]

end Index

/-! ## What the sources have defined -/

/-- All sources have been called once, in their order, and each of them has delivered. -/
structure AllDelivered (sources : List Source) (asked : List Ask) : Prop where
  inOrder : InOrder sources asked
  all : asked.length = sources.length
  unfailed : ∀ ask ∈ asked, ∃ found, ask.outcome = .ok found

/-- The definitions that calls have delivered, each attributed to its source unless it names one. -/
def definitions (sources : List Source) (asked : List Ask) : List Descriptor :=
  asked.flatMap (fun ask =>
    match sources[ask.position]?, ask.outcome with
    | some source, .ok found => found.map (Descriptor.attributedTo source.name)
    | _, _ => [])

/-- An index keeps the definitions that were gathered in it. By induction on what was delivered;
    each source adds its definitions behind those of the sources before it. -/
theorem Delivered.keeps {sources : List Source} {asked : List Ask} {gathered : Index}
    (delivered : Delivered sources asked gathered) :
    Index.Keeps (definitions sources asked) gathered := by
  induction delivered with
  | nothing => exact .nothing
  | @next asked gathered source found _ here _ ih =>
    have joined : definitions sources (asked ++ [⟨asked.length, .ok found⟩]) =
        definitions sources asked ++ found.map (Descriptor.attributedTo source.name) := by
      simp [definitions, here]
    rw [joined]
    exact ih.deliver source.name found

/-- A bootstrap that is waited for calls each of the remaining sources once more, and they deliver.

    Proof: by induction on the remaining sources. The first is called, and since the bootstrap comes
    to an index it delivers; what it delivers is gathered, and the others are called with its count
    raised. A later call is at a later position, so the count that it finds is the one from
    before. -/
theorem Bootstrap.delivered_of_gather {storage : Storage} {sources later : List Source}
    {asked : List Ask} {gathered index : Index} {calls counted : List Nat}
    (delivered : Delivered sources asked gathered) (rest : sources.drop asked.length = later)
    (ended : gather storage gathered asked.length later calls = (.ok index, counted)) :
    ∃ further, Delivered sources (asked ++ further) index ∧
      (asked ++ further).length = sources.length ∧
      ∀ ask ∈ further, asked.length ≤ ask.position ∧ ∃ source,
        sources[ask.position]? = some source ∧
          (source.deliver storage (nextCall calls ask.position)).outcome = ask.outcome := by
  induction later generalizing asked gathered calls with
  | nil =>
    have all : asked.length = sources.length :=
      Nat.le_antisymm delivered.inOrder.bounded (List.drop_eq_nil_iff.mp rest)
    cases ended
    exact ⟨[], by simpa using delivered, by simpa using all, by simp⟩
  | cons source later ih =>
    have here : sources[asked.length]? = some source := by
      rw [← List.head?_drop, rest, List.head?_cons]
    have behind : sources.drop (asked.length + 1) = later := by
      rw [← List.tail_drop, rest, List.tail_cons]
    rw [gather] at ended
    split at ended
    · cases ended
    · rename_i found came
      have delivers : source.Delivers (.ok found) := ⟨storage, _, came⟩
      have onward := Delivered.next delivered here delivers
      have length : (asked ++ [Ask.mk asked.length (.ok found)]).length = asked.length + 1 :=
        List.length_append
      rw [← length] at ended behind
      obtain ⟨further, whole, all, genuine⟩ := ih onward behind ended
      rw [List.append_assoc, List.singleton_append] at whole all
      refine ⟨_, whole, all, ?_⟩
      intro ask member
      rcases List.mem_cons.mp member with rfl | behindIt
      · exact ⟨Nat.le_refl _, source, here, came⟩
      · obtain ⟨beyond, other, there, told⟩ := genuine ask behindIt
        rw [length] at beyond
        -- The count that was raised is that of an earlier source.
        have same : nextCall (calls.set asked.length (nextCall calls asked.length)) ask.position =
            nextCall calls ask.position := by
          simp [nextCall, List.getElem?_set_ne (by omega : asked.length ≠ ask.position)]
        exact ⟨by omega, other, there, same ▸ told⟩

/-- A registry that is filled at once keeps what its sources deliver when each is called the next
    time. Nothing was gathered before. -/
theorem Registry.delivered_of_fill {registry filled : Registry} {storage : Storage}
    (unset : registry.index = none) (ended : registry.fill storage = (.ok (), filled)) :
    ∃ asked, Delivered registry.sources asked filled.known ∧
      asked.length = registry.sources.length ∧
      ∀ ask ∈ asked, ∃ source, registry.sources[ask.position]? = some source ∧
        (source.deliver storage (Bootstrap.nextCall registry.calls ask.position)).outcome =
          ask.outcome := by
  rw [fill, if_neg (by simp [unset])] at ended
  split at ended
  · cases ended
  · split at ended
    · rename_i index calls gathered
      have nobody : Delivered registry.sources [] Index.empty := .nothing
      obtain ⟨asked, whole, all, genuine⟩ := Bootstrap.delivered_of_gather nobody rfl gathered
      cases ended
      exact ⟨asked, whole, all, fun ask member => (genuine ask member).2⟩
    · cases ended

/-- Whatever the sources do and however the polls of any number of callers interleave: once the
    index is set it answers every question by the last definition of a key, at the place of the
    first, of all that the sources have delivered to the bootstrap that has set it. Each source was
    called once by that bootstrap, in order, and delivered. The same holds if the registry is filled
    at once, and then the definitions are what the sources deliver when each is called the next
    time.

    Proof: every history is sound, so the bootstrap that has set the index is on record, with calls
    to all sources that have delivered. An index keeps what was gathered in it (`Delivered.keeps`),
    and answers from its entries (`Keeps.overrides`). For a registry that is filled at once the
    calls are those of `Registry.delivered_of_fill`. -/
theorem last_definition_wins (sources : List Source) (steps : List Move) :
    let watched := Watched.history sources steps
    (watched.registry.index.isSome →
      ∃ attempt ∈ watched.attempts, attempt.standing = .fulfilled ∧
        AllDelivered sources attempt.asked ∧
        Index.Overrides (definitions sources attempt.asked) watched.registry.known) ∧
    ∀ storage filled, watched.registry.index = none →
      watched.registry.fill storage = (.ok (), filled) →
      ∃ asked, AllDelivered sources asked ∧
        (∀ ask ∈ asked, ∃ source, sources[ask.position]? = some source ∧
          (source.deliver storage
            (Bootstrap.nextCall watched.registry.calls ask.position)).outcome = ask.outcome) ∧
        Index.Overrides (definitions sources asked) filled.known := by
  intro watched
  have sound : Sound sources watched := Watched.sound sources steps
  constructor
  · intro ready
    obtain ⟨index, set⟩ := Option.isSome_iff_exists.mp ready
    obtain ⟨ticket, asked, older, latest, _⟩ := sound.consistent.latest_of_set set
    have recorded : ⟨ticket, asked, .complete index, false⟩ ∈ watched.attempts := by
      rw [latest]
      exact List.mem_cons_self
    have known : watched.registry.known = index := by rw [Registry.known, set, Option.getD_some]
    have reached : Reached sources asked (.complete index) := sound.reached _ recorded
    cases reached with
    | complete delivered all =>
      refine ⟨_, recorded, rfl, ⟨delivered.inOrder, all, delivered.unfailed⟩, ?_⟩
      rw [known]
      exact delivered.keeps.overrides
  · intro storage filled unset ended
    obtain ⟨asked, delivered, all, genuine⟩ := Registry.delivered_of_fill unset ended
    rw [sound.sources_eq] at delivered all genuine
    exact ⟨asked, ⟨delivered.inOrder, all, delivered.unfailed⟩, genuine,
      delivered.keeps.overrides⟩

/-- Of two sources that define the same thought the second one wins, and the thought stays first. -/
example :
    let described (id reference : String) :=
      Descriptor.plain "thought".toList id.toList reference.toList
    let registry := Registry.ofSources
      [.listed "pkg".toList [described "calm" "old", described "deep" "kept"],
        .listed "dir".toList [described "wide" "new", described "calm" "new"]]
    let known := (registry.fill Storage.empty).2.known
    (known.byProtocol "thought".toList).map (fun descriptor =>
        (descriptor.id, descriptor.reference, descriptor.source)) =
      [("calm".toList, "new".toList, "dir".toList), ("deep".toList, "kept".toList, "pkg".toList),
        ("wide".toList, "new".toList, "dir".toList)] := by
  decide

end RoleWeave
