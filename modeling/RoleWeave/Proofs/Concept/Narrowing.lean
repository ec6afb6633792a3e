import RoleWeave.Proofs.Concept.Spanning

/-!
# Outlines under a smaller limit

The same role is outlined under two limits. The outline under the smaller one is that under the larger
one, cut off: it has the first concepts, and the relations between these. That holds all along, part
after part and term after term, because a concept that is refused is refused only where all places
are taken: it comes behind the others in the larger outline, and so does all that is added below it.

If the larger limit has not been reached, it might be any other, and the outline is cut off by every
limit. If it has been reached, a still larger one may show more: `outlines_narrow` says when.
-/

namespace RoleWeave

/-- What a concept is, however often it was counted. -/
def Concept.identity (concept : Concept) : Text × Text × ConceptKind :=
  (concept.id, concept.label, concept.kind)

namespace Outline

open ConceptGraph (key bump)

/-- The concepts of one graph are the first of another, in the same order, and its relations are those
    of the other that lead from one of these to another. -/
structure CutOff (limit : Nat) (full cut : ConceptGraph) : Prop where
  concepts : cut.concepts.map Concept.identity =
    (full.concepts.map Concept.identity).take limit
  relations : cut.relations = full.relations.filter
    (fun relation => cut.holds relation.source && cut.holds relation.target)

/-- Two outlines that are built side by side, one of which is the other cut off. -/
structure Alongside (limit : Nat) (full cut : ConceptGraph) : Prop where
  consistent : full.Consistent
  consistentCut : cut.Consistent
  cutOff : CutOff limit full cut

/-- Counting a concept does not change what it is. -/
theorem identity_bump (id : Text) (concepts : List Concept) :
    (concepts.map (bump id)).map Concept.identity = concepts.map Concept.identity := by
  rw [List.map_map]
  refine List.map_congr_left (fun concept _ => ?_)
  rw [Function.comp, bump]
  split <;> rfl

/-- What concepts are tells their ids. -/
theorem map_fst_identity (concepts : List Concept) :
    (concepts.map Concept.identity).map Prod.fst = concepts.map Concept.id := by
  rw [List.map_map]
  rfl

/-- A cut-off outline has as many concepts as the limit leaves of the other. If the other has fewer
    than the limit, nothing is cut off. -/
theorem CutOff.size_eq {limit : Nat} {full cut : ConceptGraph} (cutOff : CutOff limit full cut)
    (consistent : full.Consistent) (consistentCut : cut.Consistent) :
    cut.size = min limit full.size := by
  have lengths := congrArg List.length cutOff.concepts
  rwa [List.length_take, List.length_map, List.length_map, consistent.length_concepts,
    consistentCut.length_concepts] at lengths

namespace Alongside

variable {limit : Nat} {full cut : ConceptGraph}

/-- As many concepts are left as the limit admits. -/
theorem size_eq (alongside : Alongside limit full cut) : cut.size = min limit full.size :=
  alongside.cutOff.size_eq alongside.consistent alongside.consistentCut

/-- The ids that are left are the first ones. -/
theorem order_eq (alongside : Alongside limit full cut) : cut.order = full.order.take limit := by
  rw [← alongside.consistentCut.map_id_concepts, ← map_fst_identity, alongside.cutOff.concepts,
    List.map_take, map_fst_identity, alongside.consistent.map_id_concepts]

/-- What is held by the cut-off outline is held by the other. -/
theorem holds_of_cut (alongside : Alongside limit full cut) {id : Text}
    (held : cut.holds id = true) : full.holds id = true := by
  rw [← alongside.consistentCut.listed, alongside.order_eq] at held
  exact (alongside.consistent.listed id).mp (List.mem_of_mem_take held)

/-- As long as there is room, both outlines hold the same. -/
theorem same_order (alongside : Alongside limit full cut) (room : cut.size < limit) :
    cut.order = full.order := by
  have sizes := alongside.size_eq
  rw [alongside.order_eq, List.take_of_length_le]
  rw [← alongside.consistent.size_eq]
  omega

/-- A relation leads from one concept to another in the cut-off outline exactly if it does in the
    other, as far as both are held. Only relations with an end outside are left out. -/
theorem joins_eq (alongside : Alongside limit full cut) {source target : Text}
    (starts : cut.holds source = true) (ends : cut.holds target = true) :
    full.joins source target = cut.joins source target := by
  rw [Bool.eq_iff_iff, ConceptGraph.joins_iff, ConceptGraph.joins_iff, alongside.cutOff.relations]
  simp only [List.mem_map, List.mem_filter, Bool.and_eq_true]
  constructor
  · rintro ⟨relation, member, same⟩
    cases same
    exact ⟨relation, ⟨member, starts, ends⟩, rfl⟩
  · rintro ⟨relation, ⟨member, _⟩, same⟩
    exact ⟨relation, member, same⟩

/-! ## Steps of both outlines -/

/-- Both outlines count a concept that both hold. Counting changes neither what concepts are nor
    what the cut-off outline holds, so nothing else has to be looked at. -/
theorem count (alongside : Alongside limit full cut) {label : Text}
    (held : cut.holds (key label) = true) (kind : ConceptKind) :
    Alongside limit (full.add label kind) (cut.add label kind) := by
  have same : (cut.add label kind).holds = cut.holds := by
    funext id
    rw [ConceptGraph.holds_add]
    by_cases here : id = key label
    · simp [here, held]
    · simp [here]
  refine ⟨alongside.consistent.add label kind, alongside.consistentCut.add label kind, ?_, ?_⟩
  · rw [alongside.consistentCut.concepts_add_of_holds held,
      alongside.consistent.concepts_add_of_holds (alongside.holds_of_cut held), identity_bump,
      identity_bump]
    exact alongside.cutOff.concepts
  · rw [ConceptGraph.relations_add, ConceptGraph.relations_add, same]
    exact alongside.cutOff.relations

/-- While there is room, both outlines make the same new concept.

    Proof: as long as there is room nothing has been cut off, so both hold the same. The label is
    new in both or in neither, and where it is new the concept comes last. With one more concept the
    limit is still not exceeded, so it cuts nothing off. All relations of the larger outline join
    concepts that it held before, and these the other holds as well. -/
theorem extend (alongside : Alongside limit full cut) {label : Text}
    (fresh : cut.holds (key label) = false) (room : cut.size < limit) (kind : ConceptKind) :
    full.holds (key label) = false ∧
      Alongside limit (full.add label kind) (cut.add label kind) := by
  have same : ∀ id, full.holds id = cut.holds id := by
    intro id
    rw [Bool.eq_iff_iff, ← alongside.consistent.listed, ← alongside.consistentCut.listed,
      alongside.same_order room]
  have freshToo : full.holds (key label) = false := (same _).trans fresh
  refine ⟨freshToo, alongside.consistent.add label kind, alongside.consistentCut.add label kind,
    ?_, ?_⟩
  · have short : full.concepts.length < limit := by
      have sizes := alongside.size_eq
      rw [alongside.consistent.length_concepts]
      omega
    have before := alongside.cutOff.concepts
    rw [List.take_of_length_le (by rw [List.length_map]; omega)] at before
    rw [alongside.consistentCut.concepts_add_of_fresh fresh,
      alongside.consistent.concepts_add_of_fresh freshToo, List.map_append, List.map_append, before,
      List.take_of_length_le]
    rw [List.length_append, List.length_map, List.length_map, List.length_singleton]
    exact short
  · have all : ∀ relation ∈ full.relations,
        ((cut.add label kind).holds relation.source &&
          (cut.add label kind).holds relation.target) = true := by
      intro relation member
      obtain ⟨_, starts, ends⟩ := alongside.consistent.joined relation member
      rw [same] at starts ends
      rw [ConceptGraph.holds_add_of_holds label kind starts,
        ConceptGraph.holds_add_of_holds label kind ends, Bool.and_self]
    have before := alongside.cutOff.relations
    rw [List.filter_eq_self.mpr] at before
    · rw [ConceptGraph.relations_add, ConceptGraph.relations_add, List.filter_eq_self.mpr all,
        before]
    · intro relation member
      obtain ⟨_, starts, ends⟩ := alongside.consistent.joined relation member
      rw [← same, ← same, starts, ends, Bool.and_self]

/-- Both outlines add a relation between concepts that both hold, or neither does.

    Proof: whether the relation may be added depends on the two concepts being different and on no
    relation joining them, and about this the outlines agree by `joins_eq`. A relation that is added
    has both ends in the cut-off outline, so it is kept there. -/
theorem link (alongside : Alongside limit full cut) {source target : Text}
    (starts : cut.holds source = true) (ends : cut.holds target = true) (kind : RelationKind) :
    Alongside limit (full.link source target kind) (cut.link source target kind) := by
  have may : full.mayLink source target = cut.mayLink source target := by
    rw [Bool.eq_iff_iff, alongside.consistent.mayLink_iff, alongside.consistentCut.mayLink_iff,
      alongside.joins_eq starts ends, alongside.holds_of_cut starts, alongside.holds_of_cut ends,
      starts, ends]
  have holds : (cut.link source target kind).holds = cut.holds :=
    funext (ConceptGraph.holds_link _ _ _ _)
  refine ⟨alongside.consistent.link source target kind,
    alongside.consistentCut.link source target kind, ?_, ?_⟩
  · rw [ConceptGraph.concepts_link, ConceptGraph.concepts_link]
    exact alongside.cutOff.concepts
  · rw [holds]
    rcases full.link_cases source target kind with ⟨refused, same⟩ | ⟨allowed, added⟩
    · rw [same, ConceptGraph.link, ConceptGraph.link?, ← may, refused]
      exact alongside.cutOff.relations
    · rw [added, ConceptGraph.link, ConceptGraph.link?, ← may, allowed]
      simp only [if_true, Option.getD_some, List.filter_append, ← alongside.cutOff.relations]
      simp [starts, ends]

/-! ## Steps of the larger outline alone -/

/-- What the larger outline adds by itself is cut off, if it is there already or if all places are
    taken. A concept that is there is only counted; one that is new comes behind the places that the
    limit leaves. -/
theorem addFull (alongside : Alongside limit full cut) {label : Text}
    (behind : full.holds (key label) = true ∨ limit ≤ cut.size) (kind : ConceptKind) :
    Alongside limit (full.add label kind) cut := by
  refine ⟨alongside.consistent.add label kind, alongside.consistentCut, ?_, ?_⟩
  · cases known : full.holds (key label) with
    | true =>
      rw [alongside.consistent.concepts_add_of_holds known, identity_bump]
      exact alongside.cutOff.concepts
    | false =>
      have taken : limit ≤ cut.size := behind.resolve_left (by simp [known])
      have enough : limit ≤ (full.concepts.map Concept.identity).length := by
        have sizes := alongside.size_eq
        rw [List.length_map, alongside.consistent.length_concepts]
        omega
      rw [alongside.consistent.concepts_add_of_fresh known, List.map_append,
        List.take_append_of_le_length enough]
      exact alongside.cutOff.concepts
  · rw [ConceptGraph.relations_add]
    exact alongside.cutOff.relations

/-- A relation that the larger outline adds by itself is cut off, unless both its ends are held.
    Then it is one of those that the cut-off outline does not have. -/
theorem linkFull (alongside : Alongside limit full cut) {source target : Text}
    (loose : (cut.holds source && cut.holds target) = false) (kind : RelationKind) :
    Alongside limit (full.link source target kind) cut := by
  refine ⟨alongside.consistent.link source target kind, alongside.consistentCut, ?_, ?_⟩
  · rw [ConceptGraph.concepts_link]
    exact alongside.cutOff.concepts
  · rcases full.link_cases source target kind with ⟨_, same⟩ | ⟨_, added⟩
    · rw [same]
      exact alongside.cutOff.relations
    · rw [added]
      simp only [List.filter_append, ← alongside.cutOff.relations]
      simp [loose]

/-! ## Building both outlines -/

/-- What the cut-off outline admits, the other admits as well: it holds all that the other holds,
    and while there is room in the one there is room in the other. -/
theorem admits_of_cut (alongside : Alongside limit full cut) {larger : Nat} (le : limit ≤ larger)
    {label : Text} (admitted : admits limit cut label = true) : admits larger full label = true := by
  rw [admits, Bool.or_eq_true, decide_eq_true_eq] at admitted ⊢
  rcases admitted with room | held
  · have sizes := alongside.size_eq
    exact .inl (by omega)
  · exact .inr (alongside.holds_of_cut held)

/-- A concept that is refused is not held, and all places are taken. A concept that is held is
    admitted whatever the limit is. -/
theorem taken_of_refused {graph : ConceptGraph} {label : Text}
    (refused : admits limit graph label = false) :
    graph.holds (key label) = false ∧ limit ≤ graph.size := by
  rw [admits, Bool.or_eq_false_iff, decide_eq_false_iff_not] at refused
  exact ⟨refused.2, by omega⟩

/-- A concept that the larger outline adds by itself is cut off, if all places are taken and the
    concept or the one above it is not held. So is the relation that leads to it. -/
theorem belowFull (alongside : Alongside limit full cut) (taken : limit ≤ cut.size)
    {larger : Nat} {parent label : Text}
    (loose : (cut.holds parent && cut.holds (key label)) = false) (relation : RelationKind)
    (kind : ConceptKind) :
    Alongside limit (addBelow larger parent relation kind full label) cut := by
  cases admitted : admits larger full label with
  | true =>
    rw [addBelow_of_admitted admitted]
    exact (alongside.addFull (.inr taken) kind).linkFull loose relation
  | false => rwa [addBelow_of_refused admitted]

/-- Below a concept that both hold, both outlines add another, or the one that is added is cut off.

    Proof: if the smaller outline admits the concept, then so does the larger one. Both count it if
    it is held, and otherwise there is room and both make it; then both add the relation. If the
    smaller outline refuses it, all places are taken and the concept is not held, so what the larger
    one does is cut off. -/
theorem below (alongside : Alongside limit full cut) {larger : Nat} (le : limit ≤ larger)
    {parent : Text} (held : cut.holds parent = true) (relation : RelationKind)
    (kind : ConceptKind) (label : Text) :
    Alongside limit (addBelow larger parent relation kind full label)
      (addBelow limit parent relation kind cut label) := by
  cases admitted : admits limit cut label with
  | true =>
    have both : Alongside limit (full.add label kind) (cut.add label kind) := by
      cases known : cut.holds (key label) with
      | true => exact alongside.count known kind
      | false =>
        have room : cut.size < limit := by simpa [admits, known] using admitted
        exact (alongside.extend known room kind).2
    rw [addBelow_of_admitted (alongside.admits_of_cut le admitted), addBelow_of_admitted admitted]
    exact both.link (ConceptGraph.holds_add_of_holds label kind held)
      (by simp [ConceptGraph.holds_add]) relation
  | false =>
    obtain ⟨fresh, taken⟩ := taken_of_refused admitted
    rw [addBelow_of_refused admitted]
    exact alongside.belowFull taken (by simp [fresh]) relation kind

/-- Both outlines add concepts below one that both hold. That one stays held while the others are
    added. -/
theorem allBelow (alongside : Alongside limit full cut) {larger : Nat} (le : limit ≤ larger)
    {parent : Text} (held : cut.holds parent = true) (relation : RelationKind)
    (kind : ConceptKind) (labels : List Text) :
    Alongside limit (labels.foldl (addBelow larger parent relation kind) full)
      (labels.foldl (addBelow limit parent relation kind) cut) := by
  induction labels generalizing full cut with
  | nil => exact alongside
  | cons label later ih =>
    exact ih (alongside.below le held relation kind label)
      (holds_addBelow parent label relation kind held)

/-- What the larger outline adds below a concept that is cut off is cut off as well. The relations
    to what is added have an end outside. -/
theorem allBelowFull (alongside : Alongside limit full cut) (taken : limit ≤ cut.size)
    {larger : Nat} {parent : Text} (absent : cut.holds parent = false) (relation : RelationKind)
    (kind : ConceptKind) (labels : List Text) :
    Alongside limit (labels.foldl (addBelow larger parent relation kind) full) cut := by
  induction labels generalizing full with
  | nil => exact alongside
  | cons label later ih => exact ih (alongside.belowFull taken (by simp [absent]) relation kind)

/-- Both outlines add a part, or the part that is added is cut off with all its terms.

    Proof: if the smaller outline admits the part, both add it and its terms. If it refuses the part
    then all places are taken, and the concept of the part is not held; whatever the larger outline
    adds below it is cut off, by `allBelowFull`. -/
theorem part (alongside : Alongside limit full cut) {larger : Nat} (le : limit ≤ larger)
    (maxLabelChars : Nat) {root : Text} (held : cut.holds root = true) (part : Part) :
    Alongside limit (addPart ⟨larger, maxLabelChars⟩ root full part)
      (addPart ⟨limit, maxLabelChars⟩ root cut part) := by
  rw [addPart, addPart]
  cases admitted : admits limit cut part.label with
  | true =>
    rw [if_pos (alongside.admits_of_cut le admitted), if_pos rfl]
    exact (alongside.below le held .contains part.kind part.label).allBelow le
      (holds_of_admitted admitted root .contains part.kind) .mentions .term _
  | false =>
    obtain ⟨fresh, taken⟩ := taken_of_refused admitted
    rw [if_neg Bool.false_ne_true]
    split
    · exact (alongside.belowFull taken (by simp [fresh]) .contains part.kind).allBelowFull taken
        fresh .mentions .term _
    · exact alongside

end Alongside

/-- The outline under a smaller limit is the one under a larger limit, cut off.

    Proof: both begin with the role, for which a limit of one leaves room. From there on they are
    built side by side, part after part; the role stays held, so `part` applies each time. -/
theorem alongside_graphOf {limit larger : Nat} (positive : 1 ≤ limit) (le : limit ≤ larger)
    (maxLabelChars : Nat) (name : Text) (parts : List Part) :
    Alongside limit (graphOf ⟨larger, maxLabelChars⟩ name parts)
      (graphOf ⟨limit, maxLabelChars⟩ name parts) := by
  have all : ∀ full cut : ConceptGraph, Alongside limit full cut →
      Grown limit name cut → cut.holds (key name) = true →
      Alongside limit (parts.foldl (addPart ⟨larger, maxLabelChars⟩ (key name)) full)
        (parts.foldl (addPart ⟨limit, maxLabelChars⟩ (key name)) cut) := by
    induction parts with
    | nil => exact fun _ _ alongside _ _ => alongside
    | cons part later ih =>
      intro full cut alongside grown held
      obtain ⟨grownLater, kept⟩ := grown.addPart ⟨limit, maxLabelChars⟩ held part
      exact ih _ _ (alongside.part le maxLabelChars held part) grownLater (kept _ held)
  have role : (ConceptGraph.empty.add name .role).Consistent :=
    ConceptGraph.consistent_empty.add name .role
  refine all _ _ ⟨role, role, ?_, ?_⟩ .root (by simp [ConceptGraph.holds_add])
  · rw [List.take_of_length_le]
    rw [List.length_map, role.length_concepts, ConceptGraph.consistent_empty.size_add]
    exact positive
  · rw [ConceptGraph.relations_add]
    rfl

/-- If nothing has been cut off, both outlines are the same apart from the weights, and so the
    larger one is also the smaller one, cut off by any limit that is not smaller.

    Proof: the limit leaves all concepts of the larger outline, so both list the same ids and hold
    the same. Every relation of the larger outline then has both its ends held, and none is left
    out. -/
theorem Alongside.converse {limit : Nat} {full cut : ConceptGraph}
    (alongside : Alongside limit full cut) (whole : full.size ≤ cut.size) {other : Nat}
    (le : limit ≤ other) : CutOff other cut full := by
  have sizes := alongside.size_eq
  have length : (full.concepts.map Concept.identity).length ≤ limit := by
    rw [List.length_map, alongside.consistent.length_concepts]
    omega
  have same : cut.concepts.map Concept.identity = full.concepts.map Concept.identity := by
    rw [alongside.cutOff.concepts, List.take_of_length_le length]
  have held : ∀ relation ∈ full.relations,
      (full.holds relation.source && full.holds relation.target) = true := by
    intro relation member
    obtain ⟨_, starts, ends⟩ := alongside.consistent.joined relation member
    rw [starts, ends, Bool.and_self]
  have holds : cut.holds = full.holds := by
    funext id
    rw [Bool.eq_iff_iff, ← alongside.consistentCut.listed, ← alongside.consistent.listed,
      ← alongside.consistentCut.map_id_concepts, ← alongside.consistent.map_id_concepts,
      ← map_fst_identity, same, map_fst_identity]
  have relations : cut.relations = full.relations := by
    rw [alongside.cutOff.relations, holds, List.filter_eq_self.mpr held]
  refine ⟨?_, ?_⟩
  · rw [same, List.take_of_length_le (Nat.le_trans length le)]
  · rw [relations, List.filter_eq_self.mpr held]

/-- A smaller limit cuts an outline off, and nothing else. Let a role with a section or a skill be
    outlined under two limits, the first of which holds all its concepts. The outline under the
    second, which is one at least, consists of the first concepts of the other outline, as many as
    the limit leaves, and of the relations between these, if the second limit is not larger or if
    the first has not been reached. In any case this is so exactly if the second outline has no more
    concepts than the first.

    Proof: whichever limit is the smaller one, its outline is the other cut off, by
    `alongside_graphOf`. If the second limit is smaller, that is what is claimed. If it is larger,
    the first outline is the second cut off; where it is not smaller than the second, nothing was
    cut off and `Alongside.converse` turns the relation round. An outline that has not reached its
    limit is not smaller, since it has as many concepts as the limit leaves. Conversely a cut-off
    outline never has more concepts. -/
theorem outlines_narrow (maxLabelChars given limit : Nat) (role : ComposedRole)
    (content : ¬(role.sections = [] ∧ role.skills = [])) (positive : 1 ≤ limit) :
    ∃ full cut, build ⟨given, maxLabelChars⟩ role = .ok full ∧
      build ⟨limit, maxLabelChars⟩ role = .ok cut ∧
      (full.size ≤ given →
        (limit ≤ given ∨ full.size < given → CutOff limit full cut) ∧
          (CutOff limit full cut ↔ cut.size ≤ full.size)) := by
  have grown := grown_graphOf ⟨given, maxLabelChars⟩ role.info.name (parts role)
  have grownCut := grown_graphOf ⟨limit, maxLabelChars⟩ role.info.name (parts role)
  have wider := fun le : limit ≤ given =>
    alongside_graphOf positive le maxLabelChars role.info.name (parts role)
  have narrower := fun (some : 1 ≤ given) (le : given ≤ limit) =>
    alongside_graphOf some le maxLabelChars role.info.name (parts role)
  refine ⟨_, _, build_of_content _ content, build_of_content _ content, fun fits => ?_⟩
  generalize graphOf ⟨given, maxLabelChars⟩ role.info.name (parts role) = full at *
  generalize graphOf ⟨limit, maxLabelChars⟩ role.info.name (parts role) = cut at *
  have some : 1 ≤ given := Nat.le_trans grown.size_pos fits
  have whole : cut.size ≤ full.size → CutOff limit full cut := by
    intro fewer
    rcases Nat.le_total limit given with le | le
    · exact (wider le).cutOff
    · exact (narrower some le).converse fewer le
  refine ⟨?_, fun cutOff => ?_, whole⟩
  · rintro (le | unreached)
    · exact (wider le).cutOff
    · rcases Nat.le_total limit given with le | le
      · exact (wider le).cutOff
      · have sizes := (narrower some le).size_eq
        exact whole (by omega)
  · rw [cutOff.size_eq grown.consistent grownCut.consistent]
    exact Nat.min_le_right limit full.size

/-- A role with a section and a thought that mention the same term. -/
def sharedTermRole : ComposedRole where
  info := RoleInfo.plain "dev".toList
  text := []
  thoughts := NameSet.empty
  executions := NameSet.empty
  knowledge := []
  sections := [(.personality, "**a** and **b**".toList)]
  skills := [⟨⟨"thought".toList, "t".toList⟩, "**b** and **c**".toList⟩]
  failures := []
  suppressed := []
  status := .composed

/-- Under a limit of three concepts, the role, its section and the first term are left, and two of
    six relations. -/
theorem shared_term_role_narrowed :
    ∃ full cut, build ⟨10, 48⟩ sharedTermRole = .ok full ∧ build ⟨3, 48⟩ sharedTermRole = .ok cut ∧
      full.order = ["dev", "personality", "a", "b", "thought://t", "c"].map String.toList ∧
      cut.order = ["dev", "personality", "a"].map String.toList ∧
      full.relations.length = 6 ∧ cut.relations.length = 2 ∧ CutOff 3 full cut := by
  obtain ⟨full, cut, built, builtToo, narrowed⟩ :=
    outlines_narrow 48 10 3 sharedTermRole (by decide) (by decide)
  have known : ((build ⟨10, 48⟩ sharedTermRole).toOption.map
        (fun graph => (graph.order, graph.relations.length, graph.size)) =
      some (["dev", "personality", "a", "b", "thought://t", "c"].map String.toList, 6, 6)) ∧
      ((build ⟨3, 48⟩ sharedTermRole).toOption.map
        (fun graph => (graph.order, graph.relations.length)) =
      some (["dev", "personality", "a"].map String.toList, 2)) := by
    decide +kernel
  simp only [built, builtToo, Except.toOption, Option.map_some, Option.some.injEq,
    Prod.mk.injEq] at known
  obtain ⟨⟨order, relations, size⟩, orderCut, relationsCut⟩ := known
  exact ⟨full, cut, built, builtToo, order, orderCut, relations, relationsCut,
    (narrowed (by omega)).1 (.inl (by decide))⟩

/-- An outline that was cut off itself does not show what a larger limit admits: under a limit of two
    there are two concepts, and under a limit of three there are three. -/
theorem cut_outline_widens :
    ¬ ∀ (maxLabelChars given limit : Nat) (role : ComposedRole) (full cut : ConceptGraph),
      ¬(role.sections = [] ∧ role.skills = []) → 1 ≤ limit →
      build ⟨given, maxLabelChars⟩ role = .ok full → full.size ≤ given →
      build ⟨limit, maxLabelChars⟩ role = .ok cut → CutOff limit full cut := by
  intro claimed
  have sizes : (graphOf ⟨2, 48⟩ sharedTermRole.info.name (parts sharedTermRole)).size = 2 ∧
      (graphOf ⟨3, 48⟩ sharedTermRole.info.name (parts sharedTermRole)).size = 3 := by
    decide +kernel
  have content : ¬(sharedTermRole.sections = [] ∧ sharedTermRole.skills = []) := by decide
  have cutOff := claimed 48 2 3 sharedTermRole _ _ content (by decide) (build_of_content _ content)
    (Nat.le_of_eq sizes.1) (build_of_content _ content)
  have size := cutOff.size_eq (grown_graphOf ⟨2, 48⟩ _ _).consistent
    (grown_graphOf ⟨3, 48⟩ _ _).consistent
  omega

end Outline

end RoleWeave
