import Mathlib.Data.List.Basic
import RoleWeave.Concept.Graph
import RoleWeave.Proofs.Text.Trimming

/-!
# Graphs that come of edits

A concept graph is made by adding concepts and relations to the graph that has none, one edit after
the other. What the graph keeps more than once then agrees: the graph is `Consistent`. The order
lists the ids of the concepts, every concept is kept under the key of its label, a relation joins two
concepts and no other joins them in the same direction, and the positions under an id are those of
the relations that lead from it.

In a consistent graph nothing is to be seen of the positions: whether a relation leads from one id to
another is read off the relations themselves, and the children of a concept are all that its
relations lead to, in the same order.
-/

namespace RoleWeave

/-- Where a relation begins and where it ends. -/
def Relation.ends (relation : Relation) : Text × Text :=
  (relation.source, relation.target)

namespace ConceptGraph

/-- A change of a graph. -/
inductive Edit where
  | add (label : Text) (kind : ConceptKind)
  | link (source target : Text) (kind : RelationKind)
deriving DecidableEq, Repr

/-- Make a change. -/
def edit (graph : ConceptGraph) : Edit → ConceptGraph
  | .add label kind => graph.add label kind
  | .link source target kind => graph.link source target kind

/-- The graph that edits make of the one without concepts. -/
def edited (edits : List Edit) : ConceptGraph :=
  edits.foldl edit empty

/-- Count the concept with an id once more. -/
def bump (id : Text) (concept : Concept) : Concept :=
  if concept.id = id then { concept with weight := concept.weight + 1 } else concept

/-- The positions at which relations lead from an id. -/
def positions (relations : List Relation) (id : Text) : List Nat :=
  (relations.zipIdx.filter (fun entry => entry.1.source == id)).map Prod.snd

/-- What a graph keeps more than once agrees. -/
structure Consistent (graph : ConceptGraph) : Prop where
  /-- No id is listed twice. -/
  once : graph.order.Nodup
  /-- The ids of the concepts are listed, and nothing else. -/
  listed : ∀ id, id ∈ graph.order ↔ graph.holds id = true
  /-- A concept is kept under its id, which is the key of its label. -/
  keyed : ∀ id concept, graph.find? id = some concept → concept.id = id ∧ key concept.label = id
  /-- A relation joins two different concepts. -/
  joined : ∀ relation ∈ graph.relations, relation.source ≠ relation.target ∧
    graph.holds relation.source = true ∧ graph.holds relation.target = true
  /-- No two relations lead from the same concept to the same other. -/
  single : (graph.relations.map Relation.ends).Nodup
  /-- The positions under an id are those of the relations that lead from it. -/
  indexed : ∀ id, graph.leaving id = positions graph.relations id
  /-- The graph is about the first of its concepts that is a role. -/
  founded : graph.root = (graph.concepts.find? (fun concept => concept.kind == .role)).map Concept.id

/-! ## What an edit changes -/

/-- A concept is found under every id that the graph holds. -/
theorem find?_of_holds {graph : ConceptGraph} {id : Text} (held : graph.holds id = true) :
    ∃ concept, graph.find? id = some concept :=
  Option.isSome_iff_exists.mp held

/-- The graph without concepts holds no id. -/
@[simp] theorem holds_empty (id : Text) : empty.holds id = false := rfl

/-- Adding a label adds no relation. -/
@[simp] theorem relations_add (graph : ConceptGraph) (label : Text) (kind : ConceptKind) :
    (graph.add label kind).relations = graph.relations := by
  unfold add
  split <;> rfl

/-- Adding a label leaves the positions of all relations as they are. -/
@[simp] theorem leaving_add (graph : ConceptGraph) (label id : Text) (kind : ConceptKind) :
    (graph.add label kind).leaving id = graph.leaving id := by
  unfold add
  split <;> rfl

/-- A label that is new comes last in the order. One that is known by its key keeps its place. -/
theorem order_add (graph : ConceptGraph) (label : Text) (kind : ConceptKind) :
    (graph.add label kind).order =
      if graph.holds (key label) then graph.order else graph.order ++ [key label] := by
  unfold add
  split <;> simp [*]

/-- Adding a label takes no concept away. -/
theorem holds_add_of_holds {graph : ConceptGraph} {id : Text} (label : Text) (kind : ConceptKind)
    (held : graph.holds id = true) : (graph.add label kind).holds id = true := by
  rw [holds_add, held, Bool.or_true]

/-- What is known under a label is counted once more when the label is added. The kind with which it
    is added this time does not matter. -/
theorem named_of_find? {graph : ConceptGraph} {label : Text} {concept : Concept}
    (found : graph.find? (key label) = some concept) (kind : ConceptKind) :
    graph.named label kind = { concept with weight := concept.weight + 1 } := by
  rw [named, found]

/-- What is not known under a label is new when the label is added. -/
theorem named_of_fresh {graph : ConceptGraph} {label : Text}
    (fresh : graph.holds (key label) = false) (kind : ConceptKind) :
    graph.named label kind = ⟨key label, Text.trim label, kind, 1⟩ := by
  have absent : graph.find? (key label) = none := by simpa [holds] using fresh
  rw [named, absent]

/-- Adding a relation leaves the graph as it is, or it puts one behind the others that may be there.
    All that is said of `link` goes back to these two cases. -/
theorem link_cases (graph : ConceptGraph) (source target : Text) (kind : RelationKind) :
    (graph.mayLink source target = false ∧ graph.link source target kind = graph) ∨
      graph.mayLink source target = true ∧
        graph.link source target kind =
          { graph with
            relations := graph.relations ++ [⟨source, target, kind⟩]
            outgoing := graph.outgoing.put source
              (graph.leaving source ++ [graph.relations.length]) } := by
  cases may : graph.mayLink source target with
  | false => exact .inl ⟨rfl, by simp [link, link?, may]⟩
  | true => exact .inr ⟨rfl, by simp [link, link?, may]⟩

section Link

variable (graph : ConceptGraph) (source target : Text) (kind : RelationKind)

/-- Adding a relation leaves the concepts as they are. -/
@[simp] theorem nodes_link : (graph.link source target kind).nodes = graph.nodes := by
  rcases graph.link_cases source target kind with ⟨_, same⟩ | ⟨_, added⟩
  · rw [same]
  · rw [added]

/-- Adding a relation leaves the order of the concepts as it is. -/
@[simp] theorem order_link : (graph.link source target kind).order = graph.order := by
  rcases graph.link_cases source target kind with ⟨_, same⟩ | ⟨_, added⟩
  · rw [same]
  · rw [added]

/-- Adding a relation does not change what the graph is about. -/
@[simp] theorem root_link : (graph.link source target kind).root = graph.root := by
  rcases graph.link_cases source target kind with ⟨_, same⟩ | ⟨_, added⟩
  · rw [same]
  · rw [added]

/-- The same concepts are found when a relation has been added. -/
@[simp] theorem find?_link (id : Text) :
    (graph.link source target kind).find? id = graph.find? id := by
  rw [find?, find?, nodes_link]

/-- The same concepts are there when a relation has been added. -/
@[simp] theorem holds_link (id : Text) :
    (graph.link source target kind).holds id = graph.holds id := by
  rw [holds, holds, find?_link]

/-- The concepts are the same when a relation has been added. -/
@[simp] theorem concepts_link : (graph.link source target kind).concepts = graph.concepts := by
  have same : (graph.link source target kind).find? = graph.find? := funext (find?_link _ _ _ _)
  rw [concepts, concepts, order_link, same]

end Link

/-! ## Reading a consistent graph -/

/-- The positions at which relations lead from an id are in ascending order. They are found by going
    through the relations once. -/
theorem positions_ascending (relations : List Relation) (id : Text) :
    (positions relations id).Pairwise (· < ·) := by
  have all : relations.zipIdx.Pairwise (fun first second => first.2 < second.2) := by
    refine List.pairwise_map.mp ?_
    rw [List.zipIdx_map_snd]
    exact List.pairwise_lt_range'
  exact List.pairwise_map.mpr (all.filter _)

/-- A relation leads from an id at a position exactly if the position is among them. -/
theorem mem_positions {relations : List Relation} {id : Text} {position : Nat} :
    position ∈ positions relations id ↔
      ∃ relation, relations[position]? = some relation ∧ relation.source = id := by
  simp only [positions, List.mem_map, List.mem_filter, beq_iff_eq, Prod.exists,
    List.mem_zipIdx_iff_getElem?, exists_eq_right]

/-- The position of a relation that comes last is behind those of the others. -/
theorem positions_append (relations : List Relation) (relation : Relation) (id : Text) :
    positions (relations ++ [relation]) id =
      positions relations id ++ if relation.source = id then [relations.length] else [] := by
  rw [positions, List.zipIdx_append, List.filter_append, List.map_append, ← positions]
  congr 1
  by_cases same : relation.source = id <;> simp [same]

/-- What the relations at these positions lead to are the targets of the id. Looking a position up
    gives back the relation that was found there, so the detour by the positions can be left out. -/
theorem targets_of_positions (graph : ConceptGraph) (id : Text) :
    (positions graph.relations id).filterMap graph.target? = graph.targets id := by
  have placed : ∀ entry ∈ graph.relations.zipIdx.filter (fun entry => entry.1.source == id),
      graph.target? entry.2 = some entry.1.target := by
    intro entry member
    have there := List.mem_zipIdx_iff_getElem?.mp (List.mem_filter.mp member).1
    rw [target?, there, Option.map_some]
  have sources : graph.relations.filter (fun relation => relation.source == id) =
      (graph.relations.zipIdx.filter (fun entry => entry.1.source == id)).map Prod.fst := by
    conv => lhs; rw [← List.zipIdx_map_fst 0 graph.relations, List.filter_map]
    rfl
  rw [positions, List.filterMap_map, targets, sources, List.map_map, ← List.filterMap_eq_map]
  exact List.filterMap_congr placed

/-- A relation leads from one id to another exactly if the other is among its targets. The targets
    list ends of relations, and `joins` asks whether there is a relation with these ends. -/
theorem mem_targets {graph : ConceptGraph} {source target : Text} :
    target ∈ graph.targets source ↔ graph.joins source target = true := by
  simp only [targets, joins, List.mem_map, List.mem_filter, List.any_eq_true, Bool.and_eq_true,
    beq_iff_eq]
  constructor
  · rintro ⟨relation, ⟨member, begins⟩, ends⟩
    exact ⟨relation, member, begins, ends⟩
  · rintro ⟨relation, member, begins, ends⟩
    exact ⟨relation, ⟨member, begins⟩, ends⟩

/-- A relation leads from one id to another exactly if these are its ends. -/
theorem joins_iff {graph : ConceptGraph} {source target : Text} :
    graph.joins source target = true ↔ (source, target) ∈ graph.relations.map Relation.ends := by
  simp [joins, Relation.ends]

/-- Relations lead where they led when a label has been added. -/
@[simp] theorem joins_add (graph : ConceptGraph) (label source target : Text)
    (kind : ConceptKind) :
    (graph.add label kind).joins source target = graph.joins source target := by
  rw [joins, relations_add, ← joins]

/-- Adding a relation takes none away, whether it is added or refused. -/
theorem joins_link_of_joins {graph : ConceptGraph} {first second : Text} (source target : Text)
    (kind : RelationKind) (joins : graph.joins first second = true) :
    (graph.link source target kind).joins first second = true := by
  rcases graph.link_cases source target kind with ⟨_, same⟩ | ⟨_, added⟩
  · rwa [same]
  · rw [joins_iff] at joins ⊢
    rw [added, List.map_append]
    exact List.mem_append_left _ joins

namespace Consistent

variable {graph : ConceptGraph}

/-- A concept is found under its id exactly if it is one of the concepts in their order. In a
    consistent graph both the ids under which concepts are kept and the listed ids are the ids of
    the concepts. -/
theorem mem_concepts (consistent : graph.Consistent) {concept : Concept} :
    concept ∈ graph.concepts ↔ graph.find? concept.id = some concept := by
  rw [concepts, List.mem_filterMap]
  constructor
  · rintro ⟨id, _, found⟩
    rw [(consistent.keyed id concept found).1]
    exact found
  · intro found
    exact ⟨concept.id, (consistent.listed _).mpr (Option.isSome_iff_exists.mpr ⟨_, found⟩), found⟩

/-- The ids of the concepts are listed in their order. Every listed id has a concept, and that
    concept has the id, so looking the concepts up and taking their ids gives the order back. -/
theorem map_id_concepts (consistent : graph.Consistent) :
    graph.concepts.map Concept.id = graph.order := by
  have found : ∀ id ∈ graph.order, ∃ concept, graph.find? id = some concept := fun id member =>
    find?_of_holds ((consistent.listed id).mp member)
  rw [concepts]
  generalize graph.order = order at found
  induction order with
  | nil => rfl
  | cons id later ih =>
    obtain ⟨here, others⟩ := List.forall_mem_cons.mp found
    obtain ⟨concept, same⟩ := here
    rw [List.filterMap_cons_some same, List.map_cons, (consistent.keyed id concept same).1,
      ih others]

/-- A graph holds an id exactly if a concept has it. -/
theorem holds_iff (consistent : graph.Consistent) {id : Text} :
    graph.holds id = true ↔ ∃ concept ∈ graph.concepts, concept.id = id := by
  rw [← consistent.listed, ← consistent.map_id_concepts, List.mem_map]

/-- There are as many concepts as the order lists. -/
theorem size_eq (consistent : graph.Consistent) : graph.size = graph.order.length := by
  have same : graph.order.Perm graph.nodes.keys := by
    refine (List.perm_ext_iff_of_nodup consistent.once graph.nodes.distinct).mpr (fun id => ?_)
    exact (consistent.listed id).trans Dictionary.mem_keys.symm
  rw [same.length_eq, size, Dictionary.keys, List.length_map, Dictionary.size]

/-- The concepts in their order are as many as there are. -/
theorem length_concepts (consistent : graph.Consistent) : graph.concepts.length = graph.size := by
  rw [consistent.size_eq, ← consistent.map_id_concepts, List.length_map]

/-- The ends of a relation are concepts, since a relation is added between concepts only and no
    concept is taken away. -/
theorem holds_of_joins (consistent : graph.Consistent) {source target : Text}
    (joins : graph.joins source target = true) :
    graph.holds source = true ∧ graph.holds target = true := by
  obtain ⟨relation, member, same⟩ := List.mem_map.mp (joins_iff.mp joins)
  cases same
  exact (consistent.joined relation member).2

/-- The graph is about the first of its concepts that is a role. Roles that are added later do not
    become the root. -/
theorem root?_eq (consistent : graph.Consistent) :
    graph.root? = graph.concepts.find? (fun concept => concept.kind == .role) := by
  rw [root?, consistent.founded]
  cases first : graph.concepts.find? (fun concept => concept.kind == .role) with
  | none => rfl
  | some concept => exact consistent.mem_concepts.mp (List.mem_of_find?_eq_some first)

/-- That a relation leads from one id to another is found by its position, so the positions may be
    left out where it is asked for. -/
theorem leads_eq (consistent : graph.Consistent) (source target : Text) :
    graph.leads source target = graph.joins source target := by
  rw [Bool.eq_iff_iff, ← mem_targets, ← targets_of_positions, leads, consistent.indexed,
    List.mem_filterMap]
  simp only [List.any_eq_true, beq_iff_eq]

/-- The ids of the children are all that the relations lead to, in the same order.

    Proof: the children are looked up at the positions under the id, which are those of the
    relations that lead from it; so they are the concepts under the targets. Each target has a
    concept, because relations join concepts, and that concept has the target as its id. -/
theorem children (consistent : graph.Consistent) (id : Text) :
    (graph.children id).map Concept.id = graph.targets id := by
  have found : ∀ target ∈ graph.targets id, ∃ concept, graph.find? target = some concept := by
    intro target among
    obtain ⟨relation, member, rfl⟩ := List.mem_map.mp among
    exact find?_of_holds (consistent.joined relation (List.mem_filter.mp member).1).2.2
  have same : graph.children id = (graph.targets id).filterMap graph.find? := by
    rw [ConceptGraph.children, consistent.indexed, ← targets_of_positions, List.filterMap_filterMap]
  rw [same]
  generalize graph.targets id = targets at found
  induction targets with
  | nil => rfl
  | cons target later ih =>
    obtain ⟨here, others⟩ := List.forall_mem_cons.mp found
    obtain ⟨concept, known⟩ := here
    rw [List.filterMap_cons_some known, List.map_cons, (consistent.keyed target concept known).1,
      ih others]

/-- A relation may be added between two different concepts unless there is one. Its kind does not
    matter for this: a second relation with the same ends is refused even if it says something
    else. -/
theorem mayLink_iff (consistent : graph.Consistent) {source target : Text} :
    graph.mayLink source target = true ↔
      source ≠ target ∧ graph.holds source = true ∧ graph.holds target = true ∧
        graph.joins source target = false := by
  simp only [mayLink, consistent.leads_eq, Bool.and_eq_true, bne_iff_ne, Bool.not_eq_true',
    and_assoc]

/-- A label that is there counts its concept, and the others stay as they are. The order does not
    change, and under each listed id the same is found as before, but for the one that is
    counted. -/
theorem concepts_add_of_holds (consistent : graph.Consistent) {label : Text}
    (held : graph.holds (key label) = true) (kind : ConceptKind) :
    (graph.add label kind).concepts = graph.concepts.map (bump (key label)) := by
  rw [concepts, order_add, if_pos held, concepts, List.map_filterMap]
  refine List.filterMap_congr (fun id member => ?_)
  obtain ⟨concept, found⟩ := find?_of_holds ((consistent.listed id).mp member)
  have same := (consistent.keyed id concept found).1
  rw [find?_add, found, Option.map_some]
  by_cases counted : id = key label
  · subst counted
    rw [if_pos rfl, named_of_find? found, bump, if_pos same]
  · rw [if_neg counted, bump, if_neg (same ▸ counted)]

/-- A label that is new makes a concept behind all others. Its key is in no place of the order, so
    under the ids that are listed already the same concepts are found as before. -/
theorem concepts_add_of_fresh (consistent : graph.Consistent) {label : Text}
    (fresh : graph.holds (key label) = false) (kind : ConceptKind) :
    (graph.add label kind).concepts =
      graph.concepts ++ [⟨key label, Text.trim label, kind, 1⟩] := by
  have before : graph.order.filterMap (graph.add label kind).find? =
      graph.order.filterMap graph.find? := by
    refine List.filterMap_congr (fun id member => ?_)
    have other : id ≠ key label := by
      rintro rfl
      rw [(consistent.listed _).mp member] at fresh
      cases fresh
    rw [find?_add, if_neg other]
  have last : (graph.add label kind).find? (key label) =
      some ⟨key label, Text.trim label, kind, 1⟩ := by
    rw [find?_add, if_pos rfl, named_of_fresh fresh]
  rw [concepts, order_add, if_neg (by simp [fresh]), List.filterMap_append, before,
    List.filterMap_cons_some last, List.filterMap_nil, concepts]

/-! ## Every edit keeps a graph consistent -/

/-- Where a label was added, a concept is still kept under its id, which is the key of its label. The
    key of a trimmed label is the key of the label, so this holds of a concept that is new, too. -/
theorem keyed_add (consistent : graph.Consistent) (label : Text) (kind : ConceptKind) (id : Text)
    (concept : Concept) (found : (graph.add label kind).find? id = some concept) :
    concept.id = id ∧ key concept.label = id := by
  rw [find?_add] at found
  split at found
  · rename_i same
    subst same
    cases Option.some.inj found
    cases known : graph.find? (key label) with
    | some before =>
      rw [named_of_find? known]
      exact consistent.keyed _ before known
    | none =>
      rw [named_of_fresh (by simp [holds, known])]
      exact ⟨rfl, by rw [key, Text.trim_trim, ← key]⟩
  · exact consistent.keyed id concept found

/-- Where a label was added, the ids of the concepts are listed, and nothing else. What the label
    names is a concept then, and it is listed whether it was known or not. -/
theorem listed_add (consistent : graph.Consistent) (label : Text) (kind : ConceptKind) (id : Text) :
    id ∈ (graph.add label kind).order ↔ (graph.add label kind).holds id = true := by
  rw [order_add, holds_add, Bool.or_eq_true, beq_iff_eq]
  split
  · rename_i known
    rw [consistent.listed]
    constructor
    · exact .inr
    · rintro (rfl | held)
      · exact known
      · exact held
  · rw [List.mem_append, List.mem_singleton, consistent.listed, or_comm]

/-- Where a label was added, no id is listed twice. The key of a new label was not listed before. -/
theorem once_add (consistent : graph.Consistent) (label : Text) (kind : ConceptKind) :
    (graph.add label kind).order.Nodup := by
  rw [order_add]
  split
  · exact consistent.once
  · rename_i fresh
    refine List.nodup_append.mpr ⟨consistent.once, List.pairwise_singleton _ _, ?_⟩
    rintro id early other last rfl
    rw [List.mem_singleton.mp last] at early
    exact fresh ((consistent.listed _).mp early)

/-- Where a label was added, the graph is about the first of its concepts that is a role.

    Proof: if the label is known, its concept is counted, and ids, kinds and the order stay. If it is
    new, its concept comes last, so it is the root only if it is a role and none is before it. -/
theorem founded_add (consistent : graph.Consistent) (label : Text) (kind : ConceptKind) :
    (graph.add label kind).root =
      ((graph.add label kind).concepts.find? (fun concept => concept.kind == .role)).map
        Concept.id := by
  cases known : graph.holds (key label) with
  | true =>
    have root : (graph.add label kind).root = graph.root := by simp [ConceptGraph.add, known]
    have roles : (fun concept : Concept => (bump (key label) concept).kind == .role) =
        fun concept => concept.kind == .role := by
      funext concept
      rw [bump]
      split <;> rfl
    have ids : (fun concept => (bump (key label) concept).id) = Concept.id := by
      funext concept
      rw [bump]
      split <;> rfl
    rw [root, consistent.founded, consistent.concepts_add_of_holds known, List.find?_map,
      Option.map_map]
    exact congrArg₂ Option.map ids.symm (congrArg₂ _ roles.symm rfl)
  | false =>
    have root : (graph.add label kind).root =
        if kind == .role && graph.root.isNone then some (key label) else graph.root := by
      simp [ConceptGraph.add, known]
    rw [root, consistent.concepts_add_of_fresh known, List.find?_append, consistent.founded]
    cases first : graph.concepts.find? (fun concept => concept.kind == .role) with
    | some concept => simp
    | none => by_cases role : kind = .role <;> simp [role]

/-- Adding a label keeps a graph consistent.

    Proof: the relations and their positions do not change, and their ends stay concepts. What is
    said of the concepts, their order and the root is shown one by one above. -/
theorem add (consistent : graph.Consistent) (label : Text) (kind : ConceptKind) :
    (graph.add label kind).Consistent where
  once := consistent.once_add label kind
  listed := consistent.listed_add label kind
  keyed := consistent.keyed_add label kind
  joined := by
    intro relation member
    obtain ⟨apart, source, target⟩ := consistent.joined relation (relations_add graph _ _ ▸ member)
    exact ⟨apart, holds_add_of_holds label kind source, holds_add_of_holds label kind target⟩
  single := by
    rw [relations_add]
    exact consistent.single
  indexed := by
    intro id
    rw [leaving_add, relations_add]
    exact consistent.indexed id
  founded := consistent.founded_add label kind

/-- Adding a relation keeps a graph consistent.

    Proof: concepts, order and root do not change. A relation that is refused leaves the others as
    they are. One that is added joins two different concepts that no other joins, since otherwise it
    may not be added; it comes last, and its position is noted under its source, behind the others
    there. -/
theorem link (consistent : graph.Consistent) (source target : Text) (kind : RelationKind) :
    (graph.link source target kind).Consistent := by
  refine ⟨?_, ?_, ?_, ?_, ?_, ?_, ?_⟩
  · rw [order_link]
    exact consistent.once
  · intro id
    rw [order_link, holds_link]
    exact consistent.listed id
  · intro id concept found
    exact consistent.keyed id concept (find?_link graph source target kind id ▸ found)
  · intro relation member
    simp only [holds_link]
    rcases graph.link_cases source target kind with ⟨_, same⟩ | ⟨may, added⟩
    · exact consistent.joined relation (same ▸ member)
    · rw [added] at member
      rcases List.mem_append.mp member with before | new
      · exact consistent.joined relation before
      · obtain ⟨apart, starts, ends, _⟩ := consistent.mayLink_iff.mp may
        rw [List.mem_singleton.mp new]
        exact ⟨apart, starts, ends⟩
  · rcases graph.link_cases source target kind with ⟨_, same⟩ | ⟨may, added⟩
    · rw [same]
      exact consistent.single
    · have free : (source, target) ∉ graph.relations.map Relation.ends := by
        rw [← joins_iff, (consistent.mayLink_iff.mp may).2.2.2]
        exact Bool.false_ne_true
      rw [added, List.map_append, List.nodup_append]
      refine ⟨consistent.single, by simp, ?_⟩
      rintro ends early other last rfl
      rw [List.mem_singleton.mp last] at early
      exact free early
  · intro id
    rcases graph.link_cases source target kind with ⟨_, same⟩ | ⟨_, added⟩
    · rw [same]
      exact consistent.indexed id
    · have leaving : (graph.link source target kind).leaving id =
          if id = source then graph.leaving source ++ [graph.relations.length]
          else graph.leaving id := by
        rw [added, leaving, Dictionary.find?_put]
        split <;> rfl
      rw [leaving, added, positions_append, consistent.indexed, consistent.indexed]
      by_cases same : id = source
      · simp [same]
      · simp [same, Ne.symm same]
  · rw [root_link, concepts_link]
    exact consistent.founded

end Consistent

namespace Consistent

variable {graph : ConceptGraph}

/-- A label that is new makes the graph larger by one concept. A label that is known leaves its size
    as it is. -/
theorem size_add (consistent : graph.Consistent) (label : Text) (kind : ConceptKind) :
    (graph.add label kind).size =
      if graph.holds (key label) then graph.size else graph.size + 1 := by
  rw [(consistent.add label kind).size_eq, consistent.size_eq, order_add]
  split
  · rfl
  · rw [List.length_append, List.length_singleton]

/-- After an attempt to add a relation between two different concepts there is one. If the attempt
    is refused, that is because there was one before. -/
theorem joins_link (consistent : graph.Consistent) {source target : Text}
    (apart : source ≠ target) (starts : graph.holds source = true)
    (ends : graph.holds target = true) (kind : RelationKind) :
    (graph.link source target kind).joins source target = true := by
  rcases graph.link_cases source target kind with ⟨refused, same⟩ | ⟨_, added⟩
  · rw [same]
    by_contra absent
    have may := consistent.mayLink_iff.mpr ⟨apart, starts, ends, by simpa using absent⟩
    rw [refused] at may
    cases may
  · rw [added, joins_iff, List.map_append]
    exact List.mem_append_right _ (List.mem_singleton.mpr rfl)

end Consistent

/-- The graph without concepts is consistent. -/
theorem consistent_empty : empty.Consistent where
  once := List.nodup_nil
  listed := by simp [empty, holds, find?]
  keyed := by simp [empty, find?]
  joined := by simp [empty]
  single := by simp [empty]
  indexed := by simp [empty, leaving, positions]
  founded := rfl

/-- Every edit keeps a graph consistent. This is the step from which the consistency of all graphs
    follows. -/
theorem Consistent.edit {graph : ConceptGraph} (consistent : graph.Consistent) (change : Edit) :
    (graph.edit change).Consistent := by
  cases change with
  | add label kind => exact consistent.add label kind
  | link source target kind => exact consistent.link source target kind

/-- A graph that comes of edits is consistent. The graph without concepts is, and no edit changes
    it. -/
theorem consistent_edited (edits : List Edit) : (edited edits).Consistent := by
  have kept : ∀ graph : ConceptGraph, graph.Consistent →
      (edits.foldl ConceptGraph.edit graph).Consistent := by
    induction edits with
    | nil => exact fun graph consistent => consistent
    | cons change later ih =>
      exact fun graph consistent => ih (graph.edit change) (consistent.edit change)
  exact kept empty consistent_empty

end ConceptGraph

end RoleWeave
