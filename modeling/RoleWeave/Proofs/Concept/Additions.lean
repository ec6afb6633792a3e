import Mathlib.Data.List.Induction
import RoleWeave.Proofs.Concept.Editing

/-!
# What a graph keeps of its edits

A graph is made by edits, and what it holds in the end is told by them. Under an id there is a concept
if a label with that key was added. The first such addition gives it its label, without the blanks
around, and its kind; the others are only counted: `find?_edited`. The order lists the ids where they
were added first: `order_edited`. Together with the consistency of the graph, this is all that the
concepts, their order, the relations, the positions and the root hold: `edits_are_kept`.
-/

namespace RoleWeave.ConceptGraph

/-- A label that is added, with the kind of what it names. -/
structure Addition where
  label : Text
  kind : ConceptKind
deriving DecidableEq, Repr

/-- The id under which the concept of an addition is kept. -/
def Addition.id (addition : Addition) : Text :=
  key addition.label

/-- What an edit adds, if it adds a concept. -/
def Edit.addition? : Edit → Option Addition
  | .add label kind => some ⟨label, kind⟩
  | .link _ _ _ => none

/-- The additions among edits, in their order. -/
def additions (edits : List Edit) : List Addition :=
  edits.filterMap Edit.addition?

/-- The additions with an id, in their order. -/
def additionsOf (id : Text) (edits : List Edit) : List Addition :=
  (additions edits).filter (fun addition => addition.id == id)

/-- The concept that additions with the same id make: its label and its kind are those of the first,
    and every addition counts. -/
def conceptOf : List Addition → Option Concept
  | [] => none
  | first :: later => some ⟨first.id, Text.trim first.label, first.kind, later.length + 1⟩

/-- The weights of concepts together. -/
def weightOf : List Concept → Nat
  | [] => 0
  | concept :: later => concept.weight + weightOf later

/-- What edits leave in the graph that they make. -/
structure Kept (edits : List Edit) (graph : ConceptGraph) : Prop where
  /-- The ids of the concepts are listed, each once, in the order in which they were added first. -/
  order : graph.order = ((additions edits).map Addition.id).eraseDups ∧ graph.order.Nodup ∧
    ∀ id, id ∈ graph.order ↔ graph.holds id = true
  /-- Every concept is kept under its id, which is the key of its label. -/
  keyed : ∀ id concept, graph.find? id = some concept → concept.id = id ∧ key concept.label = id
  /-- The concept under an id has the label and the kind of its first addition, and it is counted for
      every addition. -/
  first : ∀ id, graph.find? id = conceptOf (additionsOf id edits)
  /-- All additions are counted. -/
  weights : weightOf graph.concepts = (additions edits).length
  /-- Every relation joins two different concepts. -/
  joined : ∀ relation ∈ graph.relations, relation.source ≠ relation.target ∧
    graph.holds relation.source = true ∧ graph.holds relation.target = true
  /-- No two relations lead from the same concept to the same other. -/
  single : (graph.relations.map Relation.ends).Nodup
  /-- The positions under an id ascend, and they are those at which relations lead from it. -/
  indexed : ∀ id, (graph.leaving id).Pairwise (· < ·) ∧
    ∀ position, position ∈ graph.leaving id ↔
      ∃ relation, graph.relations[position]? = some relation ∧ relation.source = id
  /-- The children of an id are what relations lead to from it, in the order of the relations. -/
  children : ∀ id, (graph.children id).map Concept.id =
    (graph.relations.filter (fun relation => relation.source == id)).map Relation.target
  /-- The graph is about the first concept that was new as a role. -/
  root : graph.root? = graph.concepts.find? (fun concept => concept.kind == .role)
  /-- A relation is said to be added exactly if it may be there and exactly if it is there afterwards,
      behind all others. Without that the graph is left as it is, and in no case are the concepts,
      their order or the root changed. -/
  linked : ∀ source target kind,
    ((graph.link? source target kind).isSome = true ↔
      source ≠ target ∧ graph.holds source = true ∧ graph.holds target = true ∧
        (source, target) ∉ graph.relations.map Relation.ends) ∧
    ((graph.link? source target kind).isSome = true ↔
      (graph.edit (.link source target kind)).relations =
        graph.relations ++ [⟨source, target, kind⟩]) ∧
    ((graph.link? source target kind).isSome = false →
      graph.edit (.link source target kind) = graph) ∧
    (graph.edit (.link source target kind)).nodes = graph.nodes ∧
      (graph.edit (.link source target kind)).order = graph.order ∧
      (graph.edit (.link source target kind)).root = graph.root

/-- The last edit is made in the graph that the others make. -/
theorem edited_append (edits : List Edit) (change : Edit) :
    edited (edits ++ [change]) = (edited edits).edit change := by
  rw [edited, List.foldl_append, ← edited, List.foldl_cons, List.foldl_nil]

/-- A last addition comes behind the others. -/
theorem additions_append_add (edits : List Edit) (label : Text) (kind : ConceptKind) :
    additions (edits ++ [.add label kind]) = additions edits ++ [⟨label, kind⟩] := by
  rw [additions, List.filterMap_append, ← additions]
  rfl

/-- A relation that is added last is no addition. -/
theorem additions_append_link (edits : List Edit) (source target : Text) (kind : RelationKind) :
    additions (edits ++ [.link source target kind]) = additions edits := by
  rw [additions, List.filterMap_append, ← additions, List.filterMap_cons_none rfl,
    List.filterMap_nil, List.append_nil]

/-- One more addition with the same id is counted, or it makes the concept. Only the first addition
    gives a label and a kind, so what comes later changes nothing but the count. -/
theorem conceptOf_append (before : List Addition) (addition : Addition) :
    conceptOf (before ++ [addition]) =
      some (match conceptOf before with
        | some concept => { concept with weight := concept.weight + 1 }
        | none => ⟨addition.id, Text.trim addition.label, addition.kind, 1⟩) := by
  cases before with
  | nil => rfl
  | cons first later => simp [conceptOf]

/-- The concept under an id is what the additions with this id make.

    Proof: by induction on the edits, the last one first. A relation changes no concept and is no
    addition. An addition concerns the concept under its own id and no other: there it is one more
    addition at the end, which `conceptOf_append` describes just as `named` does. -/
theorem find?_edited (edits : List Edit) (id : Text) :
    (edited edits).find? id = conceptOf (additionsOf id edits) := by
  induction edits using List.reverseRecOn with
  | nil => rfl
  | append_singleton edits change ih =>
    rw [edited_append]
    cases change with
    | link source target kind =>
      rw [additionsOf, additions_append_link, ← additionsOf, edit, find?_link]
      exact ih
    | add label kind =>
      rw [additionsOf, additions_append_add, List.filter_append, ← additionsOf, edit, find?_add]
      by_cases same : id = key label
      · subst same
        have counted : [(⟨label, kind⟩ : Addition)].filter
            (fun addition => addition.id == key label) = [⟨label, kind⟩] := by
          simp [Addition.id]
        rw [if_pos rfl, counted, conceptOf_append, ← ih, named]
        rfl
      · have other : [(⟨label, kind⟩ : Addition)].filter
            (fun addition => addition.id == id) = [] := by
          simp [Addition.id, Ne.symm same]
        rw [if_neg same, other, List.append_nil]
        exact ih

/-- The order lists the ids where they were added first.

    Proof: by induction on the edits, the last one first. An addition puts its id at the end of the
    order unless the graph holds it, and the graph holds it exactly if the order lists it, that is,
    if it was added before. Dropping the repetitions of the longer list comes to the same. -/
theorem order_edited (edits : List Edit) :
    (edited edits).order = ((additions edits).map Addition.id).eraseDups := by
  induction edits using List.reverseRecOn with
  | nil => rfl
  | append_singleton edits change ih =>
    rw [edited_append]
    cases change with
    | link source target kind => rw [additions_append_link, edit, order_link, ih]
    | add label kind =>
      have known : (edited edits).holds (key label) =
          ((additions edits).map Addition.id).contains (key label) := by
        rw [Bool.eq_iff_iff, ← (consistent_edited edits).listed, ih, List.mem_eraseDups,
          List.contains_iff_mem]
      rw [additions_append_add, List.map_append, List.eraseDups_append, ← ih, edit, order_add, known]
      generalize (additions edits).map Addition.id = ids
      by_cases listed : key label ∈ ids
      · simp [List.removeAll, Addition.id, listed]
      · simp [List.removeAll, Addition.id, listed, List.eraseDups_cons]

/-- Counting one of several concepts with different ids adds one to their weights. The ids have to
    be different, since every concept with the id is counted.

    Proof: by induction on the concepts. If the first has the id then the others do not have it and
    stay as they are; otherwise it stays as it is, and the concept is one of the others. -/
theorem weightOf_bump {concepts : List Concept} {id : Text}
    (distinct : (concepts.map Concept.id).Nodup) (member : id ∈ concepts.map Concept.id) :
    weightOf (concepts.map (bump id)) = weightOf concepts + 1 := by
  induction concepts with
  | nil => cases member
  | cons concept later ih =>
    obtain ⟨apart, others⟩ := List.nodup_cons.mp distinct
    rw [List.map_cons, weightOf, weightOf]
    by_cases here : concept.id = id
    · have kept : later.map (bump id) = later := by
        refine (List.map_congr_left (fun other inside => ?_)).trans (List.map_id later)
        have other : other.id ≠ id := by
          intro same
          exact apart (here.trans same.symm ▸ List.mem_map_of_mem inside)
        rw [bump, if_neg other, id_eq]
      rw [kept, bump, if_pos here]
      simp only
      omega
    · have further : id ∈ later.map Concept.id :=
        (List.mem_cons.mp member).resolve_left (Ne.symm here)
      rw [ih others further, bump, if_neg here]
      omega

/-- The weights of concepts in a row are those of both parts. -/
theorem weightOf_append (first second : List Concept) :
    weightOf (first ++ second) = weightOf first + weightOf second := by
  induction first with
  | nil => simp [weightOf]
  | cons concept later ih => rw [List.cons_append, weightOf, weightOf, ih, Nat.add_assoc]

/-- Every addition adds one to the weights: to that of the concept that is there, or as the weight
    of the one that is made. -/
theorem Consistent.weightOf_add {graph : ConceptGraph} (consistent : graph.Consistent)
    (label : Text) (kind : ConceptKind) :
    weightOf (graph.add label kind).concepts = weightOf graph.concepts + 1 := by
  cases known : graph.holds (key label) with
  | true =>
    rw [consistent.concepts_add_of_holds known]
    apply weightOf_bump
    · rw [consistent.map_id_concepts]
      exact consistent.once
    · rw [consistent.map_id_concepts, consistent.listed]
      exact known
  | false =>
    rw [consistent.concepts_add_of_fresh known, weightOf_append]
    rfl

/-- All additions are counted, and nothing else is: the weights together are the number of
    additions. -/
theorem weightOf_edited (edits : List Edit) :
    weightOf (edited edits).concepts = (additions edits).length := by
  induction edits using List.reverseRecOn with
  | nil => rfl
  | append_singleton edits change ih =>
    rw [edited_append]
    cases change with
    | link source target kind => rw [additions_append_link, edit, concepts_link, ih]
    | add label kind =>
      rw [additions_append_add, edit, (consistent_edited edits).weightOf_add, ih,
        List.length_append, List.length_singleton]

/-- What is said of adding a relation is so. It succeeds exactly if it joins two different concepts
    that no relation joins yet; then the relation comes last, and otherwise the graph stays as it
    is. -/
theorem Consistent.linked {graph : ConceptGraph} (consistent : graph.Consistent)
    (source target : Text) (kind : RelationKind) :
    ((graph.link? source target kind).isSome = true ↔
      source ≠ target ∧ graph.holds source = true ∧ graph.holds target = true ∧
        (source, target) ∉ graph.relations.map Relation.ends) ∧
    ((graph.link? source target kind).isSome = true ↔
      (graph.link source target kind).relations = graph.relations ++ [⟨source, target, kind⟩]) ∧
    ((graph.link? source target kind).isSome = false → graph.link source target kind = graph) := by
  rw [isSome_link?]
  refine ⟨?_, ?_, ?_⟩
  · rw [consistent.mayLink_iff, ← joins_iff, Bool.not_eq_true]
  · rcases graph.link_cases source target kind with ⟨may, same⟩ | ⟨may, added⟩
    · rw [may, same]
      simp
    · rw [may, added]
      simp
  · intro refused
    rcases graph.link_cases source target kind with ⟨_, same⟩ | ⟨may, _⟩
    · exact same
    · rw [may] at refused
      cases refused

/-- Whatever concepts and relations are added one after the other, the graph that comes of it keeps
    them as they should be. Each part of `Kept` was shown for itself: the concepts and their order
    are told by the additions, and the rest holds of every consistent graph. -/
theorem edits_are_kept (edits : List Edit) : Kept edits (edited edits) := by
  have consistent := consistent_edited edits
  exact
    { order := ⟨order_edited edits, consistent.once, consistent.listed⟩
      keyed := consistent.keyed
      first := find?_edited edits
      weights := weightOf_edited edits
      joined := consistent.joined
      single := consistent.single
      indexed := by
        intro id
        rw [consistent.indexed]
        exact ⟨positions_ascending _ id, fun position => mem_positions⟩
      children := consistent.children
      root := consistent.root?_eq
      linked := by
        intro source target kind
        obtain ⟨may, added, refused⟩ := consistent.linked source target kind
        exact ⟨may, added, refused, nodes_link .., order_link .., root_link ..⟩ }

end RoleWeave.ConceptGraph
