import RoleWeave.Data.Dictionary
import RoleWeave.Text.Character
import RoleWeave.Text.Lowercase

/-!
# Concept graphs

The concepts of a role are the role itself, its sections, its skills and the terms that they
mention. Two labels name the same concept when they have the same key: their lowercase, without the
blanks around. The first label that was added is the one shown.

A concept is added or counted once more; it is never taken away. A relation joins two different
concepts, and in either direction there is one at most.

Concepts are found by their ids, and the relations that lead from a concept by their positions among
all relations. What is kept for this repeats itself: the ids are the keys of the concepts and their
order, and a relation has its place in the list and its position under its source.
-/

namespace RoleWeave

/-- What a concept stands for. -/
inductive ConceptKind where
  | role
  /-- A section of the role. -/
  | part
  /-- A thought or an execution. -/
  | skill
  /-- A heading, a bold phrase or the lead of a list item. -/
  | term
deriving DecidableEq, Repr

/-- A concept, with the number of times that it was added. -/
structure Concept where
  id : Text
  label : Text
  kind : ConceptKind
  weight : Nat
deriving DecidableEq, Repr

/-- How one concept refers to another. -/
inductive RelationKind where
  | contains
  | mentions
deriving DecidableEq, Repr

/-- A relation that leads from one concept to another. -/
structure Relation where
  source : Text
  target : Text
  kind : RelationKind
deriving DecidableEq, Repr

/-- Concepts and the relations between them. -/
structure ConceptGraph where
  /-- The concepts under their ids. -/
  nodes : Dictionary Concept
  /-- The ids of the concepts, in the order of their addition. -/
  order : List Text
  /-- The relations, in the order of their addition. -/
  relations : List Relation
  /-- The positions of the relations that lead from an id. -/
  outgoing : Dictionary (List Nat)
  /-- The id of the role that the graph is about. -/
  root : Option Text
deriving DecidableEq, Repr

namespace ConceptGraph

/-- The graph without concepts. -/
def empty : ConceptGraph := ⟨.empty, [], [], .empty, none⟩

/-- The key of a label, which is the id of the concept that it names. -/
def key (label : Text) : Text :=
  Text.lower (Text.trim label)

/-- The number of concepts. -/
def size (graph : ConceptGraph) : Nat :=
  graph.nodes.size

/-- The concept with an id. -/
def find? (graph : ConceptGraph) (id : Text) : Option Concept :=
  graph.nodes.find? id

/-- Whether there is a concept with an id. -/
def holds (graph : ConceptGraph) (id : Text) : Bool :=
  (graph.find? id).isSome

/-- The concepts, in the order of their addition. -/
def concepts (graph : ConceptGraph) : List Concept :=
  graph.order.filterMap graph.find?

/-- The role that the graph is about. -/
def root? (graph : ConceptGraph) : Option Concept :=
  graph.root.bind graph.find?

/-- The concept that a label names, once it is added: it is counted once more if it is there, and
    it is new otherwise. -/
def named (graph : ConceptGraph) (label : Text) (kind : ConceptKind) : Concept :=
  match graph.find? (key label) with
  | some concept => { concept with weight := concept.weight + 1 }
  | none => ⟨key label, Text.trim label, kind, 1⟩

/-- Add the concept that a label names, or count it once more if it is there. The first role that is
    new is the one that the graph is about. -/
def add (graph : ConceptGraph) (label : Text) (kind : ConceptKind) : ConceptGraph :=
  let nodes := graph.nodes.put (key label) (graph.named label kind)
  if graph.holds (key label) then { graph with nodes := nodes }
  else
    { graph with
      nodes := nodes
      order := graph.order ++ [key label]
      root := if kind == .role && graph.root.isNone then some (key label) else graph.root }

/-- The positions of the relations that lead from an id. -/
def leaving (graph : ConceptGraph) (id : Text) : List Nat :=
  (graph.outgoing.find? id).getD []

/-- The id to which the relation at a position leads. -/
def target? (graph : ConceptGraph) (position : Nat) : Option Text :=
  graph.relations[position]?.map Relation.target

/-- Whether a relation leads from one id to another, among those that are kept for the first. -/
def leads (graph : ConceptGraph) (source target : Text) : Bool :=
  (graph.leaving source).any (fun position => graph.target? position == some target)

/-- Whether a relation may lead from one id to another: both are concepts, they differ, and none
    leads there yet. -/
def mayLink (graph : ConceptGraph) (source target : Text) : Bool :=
  source != target && graph.holds source && graph.holds target && !graph.leads source target

/-- Add a relation, if it may be there. -/
def link? (graph : ConceptGraph) (source target : Text) (kind : RelationKind) :
    Option ConceptGraph :=
  if graph.mayLink source target then
    some { graph with
      relations := graph.relations ++ [⟨source, target, kind⟩]
      outgoing := graph.outgoing.put source (graph.leaving source ++ [graph.relations.length]) }
  else none

/-- Add a relation if it may be there, and nothing else. -/
def link (graph : ConceptGraph) (source target : Text) (kind : RelationKind) : ConceptGraph :=
  (graph.link? source target kind).getD graph

/-- The concepts to which relations lead from an id. -/
def children (graph : ConceptGraph) (id : Text) : List Concept :=
  (graph.leaving id).filterMap (fun position => (graph.target? position).bind graph.find?)

/-- Whether a relation leads from one id to another. -/
def joins (graph : ConceptGraph) (source target : Text) : Bool :=
  graph.relations.any (fun relation => relation.source == source && relation.target == target)

/-- The ids to which relations lead from an id, in the order in which they were added. -/
def targets (graph : ConceptGraph) (id : Text) : List Text :=
  (graph.relations.filter (fun relation => relation.source == id)).map Relation.target

/-- What a label names is found once the label has been added, and under any other id the same as
    before. -/
theorem find?_add (graph : ConceptGraph) (label id : Text) (kind : ConceptKind) :
    (graph.add label kind).find? id =
      if id = key label then some (graph.named label kind) else graph.find? id := by
  rw [find?, find?, ← Dictionary.find?_put]
  unfold add
  split <;> rfl

/-- Once a label has been added, what it names is a concept, and so is what was one before. This
    holds whether the label was new or only added to the weight. -/
theorem holds_add (graph : ConceptGraph) (label id : Text) (kind : ConceptKind) :
    (graph.add label kind).holds id = (id == key label || graph.holds id) := by
  rw [holds, find?_add, holds]
  split
  · rename_i same
    simp [same]
  · rename_i other
    simp [other]

/-- A relation is added exactly when it may be there. -/
theorem isSome_link? (graph : ConceptGraph) (source target : Text) (kind : RelationKind) :
    (graph.link? source target kind).isSome = graph.mayLink source target := by
  unfold link?
  split <;> simp_all

end ConceptGraph

end RoleWeave
