import RoleWeave.Concept.Graph
import RoleWeave.Diagram.Label

/-!
# Mindmaps

A concept graph is drawn as a tree below its root. Depth first, and following the relations in
their order, every concept is shown below the concept from which it is reached first, and nowhere
else. Concepts that are not reached are left out.
-/

namespace RoleWeave.Mindmap

/-- A concept in the tree, with the number of steps from the root. -/
structure Entry where
  id : Text
  depth : Nat
deriving DecidableEq, Repr

/-- Whether a concept has its place in the tree already. -/
def isPlaced (placed : List Entry) (id : Text) : Bool :=
  placed.any (fun entry => entry.id == id)

/-- Place what is reached from a concept, its children at the given depth. Every level takes a
    concept that was not placed before, so `allowance` is enough when it is the number of
    concepts. -/
def grow (graph : ConceptGraph) : (allowance depth : Nat) → Text → List Entry → List Entry
  | 0, _, _, placed => placed
  | allowance + 1, depth, id, placed =>
      ((graph.children id).map Concept.id).foldl
        (fun placed child =>
          if isPlaced placed child then placed
          else grow graph allowance (depth + 1) child (placed ++ [⟨child, depth⟩]))
        placed

/-- The tree below a concept, in the order in which it is written. -/
def entries (graph : ConceptGraph) (root : Text) : List Entry :=
  grow graph graph.size 1 root [⟨root, 0⟩]

/-- The label of an id. -/
def labelOf (graph : ConceptGraph) (id : Text) : Text :=
  match graph.find? id with
  | some concept => Diagram.label concept.label
  | none => []

/-- An entry on a line of its own, indented by its depth. The root has a round shape. -/
def Entry.render (graph : ConceptGraph) (entry : Entry) : Text :=
  match entry.depth with
  | 0 => "  root((".toList ++ labelOf graph entry.id ++ "))\n".toList
  | depth + 1 => Text.repeated (depth + 2) "  ".toList ++ labelOf graph entry.id ++ ['\n']

/-- The first line of every mindmap. -/
def header : Text := "mindmap\n".toList

/-- The text of the mindmap of a graph. A graph without a role has the first line only. -/
def render (graph : ConceptGraph) : Text :=
  match graph.root? with
  | none => header
  | some root => header ++ (entries graph root.id).flatMap (Entry.render graph)

/-- Growing keeps what is placed. By induction on how deep it may still grow, and within that on the
    children. -/
theorem subset_grow (graph : ConceptGraph) (allowance depth : Nat) (id : Text)
    (placed : List Entry) : placed ⊆ grow graph allowance depth id placed := by
  induction allowance generalizing depth id placed with
  | zero => simp [grow]
  | succ allowance ih =>
    have fold : ∀ (children : List Text) (placed : List Entry),
        placed ⊆ children.foldl
          (fun placed child =>
            if isPlaced placed child then placed
            else grow graph allowance (depth + 1) child (placed ++ [⟨child, depth⟩]))
          placed := by
      intro children
      induction children with
      | nil => intro placed entry member; exact member
      | cons child later fold =>
        intro placed entry member
        rw [List.foldl_cons]
        refine fold _ ?_
        split
        · exact member
        · exact ih (depth + 1) child _ (List.mem_append_left _ member)
    exact fold _ placed

end RoleWeave.Mindmap
