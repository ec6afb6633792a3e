import RoleWeave.Composition.Role
import RoleWeave.Concept.Graph
import RoleWeave.Concept.Term
import RoleWeave.Settings.Basic

/-!
# The outline of a role

The outline is the concept graph of a composed role. The role contains its sections and its skills,
and each of these mentions the terms of its text. There is a limit on the number of concepts: when
it is reached, no concept is added any more, but those that are there are still counted and related.
The role itself is always there.
-/

namespace RoleWeave

namespace Outline

/-- A part of a role that has a text of its own. -/
structure Part where
  label : Text
  kind : ConceptKind
  text : Text
deriving DecidableEq, Repr

/-- The parts of a role: its sections, and then its skills. -/
def parts (role : ComposedRole) : List Part :=
  role.sections.map (fun composed => ⟨composed.1.name, .part, composed.2⟩) ++
    role.skills.map (fun skill => ⟨skill.key.render, .skill, skill.content⟩)

/-- Whether a concept may be added: it is there already, or there is room for one more. -/
def admits (maxNodes : Nat) (graph : ConceptGraph) (label : Text) : Bool :=
  graph.size < maxNodes || graph.holds (ConceptGraph.key label)

/-- Add a concept to which a relation leads, if it may be added. -/
def addBelow (maxNodes : Nat) (parent : Text) (relation : RelationKind) (kind : ConceptKind)
    (graph : ConceptGraph) (label : Text) : ConceptGraph :=
  if admits maxNodes graph label then
    (graph.add label kind).link parent (ConceptGraph.key label) relation
  else graph

/-- Add a part and the terms that it mentions. The terms of a part that may not be added are left
    out with it. -/
def addPart (limits : ConceptLimits) (root : Text) (graph : ConceptGraph) (part : Part) :
    ConceptGraph :=
  if admits limits.maxNodes graph part.label then
    (Term.terms limits.maxLabelChars part.text).foldl
      (addBelow limits.maxNodes (ConceptGraph.key part.label) .mentions .term)
      (addBelow limits.maxNodes root .contains part.kind graph part.label)
  else graph

/-- The graph of a role's name and parts. -/
def graphOf (limits : ConceptLimits) (name : Text) (parts : List Part) : ConceptGraph :=
  parts.foldl (addPart limits (ConceptGraph.key name)) (ConceptGraph.empty.add name .role)

/-- The outline of a role, which has to have a section or a skill. -/
def build (limits : ConceptLimits) (role : ComposedRole) : Except Fault ConceptGraph :=
  if role.sections.isEmpty && role.skills.isEmpty then
    .error (.other
      ("role ".toList ++ role.info.id ++ " has no composed content to index".toList))
  else .ok (graphOf limits role.info.name (parts role))

end Outline

end RoleWeave
