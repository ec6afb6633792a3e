import RoleWeave.Concept.Outline
import RoleWeave.Diagram.Flow
import RoleWeave.Diagram.Mindmap
import RoleWeave.Library.Basic

/-!
# Activating a role

A role that the registry lists is loaded, composed and drawn: a mindmap of its concepts and a
flowchart of its procedures. That a diagram cannot be drawn does not stop the activation.
-/

namespace RoleWeave

/-- The library as a provider of contents. -/
def Library.provider : Provider Library :=
  ⟨Library.fill, fun reference => Resolved.content <$> Library.load reference⟩

/-- A composed role with its diagrams. -/
structure Activation where
  role : ComposedRole
  /-- The mindmap, or why there is none. -/
  prime : Except Fault Text
  /-- The flowchart, empty if there is none. -/
  procedural : Text

namespace Activation

/-- A diagram under a heading, set off from the text around. -/
def fenced (heading diagram : Text) : Text :=
  "\n## ".toList ++ heading ++ "\n\n```mermaid\n".toList ++ diagram ++ "```\n".toList

/-- The composed text, and the diagrams after it. -/
def markdown (activation : Activation) : Text :=
  activation.role.text ++
    (match activation.prime with
      | .ok mindmap => fenced "Concept map".toList mindmap
      | .error fault =>
          "\n[concept map unavailable: ".toList ++ fault.message ++ "]\n".toList) ++
    (if activation.procedural.isEmpty then []
      else fenced "Procedures".toList activation.procedural)

/-- Compose the role that the registry lists under an id. -/
def compose (maxDepth : Nat) (id : Text) : Step Library ComposedRole := do
  Library.fill
  let descriptor ← Step.look (fun library =>
    match library.registry.known.find? Composition.roleProtocol id with
    | some descriptor => .ok descriptor
    | none => .error (.resourceNotFound Composition.roleProtocol id))
  let resolved ← Library.load (Reference.plain Composition.roleProtocol id)
  let document ← Document.parse resolved.content
  Composition.composeRole Library.provider maxDepth (RoleInfo.ofDescriptor descriptor) document

/-- A composed role together with its diagrams. -/
def ofRole (limits : ConceptLimits) (role : ComposedRole) : Activation :=
  { role := role
    prime := (Outline.build limits role).map Mindmap.render
    procedural := Flow.drawOrNothing limits.maxLabelChars role.skills }

/-- Activate the role that the registry lists under an id. -/
def activate (limits : Limits) (id : Text) : Step Library Activation :=
  ofRole limits.concepts <$> compose limits.maxDepth id

end Activation

end RoleWeave
