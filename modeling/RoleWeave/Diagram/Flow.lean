import RoleWeave.Composition.Role
import RoleWeave.Concept.Line
import RoleWeave.Diagram.Label

/-!
# Flowcharts of procedures

The executions among the skills of a role are procedures: their numbered lines are steps, one after
the other. Where an execution has a process block, its steps are taken from that block alone. Each
procedure is a chain in the flowchart. Chains and steps are told apart by their numbers, so what is
written in a skill appears in labels only.
-/

namespace RoleWeave.Flow

/-- The steps of an execution, with the number that the execution has among its kind. -/
structure Procedure where
  number : Nat
  key : Key
  steps : List Text
deriving DecidableEq, Repr

/-- The label of the step that a line holds. A numbered line is a step if anything follows the
    blank behind its number, be it only blanks. -/
def step? (maxLabelChars : Nat) (text : Text) : Option Text :=
  match Line.read text with
  | ⟨.numbered, c :: rest⟩ =>
      some (Diagram.clip maxLabelChars (Diagram.label (c :: rest)))
  | _ => none

/-- The part of an execution that holds its steps. -/
def instructions (content : Text) : Except Fault Text := do
  let document ← Document.parse content
  return match document.block? .process with
    | some block => block.text
    | none => content

/-- The procedures of executions, the first of which has the given number. -/
def procedures (maxLabelChars : Nat) : (number : Nat) → List Skill → Except Fault (List Procedure)
  | _, [] => .ok []
  | number, skill :: later => do
      let text ← instructions skill.content
      let steps := (Text.lines text).filterMap (step? maxLabelChars)
      let others ← procedures maxLabelChars (number + 1) later
      return ⟨number, skill.key, steps⟩ :: others

/-- The id of a chain. -/
def chainId (number : Nat) : Text :=
  "flow".toList ++ Text.decimal number

/-- A step of a chain as a node. -/
def node (chain : Text) (index : Nat) (label : Text) : Text :=
  chain ++ ['_'] ++ Text.decimal (index + 1) ++ "[\"".toList ++ label ++ "\"]".toList

/-- A procedure as a chain of its own, on three lines. -/
def Procedure.render (procedure : Procedure) : Text :=
  let chain := chainId procedure.number
  "    subgraph ".toList ++ chain ++ "[\"".toList ++ procedure.key.render ++
    "\"]\n        ".toList ++
    Text.join " --> ".toList (procedure.steps.mapIdx (node chain)) ++ "\n    end\n".toList

/-- The first line of every flowchart. -/
def header : Text := "flowchart LR\n".toList

/-- The flowchart of procedures. Those without steps are left out, and nothing is written if none
    is left. -/
def chart (procedures : List Procedure) : Text :=
  match procedures.filter (fun procedure => !procedure.steps.isEmpty) with
  | [] => []
  | drawn => header ++ drawn.flatMap Procedure.render

/-- The executions among skills. -/
def executions (skills : List Skill) : List Skill :=
  skills.filter (fun skill => skill.key.protocol == Composition.executionProtocol)

/-- The flowchart of the executions among skills, each of which has to be a document. -/
def draw (maxLabelChars : Nat) (skills : List Skill) : Except Fault Text := do
  return chart (← procedures maxLabelChars 1 (executions skills))

/-- The flowchart of the executions among skills, or nothing if one of them is no document. -/
def drawOrNothing (maxLabelChars : Nat) (skills : List Skill) : Text :=
  match draw maxLabelChars skills with
  | .ok text => text
  | .error _ => []

end RoleWeave.Flow
