import RoleWeave.Composition.Inlining
import RoleWeave.Registry.Index
import RoleWeave.Text.NameSet

/-!
# Composing a role

A role is composed from three sections of its document. A section with prose is composed in place.
A section that is a mere list of references gives its thoughts and executions to two sets that are
shown as skills, each loaded once and on its own; its other references are shown one below the
other.

The order is fixed: the thoughts, the personality, the executions, and then the principle and the
knowledge. All of it shares one pass, which counts the role itself as met. Loading is done first
and gives `Inline`s; what is shown is a function of them.
-/

namespace RoleWeave

/-- Who the role is. -/
structure RoleInfo where
  id : Text
  name : Text
  description : Text
deriving DecidableEq, Repr

namespace RoleInfo

/-- A role of which only the id is known. -/
def plain (id : Text) : RoleInfo := ⟨id, id, []⟩

/-- The role that a descriptor describes. A role without a name goes by its id. -/
def ofDescriptor (descriptor : Descriptor) : RoleInfo :=
  ⟨descriptor.id, if descriptor.name.isEmpty then descriptor.id else descriptor.name,
    descriptor.description⟩

end RoleInfo

/-- A thought or an execution that was loaded on its own. -/
structure Skill where
  key : Key
  content : Text
deriving DecidableEq, Repr

/-- A role as it was composed. -/
structure ComposedRole where
  info : RoleInfo
  text : Text
  /-- The ids of the thoughts among the skills that were asked for. -/
  thoughts : NameSet
  /-- The ids of the executions among the skills that were asked for. -/
  executions : NameSet
  knowledge : List Text
  /-- The sections that are shown, in the order of the vocabulary. -/
  sections : List (Tag × Text)
  skills : List Skill
  failures : List Failure
  suppressed : List Key
  status : Status

namespace ComposedRole

/-- The skill with this key. -/
def skill? (role : ComposedRole) (protocol id : Text) : Option Skill :=
  role.skills.find? (fun skill => skill.key == ⟨protocol, id⟩)

end ComposedRole

namespace Composition

/-- The protocol of thoughts. -/
def thoughtProtocol : Text := "thought".toList

/-- The protocol of executions. -/
def executionProtocol : Text := "execution".toList

/-- The protocol of roles. -/
def roleProtocol : Text := "role".toList

/-- Whether a reference of a section without prose is shown as a skill. -/
def isSkill (reference : Reference) : Bool :=
  reference.protocol == thoughtProtocol || reference.protocol == executionProtocol

/-- The references of a text that are to be inlined. -/
def inlined (text : Text) : List Reference :=
  (references text).filter (fun reference => reference.loading.inlines)

/-- What a section contributes. -/
inductive Plan where
  /-- The section has prose and is composed in place. -/
  | inPlace (block : Block)
  /-- The section is a list of references, and these of them are not shown as skills. -/
  | listed (references : List Reference)

/-- The blocks of a document that a role is composed from. -/
def sectionBlocks (document : Document) : List Block :=
  Tag.sections.filterMap document.block?

/-- The references of the sections without prose. -/
def listedReferences (document : Document) : List Reference :=
  ((sectionBlocks document).filter (fun block => !block.hasProse)).flatMap
    (fun block => inlined block.text)

/-- The ids of a protocol among references. -/
def idsOf (protocol : Text) (references : List Reference) : NameSet :=
  NameSet.ofList
    ((references.filter (fun reference => reference.protocol == protocol)).map
      Reference.resource)

/-- The plan of a section. -/
def planOf (block : Block) : Plan :=
  if block.hasProse then .inPlace block
  else .listed ((inlined block.text).filter (fun reference => !isSkill reference))

/-- What is shown of a list of references: the contents and the failures, an empty line apart. -/
def shownList (outcomes : List Inline) : Text :=
  Text.join Document.blankLine
    ((outcomes.filter (fun outcome => outcome != .suppressed)).map Inline.shown)

variable {σ : Type}

/-- Compose a section. -/
def composeSection (provider : Provider σ) (limit : Nat) : Plan → Step (Weaving σ) Text
  | .inPlace block => return Text.trim (← composeBlock provider limit block)
  | .listed references => return Text.trim (shownList (← inlineAll provider limit references))

/-- Compose the sections with these tags, as far as the document has them and something of them
    is left to show. -/
def composeSections (provider : Provider σ) (limit : Nat) (document : Document) :
    List Tag → Step (Weaving σ) (List (Tag × Text))
  | [] => return []
  | tag :: later =>
      match document.block? tag with
      | none => composeSections provider limit document later
      | some block => do
          let text ← composeSection provider limit (planOf block)
          let others ← composeSections provider limit document later
          return if text.isEmpty then others else (tag, text) :: others

/-- Load the skills of a protocol. -/
def loadSkills (provider : Provider σ) (limit : Nat) (protocol : Text) (ids : NameSet) :
    Step (Weaving σ) (List (Key × Inline)) := do
  let outcomes ← inlineAll provider limit (ids.names.map (Reference.plain protocol))
  return (ids.names.map (Key.mk protocol)).zip outcomes

/-- The skill that came of loading one. -/
def skillOf? (key : Key) : Inline → Option Skill
  | .content text => some ⟨key, Text.trim text⟩
  | _ => none

/-- What is shown of a skill, under a heading of its own. -/
def shownSkill (key : Key) (outcome : Inline) : Text :=
  match outcome with
  | .suppressed => []
  | _ => "\n### ".toList ++ key.render ++ Document.blankLine ++ outcome.shown ++ ['\n']

/-- What is shown of the skills of a protocol. -/
def shownSkills (heading : Text) (loaded : List (Key × Inline)) : Text :=
  if loaded.isEmpty then []
  else
    "\n## ".toList ++ heading ++ ['\n'] ++
      loaded.flatMap (fun skill => shownSkill skill.1 skill.2)

/-- What is shown of sections. -/
def shownSections (sections : List (Tag × Text)) : Text :=
  sections.flatMap (fun composed =>
    "\n## ".toList ++ composed.1.title ++ Document.blankLine ++ composed.2 ++ ['\n'])

/-- What is shown of the role itself. -/
def shownInfo (info : RoleInfo) : Text :=
  "# Role: ".toList ++ info.name ++
    (if info.name = info.id then [] else " (".toList ++ info.id ++ ")".toList) ++ ['\n'] ++
    (if info.description.isEmpty then [] else ['\n'] ++ info.description ++ ['\n'])

/-- A list of names, or the word that says that there are none. -/
def namesOrNone (names : List Text) : Text :=
  if names.isEmpty then "none".toList else Text.join ", ".toList names

/-- A status as it is shown to readers. -/
def shownStatus : Status → Text
  | .composed => "composed".toList
  | .partiallyFailed => "partially failed".toList

/-- The closing line of a composed role. -/
def shownSummary (thoughts executions : NameSet) (sections : List (Tag × Text))
    (status : Status) : Text :=
  "\n---\nThoughts: ".toList ++ namesOrNone thoughts.names ++
    " | Executions: ".toList ++ namesOrNone executions.names ++
    " | Sections: ".toList ++ namesOrNone (sections.map (fun composed => composed.1.name)) ++
    " | Status: ".toList ++ shownStatus status ++ ['\n']

/-- Everything that was loaded for a role, in the order of loading. -/
structure RoleParts where
  thoughts : List (Key × Inline)
  personality : List (Tag × Text)
  executions : List (Key × Inline)
  others : List (Tag × Text)

/-- Load and compose everything for a role. -/
def composeParts (provider : Provider σ) (limit : Nat) (document : Document)
    (thoughts executions : NameSet) : Step (Weaving σ) RoleParts := do
  let loadedThoughts ← loadSkills provider limit thoughtProtocol thoughts
  let personality ← composeSections provider limit document [.personality]
  let loadedExecutions ← loadSkills provider limit executionProtocol executions
  let others ← composeSections provider limit document [.principle, .knowledge]
  return ⟨loadedThoughts, personality, loadedExecutions, others⟩

/-- The composed role that the loaded parts and the pass make up. -/
def assemble (info : RoleInfo) (thoughts executions : NameSet) (parts : RoleParts)
    (pass : Pass) : ComposedRole :=
  let sections := parts.personality ++ parts.others
  { info := info
    text :=
      shownInfo info ++ shownSkills "Thinking".toList parts.thoughts ++
        shownSections parts.personality ++ shownSkills "Execution".toList parts.executions ++
        shownSections parts.others ++ shownSummary thoughts executions sections pass.status
    thoughts := thoughts
    executions := executions
    knowledge := [info.id]
    sections := sections
    skills := (parts.thoughts ++ parts.executions).filterMap
      (fun skill => skillOf? skill.1 skill.2)
    failures := pass.failures
    suppressed := pass.suppressed
    status := pass.status }

/-- Compose a role from its document. -/
def composeRole (provider : Provider σ) (limit : Nat) (info : RoleInfo) (document : Document) :
    Step σ ComposedRole := do
  provider.ready
  let thoughts := idsOf thoughtProtocol (listedReferences document)
  let executions := idsOf executionProtocol (listedReferences document)
  .of (fun world =>
    let pass := Pass.withVisited [⟨roleProtocol, info.id⟩]
    match (composeParts provider limit document thoughts executions).run ⟨world, pass⟩ with
    | (.ok parts, weaving) =>
        (.ok (assemble info thoughts executions parts weaving.pass), weaving.world)
    | (.error fault, weaving) => (.error fault, weaving.world))

end Composition

end RoleWeave
