import RoleWeave.Activation
import RoleWeave.Proofs.Composition.Tracing
import RoleWeave.Proofs.Concept.Spanning
import RoleWeave.Proofs.Diagram.Fences
import RoleWeave.Proofs.Diagram.Flowchart

/-!
# Diagrams are not broken

Whatever the documents say from which a role is composed, its diagrams stay in form. Names, terms
and steps are cleaned when they are drawn. The key of an execution is drawn as it is, and nothing is
checked where that is done: a key is harmless because it comes from a reference in running text, in
which every delimiter and every blank ends the word.

So no line of a diagram holds a backtick, and its code block ends where the activation closes it
(`diagrams_unbroken`). That is said of the lines from the opening one on. Whether the text of the
role in front of it leaves a code block open is a matter of that text.
-/

namespace RoleWeave

namespace Composition

/-- A character that does not end a word delimits nothing in a diagram. -/
theorem isDelimiter_of_endsWord {c : Char} (goesOn : endsWord c = false) :
    Diagram.isDelimiter c = false := by
  simp only [endsWord, Bool.or_eq_false_iff, decide_eq_false_iff_not, List.mem_cons, not_or]
    at goesOn
  simp [Diagram.isDelimiter, goesOn]

/-- The keys that a role is to show as skills are inert. They come from references in running text,
    and what delimits something in a diagram would have ended the word there. -/
theorem inert_of_listed {document : Document} {protocol id : Text}
    (member : id ∈ idsOf protocol (listedReferences document)) :
    Diagram.Inert (Key.mk protocol id).render := by
  rw [idsOf, NameSet.mem_ofList, List.mem_map] at member
  obtain ⟨reference, among, rfl⟩ := member
  obtain ⟨listed, same⟩ := List.mem_filter.mp among
  obtain ⟨block, _, inside⟩ := List.mem_flatMap.mp listed
  rw [← beq_iff_eq.mp same]
  intro c part
  have goesOn := (scanned_of_inlined inside).inside c (List.mem_append_right _ part)
  exact ⟨isDelimiter_of_endsWord goesOn, .inr (isBlank_of_endsWord goesOn)⟩

/-- The keys of the skills of a composed role are inert. Every skill is one of the thoughts or
    executions that its sections list. -/
theorem inert_of_skill {σ : Type} {provider : Provider σ} {limit : Nat} {info : RoleInfo}
    {document : Document} {world after : σ} {role : ComposedRole}
    (composed : (composeRole provider limit info document).run world = (.ok role, after)) :
    ∀ skill ∈ role.skills, Diagram.Inert skill.key.render := by
  have asked : role.thoughts = idsOf thoughtProtocol (listedReferences document) ∧
      role.executions = idsOf executionProtocol (listedReferences document) := by
    obtain ⟨_, _, _, _, _, _, rfl, _⟩ := tasks_of_composeRole composed
    exact ⟨rfl, rfl⟩
  obtain ⟨_, thoughts, executions, keys, ⟨_, hoisted⟩, _, hoistedToo⟩ :=
    arranged_of_composeRole composed
  intro skill member
  have among : skill.key ∈ role.skills.map Skill.key := List.mem_map_of_mem member
  rw [keys] at among
  rcases List.mem_append.mp among with thought | execution
  · obtain ⟨id, shown, same⟩ := List.mem_map.mp thought
    exact same ▸ inert_of_listed (asked.1 ▸ hoisted id shown)
  · obtain ⟨id, shown, same⟩ := List.mem_map.mp execution
    exact same ▸ inert_of_listed (asked.2 ▸ hoistedToo id shown)

end Composition

namespace Activation

/-- A text with a heading behind it. -/
def headed (text heading : Text) : Text :=
  text ++ "\n## ".toList ++ heading ++ ['\n']

/-- What nothing that a role is composed from can do to its diagrams. -/
structure Unbroken (maxLabelChars : Nat) (activation : Activation) : Prop where
  /-- In the mindmap, the only delimiters are those of the round shape of the root. -/
  mindmap : ∀ text, activation.prime = .ok text → ∃ label lines,
    Text.lines text = "mindmap".toList ::
      ("  root((".toList ++ label ++ "))".toList) :: (lines ++ [[]]) ∧
    Diagram.Inert label ∧ ∀ line ∈ lines, Diagram.Inert line
  /-- The flowchart has three lines for each procedure, and what it shows is inert. -/
  flowchart : activation.procedural ≠ [] → ∃ flows, flows ≠ [] ∧
    Flow.Charted maxLabelChars (Flow.executions activation.role.skills) activation.procedural flows
  /-- Both end with a line feed, unless they are empty. -/
  closed : ∀ text, activation.prime = .ok text ∨ activation.procedural = text →
    text ≠ [] → text.getLast? = some '\n'
  /-- The code block of the mindmap ends where it is closed. -/
  mindmapBlock : ∀ text, activation.prime = .ok text →
    Diagram.Enclosed activation.markdown (headed activation.role.text "Concept map".toList) text
      (if activation.procedural.isEmpty then []
        else fenced "Procedures".toList activation.procedural)
  /-- The code block of the flowchart ends where it is closed. -/
  flowchartBlock : activation.procedural ≠ [] →
    Diagram.Enclosed activation.markdown
      (headed { activation with procedural := [] }.markdown "Procedures".toList)
      activation.procedural []

/-- A fenced diagram is enclosed between what is in front of it, with its heading, and what is
    behind. Its lines hold no backticks, so none of them ends the code block before its time. -/
theorem enclosed_fenced {diagram : Text} {body : List Text}
    (unticked : Diagram.Unticked diagram body) (front heading back : Text) :
    Diagram.Enclosed (front ++ fenced heading diagram ++ back) (headed front heading) diagram
      back := by
  have opening : "\n\n```mermaid\n".toList = '\n' :: "\n```mermaid\n".toList := by decide
  have parts : front ++ fenced heading diagram ++ back =
      headed front heading ++ "\n```mermaid\n".toList ++ diagram ++ "```\n".toList ++ back := by
    unfold fenced headed
    -- The fixed texts are taken as they are: comparing them character by character takes too long.
    generalize "\n\n```mermaid\n".toList = before at *
    generalize "\n```mermaid\n".toList = line at *
    generalize "\n## ".toList = sign at *
    simp only [opening, List.append_assoc, List.cons_append, List.nil_append]
  rw [parts]
  exact unticked.enclosed _ back

/-- The mindmap of a role consists of a header, the root, and inert lines. There is one only if the
    role has a section or a skill, and then the outline was grown, so its labels are clean. -/
theorem mindmap_of_prime {limits : ConceptLimits} {role : ComposedRole} {text : Text}
    (drawn : (ofRole limits role).prime = .ok text) :
    ∃ label lines, Text.lines text = "mindmap".toList ::
        ("  root((".toList ++ label ++ "))".toList) :: (lines ++ [[]]) ∧
      Diagram.Inert label ∧ ∀ line ∈ lines, Diagram.Inert line := by
  have content : ¬(role.sections = [] ∧ role.skills = []) := by
    rintro ⟨sections, skills⟩
    simp [ofRole, Outline.build, sections, skills, Except.map] at drawn
  rw [ofRole, Outline.build_of_content limits content] at drawn
  cases drawn
  have grown := Outline.grown_graphOf limits role.info.name (Outline.parts role)
  obtain ⟨_, root⟩ := grown.root?_eq
  obtain ⟨lines, written, inert⟩ := Mindmap.lines_inert grown.consistent root
  exact ⟨_, lines, written, Diagram.inert_label _, inert⟩

/-- The flowchart of a role is nothing, or that of procedures. The keys of the executions are inert
    because those of all skills are. -/
theorem charted_of_procedural {limits : ConceptLimits} {role : ComposedRole}
    (inert : ∀ skill ∈ role.skills, Diagram.Inert skill.key.render)
    (something : (ofRole limits role).procedural ≠ []) :
    ∃ flows, flows ≠ [] ∧ Flow.Charted limits.maxLabelChars (Flow.executions role.skills)
      (ofRole limits role).procedural flows := by
  have executed : ∀ skill ∈ Flow.executions role.skills, Diagram.Inert skill.key.render :=
    fun skill member => inert skill (List.mem_filter.mp member).1
  simp only [ofRole, Flow.drawOrNothing] at something ⊢
  cases ran : Flow.draw limits.maxLabelChars role.skills with
  | error fault => simp [ran] at something
  | ok text =>
    simp only [ran] at something ⊢
    exact Flow.charted_of_draw executed ran something

/-- The lines of a mindmap are without backticks if its labels are inert. The header and the
    brackets of the root have none. -/
theorem unticked_mindmap {text label : Text} {lines : List Text}
    (written : Text.lines text = "mindmap".toList ::
      ("  root((".toList ++ label ++ "))".toList) :: (lines ++ [[]]))
    (inert : Diagram.Inert label) (others : ∀ line ∈ lines, Diagram.Inert line) :
    Diagram.Unticked text
      ("mindmap".toList :: ("  root((".toList ++ label ++ "))".toList) :: lines) := by
  have root : '\x60' ∉ "  root((".toList ++ label ++ "))".toList :=
    List.not_mem_append (List.not_mem_append (by decide) (inert.not_mem (.inl (by decide))))
      (by decide)
  refine ⟨written, by simp, List.forall_mem_cons.mpr ⟨by decide, List.forall_mem_cons.mpr
    ⟨root, fun line member => (others line member).not_mem (.inl (by decide))⟩⟩⟩

/-- The lines of a flowchart are without backticks, since those of each of its procedures are. In
    these, titles and labels are the only parts that come from outside. -/
theorem unticked_flowchart {maxLabelChars : Nat} {skills : List Skill} {text : Text}
    {flows : List Flow.Procedure} (charted : Flow.Charted maxLabelChars skills text flows) :
    Diagram.Unticked text ("flowchart LR".toList :: flows.flatMap Flow.Procedure.lines) := by
  refine ⟨charted.lines, by simp, List.forall_mem_cons.mpr ⟨by decide, ?_⟩⟩
  intro line member
  obtain ⟨flow, among, own⟩ := List.mem_flatMap.mp member
  exact Flow.not_mem_lines (charted.titled flow among)
    (fun step shown => (charted.labelled flow among step shown).1) (.inr rfl) line own

/-- Nothing that a role is composed from breaks its diagrams. Let a role be composed, by whatever
    provider and from whatever document, and drawn within whatever limits. No line of the mindmap
    has a delimiter, apart from the two pairs of round brackets around the label of the root. The
    flowchart is empty, or it is its header and three lines for each procedure: that of its key,
    that of its steps and a last one. What these show in quotes has neither delimiters nor line
    breaks, no two chains or steps have the same id, and the labels of steps are no longer than the
    limit, or than the ellipsis. Both texts end with a line feed unless they are empty, and the code
    block of each ends where the activation closes it.

    Proof: `mindmap_of_prime` and `charted_of_procedural` give the lines of the two texts. These
    lines are without backticks, so a text made of them ends with a line feed and, once it is
    fenced, is enclosed by the fences around it (`enclosed_fenced`). -/
theorem diagrams_unbroken {σ : Type} (provider : Provider σ) (limit : Nat) (info : RoleInfo)
    (document : Document) (world after : σ) (role : ComposedRole)
    (composed :
      (Composition.composeRole provider limit info document).run world = (.ok role, after))
    (limits : ConceptLimits) : Unbroken limits.maxLabelChars (ofRole limits role) := by
  have drawn : ∀ text, (ofRole limits role).prime = .ok text → _ := fun _ => mindmap_of_prime
  have charted : (ofRole limits role).procedural ≠ [] → ∃ flows, flows ≠ [] ∧
      Flow.Charted limits.maxLabelChars (Flow.executions (ofRole limits role).role.skills)
        (ofRole limits role).procedural flows :=
    charted_of_procedural (Composition.inert_of_skill composed)
  generalize ofRole limits role = activation at charted drawn
  refine ⟨drawn, charted, ?_, ?_, ?_⟩
  · rintro text (prime | rfl) something
    · obtain ⟨_, _, written, inert, others⟩ := drawn text prime
      exact (unticked_mindmap written inert others).ends
    · obtain ⟨_, _, chart⟩ := charted something
      exact (unticked_flowchart chart).ends
  · intro text prime
    obtain ⟨_, _, written, inert, others⟩ := drawn text prime
    have block := enclosed_fenced (unticked_mindmap written inert others) activation.role.text
      "Concept map".toList
      (if activation.procedural.isEmpty then []
        else fenced "Procedures".toList activation.procedural)
    rw [markdown, prime]
    exact block
  · intro something
    obtain ⟨_, _, chart⟩ := charted something
    have block := enclosed_fenced (unticked_flowchart chart)
      { activation with procedural := [] }.markdown "Procedures".toList []
    have whole : activation.markdown = { activation with procedural := [] }.markdown ++
        fenced "Procedures".toList activation.procedural ++ [] := by
      simp only [markdown, List.isEmpty_iff, something, if_true, if_false, List.append_nil]
    rwa [whole]

/-- A role that consists of one execution. -/
def executiveRole : Document :=
  ⟨"<personality>@execution://a</personality>".toList, [⟨"personality".toList, 13, 27⟩]⟩

/-- An execution with brackets, quotes and backticks. -/
def tickedExecution : Library :=
  Library.ofFiles "execution".toList
    [("a".toList, "# Say [it]\n1. Type ``` (\"now\")\n2. Done".toList)]

/-- The diagrams of that role show none of the brackets, quotes and backticks, which are taken from
    the heading and the steps before they are drawn. -/
theorem ticked_execution_unbroken :
    ∃ role after, (Composition.composeRole Library.provider 8 (RoleInfo.plain "r".toList)
        executiveRole).run tickedExecution = (.ok role, after) ∧
      (ofRole ⟨10, 48⟩ role).prime.toOption =
        some "mindmap\n  root((r))\n    execution://a\n      Say it\n".toList ∧
      (ofRole ⟨10, 48⟩ role).procedural =
        ("flowchart LR\n    subgraph flow1[\"execution://a\"]\n        flow1_1[\"Type now\"]" ++
          " --> flow1_2[\"Done\"]\n    end\n").toList ∧
      Unbroken 48 (ofRole ⟨10, 48⟩ role) := by
  have known : ((Composition.composeRole Library.provider 8 (RoleInfo.plain "r".toList)
      executiveRole).run tickedExecution).1.toOption.map (fun role =>
        ((ofRole ⟨10, 48⟩ role).prime.toOption, (ofRole ⟨10, 48⟩ role).procedural)) =
      some (some "mindmap\n  root((r))\n    execution://a\n      Say it\n".toList,
        ("flowchart LR\n    subgraph flow1[\"execution://a\"]\n        flow1_1[\"Type now\"]" ++
          " --> flow1_2[\"Done\"]\n    end\n").toList) := by
    decide +kernel
  rcases composed : (Composition.composeRole Library.provider 8 (RoleInfo.plain "r".toList)
      executiveRole).run tickedExecution with ⟨fault | role, after⟩
  · rw [composed] at known
    cases known
  · rw [composed] at known
    obtain ⟨prime, procedural⟩ := Prod.mk.inj (Option.some.inj known)
    exact ⟨role, after, rfl, prime, procedural,
      diagrams_unbroken Library.provider 8 _ _ _ _ _ composed ⟨10, 48⟩⟩

end Activation

end RoleWeave
