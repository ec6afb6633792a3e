import RoleWeave.Diagram.Flow

/-!
# The chains of a flowchart

The executions of a role are drawn together, and one that is no document keeps all of them from
being drawn. `draw_iff_documents` says that nothing else does, and `chain_of_draw` that every
execution with steps has its chain in what is drawn.
-/

namespace RoleWeave.Flow

/-- The steps that a text of instructions holds. -/
def stepsOf (maxLabelChars : Nat) (text : Text) : List Text :=
  (Text.lines text).filterMap (step? maxLabelChars)

/-- The steps of an execution can be looked for exactly if it is a document. Nothing is asked about
    the elements of the document: without an element for instructions the whole text is taken. -/
theorem instructions_iff_document (content : Text) :
    (∃ text, instructions content = .ok text) ↔
      ∃ document, Document.parse content = .ok document := by
  unfold instructions
  cases Document.parse content with
  | error fault =>
    constructor
    · rintro ⟨_, impossible⟩
      cases impossible
    · rintro ⟨_, impossible⟩
      cases impossible
  | ok document => exact ⟨fun _ => ⟨document, rfl⟩, fun _ => ⟨_, rfl⟩⟩

/-- What a list of executions is read to, one after another. The first that is no document gives the
    fault, and then no procedure is read at all, not even those of the documents before it. -/
theorem procedures_cons (maxLabelChars number : Nat) (skill : Skill) (later : List Skill) :
    procedures maxLabelChars number (skill :: later) =
      match instructions skill.content with
      | .error fault => .error fault
      | .ok text =>
          match procedures maxLabelChars (number + 1) later with
          | .error fault => .error fault
          | .ok others => .ok (⟨number, skill.key, stepsOf maxLabelChars text⟩ :: others) := by
  rw [procedures]
  cases instructions skill.content with
  | error fault => rfl
  | ok text =>
    cases procedures maxLabelChars (number + 1) later <;> rfl

/-- Executions can be read exactly if each of them is a document. By induction on the executions:
    the first has to be a document, and the others have to be read under the following numbers. -/
theorem procedures_iff_documents (maxLabelChars number : Nat) (skills : List Skill) :
    (∃ read, procedures maxLabelChars number skills = .ok read) ↔
      ∀ skill ∈ skills, ∃ document, Document.parse skill.content = .ok document := by
  induction skills generalizing number with
  | nil => simp [procedures]
  | cons skill later ih =>
    have rest := ih (number + 1)
    rw [procedures_cons, List.forall_mem_cons, ← instructions_iff_document, ← rest]
    cases instructions skill.content with
    | error fault => simp
    | ok text => cases procedures maxLabelChars (number + 1) later <;> simp

/-- Each execution is read to the procedure with its number, its key and its steps. The procedures
    stand at the places of their executions, since executions without steps are read as well.

    Proof: by induction on the executions. The first is read to the first procedure; those behind it
    are read under numbers that are greater by one, and stand one place further on. -/
theorem procedure_of_read {maxLabelChars number : Nat} {skills : List Skill}
    {read : List Procedure} (ran : procedures maxLabelChars number skills = .ok read)
    {index : Nat} {skill : Skill} (found : skills[index]? = some skill) :
    ∃ text, instructions skill.content = .ok text ∧
      read[index]? = some ⟨number + index, skill.key, stepsOf maxLabelChars text⟩ := by
  induction skills generalizing number read index with
  | nil => simp at found
  | cons first later ih =>
    rw [procedures_cons] at ran
    cases known : instructions first.content with
    | error fault => simp [known] at ran
    | ok text =>
      cases others : procedures maxLabelChars (number + 1) later with
      | error fault => simp [known, others] at ran
      | ok rest =>
        simp only [known, others, Except.ok.injEq] at ran
        subst ran
        cases index with
        | zero =>
          have same : first = skill := by simpa using found
          subst same
          exact ⟨text, known, rfl⟩
        | succ index =>
          obtain ⟨inner, instructed, stands⟩ := ih others (by simpa using found)
          refine ⟨inner, instructed, ?_⟩
          rw [List.getElem?_cons_succ, stands, Nat.add_right_comm, Nat.add_assoc]

/-- A procedure with steps has its chain in the flowchart. Only procedures without steps are left
    out, and the chains of the others follow each other unchanged behind the header. -/
theorem render_infix_chart {procedure : Procedure} {read : List Procedure}
    (member : procedure ∈ read) (steps : procedure.steps ≠ []) :
    procedure.render <:+: chart read := by
  have drawn : procedure ∈ read.filter (fun procedure => !procedure.steps.isEmpty) := by
    simp [member, steps]
  unfold chart
  split
  · rename_i none
    rw [none] at drawn
    cases drawn
  · obtain ⟨before, after, split⟩ := List.append_of_mem drawn
    refine ⟨header ++ before.flatMap Procedure.render, after.flatMap Procedure.render, ?_⟩
    rw [split]
    simp

/-- The flowchart of executions can be drawn exactly if each of them is a document. Whether an
    execution has steps, and of which form they are, does not matter for this. -/
theorem draw_iff_documents (maxLabelChars : Nat) (skills : List Skill) :
    (∃ drawn, draw maxLabelChars skills = .ok drawn) ↔
      ∀ skill ∈ executions skills, ∃ document, Document.parse skill.content = .ok document := by
  rw [← procedures_iff_documents maxLabelChars 1, draw]
  cases procedures maxLabelChars 1 (executions skills) with
  | error fault =>
    constructor
    · rintro ⟨_, impossible⟩
      cases impossible
    · rintro ⟨_, impossible⟩
      cases impossible
  | ok read => exact ⟨fun _ => ⟨read, rfl⟩, fun _ => ⟨_, rfl⟩⟩

/-- Every execution with steps has its chain in a flowchart that was drawn. The chain has the number
    of the execution among all executions, those without steps included. -/
theorem chain_of_draw {maxLabelChars : Nat} {skills : List Skill} {drawn : Text}
    (ran : draw maxLabelChars skills = .ok drawn) {index : Nat} {skill : Skill}
    (found : (executions skills)[index]? = some skill) :
    ∃ text, instructions skill.content = .ok text ∧
      (stepsOf maxLabelChars text ≠ [] →
        Procedure.render ⟨index + 1, skill.key, stepsOf maxLabelChars text⟩ <:+: drawn) := by
  unfold draw at ran
  cases known : procedures maxLabelChars 1 (executions skills) with
  | error fault =>
    rw [known] at ran
    cases ran
  | ok read =>
    rw [known] at ran
    cases ran
    obtain ⟨text, instructed, stands⟩ := procedure_of_read known found
    rw [Nat.add_comm] at stands
    exact ⟨text, instructed, render_infix_chart (List.mem_of_getElem? stands)⟩

end RoleWeave.Flow
