import RoleWeave.Proofs.Text.Splitting

/-!
# Diagrams in code blocks

A diagram is put into a document as a code block: one line opens the block, and three backticks on a
line of their own close it. A reader takes the block to end at the first line that can close it. If
no line of the diagram holds a backtick, that is the line that was put behind the diagram:
`Unticked.enclosed`. What stands in front of the block and behind it is arbitrary.
-/

namespace RoleWeave.Diagram

/-- The line that opens the code block of a diagram. -/
def blockOpening : Text := "```mermaid".toList

/-- The line that closes a code block. -/
def blockClosing : Text := "```".toList

/-- Whether a line can close a code block that three backticks have opened. It has as many backticks
    at least, with three spaces in front of them at most, and behind them nothing but spaces and
    tabs. -/
def closesBlock (line : Text) : Bool :=
  let marks := line.dropWhile (· == ' ')
  decide (line.length - marks.length ≤ 3) &&
    decide (3 ≤ (marks.takeWhile (· == '\x60')).length) &&
    (marks.dropWhile (· == '\x60')).all (fun c => c == ' ' || c == '\t')

/-- The lines of a text that ends with a line feed. -/
def closedLines (text : Text) : List Text :=
  (Text.lines text).dropLast

/-- A text consists of a diagram as a code block and of what is in front of the block and behind
    it, and the block ends exactly where it is closed. -/
structure Enclosed (text front diagram back : Text) : Prop where
  /-- Between the line that opens the block and the one that closes it are the lines of the
      diagram. -/
  placed : Text.lines text =
    Text.lines front ++ blockOpening :: (closedLines diagram ++ blockClosing :: Text.lines back)
  /-- The lines behind the opening one, up to the first that can close the block, are those of the
      diagram. -/
  read : (closedLines diagram ++ blockClosing :: Text.lines back).takeWhile
    (fun line => !closesBlock line) = closedLines diagram

/-- A line without a backtick closes no code block, however it is indented: it takes three of
    them. -/
theorem closesBlock_of_not_mem {line : Text} (unticked : '\x60' ∉ line) :
    closesBlock line = false := by
  have none : (line.dropWhile (· == ' ')).takeWhile (· == '\x60') = [] := by
    apply List.eq_nil_iff_forall_not_mem.mpr
    intro c member
    have tick : c = '\x60' := by simpa using List.all_eq_true.mp List.all_takeWhile c member
    have inside : c ∈ line :=
      (List.dropWhile_sublist _).subset ((List.takeWhile_sublist _).subset member)
    exact unticked (tick ▸ inside)
  simp [closesBlock, none]

/-- A text that is written line by line, and without backticks. -/
structure Unticked (text : Text) (body : List Text) : Prop where
  lines : Text.lines text = body ++ [[]]
  nonempty : body ≠ []
  unticked : ∀ line ∈ body, '\x60' ∉ line

namespace Unticked

variable {diagram : Text} {body : List Text}

/-- Such a text ends with a line feed, so the line that closes the block behind it is a line of its
    own. -/
theorem ends (unticked : Unticked diagram body) : diagram.getLast? = some '\n' :=
  Text.getLast?_of_lines unticked.lines unticked.nonempty

/-- Such a text is enclosed between any two texts. Nothing is asked of these: the block is closed
    where the diagram ends even if the text in front of it leaves a block of its own open.

    Proof: the lines of the whole are those in front, the line that opens the block, those of the
    diagram, the line that closes it, and those behind, because each of the marks stands between
    line feeds. No line of the diagram has a backtick, so the first that can close the block is the
    one put there. -/
theorem enclosed (unticked : Unticked diagram body) (front back : Text) :
    Enclosed (front ++ "\n```mermaid\n".toList ++ diagram ++ "```\n".toList ++ back)
      front diagram back := by
  have lines := unticked.lines
  have closed : closedLines diagram = body := by
    rw [closedLines, lines, List.dropLast_concat]
  have single : ∀ line ∈ body, '\n' ∉ line := by
    intro line member inside
    have part : line ∈ Text.lines diagram := lines ▸ List.mem_append_left _ member
    exact absurd (Text.of_mem_split part inside).2 (by decide)
  have opens : Text.lines blockOpening = [blockOpening] := by decide
  have closes : Text.lines blockClosing = [blockClosing] := by decide
  refine ⟨?_, ?_⟩
  · have opening : "\n```mermaid\n".toList = '\n' :: (blockOpening ++ ['\n']) := by decide
    have closing : "```\n".toList = blockClosing ++ ['\n'] := by decide
    have parts : front ++ "\n```mermaid\n".toList ++ diagram ++ "```\n".toList ++ back =
        front ++ '\n' :: (blockOpening ++ '\n' :: (body.flatMap (fun line => line ++ ['\n']) ++
          (blockClosing ++ '\n' :: back))) := by
      rw [← Text.eq_of_lines lines, opening, closing]
      simp only [List.append_assoc, List.cons_append, List.nil_append]
    rw [parts, Text.lines_append, Text.lines_append, opens, Text.lines_closed_append single,
      Text.lines_append, closes, closed, List.singleton_append, List.singleton_append]
  · have open_ : ∀ line ∈ body, (!closesBlock line) = true := by
      intro line member
      rw [closesBlock_of_not_mem (unticked.unticked line member), Bool.not_false]
    rw [closed, List.takeWhile_append_of_pos open_, List.takeWhile_cons_of_neg (by decide),
      List.append_nil]

end Unticked

end RoleWeave.Diagram
