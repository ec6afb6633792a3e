import RoleWeave.Concept.Line
import RoleWeave.Diagram.Label

/-!
# Salient terms

The terms of a text are its headings, its bold phrases and the leads of its list items: what stands
before the first colon of an item. Each is captured where it stands, in the order of the text, and
then cleaned. Captures of which nothing is left, which hold the address of a resource, or which are
too long for a label, are no terms.

A bold phrase stands between two pairs of stars. It holds no star and does not go over the end of a
line, and the pair that closes one phrase does not open another.
-/

namespace RoleWeave.Term

/-- A part of a text, with the number of characters before it. -/
structure Capture where
  start : Nat
  text : Text
deriving DecidableEq, Repr

/-- The colons that end the lead of an item. -/
def isColon (c : Char) : Bool :=
  c == ':' || c == '：'

/-- The heading in the body of its line. Number signs may close a heading, but its first character
    is always its own. -/
def heading (body : Text) : Text :=
  match body with
  | [] => []
  | c :: rest => c :: Text.trimEnd (fun d => Line.isSpacing d || d == '#') rest

/-- The lead of a list item, if the item has a colon. -/
def lead? (body : Text) : Option Text :=
  if body.any isColon then some (body.takeWhile (fun c => !isColon c)) else none

/-- The heading or lead of a line. -/
def opening? (line : Line) : Option Text :=
  let body := line.body.dropWhile Line.isSpacing
  match line.kind with
  | .plain => none
  | .heading => some (heading body)
  | .bullet => lead? body
  | .numbered => lead? body

/-- The bold phrases of a line that was cut at its stars. The first part begins at `position`. -/
def bolds (position : Nat) : List Text → List Capture
  | before :: [] :: phrase :: [] :: after :: later =>
      if phrase.isEmpty then
        bolds (position + before.length + 1) ([] :: phrase :: [] :: after :: later)
      else
        ⟨position + before.length + 2, phrase⟩ ::
          bolds (position + before.length + 2 + phrase.length + 2) (after :: later)
  | before :: later => bolds (position + before.length + 1) later
  | [] => []

/-- What is captured of a line that begins at `position`. The marker of a line holds no pair of
    stars, so bold phrases are looked for in the body only. -/
def capturesOfLine (position : Nat) (text : Text) : List Capture :=
  let line := Line.read text
  let start := position + (text.length - line.body.length)
  let spacing := (line.body.takeWhile Line.isSpacing).length
  ((opening? line).map (Capture.mk (start + spacing))).toList ++
    bolds start (Text.split (· == '*') line.body)

/-- What is captured of lines of which the first begins at `position`. -/
def capturesOfLines (position : Nat) : List Text → List Capture
  | [] => []
  | line :: later =>
      capturesOfLine position line ++ capturesOfLines (position + line.length + 1) later

/-- What is captured of a text. -/
def captures (text : Text) : List Capture :=
  capturesOfLines 0 (Text.lines text)

/-- The signs of emphasis and the blanks, which do not belong to a term at its ends. -/
def isDecoration (c : Char) : Bool :=
  c == '*' || c == '_' || Text.isBlank c

/-- The punctuation that does not belong to a term at its end. -/
def isPunctuation (c : Char) : Bool :=
  c ∈ ['.', ',', ';', '!', '?']

/-- What was captured, as a label. -/
def clean (captured : Text) : Text :=
  Text.trimEnd isPunctuation (Diagram.label (Text.trimBoth isDecoration captured))

/-- Whether a label is a term: it is not empty, it holds no address, and it has at most `limit`
    characters. -/
def isTerm (limit : Nat) (label : Text) : Bool :=
  !label.isEmpty && !Text.holds label "://".toList && label.length ≤ limit

/-- The terms of a text, in the order of the text. -/
def terms (limit : Nat) (text : Text) : List Text :=
  ((captures text).map (fun capture => clean capture.text)).filter (isTerm limit)

/-- The bold phrases of a line stand one after the other, behind the first pair of stars. By
    induction on the parts between the stars, where each phrase moves the place of those behind
    it. -/
theorem bolds_ordered (position : Nat) (parts : List Text) :
    (∀ capture ∈ bolds position parts, position + 2 ≤ capture.start) ∧
      (bolds position parts).Pairwise (fun first second => first.start < second.start) := by
  fun_induction bolds position parts with
  | case1 position before phrase after later empty ih =>
    refine ⟨fun capture member => ?_, ih.2⟩
    have := ih.1 capture member
    omega
  | case2 position before phrase after later filled ih =>
    refine ⟨fun capture member => ?_, List.pairwise_cons.mpr ⟨fun capture member => ?_, ih.2⟩⟩
    · rcases List.mem_cons.mp member with rfl | member
      · simp only
        omega
      · have := ih.1 capture member
        omega
    · have := ih.1 capture member
      simp only
      omega
  | case3 position before later _ ih =>
    refine ⟨fun capture member => ?_, ih.2⟩
    have := ih.1 capture member
    omega
  | case4 position => simp

end RoleWeave.Term
