import RoleWeave.Text.Basic

/-!
# Characters in their places

In YAML the line and the column of a character matter. A text is read as a list of spots, in which
every ending of a line is one character.
-/

namespace RoleWeave.Yaml

/-- A character with the number of lines and of columns before it. -/
structure Spot where
  char : Char
  line : Nat
  column : Nat
deriving DecidableEq, Repr

/-- Whether a character ends a line. -/
def isBreak (c : Char) : Bool :=
  c == '\n' || c.toNat == 0x2028 || c.toNat == 0x2029

/-- Whether a character separates words on a line. -/
def isBlank (c : Char) : Bool :=
  c == ' ' || c == '\t'

/-- Whether a character may stand in a document at all. -/
def isAllowed (c : Char) : Bool :=
  let n := c.toNat
  n == 0x9 || n == 0xa || n == 0xd || (0x20 ≤ n && n ≤ 0x7e) || n == 0x85 ||
    (0xa0 ≤ n && n ≤ 0xfffd) || 0x10000 ≤ n

/-- Whether a byte order mark stands at the beginning of a line. It is passed there, and yet it takes
    a column of its own. Everywhere else it is a character like any other. -/
def Spot.isOrderMark (spot : Spot) : Bool :=
  spot.column == 0 && spot.char.toNat == 0xfeff

/-- Write the endings of lines that are made of carriage returns or next-line controls as line
    feeds. -/
def unifyBreaks : Text → Text
  | [] => []
  | '\r' :: '\n' :: rest => '\n' :: unifyBreaks rest
  | c :: rest => (if c == '\r' || c.toNat == 0x85 then '\n' else c) :: unifyBreaks rest

/-- The characters of a text that begins at a line and a column. -/
def spotsFrom (line column : Nat) : Text → List Spot
  | [] => []
  | c :: rest =>
      ⟨c, line, column⟩ ::
        (if isBreak c then spotsFrom (line + 1) 0 rest else spotsFrom line (column + 1) rest)

/-- The characters of a text. -/
def spots (text : Text) : List Spot :=
  spotsFrom 0 0 (unifyBreaks text)

/-- Whether a word ends before these characters. -/
def endsHere : List Spot → Bool
  | [] => true
  | spot :: _ => isBlank spot.char || isBreak spot.char

/-- Whether a line begins with three times the same sign and nothing else in that word. -/
def isMark (sign : Char) : List Spot → Bool
  | a :: b :: c :: rest =>
      a.column == 0 && a.char == sign && b.char == sign && c.char == sign && endsHere rest
  | _ => false

/-- Whether a document begins or ends before these characters. -/
def isDocumentMark (spots : List Spot) : Bool :=
  isMark '-' spots || isMark '.' spots

end RoleWeave.Yaml
