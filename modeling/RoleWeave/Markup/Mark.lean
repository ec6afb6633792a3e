import RoleWeave.Reference.Name
import RoleWeave.Text.Character

/-!
# Tag marks

A mark is one written tag: an angle bracket, a slash if it closes, a name, perhaps blank-separated
attributes, a slash if it closes itself, and the other bracket. Attributes hold no angle brackets,
so a mark has no other mark inside it and `marks` can look at every opening bracket on its own.
What is not a mark is plain text.

A mark with both slashes counts as closing.
-/

namespace RoleWeave

/-- One written tag. Positions count characters; the name is in small letters. -/
structure Mark where
  closing : Bool
  selfClosing : Bool
  name : Text
  /-- The position of the opening angle bracket. -/
  start : Nat
  /-- The position after the other bracket. -/
  stop : Nat
deriving DecidableEq, Repr

namespace Mark

/-- Whether a character may stand among the attributes of a mark. -/
def isAttribute (c : Char) : Bool :=
  c != '<' && c != '>'

/-- Read the end of a mark, after its name. Answers whether the mark closes itself, and the number
    of characters read. -/
def ending? : Text → Option (Bool × Nat)
  | [] => none
  | '>' :: _ => some (false, 1)
  | '/' :: '>' :: _ => some (true, 2)
  | c :: rest =>
      if Text.isBlank c then
        let attributes := rest.takeWhile isAttribute
        match rest.dropWhile isAttribute with
        | '>' :: _ => some (attributes.getLast? == some '/', attributes.length + 2)
        | _ => none
      else none

/-- Read the name and the end of a mark. `skipped` characters of it are read already. -/
def named? (closing : Bool) (start skipped : Nat) (text : Text) : Option Mark := do
  let (name, rest) ← Name.take? text
  let (selfClosing, length) ← ending? rest
  return ⟨closing, selfClosing, Text.lowerLatin name, start,
    start + skipped + name.length + length⟩

/-- Read the mark whose opening bracket stands at `start`, from what follows that bracket. -/
def after? (start : Nat) : Text → Option Mark
  | '/' :: rest => named? true start 2 rest
  | rest => named? false start 1 rest

end Mark

/-- The marks of a text whose first character has position `start`. -/
def marksFrom (start : Nat) : Text → List Mark
  | [] => []
  | c :: rest =>
      let later := marksFrom (start + 1) rest
      if c = '<' then
        match Mark.after? start rest with
        | some mark => mark :: later
        | none => later
      else later

/-- The marks of a text, in their order. -/
def marks (text : Text) : List Mark :=
  marksFrom 0 text

end RoleWeave
