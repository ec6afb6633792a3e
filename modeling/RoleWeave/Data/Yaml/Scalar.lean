import RoleWeave.Data.Format
import RoleWeave.Data.Yaml.Spot

/-!
# Scalars of YAML

A scalar is written plainly, in single quotes or in double quotes, and may go over several lines.
Between its words stand gaps. A gap on one line is kept as it is. A gap over the end of a line is a
single space, or as many line feeds as there are empty lines in it.
-/

namespace RoleWeave.Yaml

/-- What stands between two words of a scalar. -/
structure Gap where
  blanks : Text
  breaks : Text
  /-- Whether the gap begins with the end of a line that was escaped by a backslash. -/
  escaped : Bool
deriving DecidableEq, Repr

namespace Gap

/-- No gap. -/
def none : Gap := ⟨[], [], false⟩

/-- Whether a gap goes over the end of a line. -/
def crosses (gap : Gap) : Bool :=
  gap.escaped || !gap.breaks.isEmpty

/-- Whether there is any gap. -/
def isOpen (gap : Gap) : Bool :=
  gap.crosses || !gap.blanks.isEmpty

/-- A gap with another character. Once a line has ended, blanks do not count. -/
def add (gap : Gap) (c : Char) : Gap :=
  if isBreak c then { gap with blanks := [], breaks := gap.breaks ++ [c] }
  else if gap.crosses then gap
  else { gap with blanks := gap.blanks ++ [c] }

/-- What a gap contributes to the scalar. -/
def text (gap : Gap) : Text :=
  if gap.escaped then gap.breaks
  else
    match gap.breaks with
    | [] => gap.blanks
    | first :: later =>
        if first != '\n' then first :: later
        else if later.isEmpty then [' ']
        else later

end Gap

/-- The signs that part the items of a flow collection or end it. -/
def isFlowSign (c : Char) : Bool :=
  c ∈ [',', '[', ']', '\x7b', '\x7d']

/-- Whether a plain scalar ends before these characters. In a block, a line of the scalar has to
    begin at `column` or later. -/
def endsPlain (flow : Bool) (column : Nat) (gap : Gap) (here : Spot) (later : List Spot) : Bool :=
  (here.char == ':' && endsHere later) || (flow && isFlowSign here.char) ||
    (gap.isOpen && here.char == '#') ||
    (gap.crosses && (isDocumentMark (here :: later) || (!flow && here.column < column)))

/-- Whether a colon stands in a flow collection where none may stand. -/
def isStrayColon (flow : Bool) (here : Spot) (later : List Spot) : Bool :=
  flow && here.char == ':' &&
    later.head?.any (fun next => isFlowSign next.char || next.char == '?')

/-- Read on in a plain scalar. `done` holds what was read, in reverse. Answers with the scalar,
    whether a line ended behind it, and the rest. -/
def plain? (flow : Bool) (column : Nat) (done : Text) (gap : Gap) :
    List Spot → Option (Text × Bool × List Spot)
  | [] => some (done.reverse, gap.crosses, [])
  | here :: later =>
      if isBlank here.char || isBreak here.char then
        if here.char == '\t' && gap.crosses && here.column < column then none
        else plain? flow column done (gap.add here.char) later
      else if endsPlain flow column gap here later then
        some (done.reverse, gap.crosses, here :: later)
      else if isStrayColon flow here later then none
      else plain? flow column (here.char :: (gap.text.reverse ++ done)) Gap.none later

/-- The character that a letter after a backslash stands for. -/
def letterEscape? (c : Char) : Option Char :=
  match c with
  | '0' => some (Char.ofNat 0)
  | 'a' => some (Char.ofNat 7)
  | 'b' => some (Char.ofNat 8)
  | 't' => some '\t'
  | '\t' => some '\t'
  | 'n' => some '\n'
  | 'v' => some (Char.ofNat 11)
  | 'f' => some (Char.ofNat 12)
  | 'r' => some '\r'
  | 'e' => some (Char.ofNat 27)
  | ' ' => some ' '
  | '"' => some '"'
  | '/' => some '/'
  | '\\' => some '\\'
  | 'N' => some (Char.ofNat 0x85)
  | '_' => some (Char.ofNat 0xa0)
  | 'L' => some (Char.ofNat 0x2028)
  | 'P' => some (Char.ofNat 0x2029)
  | _ => none

/-- The number of hexadecimal digits that follow a letter after a backslash. -/
def hexLength? (c : Char) : Option Nat :=
  match c with
  | 'x' => some 2
  | 'u' => some 4
  | 'U' => some 8
  | _ => none

/-- Read what follows a backslash. -/
def escape? (here : Spot) (later : List Spot) : Option (Char × List Spot) :=
  match hexLength? here.char with
  | none => (letterEscape? here.char).map (fun c => (c, later))
  | some length =>
      if later.length < length then none
      else
        match Numeral.read? 16 ((later.take length).map Spot.char) with
        | none => none
        | some code =>
            if code.isValidChar then some (Char.ofNat code, later.drop length) else none

/-- Read on in a scalar in double quotes, the first of which is read already. `fuel` bounds the
    number of characters. -/
def doubleQuoted? : (fuel : Nat) → (done : Text) → Gap → List Spot → Option (Text × List Spot)
  | 0, _, _, _ => none
  | _, _, _, [] => none
  | fuel + 1, done, gap, here :: later =>
      if isDocumentMark (here :: later) then none
      else if isBlank here.char || isBreak here.char then
        doubleQuoted? fuel done (gap.add here.char) later
      else
        let before := gap.text.reverse ++ done
        match here.char, later with
        | '"', _ => some (before.reverse, later)
        | '\\', [] => none
        | '\\', next :: rest =>
            if isBreak next.char then doubleQuoted? fuel before ⟨[], [], true⟩ rest
            else
              match escape? next rest with
              | none => none
              | some (c, after) => doubleQuoted? fuel (c :: before) Gap.none after
        | c, _ => doubleQuoted? fuel (c :: before) Gap.none later

/-- Read on in a scalar in single quotes, the first of which is read already. `fuel` bounds the
    number of characters. -/
def singleQuoted? : (fuel : Nat) → (done : Text) → Gap → List Spot → Option (Text × List Spot)
  | 0, _, _, _ => none
  | _, _, _, [] => none
  | fuel + 1, done, gap, here :: later =>
      if isDocumentMark (here :: later) then none
      else if isBlank here.char || isBreak here.char then
        singleQuoted? fuel done (gap.add here.char) later
      else
        let before := gap.text.reverse ++ done
        if here.char != '\'' then singleQuoted? fuel (here.char :: before) Gap.none later
        else
          match later with
          | [] => some (before.reverse, [])
          | next :: rest =>
              if next.char == '\'' then singleQuoted? fuel ('\'' :: before) Gap.none rest
              else some (before.reverse, later)

end RoleWeave.Yaml
