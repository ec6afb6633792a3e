import RoleWeave.Data.Format

/-!
# JSON

A reader for JSON texts, and the way records are taken out of JSON values.

The reader keeps what its users can ask for. A number is kept when it is written as a natural
number that fits into 64 bits, a string when its escapes name characters; any other number or
string that is well formed is read but has no content. Members of objects keep their order and their
repetitions.

A record is written as an object or as an array of its fields in their order. An object may hold
members that are not fields, but no field twice; an array may leave out fields at its end.
-/

namespace RoleWeave

/-- A JSON value. -/
inductive Json where
  | null
  | bool (value : Bool)
  /-- A number, with its value if that is a natural number below 2 ^ 64 written as one. -/
  | number (value : Option Nat)
  /-- A string, unless its escapes include half of a surrogate pair. -/
  | string (value : Option Text)
  | array (items : List Json)
  | object (members : List (Option Text × Json))
deriving Inhabited

namespace Json

/-- Whether a character is insignificant between the parts of a JSON text. -/
def isSpace (c : Char) : Bool :=
  c == ' ' || c == '\t' || c == '\n' || c == '\r'

/-- Skip the insignificant characters. -/
def skip (text : Text) : Text :=
  text.dropWhile isSpace

/-- Read four hexadecimal digits. -/
def hexFour? (text : Text) : Option (Nat × Text) :=
  if text.length < 4 then none
  else (Numeral.read? 16 (text.take 4)).map (fun unit => (unit, text.drop 4))

/-- The character that a single letter after a backslash stands for. -/
def simpleEscape? (c : Char) : Option Char :=
  match c with
  | '"' => some '"'
  | '\\' => some '\\'
  | '/' => some '/'
  | 'b' => some (Char.ofNat 8)
  | 'f' => some (Char.ofNat 12)
  | 'n' => some '\n'
  | 'r' => some '\r'
  | 't' => some '\t'
  | _ => none

/-- Whether a 16-bit unit is the first half of a surrogate pair. -/
def isHighHalf (unit : Nat) : Bool :=
  0xd800 ≤ unit && unit ≤ 0xdbff

/-- Whether a 16-bit unit is the second half of a surrogate pair. -/
def isLowHalf (unit : Nat) : Bool :=
  0xdc00 ≤ unit && unit ≤ 0xdfff

/-- Read the rest of a string whose opening quote is read already. `fuel` bounds the number of
    characters, and `done` holds those read so far in reverse, unless one of them is no character. -/
def stringRest? : (fuel : Nat) → (done : Option Text) → Text → Option (Option Text × Text)
  | 0, _, _ => none
  | fuel + 1, done, text =>
      match text with
      | [] => none
      | '"' :: rest => some (done.map List.reverse, rest)
      | '\\' :: 'u' :: rest =>
          match hexFour? rest with
          | none => none
          | some (unit, rest) =>
              if isHighHalf unit then
                match rest with
                | '\\' :: 'u' :: more =>
                    match hexFour? more with
                    | none => none
                    | some (second, after) =>
                        if isLowHalf second then
                          let code := 0x10000 + (unit - 0xd800) * 0x400 + (second - 0xdc00)
                          stringRest? fuel (done.map (Char.ofNat code :: ·)) after
                        else stringRest? fuel none rest
                | _ => stringRest? fuel none rest
              else if isLowHalf unit then stringRest? fuel none rest
              else stringRest? fuel (done.map (Char.ofNat unit :: ·)) rest
      | '\\' :: c :: rest =>
          match simpleEscape? c with
          | some plain => stringRest? fuel (done.map (plain :: ·)) rest
          | none => none
      | c :: rest =>
          if c.toNat < 0x20 || c == '\\' then none
          else stringRest? fuel (done.map (c :: ·)) rest

/-- Read one or more digits. -/
def digits? (text : Text) : Option (Text × Text) :=
  match text.takeWhile Char.isDigit with
  | [] => none
  | digits => some (digits, text.dropWhile Char.isDigit)

/-- Read the digits before a decimal point: a zero, or digits that do not begin with one. -/
def whole? (text : Text) : Option (Text × Text) := do
  let (digits, rest) ← digits? text
  if digits.head? == some '0' && 1 < digits.length then none else some (digits, rest)

/-- Read a decimal point and the digits after it, if there is one. -/
def fraction? (text : Text) : Option (Bool × Text) :=
  match text with
  | '.' :: rest => (digits? rest).map (fun read => (true, read.2))
  | _ => some (false, text)

/-- Read an exponent, if there is one. -/
def exponent? (text : Text) : Option (Bool × Text) :=
  match text with
  | c :: rest =>
      if c == 'e' || c == 'E' then
        let rest :=
          match rest with
          | '+' :: more => more
          | '-' :: more => more
          | more => more
        (digits? rest).map (fun read => (true, read.2))
      else some (false, text)
  | [] => some (false, [])

/-- Read a number. -/
def number? (text : Text) : Option (Json × Text) := do
  let (negative, rest) :=
    match text with
    | '-' :: more => (true, more)
    | more => (false, more)
  let (digits, rest) ← whole? rest
  let (fractional, rest) ← fraction? rest
  let (scaled, rest) ← exponent? rest
  let value ← Numeral.read? 10 digits
  let kept := !negative && !fractional && !scaled && value < UInt64.size
  return (.number (if kept then some value else none), rest)

mutual

/-- Read a value. `fuel` bounds the number of steps. -/
def value? : (fuel : Nat) → Text → Option (Json × Text)
  | 0, _ => none
  | fuel + 1, text =>
      match skip text with
      | '\x7b' :: rest =>
          match skip rest with
          | '\x7d' :: after => some (.object [], after)
          | rest => (members? fuel rest).map (fun read => (.object read.1, read.2))
      | '[' :: rest =>
          match skip rest with
          | ']' :: after => some (.array [], after)
          | rest => (items? fuel rest).map (fun read => (.array read.1, read.2))
      | '"' :: rest =>
          (stringRest? (rest.length + 1) (some []) rest).map
            (fun read => (.string read.1, read.2))
      | 'n' :: rest => (Text.after? "ull".toList rest).map (fun rest => (.null, rest))
      | 't' :: rest => (Text.after? "rue".toList rest).map (fun rest => (.bool true, rest))
      | 'f' :: rest => (Text.after? "alse".toList rest).map (fun rest => (.bool false, rest))
      | text => number? text

/-- Read the items of an array up to its end. There is at least one. -/
def items? : (fuel : Nat) → Text → Option (List Json × Text)
  | 0, _ => none
  | fuel + 1, text => do
      let (item, rest) ← value? fuel text
      match skip rest with
      | ',' :: rest =>
          let (items, rest) ← items? fuel rest
          return (item :: items, rest)
      | ']' :: rest => return ([item], rest)
      | _ => none

/-- Read the members of an object up to its end. There is at least one. -/
def members? : (fuel : Nat) → Text → Option (List (Option Text × Json) × Text)
  | 0, _ => none
  | fuel + 1, text =>
      match skip text with
      | '"' :: rest => do
          let (name, rest) ← stringRest? (rest.length + 1) (some []) rest
          match skip rest with
          | ':' :: rest =>
              let (value, rest) ← value? fuel rest
              match skip rest with
              | ',' :: rest =>
                  let (members, rest) ← members? fuel rest
                  return ((name, value) :: members, rest)
              | '\x7d' :: rest => return ([(name, value)], rest)
              | _ => none
          | _ => none
      | _ => none

end

/-- Read a whole text as a JSON value. Every step of the reader but the last of each value reads a
    character, so twice the length is enough. -/
def parse? (text : Text) : Option Json :=
  match value? (2 * text.length + 2) text with
  | some (value, rest) => if (skip rest).isEmpty then some value else none
  | none => none

/-- The values that a record gives to its fields, or nothing if the value is not a record with
    these fields. -/
def record? (fields : List Text) : Json → Option (List (Option Json))
  | .object members =>
      if members.all (fun member => member.1.isSome) &&
          fields.all (fun field =>
            (members.filter (fun member => member.1 == some field)).length ≤ 1) then
        some (fields.map (fun field => members.lookup (some field)))
      else none
  | .array items =>
      if items.length ≤ fields.length then
        some ((items.map some) ++ List.replicate (fields.length - items.length) none)
      else none
  | _ => none

/-- The text of a field that has to be a string. -/
def text? : Json → Option Text
  | .string value => value
  | _ => none

/-- The text of a field that may also be null. -/
def optionalText? : Json → Option (Option Text)
  | .null => some none
  | .string (some value) => some (some value)
  | _ => none

/-- The number of a field that has to be a natural number. -/
def natural? : Json → Option Nat
  | .number value => value
  | _ => none

/-- The items of a field that has to be an array. -/
def items : Json → Option (List Json)
  | .array items => some items
  | _ => none

/-- How records are taken out of JSON values. -/
def format : RecordFormat Json :=
  ⟨record?, text?, optionalText?, natural?⟩

end Json

end RoleWeave
