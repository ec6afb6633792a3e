import RoleWeave.Text.Basic

/-!
# What data formats share

What is stored as a record can be written in more than one data format. A `RecordFormat` is how a
format gives away the fields of its records, so that the meaning of a record is stated once.

Numbers are shared as well: a natural number is a numeral in a base of at most sixteen, with digits
of the basic Latin block. The formats differ in the bases and signs that they admit.
-/

namespace RoleWeave

/-- How the values of a data format are taken apart. Each reader answers with nothing when a value
    is not of the form that is asked for. -/
structure RecordFormat (α : Type) where
  /-- The values that a record gives to its fields, in the order of the fields. -/
  record? : (fields : List Text) → α → Option (List (Option α))
  /-- A text. -/
  text? : α → Option Text
  /-- A text, or the word that says that there is none. -/
  optionalText? : α → Option (Option Text)
  /-- A natural number that fits into 64 bits. -/
  natural? : α → Option Nat

/-- Read a field with a default for its absence. Absence is no fault, a wrong value is one. -/
def readField? {α β : Type} (read : α → Option β) (absent : β) (value : Option α) : Option β :=
  match value with
  | none => some absent
  | some value => read value

namespace Numeral

/-- The value of a hexadecimal digit. -/
def digit? (c : Char) : Option Nat :=
  if c.isDigit then some (c.toNat - '0'.toNat)
  else if 'a' ≤ c && c ≤ 'f' then some (c.toNat - 'a'.toNat + 10)
  else if 'A' ≤ c && c ≤ 'F' then some (c.toNat - 'A'.toNat + 10)
  else none

/-- The value of a digit of a base. -/
def digitOf? (base : Nat) (c : Char) : Option Nat :=
  match digit? c with
  | some value => if value < base then some value else none
  | none => none

/-- The number that digits write, the most significant digit first. -/
def value (base : Nat) (digits : List Nat) : Nat :=
  digits.foldl (fun value digit => value * base + digit) 0

/-- Read one or more digits of a base as a number, with nothing before or after them. -/
def read? (base : Nat) (text : Text) : Option Nat :=
  if text.isEmpty then none else (text.mapM (digitOf? base)).map (value base)

end Numeral

end RoleWeave
