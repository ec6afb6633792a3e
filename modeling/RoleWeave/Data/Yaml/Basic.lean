import RoleWeave.Data.Format

/-!
# YAML values

A YAML document is a scalar, a sequence or a mapping. Scalars are texts; whether a scalar was
written plainly or in quotes decides if it can stand for a number or for nothing.

A record is a mapping whose keys are scalars. It may have members that are not fields, but no field
twice. A plain scalar without characters is what stands where nothing was written, and it counts as
a record without members.
-/

namespace RoleWeave

/-- A YAML value. -/
inductive Yaml where
  | scalar (plain : Bool) (text : Text)
  | sequence (items : List Yaml)
  | mapping (members : List (Yaml × Yaml))
deriving Inhabited

namespace Yaml

/-- What stands where nothing was written. -/
def nothing : Yaml := .scalar true []

/-- The text of a scalar. -/
def text? : Yaml → Option Text
  | .scalar _ text => some text
  | _ => none

/-- The plain scalars that say that there is no value. -/
def nullWords : List Text :=
  [[], "null".toList, "Null".toList, "NULL".toList, "~".toList]

/-- The text of a scalar that may also say that there is none. -/
def optionalText? : Yaml → Option (Option Text)
  | .scalar plain text => some (if plain && nullWords.contains text then none else some text)
  | _ => none

/-- Read a natural number: in decimal digits without leading zeros, or with a mark for base sixteen,
    eight or two. A plus sign may stand before it. -/
def numeral? (text : Text) : Option Nat :=
  let bare := (Text.after? ['+'] text).getD text
  match Text.after? "0x".toList bare, Text.after? "0o".toList bare,
      Text.after? "0b".toList bare with
  | some digits, _, _ => Numeral.read? 16 digits
  | _, some digits, _ => Numeral.read? 8 digits
  | _, _, some digits => Numeral.read? 2 digits
  | none, none, none =>
      if bare.head? == some '0' && 1 < bare.length then none else Numeral.read? 10 bare

/-- The number of a plain scalar, if it fits into 64 bits. -/
def natural? : Yaml → Option Nat
  | .scalar true text =>
      match numeral? text with
      | some value => if value < UInt64.size then some value else none
      | none => none
  | _ => none

/-- The members of a mapping by the texts of their keys. -/
def named? (members : List (Yaml × Yaml)) : Option (List (Text × Yaml)) :=
  members.mapM (fun member => member.1.text?.map (fun name => (name, member.2)))

/-- The values that a record gives to its fields, or nothing if the value is not a record with
    these fields. -/
def record? (fields : List Text) : Yaml → Option (List (Option Yaml))
  | .mapping members => do
      let named ← named? members
      if fields.all (fun field =>
          (named.filter (fun member => member.1 == field)).length ≤ 1) then
        some (fields.map (fun field => named.lookup field))
      else none
  | .scalar true [] => some (fields.map (fun _ => none))
  | _ => none

/-- How records are taken out of YAML values. -/
def format : RecordFormat Yaml :=
  ⟨record?, text?, optionalText?, natural?⟩

end Yaml

end RoleWeave
