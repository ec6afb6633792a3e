import RoleWeave.Data.Yaml.Basic
import RoleWeave.Data.Yaml.Token

/-!
# Reading YAML

A text holds one document at most. A text without a document holds nothing, and so does a document
without content.
-/

namespace RoleWeave.Yaml

/-- The tokens before which a value is left out in a block. -/
def blockStops : List Token := [.entry, .key, .value, .blockEnd]

/-- The tokens before which a value is left out in a flow collection. -/
def flowStops : List Token := [.value, .flowEntry, .flowSequenceEnd, .flowMappingEnd]

/-- Read a value, or nothing if one of these tokens comes next. -/
def unless? (stops : List Token) (read : List Token → Option (Yaml × List Token))
    (tokens : List Token) : Option (Yaml × List Token) :=
  match tokens with
  | [] => none
  | token :: _ => if stops.contains token then some (nothing, tokens) else read tokens

/-- Read the key of a member that is an item of a flow sequence. A key that is left out takes the
    token in its place with it, so the bracket of `[? ]` does not close the sequence. -/
def itemKey? (read : List Token → Option (Yaml × List Token)) :
    List Token → Option (Yaml × List Token)
  | .value :: rest | .flowEntry :: rest | .flowSequenceEnd :: rest => some (nothing, rest)
  | tokens => read tokens

/-- Read the value behind a colon, or nothing if there is no colon. -/
def behindColon? (stops : List Token) (read : List Token → Option (Yaml × List Token)) :
    List Token → Option (Yaml × List Token)
  | .value :: rest => unless? stops read rest
  | tokens => some (nothing, tokens)

/-- Pass the comma before an item that is not the first. -/
def comma? (first : Bool) : List Token → Option (List Token)
  | .flowEntry :: rest => if first then some (.flowEntry :: rest) else some rest
  | tokens => if first then some tokens else none

mutual

/-- Read a value. Blocks may stand only where `block` says so, and the items of a block that is not
    indented only where `indentless` does. `fuel` bounds the number of steps. -/
def node? : (fuel : Nat) → (block indentless : Bool) → List Token → Option (Yaml × List Token)
  | 0, _, _, _ => none
  | fuel + 1, block, indentless, tokens =>
      match tokens with
      | .scalar plain text :: rest => some (.scalar plain text, rest)
      | .flowSequence :: rest =>
          (flowItems? fuel true rest).map (fun read => (.sequence read.1, read.2))
      | .flowMapping :: rest =>
          (flowMembers? fuel true rest).map (fun read => (.mapping read.1, read.2))
      | .blockSequence :: rest =>
          if block then
            (blockItems? fuel false rest).map (fun read => (.sequence read.1, read.2))
          else none
      | .blockMapping :: rest =>
          if block then
            (blockMembers? fuel rest).map (fun read => (.mapping read.1, read.2))
          else none
      | .entry :: rest =>
          if indentless then
            (blockItems? fuel true (.entry :: rest)).map
              (fun read => (.sequence read.1, read.2))
          else none
      | _ => none

/-- Read the items of a block. -/
def blockItems? : (fuel : Nat) → (indentless : Bool) → List Token →
    Option (List Yaml × List Token)
  | 0, _, _ => none
  | fuel + 1, indentless, tokens =>
      match tokens with
      | .entry :: rest => do
          let (item, rest) ← unless? blockStops (node? fuel true false) rest
          let (items, rest) ← blockItems? fuel indentless rest
          return (item :: items, rest)
      | .blockEnd :: rest => some ([], if indentless then .blockEnd :: rest else rest)
      | rest => if indentless then some ([], rest) else none

/-- Read the members of a block. -/
def blockMembers? : (fuel : Nat) → List Token → Option (List (Yaml × Yaml) × List Token)
  | 0, _ => none
  | fuel + 1, tokens =>
      match tokens with
      | .key :: rest => do
          let stops := [Token.key, .value, .blockEnd]
          let (key, rest) ← unless? stops (node? fuel true true) rest
          let (value, rest) ← behindColon? stops (node? fuel true true) rest
          let (members, rest) ← blockMembers? fuel rest
          return ((key, value) :: members, rest)
      | .blockEnd :: rest => some ([], rest)
      | _ => none

/-- Read the items of a flow sequence. A member among them is a mapping of its own. Where the key of
    such a member is left out, the token in its place goes with it. -/
def flowItems? : (fuel : Nat) → (first : Bool) → List Token → Option (List Yaml × List Token)
  | 0, _, _ => none
  | fuel + 1, first, tokens =>
      match tokens with
      | .flowSequenceEnd :: rest => some ([], rest)
      | tokens => do
          match ← comma? first tokens with
          | .flowSequenceEnd :: rest => return ([], rest)
          | .key :: rest =>
              let (key, rest) ← itemKey? (node? fuel false false) rest
              let (value, rest) ← behindColon? flowStops (node? fuel false false) rest
              let (items, rest) ← flowItems? fuel false rest
              return (.mapping [(key, value)] :: items, rest)
          | rest =>
              let (item, rest) ← node? fuel false false rest
              let (items, rest) ← flowItems? fuel false rest
              return (item :: items, rest)

/-- Read the members of a flow mapping. A value may be left out together with its colon. -/
def flowMembers? : (fuel : Nat) → (first : Bool) → List Token →
    Option (List (Yaml × Yaml) × List Token)
  | 0, _, _ => none
  | fuel + 1, first, tokens =>
      match tokens with
      | .flowMappingEnd :: rest => some ([], rest)
      | tokens => do
          match ← comma? first tokens with
          | .flowMappingEnd :: rest => return ([], rest)
          | .key :: rest =>
              let (key, rest) ← unless? flowStops (node? fuel false false) rest
              let (value, rest) ← behindColon? flowStops (node? fuel false false) rest
              let (members, rest) ← flowMembers? fuel false rest
              return ((key, value) :: members, rest)
          | rest =>
              let (key, rest) ← node? fuel false false rest
              let (members, rest) ← flowMembers? fuel false rest
              return ((key, nothing) :: members, rest)

end

/-- The content of a document whose beginning was marked. -/
def marked? (fuel : Nat) : List Token → Option (Yaml × List Token)
  | [] => some (nothing, [])
  | .documentStart :: rest => some (nothing, .documentStart :: rest)
  | .documentEnd :: rest => some (nothing, .documentEnd :: rest)
  | tokens => node? fuel true false tokens

/-- The document that tokens make up. A step reads a token, or goes from a collection to its first
    item. -/
def document? (tokens : List Token) : Option Yaml := do
  let fuel := 4 * tokens.length + 4
  let (value, rest) ←
    match tokens with
    | [] => some (nothing, [])
    | .documentStart :: rest => marked? fuel rest
    | tokens => node? fuel true false tokens
  if rest.all (· == .documentEnd) then some value else none

/-- Read a text as one YAML document. -/
def parse? (text : Text) : Option Yaml := do
  document? (← tokens? text)

end RoleWeave.Yaml
