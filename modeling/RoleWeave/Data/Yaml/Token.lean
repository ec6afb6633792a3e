import RoleWeave.Data.Yaml.Scalar

/-!
# Tokens of YAML

A document is cut into tokens. Besides those that are written there are tokens for the beginning and
the end of a block, which are told from the columns: a block begins with the first item or key that
is indented more than the block around, and ends before the first token that is indented less.

Only a colon shows that what stands before it was a key. The places at which a key may begin are
remembered as candidates, and the tokens of the key are put in there when its colon is met. A key
stands on one line and is not longer than 1024 characters.

Anchors, aliases, tags, directives and block scalars are not read. A text that has one is rejected.
-/

namespace RoleWeave.Yaml

/-- A part of a document. -/
inductive Token where
  | scalar (plain : Bool) (text : Text)
  | key
  | value
  | entry
  | blockSequence
  | blockMapping
  | blockEnd
  | flowSequence
  | flowSequenceEnd
  | flowMapping
  | flowMappingEnd
  | flowEntry
  | documentStart
  | documentEnd
deriving DecidableEq, Repr

/-- A place at which a key may have begun. -/
structure Candidate where
  /-- The number of tokens before it. -/
  number : Nat
  line : Nat
  column : Nat
  /-- Whether nothing but a key can stand there. -/
  required : Bool
deriving DecidableEq, Repr

/-- What was read of a document. -/
structure Reading where
  /-- The tokens, the last one first. -/
  tokens : List Token
  /-- The columns of the open blocks, the innermost first. -/
  indents : List Nat
  /-- The candidate of every open flow collection, the innermost first, and of the block. -/
  candidates : List (Option Candidate)
  /-- Whether a key may begin here. -/
  keyAllowed : Bool
deriving DecidableEq, Repr

namespace Reading

/-- Nothing was read yet. -/
def start : Reading := ⟨[], [], [none], true⟩

/-- Whether a flow collection is open. -/
def inFlow (reading : Reading) : Bool :=
  1 < reading.candidates.length

/-- Add a token. -/
def push (reading : Reading) (token : Token) : Reading :=
  { reading with tokens := token :: reading.tokens }

/-- Put a token in behind the first `number` ones. -/
def insert (reading : Reading) (number : Nat) (token : Token) : Reading :=
  { reading with
    tokens := reading.tokens.insertIdx (reading.tokens.length - number) token }

/-- The candidate here. -/
def candidate? (reading : Reading) : Option Candidate :=
  reading.candidates.head?.join

/-- Set the candidate here. -/
def setCandidate (reading : Reading) (candidate : Option Candidate) : Reading :=
  { reading with candidates := candidate :: reading.candidates.tail }

/-- Give a candidate up, unless a key has to stand there. -/
def giveUp? : Option Candidate → Option (Option Candidate)
  | some candidate => if candidate.required then none else some none
  | none => some none

/-- Give the candidate here up. -/
def forget? (reading : Reading) : Option Reading :=
  (giveUp? reading.candidate?).map reading.setCandidate

/-- Give up the candidates from which a key cannot go on to a place. -/
def expire? (reading : Reading) (line column : Nat) : Option Reading := do
  let candidates ← reading.candidates.mapM (fun
    | some candidate =>
        if candidate.line < line || candidate.column + 1024 < column then
          giveUp? (some candidate)
        else some (some candidate)
    | none => some none)
  return { reading with candidates := candidates }

/-- Remember that a key may begin here. -/
def remember? (reading : Reading) (here : Spot) : Option Reading :=
  if reading.keyAllowed then do
    let reading ← reading.forget?
    let required := !reading.inFlow && reading.indents.head? == some here.column
    return reading.setCandidate
      (some ⟨reading.tokens.length, here.line, here.column, required⟩)
  else some reading

/-- Open a block at a column behind the first `number` tokens, unless one of that indentation is
    open. There are no blocks in flow collections. -/
def openBlock (reading : Reading) (column number : Nat) (token : Token) : Reading :=
  if reading.inFlow || reading.indents.head?.any (column ≤ ·) then reading
  else { reading.insert number token with indents := column :: reading.indents }

/-- Close the blocks that are indented more than a column allows. -/
def closeBlocks (reading : Reading) (stays : Nat → Bool) : Reading :=
  if reading.inFlow then reading
  else
    let closed := reading.indents.takeWhile (fun indent => !stays indent)
    { reading with
      indents := reading.indents.drop closed.length
      tokens := List.replicate closed.length .blockEnd ++ reading.tokens }

/-- Read the mark at which a document begins or ends. -/
def document? (reading : Reading) (token : Token) : Option Reading := do
  let closed ← (reading.closeBlocks (fun _ => false)).forget?
  return { closed.push token with keyAllowed := false }

/-- Read the sign that opens a flow collection. -/
def openFlow? (reading : Reading) (here : Spot) (token : Token) : Option Reading := do
  let reading ← reading.remember? here
  return { reading.push token with
    candidates := none :: reading.candidates, keyAllowed := true }

/-- Read the sign that closes a flow collection. -/
def closeFlow? (reading : Reading) (token : Token) : Option Reading := do
  let reading ← reading.forget?
  return { reading.push token with
    candidates := if reading.inFlow then reading.candidates.tail else reading.candidates
    keyAllowed := false }

/-- Read the comma between the items of a flow collection. -/
def comma? (reading : Reading) : Option Reading := do
  let reading ← reading.forget?
  return { reading.push .flowEntry with keyAllowed := true }

/-- Read the dash before an item of a block. -/
def dash? (reading : Reading) (here : Spot) : Option Reading :=
  if !reading.inFlow && !reading.keyAllowed then none
  else do
    let opened ← (reading.openBlock here.column reading.tokens.length .blockSequence).forget?
    return { opened.push .entry with keyAllowed := true }

/-- Read the question mark before a key. -/
def key? (reading : Reading) (here : Spot) : Option Reading :=
  if !reading.inFlow && !reading.keyAllowed then none
  else do
    let opened ← (reading.openBlock here.column reading.tokens.length .blockMapping).forget?
    return { opened.push .key with keyAllowed := !reading.inFlow }

/-- Read the colon before a value. -/
def value? (reading : Reading) (here : Spot) : Option Reading :=
  match reading.candidate? with
  | some candidate =>
      let keyed := (reading.insert candidate.number .key).openBlock candidate.column
        candidate.number .blockMapping
      some { (keyed.setCandidate none).push .value with keyAllowed := false }
  | none =>
      if reading.inFlow then some { reading.push .value with keyAllowed := false }
      else if reading.keyAllowed then
        let opened := reading.openBlock here.column reading.tokens.length .blockMapping
        some { opened.push .value with keyAllowed := true }
      else none

/-- The signs that have a meaning of their own at the beginning of a word. -/
def indicators : List Char :=
  ['-', '?', ':', ',', '[', ']', '\x7b', '\x7d', '#', '&', '*', '!', '|', '>', '\'', '"', '%', '@',
    '\x60']

/-- Whether a plain scalar begins with these characters. -/
def startsPlain (reading : Reading) (here : Spot) (later : List Spot) : Bool :=
  !isBlank here.char &&
    (!indicators.contains here.char ||
      (here.char == '-' && !later.head?.any (fun next => isBlank next.char)) ||
      (!reading.inFlow && (here.char == '?' || here.char == ':') && !endsHere later))

/-- Read a scalar. -/
def scalar? (reading : Reading) (here : Spot) (later : List Spot) :
    Option (Reading × List Spot) := do
  if here.char == '"' then
    let reading ← reading.remember? here
    let (text, rest) ← doubleQuoted? (later.length + 1) [] Gap.none later
    return ({ reading.push (.scalar false text) with keyAllowed := false }, rest)
  else if here.char == '\'' then
    let reading ← reading.remember? here
    let (text, rest) ← singleQuoted? (later.length + 1) [] Gap.none later
    return ({ reading.push (.scalar false text) with keyAllowed := false }, rest)
  else if reading.startsPlain here later then
    let reading ← reading.remember? here
    let column := (reading.indents.head?.map (· + 1)).getD 0
    let (text, ended, rest) ← plain? reading.inFlow column [] Gap.none (here :: later)
    return ({ reading.push (.scalar true text) with keyAllowed := ended }, rest)
  else none

/-- Read the token that begins here. -/
def token? (reading : Reading) (here : Spot) (later : List Spot) :
    Option (Reading × List Spot) :=
  let keep := fun (read : Option Reading) => read.map (fun reading => (reading, later))
  if here.column == 0 && here.char == '%' then none
  else if isMark '-' (here :: later) then
    (reading.document? .documentStart).map (fun reading => (reading, later.drop 2))
  else if isMark '.' (here :: later) then
    (reading.document? .documentEnd).map (fun reading => (reading, later.drop 2))
  else if here.char == '[' then keep (reading.openFlow? here .flowSequence)
  else if here.char == '\x7b' then keep (reading.openFlow? here .flowMapping)
  else if here.char == ']' then keep (reading.closeFlow? .flowSequenceEnd)
  else if here.char == '\x7d' then keep (reading.closeFlow? .flowMappingEnd)
  else if here.char == ',' then keep reading.comma?
  else if here.char == '-' && endsHere later then keep (reading.dash? here)
  else if here.char == '?' && (reading.inFlow || endsHere later) then keep (reading.key? here)
  else if here.char == ':' && (reading.inFlow || endsHere later) then
    keep (reading.value? here)
  else reading.scalar? here later

/-- Skip blanks, comments, the endings of lines and the byte order marks at the beginnings of lines.
    Answers whether a key may begin behind them. A tab may not stand where a key may begin. -/
def skip (inFlow : Bool) (inComment keyAllowed : Bool) : List Spot → Bool × List Spot
  | [] => (keyAllowed, [])
  | here :: later =>
      if isBreak here.char then skip inFlow false (keyAllowed || !inFlow) later
      else if inComment || here.isOrderMark || here.char == ' ' ||
          (here.char == '\t' && (inFlow || !keyAllowed)) then
        skip inFlow inComment keyAllowed later
      else if here.char == '#' then skip inFlow true keyAllowed later
      else (keyAllowed, here :: later)

/-- The tokens when the end of the document is reached. -/
def finish? (reading : Reading) : Option (List Token) := do
  let closed ← (reading.closeBlocks (fun _ => false)).forget?
  return closed.tokens.reverse

/-- Read on up to the end of the document. `fuel` bounds the number of tokens. -/
def tokens? : (fuel : Nat) → Reading → List Spot → Option (List Token)
  | 0, _, _ => none
  | fuel + 1, reading, spots =>
      match skip reading.inFlow false reading.keyAllowed spots with
      | (_, []) => reading.finish?
      | (keyAllowed, here :: later) => do
          let reading ← { reading with keyAllowed := keyAllowed }.expire? here.line here.column
          let (reading, rest) ←
            (reading.closeBlocks (fun indent => indent ≤ here.column)).token? here later
          tokens? fuel reading rest

end Reading

/-- The tokens of a document. Each takes a character at least. -/
def tokens? (text : Text) : Option (List Token) :=
  if text.all isAllowed then Reading.tokens? (text.length + 1) Reading.start (spots text)
  else none

end RoleWeave.Yaml
