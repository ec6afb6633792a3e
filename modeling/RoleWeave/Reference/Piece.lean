import RoleWeave.Reference.Basic
import RoleWeave.Text.Alphanumeric

/-!
# References in running text

A text is cut into pieces: single characters of prose, and references. Blanks, brackets, quotes,
commas and semicolons end a word. A reference begins at a sign `@` inside a word and runs to the
end of that word, so a word holds one reference at most: the first that can be read. Punctuation
at its end belongs to the prose after it. A sign that is glued to a letter or number before it, as
in a mail address, does not begin a reference, and what follows it in the word stays prose.

The texts of the pieces make up the text again: `render_pieces`.
-/

namespace RoleWeave

/-- Whether a character ends the word before it. -/
def endsWord (c : Char) : Bool :=
  Text.isBlank c ||
    c ∈ ['<', '>', '(', ')', '[', ']', '\x7b', '\x7d', '"', '\'', '\x60', ',', ';']

/-- Sentence punctuation, which does not belong to a reference when it stands at its end. -/
def isTrailing (c : Char) : Bool :=
  c ∈ ['.', ':', '!', '?', '。', '，', '、']

/-- A part of a running text. -/
inductive Piece where
  | prose (c : Char)
  | reference (reference : Reference)
deriving DecidableEq, Repr

namespace Piece

/-- The text of a piece, as it stands in the running text. -/
def render : Piece → Text
  | prose c => [c]
  | reference r => r.render

/-- The reference that a piece is, if it is one. -/
def reference? : Piece → Option Reference
  | prose _ => none
  | reference r => some r

end Piece

/-- A run of characters up to the next one that ends a word, or such a character by itself. -/
inductive Segment where
  | word (text : Text)
  | gap (c : Char)
deriving DecidableEq, Repr

/-- Cut a text into its words and the characters between them. -/
def segments : Text → List Segment
  | [] => []
  | c :: rest =>
      if endsWord c then .gap c :: segments rest
      else
        match segments rest with
        | .word text :: later => .word (c :: text) :: later
        | later => .word [c] :: later

/-- The text of a segment. -/
def Segment.render : Segment → Text
  | .word text => text
  | .gap c => [c]

/-- Cut a reference that runs to the end of its word from the punctuation at that end. Nothing is
    left of a reference to punctuation only. -/
def cutTrailing (reference : Reference) : Option (Reference × Text) :=
  let resource := Text.trimEnd isTrailing reference.resource
  if resource.isEmpty then none
  else some (⟨reference.loading, reference.protocol, resource⟩,
    reference.resource.drop resource.length)

/-- The pieces of a word. The first argument is the character before, as far as it belongs to the
    same word. -/
def wordPieces (before : Option Char) : Text → List Piece
  | [] => []
  | c :: rest =>
      match Reference.marked? (c :: rest) with
      | none => .prose c :: wordPieces (some c) rest
      | some reference =>
          if before.any Text.isAlphanumeric then (c :: rest).map .prose
          else
            match cutTrailing reference with
            | none => (c :: rest).map .prose
            | some (bare, trailing) => .reference bare :: trailing.map .prose

/-- The pieces of a segment. -/
def Segment.pieces : Segment → List Piece
  | .word text => wordPieces none text
  | .gap c => [.prose c]

/-- The pieces of a text, in their order. -/
def pieces (text : Text) : List Piece :=
  (segments text).flatMap Segment.pieces

/-- The references of a text, in their order. -/
def references (text : Text) : List Reference :=
  (pieces text).filterMap Piece.reference?

/-- A reference together with the place where it stands, counted in bytes. -/
structure Token where
  reference : Reference
  start : Nat
  stop : Nat
deriving DecidableEq, Repr

/-- The references among pieces, the first of which begins at byte `start`. -/
def tokensFrom (start : Nat) : List Piece → List Token
  | [] => []
  | .prose c :: later => tokensFrom (start + c.utf8Size) later
  | .reference r :: later =>
      let stop := start + Text.byteSize r.render
      ⟨r, start, stop⟩ :: tokensFrom stop later

/-- The references of a text with their places. -/
def tokens (text : Text) : List Token :=
  tokensFrom 0 (pieces text)

/-- The segments of a text make it up, one behind the other. By induction on the text, each
    character is a gap or joins the word behind it. -/
theorem render_segments (text : Text) : (segments text).flatMap Segment.render = text := by
  induction text with
  | nil => rfl
  | cons c rest ih =>
    simp only [segments]
    split
    · simp [Segment.render, ih]
    · split
      · rename_i joined
        rw [joined] at ih
        simpa [Segment.render] using ih
      · simpa [Segment.render] using ih

/-- Prose is rendered as it stands. -/
theorem render_prose (text : Text) : (text.map Piece.prose).flatMap Piece.render = text := by
  induction text with
  | nil => rfl
  | cons c rest ih => simpa [Piece.render] using ih

/-- What is cut from the end of a reference is what it lost. The marker and the protocol stay, and
    the resource keeps all but its trailing punctuation. -/
theorem render_cutTrailing {reference bare : Reference} {trailing : Text}
    (cut : cutTrailing reference = some (bare, trailing)) :
    bare.render ++ trailing = reference.render := by
  have kept := Text.trimEnd_append_drop isTrailing reference.resource
  unfold cutTrailing at cut
  generalize Text.trimEnd isTrailing reference.resource = resource at kept cut
  by_cases bareless : resource.isEmpty = true
  · simp [bareless] at cut
  · simp only [bareless, Bool.false_eq_true, if_false, Option.some.injEq, Prod.mk.injEq] at cut
    obtain ⟨rfl, rfl⟩ := cut
    simp [Reference.render, Reference.key, Key.render, kept]

/-- A marked reference that can be read is the whole text it was read from. Its marker is the sign
    that stood there. -/
theorem render_of_marked? {text : Text} {reference : Reference}
    (found : Reference.marked? text = some reference) : reference.render = text := by
  unfold Reference.marked? at found
  split at found
  · rename_i rest
    have signed : '@' :: rest = (Loading.ofSign rest).1.marker ++ (Loading.ofSign rest).2 := by
      unfold Loading.ofSign
      split <;> simp [Loading.marker]
    obtain ⟨loading, _, _, body⟩ := Reference.wellFormed_of_body? found
    rw [signed, body, Reference.render, loading]
  · simp at found

/-- The pieces of a word make it up. A reference that is cut from the punctuation at its end has
    that behind it as prose. -/
theorem render_wordPieces (before : Option Char) (text : Text) :
    (wordPieces before text).flatMap Piece.render = text := by
  induction text generalizing before with
  | nil => rfl
  | cons c rest ih =>
    simp only [wordPieces]
    split
    · simp [Piece.render, ih]
    · rename_i reference found
      split
      · exact render_prose (c :: rest)
      · split
        · exact render_prose (c :: rest)
        · rename_i bare trailing cut
          rw [List.flatMap_cons, render_prose, Piece.render, render_cutTrailing cut,
            render_of_marked? found]

/-- The pieces of a text make it up, so scanning loses nothing. This holds of each segment: a gap is
    a piece by itself, and `render_wordPieces` is about the words. -/
theorem render_pieces (text : Text) : (pieces text).flatMap Piece.render = text := by
  have each : ∀ segment : Segment,
      segment.pieces.flatMap Piece.render = segment.render := by
    intro segment
    cases segment with
    | word text => exact render_wordPieces none text
    | gap c => simp [Segment.pieces, Segment.render, Piece.render]
  conv => rhs; rw [← render_segments text]
  unfold pieces
  generalize segments text = parts
  induction parts with
  | nil => rfl
  | cons segment later ih =>
    simp only [List.flatMap_cons, List.flatMap_append, each, ih]

end RoleWeave
