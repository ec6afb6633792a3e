import RoleWeave.Proofs.Reference.Reading
import RoleWeave.Reference.Piece

/-!
# Scanning, printing and reading agree

The references of a running text are found together with the bytes where they stand. Those who use
the places cut the text there, from one reference to the next. That this never fails, and never
comes upon a reference that begins before the end of the one before it, is `cutAt?_tokens`: the
cut yields the very pieces that the text was scanned into.

What is found is as it would be written. The bytes of its place are its printed form, which alone
is read as the same reference, both as a whole text and as a running text
(`scanning_printing_and_reading_agree`).
-/

namespace RoleWeave

namespace Text

/-- Cut a text at a byte position. There is no such cut beyond the end of the text, nor inside of a
    character. -/
def splitBytes? : (text : Text) → (position : Nat) → Option (Text × Text)
  | text, 0 => some ([], text)
  | [], _ + 1 => none
  | c :: rest, position + 1 =>
      if c.utf8Size ≤ position + 1 then
        (splitBytes? rest (position + 1 - c.utf8Size)).map (fun parts => (c :: parts.1, parts.2))
      else none

/-- The bytes of a text from position `start` up to, and without, position `stop`. There are none
    if the positions are in the wrong order or the text cannot be cut at one of them. -/
def sliceBytes? (text : Text) (start stop : Nat) : Option Text :=
  if stop < start then none
  else do
    let (_, later) ← splitBytes? text start
    let (part, _) ← splitBytes? later (stop - start)
    return part

/-- A text can be cut between any two of its characters. Each takes at least one byte, so the cut
    comes neither before nor within one of them. -/
@[simp] theorem splitBytes?_append (before after : Text) :
    splitBytes? (before ++ after) (byteSize before) = some (before, after) := by
  induction before with
  | nil => simp [splitBytes?]
  | cons c rest ih =>
    have positive : 0 < c.utf8Size := Char.utf8Size_pos c
    obtain ⟨position, same⟩ : ∃ position, c.utf8Size + byteSize rest = position + 1 :=
      ⟨c.utf8Size + byteSize rest - 1, by omega⟩
    have fits : c.utf8Size ≤ position + 1 := by omega
    have left : position + 1 - c.utf8Size = byteSize rest := by omega
    rw [List.cons_append, byteSize_cons, same, splitBytes?, if_pos fits, left, ih]
    rfl

/-- The bytes of a part are that part. Both places are sums of sizes of whole characters, so no
    character is cut. -/
theorem sliceBytes?_append {text before part after : Text} (whole : text = before ++ part ++ after)
    {start stop : Nat} (starts : start = byteSize before)
    (stops : stop = start + byteSize part) : sliceBytes? text start stop = some part := by
  have ordered : ¬ stop < start := by omega
  have length : stop - start = byteSize part := by omega
  rw [sliceBytes?, if_neg ordered, length, whole, List.append_assoc, starts]
  simp

end Text

/-- A mark of a reference is more than nothing. -/
theorem Reference.byteSize_render_pos (reference : Reference) :
    0 < Text.byteSize reference.render := by
  have sign : Text.byteSize reference.loading.marker ≠ 0 := by
    cases reference.loading <;> decide
  rw [Reference.render, Text.byteSize_append]
  omega

section Places

/-- A reference of a text with its place there comes from a piece, and its place is what the pieces
    before it and the piece itself take up.

    Proof: by induction on the pieces, in both directions. Prose moves the place by what it takes
    up. A reference is the one that is looked for, with nothing before it, or comes before it and
    moves the place as prose does. -/
theorem mem_tokensFrom {start : Nat} {parts : List Piece} {token : Token} :
    token ∈ tokensFrom start parts ↔
      ∃ before after, parts = before ++ .reference token.reference :: after ∧
        token.start = start + Text.byteSize (before.flatMap Piece.render) ∧
        token.stop = token.start + Text.byteSize token.reference.render := by
  induction parts generalizing start with
  | nil => simp [tokensFrom]
  | cons piece later ih =>
    cases piece with
    | prose c =>
      rw [tokensFrom, ih]
      constructor
      · rintro ⟨before, after, rfl, starts, stops⟩
        refine ⟨.prose c :: before, after, rfl, ?_, stops⟩
        simp [Piece.render, starts, Nat.add_assoc]
      · rintro ⟨before, after, same, starts, stops⟩
        cases before with
        | nil => simp at same
        | cons first before =>
          cases same
          refine ⟨before, after, rfl, ?_, stops⟩
          simpa [Piece.render, Nat.add_assoc] using starts
    | reference r =>
      rw [tokensFrom, List.mem_cons, ih]
      constructor
      · rintro (rfl | ⟨before, after, rfl, starts, stops⟩)
        · exact ⟨[], later, rfl, by simp, rfl⟩
        · refine ⟨.reference r :: before, after, rfl, ?_, stops⟩
          simp [Piece.render, starts, Nat.add_assoc]
      · rintro ⟨before, after, same, starts, stops⟩
        cases before with
        | nil =>
          cases same
          left
          cases token
          simp_all
        | cons first before =>
          cases same
          right
          refine ⟨before, after, rfl, ?_, stops⟩
          simpa [Piece.render, Nat.add_assoc] using starts

/-- The references of a text are those that have a place in it, in the same order. By induction on
    the pieces, wherever the first of them stands. -/
theorem references_eq_map_tokens (text : Text) :
    references text = (tokens text).map Token.reference := by
  have placed : ∀ (parts : List Piece) (start : Nat),
      parts.filterMap Piece.reference? = (tokensFrom start parts).map Token.reference := by
    intro parts
    induction parts with
    | nil => exact fun _ => rfl
    | cons piece later ih =>
      intro start
      cases piece with
      | prose c =>
        rw [tokensFrom, List.filterMap_cons_none rfl]
        exact ih _
      | reference r =>
        have found : (Piece.reference r).reference? = some r := rfl
        rw [tokensFrom, List.filterMap_cons_some found, List.map_cons]
        exact congrArg (List.cons r) (ih _)
  exact placed (pieces text) 0

/-- A reference ends before another begins. -/
def Token.Precedes (first second : Token) : Prop :=
  first.start < second.start ∧ first.stop ≤ second.start

/-- References are met in the order of their places, which have no byte in common. Those of the
    later pieces begin where a reference ends at the earliest. -/
theorem pairwise_tokensFrom (start : Nat) (parts : List Piece) :
    (tokensFrom start parts).Pairwise Token.Precedes := by
  induction parts generalizing start with
  | nil => exact List.Pairwise.nil
  | cons piece later ih =>
    cases piece with
    | prose c => exact ih _
    | reference r =>
      refine List.Pairwise.cons ?_ (ih _)
      intro token member
      obtain ⟨before, _, _, starts, _⟩ := mem_tokensFrom.mp member
      have positive := r.byteSize_render_pos
      constructor
      · simp only
        omega
      · simp only
        omega

/-- Cut a text at the places of references, beginning at byte `cursor`: what stands between two of
    them is prose. There is no cut if one of the slices cannot be taken, and in particular none if
    a reference begins before the one before it has ended. -/
def cutAt? (text : Text) : (cursor : Nat) → List Token → Option (List Piece)
  | cursor, [] => do
      let rest ← Text.sliceBytes? text cursor (Text.byteSize text)
      return rest.map .prose
  | cursor, token :: later => do
      let before ← Text.sliceBytes? text cursor token.start
      let _ ← Text.sliceBytes? text token.start token.stop
      let rest ← cutAt? text token.stop later
      return before.map .prose ++ .reference token.reference :: rest

/-- The cut goes on from the end of pieces that are behind it.

    Proof: by induction on the pieces, where the prose since the last cut is kept apart. Prose is
    added to it. At a reference the text is cut in front of it and behind it; the first slice is the
    prose that was kept, and the cut goes on from the end of the reference with no prose. At the end
    the rest of the text is that prose. -/
theorem cutAt?_tokensFrom {text front : Text} {prose : Text} {parts : List Piece}
    (whole : text = front ++ prose ++ parts.flatMap Piece.render) :
    cutAt? text (Text.byteSize front)
      (tokensFrom (Text.byteSize (front ++ prose)) parts) =
      some (prose.map .prose ++ parts) := by
  induction parts generalizing front prose with
  | nil =>
    have rest : Text.sliceBytes? text (Text.byteSize front) (Text.byteSize text) = some prose :=
      Text.sliceBytes?_append whole rfl (by simp [whole])
    simp [tokensFrom, cutAt?, rest]
  | cons piece later ih =>
    cases piece with
    | prose c =>
      have more : text = front ++ (prose ++ [c]) ++ later.flatMap Piece.render := by
        simpa [Piece.render] using whole
      simpa [tokensFrom, Nat.add_assoc] using ih more
    | reference r =>
      have behind : text = (front ++ prose ++ r.render) ++ [] ++ later.flatMap Piece.render := by
        simpa [Piece.render] using whole
      have before : Text.sliceBytes? text (Text.byteSize front) (Text.byteSize (front ++ prose)) =
          some prose := by
        apply Text.sliceBytes?_append whole rfl
        simp
      have marked : Text.sliceBytes? text (Text.byteSize (front ++ prose))
          (Text.byteSize (front ++ prose) + Text.byteSize r.render) = some r.render := by
        have around : text = (front ++ prose) ++ r.render ++ later.flatMap Piece.render := by
          simpa [Piece.render] using whole
        exact Text.sliceBytes?_append around rfl rfl
      have next := ih behind
      rw [List.append_nil, Text.byteSize_append, List.map_nil, List.nil_append] at next
      simp only [tokensFrom, cutAt?, before, marked, next, Option.bind_eq_bind, Option.bind_some,
        Option.pure_def]

/-- A text can be cut at its references, and the cut yields its pieces. -/
theorem cutAt?_tokens (text : Text) : cutAt? text 0 (tokens text) = some (pieces text) := by
  have whole : text = [] ++ [] ++ (pieces text).flatMap Piece.render := by
    simp [render_pieces]
  simpa [tokens] using cutAt?_tokensFrom whole

end Places

/-- The words of a text hold none of the characters that end a word. Such a character is a segment
    by itself. -/
theorem inside_word {text word : Text} (member : Segment.word word ∈ segments text) :
    ∀ c ∈ word, endsWord c = false := by
  induction text generalizing word with
  | nil => cases member
  | cons c rest ih =>
    rw [segments] at member
    by_cases ends : endsWord c = true
    · rw [if_pos ends] at member
      rcases List.mem_cons.mp member with impossible | later
      · cases impossible
      · exact ih later
    · have goesOn : endsWord c = false := by simpa using ends
      rw [if_neg ends] at member
      split at member
      · rename_i first others joined
        rcases List.mem_cons.mp member with same | later
        · cases same
          exact List.forall_mem_cons.mpr ⟨goesOn, ih (by rw [joined]; exact List.mem_cons_self)⟩
        · exact ih (by rw [joined]; exact List.mem_cons_of_mem _ later)
      · rcases List.mem_cons.mp member with same | later
        · cases same
          exact List.forall_mem_singleton.mpr goesOn
        · exact ih later

/-- A text in which no word ends is a single word, if there is anything in it. By induction on the
    text, each character joins the word behind it. -/
theorem segments_of_inside {text : Text} (nonempty : text ≠ [])
    (inside : ∀ c ∈ text, endsWord c = false) : segments text = [.word text] := by
  induction text with
  | nil => exact absurd rfl nonempty
  | cons c rest ih =>
    obtain ⟨goesOn, later⟩ := List.forall_mem_cons.mp inside
    cases rest with
    | nil => simp [segments, goesOn]
    | cons d rest =>
      rw [segments, if_neg (by simp [goesOn]), ih (by simp) later]

/-- No blank stands inside of a word. -/
theorem isBlank_of_endsWord {c : Char} (goesOn : endsWord c = false) :
    Text.isBlank c = false := by
  rw [endsWord, Bool.or_eq_false_iff] at goesOn
  exact goesOn.1

/-- A reference as running text holds it: the protocol is a name, and the resource neither is empty
    nor ends with punctuation. Nowhere in it does a word end. -/
structure Reference.Scanned (reference : Reference) : Prop where
  named : Name.accepts reference.protocol = true
  nonempty : reference.resource ≠ []
  bare : ∀ c, reference.resource.getLast? = some c → isTrailing c = false
  inside : ∀ c ∈ reference.render, endsWord c = false

/-- What is left of a reference without the punctuation at its end: the protocol, and of the
    resource what is not trimmed, which is not empty. -/
theorem eq_of_cutTrailing {reference bare : Reference} {trailing : Text}
    (cut : cutTrailing reference = some (bare, trailing)) :
    bare.protocol = reference.protocol ∧ bare.resource ≠ [] ∧
      bare.resource = Text.trimEnd isTrailing reference.resource := by
  unfold cutTrailing at cut
  by_cases bareless : (Text.trimEnd isTrailing reference.resource).isEmpty = true
  · simp [bareless] at cut
  · simp only [bareless, Bool.false_eq_true, if_false, Option.some.injEq, Prod.mk.injEq] at cut
    obtain ⟨rfl, _⟩ := cut
    exact ⟨rfl, by simpa using bareless, rfl⟩

/-- The references of a word come from what can be read in it. By induction on the word: a reference
    is read at its first character, or it is one of the rest. -/
theorem exists_of_mem_wordPieces {before : Option Char} {text : Text} {reference : Reference}
    (member : Piece.reference reference ∈ wordPieces before text) :
    ∃ rest raw trailing, Reference.marked? rest = some raw ∧
      cutTrailing raw = some (reference, trailing) := by
  have proseless (text : Text) : Piece.reference reference ∉ text.map Piece.prose := by
    simp
  induction text generalizing before with
  | nil => cases member
  | cons c rest ih =>
    rw [wordPieces] at member
    split at member
    · rcases List.mem_cons.mp member with impossible | later
      · cases impossible
      · exact ih later
    · rename_i raw found
      split at member
      · exact absurd member (proseless _)
      · split at member
        · exact absurd member (proseless _)
        · rename_i bare trailing cut
          rcases List.mem_cons.mp member with same | later
          · cases same
            exact ⟨c :: rest, raw, trailing, found, cut⟩
          · exact absurd later (proseless _)

namespace Reference

/-- A text that is read with its marker names a protocol. -/
theorem named_of_marked? {text : Text} {reference : Reference}
    (found : marked? text = some reference) : Name.accepts reference.protocol = true := by
  unfold marked? at found
  split at found
  · exact (wellFormed_of_body? found).2.1
  · cases found

/-- The references of a text are as running text holds them. Each is read in a word and cut from the
    punctuation at its end, so no word ends in it and it does not end with punctuation. -/
theorem scanned_of_mem {text : Text} {reference : Reference}
    (member : Piece.reference reference ∈ pieces text) : reference.Scanned := by
  obtain ⟨segment, among, within⟩ := List.mem_flatMap.mp member
  cases segment with
  | gap c =>
    rw [Segment.pieces, List.mem_singleton] at within
    cases within
  | word word =>
    obtain ⟨_, raw, trailing, found, cut⟩ := exists_of_mem_wordPieces within
    obtain ⟨protocol, nonempty, resource⟩ := eq_of_cutTrailing cut
    refine ⟨?_, nonempty, ?_, ?_⟩
    · rw [protocol]
      exact named_of_marked? found
    · intro c last
      rw [resource] at last
      exact Text.last_trimEnd last
    · intro c mark
      apply inside_word among
      rw [← render_wordPieces none word]
      exact List.mem_flatMap.mpr ⟨.reference reference, within, mark⟩

namespace Scanned

variable {reference : Reference}

/-- The resource holds no blank. A blank would end the word, and a reference that is scanned lies
    within one. -/
theorem solid (scanned : reference.Scanned) :
    ∀ c ∈ reference.resource, Text.isBlank c = false := by
  intro c member
  apply isBlank_of_endsWord
  apply scanned.inside
  rw [render, key, Key.render]
  exact List.mem_append_right _ (List.mem_append_right _ member)

/-- The printed form alone is running text with this reference and nothing else. It is a single
    word, is read at its beginning, and has no punctuation at its end. -/
theorem pieces_render (scanned : reference.Scanned) :
    pieces reference.render = [.reference reference] := by
  have read := marked?_whole scanned.named scanned.nonempty
  have whole : cutTrailing reference = some (reference, []) := by
    simp [cutTrailing, Text.trimEnd_of_last scanned.bare, scanned.nonempty]
  have nonempty : reference.render ≠ [] := by
    intro empty
    have positive := reference.byteSize_render_pos
    rw [empty] at positive
    exact absurd positive (by decide)
  rw [pieces, segments_of_inside nonempty scanned.inside, List.flatMap_singleton, Segment.pieces]
  cases shape : reference.render with
  | nil => exact absurd shape nonempty
  | cons c rest =>
    rw [shape] at read
    rw [wordPieces, read]
    simp [whole]

/-- In the printed form, the reference takes up the whole. -/
theorem tokens_render (scanned : reference.Scanned) :
    tokens reference.render = [⟨reference, 0, Text.byteSize reference.render⟩] := by
  simp [tokens, scanned.pieces_render, tokensFrom]

end Scanned

/-- Blanks in the resource are refused, whether or not there is a marker. What is read is otherwise
    a body behind the marker. -/
theorem exists_body_of_read? {text : Text} {reference : Reference}
    (found : read? text = some reference) :
    (∃ loading rest, body? loading rest = some reference) ∧
      reference.resource.any Text.isBlank = false := by
  have kept {other : Reference}
      (same : (if other.resource.any Text.isBlank = true then none else some other) =
        some reference) : other = reference ∧ reference.resource.any Text.isBlank = false := by
    by_cases blank : other.resource.any Text.isBlank = true
    · simp [blank] at same
    · simp only [blank, Bool.false_eq_true, if_false, Option.some.injEq] at same
      subst same
      exact ⟨rfl, by simpa using blank⟩
  unfold read? at found
  split at found
  · obtain ⟨other, body, same⟩ := Option.bind_eq_some_iff.mp found
    obtain ⟨rfl, solid⟩ := kept same
    exact ⟨⟨_, _, body⟩, solid⟩
  · obtain ⟨other, body, same⟩ := Option.bind_eq_some_iff.mp found
    obtain ⟨rfl, solid⟩ := kept same
    exact ⟨⟨_, _, body⟩, solid⟩

/-- A reference that is read from a whole text has a name as its protocol and a resource that is
    neither empty nor holds a blank. -/
theorem readable_of_parse {text : Text} {reference : Reference}
    (parsed : parse text = .ok reference) :
    Name.accepts reference.protocol = true ∧ reference.resource ≠ [] ∧
      ∀ c ∈ reference.resource, Text.isBlank c = false := by
  unfold parse at parsed
  cases found : read? (Text.trim text) with
  | none => simp [found] at parsed
  | some raw =>
    simp only [found, Except.ok.injEq] at parsed
    subst parsed
    obtain ⟨⟨loading, rest, body⟩, solid⟩ := exists_body_of_read? found
    obtain ⟨_, named, nonempty, _⟩ := wellFormed_of_body? body
    exact ⟨named, nonempty, Text.any_isBlank_eq_false_iff.mp solid⟩

/-- Exactly the references that can be read at all are read back from their printed form. What the
    reader accepts has a name, a resource and no blank in it. -/
theorem parse_render_iff {reference : Reference} :
    parse reference.render = .ok reference ↔
      Name.accepts reference.protocol = true ∧ reference.resource ≠ [] ∧
        ∀ c ∈ reference.resource, Text.isBlank c = false := by
  constructor
  · exact readable_of_parse
  · rintro ⟨named, nonempty, solid⟩
    exact parse_render named nonempty solid

end Reference

/-- What a place in a text and the reference that was found there have to do with each other. -/
structure Token.Exact (text : Text) (token : Token) : Prop where
  /-- The place is more than nothing. -/
  nonempty : token.start < token.stop
  /-- It is a place in the text. -/
  inside : token.stop ≤ Text.byteSize text
  /-- It begins between two characters. -/
  startsBetween : (Text.splitBytes? text token.start).isSome = true
  /-- It stops between two characters. -/
  stopsBetween : (Text.splitBytes? text token.stop).isSome = true
  /-- What stands there is the reference as it is written. -/
  printed : Text.sliceBytes? text token.start token.stop = some token.reference.render
  /-- Alone, it is read as this reference. -/
  read : Reference.parse token.reference.render = .ok token.reference
  /-- Alone, it is running text with this reference, which takes up the whole. -/
  scanned : tokens token.reference.render =
    [⟨token.reference, 0, Text.byteSize token.reference.render⟩]

/-- The references of a text stand where they were found. What the pieces before and behind them
    take up is the rest of the text, so the slice at the place is the printed form. -/
theorem exact_of_mem_tokens {text : Text} {token : Token} (member : token ∈ tokens text) :
    token.Exact text := by
  obtain ⟨before, after, parts, starts, stops⟩ := mem_tokensFrom.mp member
  rw [Nat.zero_add] at starts
  have among : Piece.reference token.reference ∈ pieces text := by
    rw [parts]
    exact List.mem_append_right _ List.mem_cons_self
  have scanned := Reference.scanned_of_mem among
  have whole : text = before.flatMap Piece.render ++ token.reference.render ++
      after.flatMap Piece.render := by
    rw [← render_pieces text, parts]
    simp [Piece.render]
  have positive := token.reference.byteSize_render_pos
  have ending : token.stop =
      Text.byteSize (before.flatMap Piece.render ++ token.reference.render) := by
    rw [stops, starts, Text.byteSize_append]
  refine ⟨by omega, ?_, ?_, ?_, Text.sliceBytes?_append whole starts stops,
    Reference.parse_render scanned.named scanned.nonempty scanned.solid, scanned.tokens_render⟩
  · rw [ending, whole, Text.byteSize_append _ (after.flatMap _)]
    omega
  · rw [starts, whole, List.append_assoc, Text.splitBytes?_append]
    rfl
  · rw [ending, whole, Text.splitBytes?_append]
    rfl

/-- Exactly the references that running text can hold are found again in their printed form. A
    reference that is found is of that kind, and its printed form is scanned as it alone. -/
theorem tokens_render_iff {reference : Reference} :
    tokens reference.render = [⟨reference, 0, Text.byteSize reference.render⟩] ↔
      reference.Scanned := by
  constructor
  · intro found
    have member : Token.mk reference 0 (Text.byteSize reference.render) ∈
        tokens reference.render := by
      rw [found]
      exact List.mem_singleton_self _
    obtain ⟨before, after, parts, _⟩ := mem_tokensFrom.mp member
    apply Reference.scanned_of_mem
    rw [parts]
    exact List.mem_append_right _ List.mem_cons_self
  · exact Reference.Scanned.tokens_render

/-- Scanning, printing and reading agree. For every text, the references that are found in it have
    places that are not empty, lie in the text and between its characters, follow each other and
    have nothing in common, so that the text can be cut at them into the pieces it was scanned into;
    each is printed as what stands at its place, and is read and scanned alone as itself. A
    reference that is read from any text is read again from its printed form, and this holds of
    exactly those references whose protocol is a name and whose resource is not empty and holds no
    blank. Those that are found again in their printed form are those in which moreover no word ends
    and the resource does not end with punctuation.

    Proof: `exact_of_mem_tokens`, `pairwise_tokensFrom` and `cutAt?_tokens` speak of the places.
    What is read has the three properties (`readable_of_parse`), and they are enough to read it
    again; `tokens_render_iff` says the same of scanning. -/
theorem scanning_printing_and_reading_agree :
    (∀ text : Text,
      (∀ token ∈ tokens text, token.Exact text) ∧
      (tokens text).Pairwise Token.Precedes ∧
      cutAt? text 0 (tokens text) = some (pieces text)) ∧
    (∀ (url : Text) (reference : Reference), Reference.parse url = .ok reference →
      Reference.parse reference.render = .ok reference) ∧
    (∀ reference : Reference, Reference.parse reference.render = .ok reference ↔
      Name.accepts reference.protocol = true ∧ reference.resource ≠ [] ∧
        ∀ c ∈ reference.resource, Text.isBlank c = false) ∧
    (∀ reference : Reference,
      tokens reference.render = [⟨reference, 0, Text.byteSize reference.render⟩] ↔
        reference.Scanned) := by
  refine ⟨?_, ?_, ?_, ?_⟩
  · intro text
    refine ⟨?_, pairwise_tokensFrom 0 (pieces text), cutAt?_tokens text⟩
    intro token member
    exact exact_of_mem_tokens member
  · intro url reference parsed
    exact Reference.parse_render_iff.mpr (Reference.readable_of_parse parsed)
  · intro reference
    exact Reference.parse_render_iff
  · intro reference
    exact tokens_render_iff

/-- Places are counted in bytes. The full stop behind the reference takes three, and is left to the
    prose; the sign in a mail address is no reference. -/
example : tokens "né @!note://a。 me@mail://b".toList =
    [⟨⟨.eager, "note".toList, "a".toList⟩, 4, 14⟩] := by
  decide

end RoleWeave
