import RoleWeave.Proofs.Reference.Scanning

/-!
# Scanning word by word

A reference stands inside of one word. So a text can be cut wherever a word ends, and its parts can
be scanned one by one (`pieces_append`): neither is a reference lost at the cut, nor does the
character before the cut make a difference to what follows it.

Inside of a word, the first reference that can be read decides. `Scanned.pieces_append` says what
becomes of a reference that is followed by any text: it takes all of its word but the punctuation at
the end.
-/

namespace RoleWeave

/-- No word goes on from one text into the next: where they meet, a word ends on one side or the
    other, or there is nothing on one side. -/
def Apart (first second : Text) : Prop :=
  ∀ c d, first.getLast? = some c → second.head? = some d → endsWord c = true ∨ endsWord d = true

/-- The part of a text up to the end of its first word. It is empty if no word begins the text. -/
def wordOf (text : Text) : Text :=
  text.takeWhile (fun c => !endsWord c)

/-- The part of a text behind its first word. -/
def behindWord (text : Text) : Text :=
  text.dropWhile (fun c => !endsWord c)

/-- A text is its first word and what is behind it. -/
theorem wordOf_append_behindWord (text : Text) : wordOf text ++ behindWord text = text :=
  List.takeWhile_append_dropWhile

/-- No word ends inside of the first word. -/
theorem inside_wordOf (text : Text) : ∀ c ∈ wordOf text, endsWord c = false := by
  intro c member
  have goesOn := List.all_eq_true.mp List.all_takeWhile c member
  simpa using goesOn

/-- A text in which no word ends is part of the first word of a text that begins with it. -/
theorem wordOf_append {inner : Text} (inside : ∀ c ∈ inner, endsWord c = false) (text : Text) :
    wordOf (inner ++ text) = inner ++ wordOf text ∧
      behindWord (inner ++ text) = behindWord text := by
  have goesOn : ∀ c ∈ inner, (!endsWord c) = true := by simpa using inside
  exact ⟨List.takeWhile_append_of_pos goesOn, List.dropWhile_append_of_pos goesOn⟩

/-- The first word of a text goes on into that of a longer text. -/
theorem mem_wordOf_append {text : Text} {c : Char} (member : c ∈ wordOf text) (rest : Text) :
    c ∈ wordOf (text ++ rest) := by
  rw [← wordOf_append_behindWord text, List.append_assoc, (wordOf_append (inside_wordOf text) _).1]
  exact List.mem_append_left _ member

/-- The first word of a text in which a word ends is the same whatever follows the text. What
    follows comes behind the word. -/
theorem wordOf_append_of_ended {text : Text} (ended : ∃ c ∈ text, endsWord c = true) (rest : Text) :
    wordOf (text ++ rest) = wordOf text ∧ behindWord (text ++ rest) = behindWord text ++ rest := by
  induction text with
  | nil => simp at ended
  | cons c text ih =>
    by_cases ends : endsWord c = true
    · simp [wordOf, behindWord, ends]
    · have later : ∃ d ∈ text, endsWord d = true := by
        simpa [ends] using ended
      obtain ⟨word, behind⟩ := ih later
      unfold wordOf at word
      unfold behindWord at behind
      simp [wordOf, behindWord, ends, word, behind]

/-! ## Characters that end a word -/

/-- The characters of a text in which no word ends. -/
theorem inside_of_all {text : Text} (all : text.all (fun c => !endsWord c) = true) :
    ∀ c ∈ text, endsWord c = false := by
  simpa using all

/-- The characters other than blanks that end a word. -/
def gapMarks : List Char :=
  ['<', '>', '(', ')', '[', ']', '\x7b', '\x7d', '"', '\'', '\x60', ',', ';']

/-- A word ends at a blank or at one of the marks. -/
theorem endsWord_iff {c : Char} : endsWord c = true ↔ Text.isBlank c = true ∨ c ∈ gapMarks := by
  rw [endsWord, Bool.or_eq_true, decide_eq_true_eq, gapMarks]

/-- No word ends inside of a name. None of the marks is a character of a name, and blanks are none
    either. -/
theorem Name.endsWord_of_continuesWith {c : Char} (continues : continuesWith c = true) :
    endsWord c = false := by
  rw [← Bool.not_eq_true, endsWord_iff, not_or, isBlank_of_continuesWith continues]
  refine ⟨Bool.false_ne_true, ?_⟩
  intro mark
  have unnamed : gapMarks.all (fun d => !continuesWith d) = true := by
    decide
  have refused := List.all_eq_true.mp unnamed c mark
  rw [continues] at refused
  cases refused

/-- The code points of the blanks. -/
def blankCodes : List Nat :=
  List.range' 0x9 5 ++ [0x20, 0x85, 0xa0, 0x1680] ++ List.range' 0x2000 11 ++
    [0x2028, 0x2029, 0x202f, 0x205f, 0x3000]

/-- A blank is one of these. -/
theorem mem_blankCodes {c : Char} (blank : Text.isBlank c = true) : c.toNat ∈ blankCodes := by
  simp only [Text.isBlank, Bool.or_eq_true, Bool.and_eq_true, decide_eq_true_eq,
    beq_iff_eq] at blank
  simp only [blankCodes, List.mem_append, List.mem_range'_1, List.mem_cons, List.not_mem_nil,
    or_false]
  omega

/-- No letter or number ends a word. There are finitely many characters that do, and they are tried
    one by one. -/
theorem isAlphanumeric_of_endsWord {c : Char} (ends : endsWord c = true) :
    Text.isAlphanumeric c = false := by
  rcases endsWord_iff.mp ends with blank | mark
  · have none : blankCodes.all (fun n => !Text.isAlphanumeric (Char.ofNat n)) = true := by
      decide +kernel
    have known := List.all_eq_true.mp none _ (mem_blankCodes blank)
    rw [Char.ofNat_toNat] at known
    simpa using known
  · have none : gapMarks.all (fun d => !Text.isAlphanumeric d) = true := by
      decide
    simpa using List.all_eq_true.mp none c mark

/-! ## Cutting between words -/

/-- A character that ends a word is a segment by itself, whatever stands around it. By induction on
    what stands before it. -/
theorem segments_append_gap {c : Char} (ends : endsWord c = true) (first second : Text) :
    segments (first ++ c :: second) = segments first ++ .gap c :: segments second := by
  induction first with
  | nil => simp only [List.nil_append, segments, if_pos ends]
  | cons d rest ih =>
    rw [List.cons_append, segments, segments, ih]
    by_cases gap : endsWord d = true
    · rw [if_pos gap, if_pos gap, List.cons_append]
    · rw [if_neg gap, if_neg gap]
      rcases segments rest with _ | ⟨_ | _, _⟩ <;> rfl

/-- It is a piece by itself as well. -/
theorem pieces_append_gap {c : Char} (ends : endsWord c = true) (first second : Text) :
    pieces (first ++ c :: second) = pieces first ++ .prose c :: pieces second := by
  simp only [pieces, segments_append_gap ends, List.flatMap_append, List.flatMap_cons,
    Segment.pieces, List.singleton_append]

/-- What stands before the first of two texts makes no difference to whether they are apart. -/
theorem Apart.of_append {before first second : Text} (apart : Apart (before ++ first) second) :
    Apart first second := by
  intro c d last head
  refine apart c d ?_ head
  rw [List.getLast?_append, last]
  rfl

/-- Texts are scanned one by one if no word goes on from one into the next. A character that ends a
    word at the place where they meet is a piece by itself, on whichever side it stands. -/
theorem pieces_append {first second : Text} (apart : Apart first second) :
    pieces (first ++ second) = pieces first ++ pieces second := by
  rcases List.eq_nil_or_concat first with rfl | ⟨front, c, rfl⟩
  · rfl
  · cases second with
    | nil => rw [List.append_nil]; exact (List.append_nil _).symm
    | cons d rest =>
      rw [List.concat_eq_append] at apart ⊢
      rcases apart c d (by simp) rfl with ends | ends
      · rw [List.append_assoc, List.singleton_append, pieces_append_gap ends,
          pieces_append_gap ends front [], List.append_assoc]
        rfl
      · have alone : pieces (d :: rest) = .prose d :: pieces rest := pieces_append_gap ends [] rest
        rw [pieces_append_gap ends, alone]

/-- A text in which no word ends is scanned as a word. -/
theorem pieces_of_inside {text : Text} (inside : ∀ c ∈ text, endsWord c = false) :
    pieces text = wordPieces none text := by
  by_cases nonempty : text = []
  · subst nonempty
    rfl
  · rw [pieces, segments_of_inside nonempty inside, List.flatMap_singleton, Segment.pieces]

/-- No word goes on behind the first word of a text. -/
theorem apart_wordOf (text : Text) : Apart (wordOf text) (behindWord text) := by
  intro c d _ head
  have known := List.head?_dropWhile_not (fun c => !endsWord c) text
  rw [← behindWord, head] at known
  exact .inr (by simpa using known)

/-- The first word of a text is scanned by itself. -/
theorem pieces_eq_wordOf (text : Text) :
    pieces text = wordPieces none (wordOf text) ++ pieces (behindWord text) := by
  rw [← pieces_of_inside (inside_wordOf text), ← pieces_append (apart_wordOf text),
    wordOf_append_behindWord]

/-! ## Places -/

/-- A reference at a place that is `distance` bytes further on. -/
def Token.shift (distance : Nat) (token : Token) : Token :=
  ⟨token.reference, distance + token.start, distance + token.stop⟩

/-- Pieces that stand further on have places that are further on by as much. By induction on the
    pieces, of which each moves by its own size. -/
theorem tokensFrom_add (distance start : Nat) (parts : List Piece) :
    tokensFrom (distance + start) parts = (tokensFrom start parts).map (Token.shift distance) := by
  induction parts generalizing start with
  | nil => rfl
  | cons piece later ih =>
    cases piece with
    | prose c => rw [tokensFrom, tokensFrom, Nat.add_assoc, ih]
    | reference r =>
      simp only [tokensFrom, List.map_cons, Nat.add_assoc, ih]
      rfl

/-- The places of pieces that follow others are behind these. What is added to them is the size of
    what the others are written as. -/
theorem tokensFrom_append (start : Nat) (first second : List Piece) :
    tokensFrom start (first ++ second) = tokensFrom start first ++
      tokensFrom (start + Text.byteSize (first.flatMap Piece.render)) second := by
  induction first generalizing start with
  | nil => simp [tokensFrom]
  | cons piece later ih =>
    cases piece with
    | prose c => simp [tokensFrom, ih, Piece.render, Nat.add_assoc]
    | reference r => simp [tokensFrom, ih, Piece.render, Nat.add_assoc]

/-- Where no word goes on from one text into the next, the references of the second are placed
    behind the first, and nothing else changes. -/
theorem tokens_append {first second : Text} (apart : Apart first second) :
    tokens (first ++ second) =
      tokens first ++ (tokens second).map (Token.shift (Text.byteSize first)) := by
  rw [tokens, tokens, tokens, pieces_append apart, tokensFrom_append, render_pieces, Nat.zero_add,
    ← tokensFrom_add, Nat.add_zero]

/-! ## Inside of a word -/

/-- A reference whose resource holds no character that ends a word holds none at all. There is none
    in a marker, in a name or in the separator. -/
theorem Reference.inside_render {reference : Reference}
    (named : Name.accepts reference.protocol = true)
    (inside : ∀ c ∈ reference.resource, endsWord c = false) :
    ∀ c ∈ reference.render, endsWord c = false := by
  have marker : ∀ c ∈ reference.loading.marker, endsWord c = false := by
    apply inside_of_all
    cases reference.loading <;> rfl
  have separator : ∀ c ∈ Key.separator, endsWord c = false := inside_of_all rfl
  have protocol : ∀ c ∈ reference.protocol, endsWord c = false :=
    fun c member => Name.endsWord_of_continuesWith (Name.continuesWith_of_mem named member)
  simp only [render, key, Key.render, List.forall_mem_append]
  exact ⟨marker, ⟨protocol, separator⟩, inside⟩

/-- A text that begins with the sign is read as a reference exactly if it is one as it is written,
    with a name as its protocol and a resource that is not empty. -/
theorem Reference.marked?_eq_some_iff {text : Text} {reference : Reference} :
    marked? text = some reference ↔
      text = reference.render ∧ Name.accepts reference.protocol = true ∧
        reference.resource ≠ [] := by
  constructor
  · intro found
    refine ⟨(render_of_marked? found).symm, named_of_marked? found, ?_⟩
    unfold marked? at found
    split at found
    · exact (wellFormed_of_body? found).2.2.1
    · cases found
  · rintro ⟨rfl, named, nonempty⟩
    rw [marked?_render named, body?_render _ named nonempty]
    rfl

/-- Only the sign begins a reference. At any other character none is read. -/
theorem Reference.marked?_of_ne {c : Char} (other : c ≠ '@') (rest : Text) :
    marked? (c :: rest) = none := by
  unfold marked?
  split
  · rename_i same
    cases same
    exact absurd rfl other
  · rfl

/-- A reference is written with the sign first. -/
theorem Reference.exists_render_eq (reference : Reference) :
    ∃ rest, reference.render = '@' :: rest := by
  unfold render
  cases reference.loading <;> exact ⟨_, rfl⟩

/-- The resource is part of what is written. -/
theorem Reference.mem_render {reference : Reference} {c : Char} (member : c ∈ reference.resource) :
    c ∈ reference.render :=
  List.mem_append_right _ (List.mem_append_right _ member)

section Begins

variable {before : Option Char} {raw : Reference}

/-- A word that begins with a reference is prose if the reference is glued to what stands before
    it. -/
theorem wordPieces_of_glued (glued : before.any Text.isAlphanumeric = true)
    (named : Name.accepts raw.protocol = true) (nonempty : raw.resource ≠ []) :
    wordPieces before raw.render = raw.render.map .prose := by
  obtain ⟨rest, shape⟩ := raw.exists_render_eq
  have read := Reference.marked?_eq_some_iff.mpr ⟨rfl, named, nonempty⟩
  rw [shape] at read ⊢
  simp only [wordPieces, read, glued, if_true]

/-- Otherwise it is the reference and the punctuation at the end of the word. The name is read as
    far as it goes, and the rest of the word is the resource. -/
theorem wordPieces_of_cut (unglued : before.any Text.isAlphanumeric = false)
    (named : Name.accepts raw.protocol = true) (nonempty : raw.resource ≠ []) {bare : Reference}
    {trailing : Text} (cut : cutTrailing raw = some (bare, trailing)) :
    wordPieces before raw.render = .reference bare :: trailing.map .prose := by
  obtain ⟨rest, shape⟩ := raw.exists_render_eq
  have read := Reference.marked?_eq_some_iff.mpr ⟨rfl, named, nonempty⟩
  rw [shape] at read ⊢
  simp only [wordPieces, read, unglued, Bool.false_eq_true, if_false, cut]

end Begins

/-- Without a letter or number before it, a word is scanned as if it stood alone. -/
theorem wordPieces_of_unglued {before : Option Char}
    (unglued : before.any Text.isAlphanumeric = false) (text : Text) :
    wordPieces before text = wordPieces none text := by
  cases text with
  | nil => rfl
  | cons c rest => simp only [wordPieces, unglued, Option.any_none]

/-- A character that is neither a sign nor a letter or number stands by itself, also inside of a
    word. Nothing is glued to it. -/
theorem pieces_cons_of_plain {c : Char} (signless : c ≠ '@')
    (plain : endsWord c = true ∨ Text.isAlphanumeric c = false) (rest : Text) :
    pieces (c :: rest) = .prose c :: pieces rest := by
  by_cases ends : endsWord c = true
  · exact pieces_append_gap ends [] rest
  · have inside : ∀ d ∈ [c], endsWord d = false := by simpa using ends
    have unglued : (some c).any Text.isAlphanumeric = false := plain.resolve_left ends
    obtain ⟨word, behind⟩ := wordOf_append inside rest
    rw [List.singleton_append] at word behind
    rw [pieces_eq_wordOf (c :: rest), word, behind, List.singleton_append, wordPieces,
      Reference.marked?_of_ne signless]
    rw [wordPieces_of_unglued unglued, List.cons_append, ← pieces_eq_wordOf]

namespace Reference

/-- A reference that takes more of its word. -/
def extend (reference : Reference) (more : Text) : Reference :=
  ⟨reference.loading, reference.protocol, reference.resource ++ more⟩

/-- A reference that takes more of its word is written with that behind it. -/
theorem render_extend (reference : Reference) (more : Text) :
    (reference.extend more).render = reference.render ++ more := by
  simp [extend, render, key, Key.render]

/-- A reference that does not end with punctuation loses nothing of itself to the punctuation at the
    end of its word. Only what it takes from the word is trimmed. -/
theorem cutTrailing_extend {reference : Reference} (nonempty : reference.resource ≠ [])
    (bare : ∀ c, reference.resource.getLast? = some c → isTrailing c = false) (more : Text) :
    cutTrailing (reference.extend more) =
      some (reference.extend (Text.trimEnd isTrailing more),
        more.drop (Text.trimEnd isTrailing more).length) := by
  have trimmed : Text.trimEnd isTrailing (reference.resource ++ more) =
      reference.resource ++ Text.trimEnd isTrailing more := by
    rw [Text.trimEnd_of_append]
    split
    · rename_i gone
      rw [gone, List.append_nil, Text.trimEnd_of_last bare]
    · rfl
  simp [cutTrailing, extend, trimmed, nonempty]

/-- A reference that is followed by any text takes all of its word but the punctuation at the end,
    which is prose. What is behind the word is scanned by itself. -/
theorem Scanned.pieces_append {reference : Reference} (scanned : reference.Scanned) (text : Text) :
    pieces (reference.render ++ text) =
      .reference (reference.extend (Text.trimEnd isTrailing (wordOf text))) ::
        (((wordOf text).drop (Text.trimEnd isTrailing (wordOf text)).length).map .prose ++
          pieces (behindWord text)) := by
  obtain ⟨word, behind⟩ := wordOf_append scanned.inside text
  have named : Name.accepts (reference.extend (wordOf text)).protocol = true := scanned.named
  have nonempty : (reference.extend (wordOf text)).resource ≠ [] := by
    simp [extend, scanned.nonempty]
  have first := wordPieces_of_cut (rfl : (none : Option Char).any Text.isAlphanumeric = false)
    named nonempty (cutTrailing_extend scanned.nonempty scanned.bare (wordOf text))
  rw [pieces_eq_wordOf, word, behind, ← render_extend, first, List.cons_append]

end Reference

end RoleWeave
