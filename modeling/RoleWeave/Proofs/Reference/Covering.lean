import RoleWeave.Proofs.Reference.Words

/-!
# References that a scan passes over

Every reference that stands in a text runs to the end of its word, so all that stand in one word end
at the same place, and each of them but the first is part of the resource of the one before. The
first one decides for the whole word. If it is not glued to a letter or number, it is found and
covers the others. If it is glued, the word is prose to its end, and a reference further on in it is
lost even if that is not glued to anything (`covered_iff_unglued`).
-/

namespace RoleWeave

/-- Whether a text ends with a letter or number, to which a reference behind it is glued. -/
def glues (before : Text) : Bool :=
  before.getLast?.any Text.isAlphanumeric

/-- Whether a byte of a text belongs to a reference that is found there. -/
def Covered (text : Text) (position : Nat) : Prop :=
  ∃ token ∈ tokens text, token.start ≤ position ∧ position < token.stop

namespace Reference

/-- A reference stands in a text as it is written, between what is before and what is after it. Its
    resource goes on up to the end of the word. Whether it is found when the text is scanned is
    another question. -/
structure StandsIn (reference : Reference) (text before after : Text) : Prop where
  whole : text = before ++ (reference.render ++ after)
  named : Name.accepts reference.protocol = true
  nonempty : reference.resource ≠ []
  inside : ∀ c ∈ reference.resource, endsWord c = false
  ends : ∀ c, after.head? = some c → endsWord c = true

/-- A reference is the first of its word if none that goes on up to the same place begins before
    it. -/
structure FirstIn (reference : Reference) (text before after : Text) : Prop
    extends reference.StandsIn text before after where
  first : ∀ earlier other, StandsIn other text earlier after → before.length ≤ earlier.length

variable {reference first : Reference} {text before earlier after : Text}

/-- Where a reference stands, there is a first one in its word. By induction on what is before it:
    if it is not the first itself, another one begins earlier. -/
theorem StandsIn.exists_firstIn (stands : reference.StandsIn text before after) :
    ∃ earlier first, FirstIn first text earlier after := by
  induction length : before.length using Nat.strongRecOn generalizing reference before with
  | ind n ih =>
    by_cases foremost : ∀ earlier other, StandsIn other text earlier after →
        before.length ≤ earlier.length
    · exact ⟨before, reference, stands, foremost⟩
    · simp only [Classical.not_forall, Nat.not_le] at foremost
      obtain ⟨earlier, other, standing, shorter⟩ := foremost
      exact ih earlier.length (length ▸ shorter) standing rfl

/-- A reference is part of the first one of its word. Both end at the same place, so what is behind
    the longer beginning is the end of what is behind the shorter one. -/
theorem FirstIn.exists_within (foremost : first.FirstIn text earlier after)
    (stands : reference.StandsIn text before after) :
    ∃ skipped, before = earlier ++ skipped ∧ first.render = skipped ++ reference.render := by
  have same : earlier ++ (first.render ++ after) = before ++ (reference.render ++ after) := by
    rw [← foremost.whole, ← stands.whole]
  obtain ⟨skipped, rfl⟩ : earlier <+: before :=
    List.prefix_of_prefix_length_le ⟨_, same⟩ ⟨_, rfl⟩ (foremost.first before reference stands)
  refine ⟨skipped, rfl, ?_⟩
  rw [List.append_assoc, List.append_cancel_left_eq, ← List.append_assoc,
    List.append_cancel_right_eq] at same
  exact same

/-- Behind the sign that it begins with, a reference has a sign in its resource only.

    Proof: the sign stands in what is rendered behind the first character. There is none in the
    marker, whatever the loading. The protocol is accepted as a name, and a sign is not part of a
    name. The separator is the same for all references and has none either. -/
theorem sign_mem_resource {skipped rest : Text} (named : Name.accepts reference.protocol = true)
    (shape : reference.render = skipped ++ '@' :: rest) (later : skipped ≠ []) :
    '@' ∈ reference.resource := by
  obtain ⟨c, between, rfl⟩ := List.exists_cons_of_ne_nil later
  have unnamed : '@' ∉ reference.protocol := by
    intro member
    have letter := Name.continuesWith_of_mem named member
    exact absurd letter (by decide)
  have sign : '@' ∈ reference.render.tail := by
    rw [shape, List.cons_append, List.tail_cons]
    exact List.mem_append_right _ List.mem_cons_self
  have among : '@' ∈ reference.loading.marker.tail ∨ '@' ∈ reference.protocol ∨
      '@' ∈ Key.separator ∨ '@' ∈ reference.resource := by
    have tail : reference.render.tail = reference.loading.marker.tail ++ reference.key.render := by
      unfold render
      cases reference.loading <;> rfl
    rw [tail] at sign
    simpa only [key, Key.render, List.mem_append, or_assoc] using sign
  rcases among with inMarker | inProtocol | inSeparator | inResource
  · have signless : ∀ loading : Loading, '@' ∉ loading.marker.tail := by
      intro loading
      cases loading <;> decide
    exact absurd inMarker (signless _)
  · exact absurd inProtocol unnamed
  · exact absurd inSeparator (by decide)
  · exact inResource

end Reference

/-! ## The first of a word decides -/

/-- A byte of a piece is covered exactly if the piece is a reference. The references among the
    pieces before it end where it begins at the latest, and those behind it begin where it ends. -/
theorem covered_iff {text : Text} {parts later : List Piece} {piece : Piece}
    (whole : pieces text = parts ++ piece :: later) {position : Nat}
    (behind : Text.byteSize (parts.flatMap Piece.render) ≤ position)
    (before : position <
      Text.byteSize (parts.flatMap Piece.render) + Text.byteSize piece.render) :
    Covered text position ↔ ∃ reference, piece = .reference reference := by
  constructor
  · rintro ⟨token, member, begun, ended⟩
    rw [tokens, whole, tokensFrom_append, Nat.zero_add, List.mem_append] at member
    rcases member with among | later
    · obtain ⟨front, back, rfl, starts, stops⟩ := mem_tokensFrom.mp among
      simp [Piece.render] at behind
      omega
    · cases piece with
      | reference reference => exact ⟨reference, rfl⟩
      | prose c =>
        rw [tokensFrom] at later
        obtain ⟨front, _, _, starts, _⟩ := mem_tokensFrom.mp later
        simp [Piece.render] at before
        omega
  · rintro ⟨reference, rfl⟩
    let token : Token := ⟨reference, Text.byteSize (parts.flatMap Piece.render),
      Text.byteSize (parts.flatMap Piece.render) + Text.byteSize reference.render⟩
    refine ⟨token, mem_tokensFrom.mpr ⟨parts, later, whole, ?_, rfl⟩, behind, before⟩
    rw [Nat.zero_add]

/-- A text is cut behind the last of its characters that end a word. If there is none, the cut is at
    its beginning. -/
theorem exists_cut_behind_gap (before : Text) :
    ∃ front lead, before = front ++ lead ∧
      (∀ c, front.getLast? = some c → endsWord c = true) ∧ ∀ c ∈ lead, endsWord c = false := by
  obtain ⟨lead, whole, inside⟩ := Text.trimEnd_append (fun c => !endsWord c) before
  refine ⟨_, lead, whole, ?_, by simpa using inside⟩
  intro c last
  simpa using Text.last_trimEnd last

/-- In a word, characters at which no reference can be read are prose, and what is behind them is
    scanned in view of the last of them. -/
theorem wordPieces_append {lead rest : Text} (unread : ∀ skipped c tail,
      lead = skipped ++ c :: tail → Reference.marked? (c :: (tail ++ rest)) = none)
    (before : Option Char) :
    wordPieces before (lead ++ rest) =
      lead.map .prose ++ wordPieces (lead.getLast?.or before) rest := by
  induction lead generalizing before with
  | nil => rfl
  | cons c tail ih =>
    have here : Reference.marked? (c :: (tail ++ rest)) = none := unread [] c tail rfl
    have later : ∀ skipped d behind, tail = skipped ++ d :: behind →
        Reference.marked? (d :: (behind ++ rest)) = none := by
      rintro skipped d behind rfl
      exact unread (c :: skipped) d behind rfl
    have further := ih later
    simp only [List.cons_append, wordPieces, here, further, List.map_cons, List.getLast?_cons]
    cases tail.getLast? <;> rfl

namespace Reference

variable {reference first : Reference} {text before earlier after : Text}

/-- At no character of the same word before the first reference can a reference be read. It would go
    on to the end of the word and stand there earlier than the first one. -/
theorem FirstIn.unread {front lead : Text} (foremost : first.FirstIn text (front ++ lead) after)
    (inside : ∀ c ∈ lead ++ first.render, endsWord c = false) {skipped : Text} {c : Char}
    {tail : Text} (split : lead = skipped ++ c :: tail) :
    marked? (c :: (tail ++ first.render)) = none := by
  rw [Option.eq_none_iff_forall_ne_some]
  intro other read
  obtain ⟨shape, named, nonempty⟩ := marked?_eq_some_iff.mp read
  have whole : text = (front ++ skipped) ++ (other.render ++ after) := by
    rw [foremost.whole, split, ← shape]
    simp
  have goesOn : ∀ d ∈ other.resource, endsWord d = false := by
    intro d member
    have among : d ∈ c :: (tail ++ first.render) := by
      rw [shape]
      exact mem_render member
    apply inside
    rw [split, List.append_assoc]
    exact List.mem_append_right _ among
  have shorter := foremost.first _ other ⟨whole, named, nonempty, goesOn, foremost.ends⟩
  rw [split] at shorter
  simp only [List.length_append, List.length_cons] at shorter
  omega

/-- Up to the first reference of a word, the word is prose.

    Proof: the text before the reference is cut behind its last character that ends a word. No word
    goes on there or behind the reference, so the parts are scanned one by one. In the part of the
    word before the reference nothing can be read (`FirstIn.unread`), so it is prose, and the
    reference is scanned in view of the character before it. -/
theorem FirstIn.pieces_eq (foremost : first.FirstIn text earlier after) :
    ∃ parts, parts.flatMap Piece.render = earlier ∧
      pieces text = parts ++ (wordPieces earlier.getLast? first.render ++ pieces after) := by
  obtain ⟨front, lead, rfl, ends, goesOn⟩ := exists_cut_behind_gap earlier
  have inside : ∀ c ∈ lead ++ first.render, endsWord c = false :=
    List.forall_mem_append.mpr ⟨goesOn, inside_render foremost.named foremost.inside⟩
  have opens : Apart front ((lead ++ first.render) ++ after) :=
    fun c _ last _ => .inl (ends c last)
  have closes : Apart (lead ++ first.render) after := fun _ d _ head => .inr (foremost.ends d head)
  -- A character that ends a word glues nothing, so it does not matter that it is left out.
  have known : wordPieces (lead.getLast?.or none) first.render =
      wordPieces (front ++ lead).getLast? first.render := by
    rw [List.getLast?_append]
    cases lead.getLast? with
    | some c => rfl
    | none =>
      symm
      apply wordPieces_of_unglued
      cases last : front.getLast? with
      | none => rfl
      | some c => exact isAlphanumeric_of_endsWord (ends c last)
  refine ⟨pieces front ++ lead.map .prose, ?_, ?_⟩
  · rw [List.flatMap_append, render_pieces, render_prose]
  · have word : pieces (lead ++ first.render) =
        lead.map .prose ++ wordPieces (front ++ lead).getLast? first.render := by
      rw [pieces_of_inside inside, wordPieces_append (fun _ _ _ => foremost.unread inside), known]
    have parts : text = front ++ ((lead ++ first.render) ++ after) := by
      rw [foremost.whole, List.append_assoc, List.append_assoc]
    rw [parts, pieces_append opens, pieces_append closes, word]
    simp only [List.append_assoc]

/-- A reference to more than punctuation is cut from the punctuation at the end of its word.
    Something is left of its resource. -/
theorem exists_cutTrailing {raw : Reference} (spoken : ∃ c ∈ raw.resource, isTrailing c = false) :
    ∃ bare trailing, cutTrailing raw = some (bare, trailing) ∧
      ∀ c ∈ trailing, isTrailing c = true := by
  obtain ⟨c, member, other⟩ := spoken
  have kept : Text.trimEnd isTrailing raw.resource ≠ [] :=
    List.ne_nil_of_mem (Text.mem_trimEnd member other)
  refine ⟨⟨raw.loading, raw.protocol, Text.trimEnd isTrailing raw.resource⟩,
    raw.resource.drop (Text.trimEnd isTrailing raw.resource).length, ?_, ?_⟩
  · simp [cutTrailing, kept]
  · intro d cut
    exact Text.of_mem_drop_trimEnd cut

/-- The first reference of a word is to more than punctuation if one is that it covers. It is that
    reference itself, or it has the sign of the other in its resource. -/
theorem FirstIn.spoken (foremost : first.FirstIn text earlier after)
    (stands : reference.StandsIn text before after) {skipped : Text}
    (shape : first.render = skipped ++ reference.render)
    (spoken : ∃ c ∈ reference.resource, isTrailing c = false) :
    ∃ c ∈ first.resource, isTrailing c = false := by
  by_cases alone : skipped = []
  · have whole : first.render = reference.render := by
      rw [shape, alone, List.nil_append]
    have read := marked?_eq_some_iff.mpr ⟨rfl, foremost.named, foremost.nonempty⟩
    rw [whole, marked?_eq_some_iff.mpr ⟨rfl, stands.named, stands.nonempty⟩] at read
    cases read
    exact spoken
  · obtain ⟨rest, sign⟩ := reference.exists_render_eq
    rw [sign] at shape
    exact ⟨'@', sign_mem_resource foremost.named shape alone, by decide⟩

end Reference

/-- What is cut from the end of a reference holds no reference, so the first one of a word goes on
    beyond the sign of each that it covers. The sign is no punctuation. -/
theorem byteSize_lt_of_cut {bare full skipped trailing rest : Text}
    (whole : bare ++ trailing = full) (punctuation : ∀ c ∈ trailing, isTrailing c = true)
    (shape : full = skipped ++ '@' :: rest) : Text.byteSize skipped < Text.byteSize bare := by
  have signless : '@' ∉ trailing := fun member => absurd (punctuation '@' member) (by decide)
  rw [shape, List.append_eq_append_iff] at whole
  rcases whole with ⟨cut, rfl, same⟩ | ⟨kept, rfl, same⟩
  · rw [same] at signless
    simp at signless
  · cases kept with
    | nil =>
      rw [List.nil_append] at same
      rw [← same] at signless
      simp at signless
    | cons c kept =>
      have positive := Char.utf8Size_pos c
      rw [Text.byteSize_append, Text.byteSize_cons]
      omega

section Decides

variable {reference first : Reference} {text before earlier after : Text}

/-- If the first reference of a word is glued, the signs of all that stand in the word are prose.
    The whole word is. -/
theorem Reference.FirstIn.not_covered (foremost : first.FirstIn text earlier after)
    (stands : reference.StandsIn text before after) (glued : glues earlier = true) :
    ¬ Covered text (Text.byteSize before) := by
  obtain ⟨skipped, rfl, shape⟩ := foremost.exists_within stands
  obtain ⟨parts, rendered, whole⟩ := foremost.pieces_eq
  obtain ⟨rest, sign⟩ := reference.exists_render_eq
  have prose : pieces text = (parts ++ skipped.map Piece.prose) ++
      Piece.prose '@' :: (rest.map Piece.prose ++ pieces after) := by
    rw [whole, wordPieces_of_glued glued foremost.named foremost.nonempty, shape, sign]
    simp
  have place : (parts ++ skipped.map Piece.prose).flatMap Piece.render = earlier ++ skipped := by
    rw [List.flatMap_append, rendered, render_prose]
  have positive : 0 < Text.byteSize (Piece.prose '@').render := by
    decide
  rw [covered_iff prose]
  · rintro ⟨_, same⟩
    cases same
  · exact Nat.le_of_eq (congrArg Text.byteSize place)
  · rw [place]
    omega

/-- If it is not glued, it is found, and it covers the signs of the others. Of its word only the
    punctuation at the end is left to the prose. -/
theorem Reference.FirstIn.covered (foremost : first.FirstIn text earlier after)
    (stands : reference.StandsIn text before after)
    (spoken : ∃ c ∈ reference.resource, isTrailing c = false) (unglued : glues earlier = false) :
    Covered text (Text.byteSize before) := by
  obtain ⟨skipped, rfl, shape⟩ := foremost.exists_within stands
  obtain ⟨parts, rendered, whole⟩ := foremost.pieces_eq
  obtain ⟨rest, sign⟩ := reference.exists_render_eq
  obtain ⟨bare, trailing, cut, punctuation⟩ :=
    exists_cutTrailing (foremost.spoken stands shape spoken)
  rw [wordPieces_of_cut unglued foremost.named foremost.nonempty cut, List.cons_append] at whole
  rw [sign] at shape
  have beyond : Text.byteSize skipped < Text.byteSize (Piece.reference bare).render :=
    byteSize_lt_of_cut (render_cutTrailing cut) punctuation shape
  rw [covered_iff whole]
  · exact ⟨bare, rfl⟩
  · rw [rendered, Text.byteSize_append]
    omega
  · rw [rendered, Text.byteSize_append]
    omega

end Decides

/-- A reference to more than punctuation that stands in a text is found there, or is part of another
    reference that is found and begins before it, exactly if the first reference of its word is not
    glued to a letter or number.

    Proof: there is a first reference in the word (`StandsIn.exists_firstIn`). If it is glued the
    sign is not covered, and if it is not glued the sign is covered, so the one excludes the
    other. -/
theorem covered_iff_unglued {reference : Reference} {text before after : Text}
    (stands : reference.StandsIn text before after)
    (spoken : ∃ c ∈ reference.resource, isTrailing c = false) :
    Covered text (Text.byteSize before) ↔
      ∃ earlier first, Reference.FirstIn first text earlier after ∧ glues earlier = false := by
  constructor
  · intro covered
    obtain ⟨earlier, first, foremost⟩ := stands.exists_firstIn
    refine ⟨earlier, first, foremost, ?_⟩
    cases glued : glues earlier with
    | false => rfl
    | true => exact absurd covered (foremost.not_covered stands glued)
  · rintro ⟨earlier, first, foremost, unglued⟩
    exact foremost.covered stands spoken unglued

/-- A note whose address ends a longer address. -/
def innerNote : Reference :=
  ⟨.standard, "note".toList, "a".toList⟩

/-- It is to more than punctuation. -/
theorem innerNote_spoken : ∃ c ∈ innerNote.resource, isTrailing c = false :=
  ⟨'a', List.mem_singleton_self _, rfl⟩

/-- The longer address covers the note, which ends where it does. It is the first reference of its
    word, and the note stands in its resource. -/
theorem inner_note_covered :
    innerNote.StandsIn "@mail://x/@note://a".toList "@mail://x/".toList [] ∧
      Covered "@mail://x/@note://a".toList (Text.byteSize "@mail://x/".toList) := by
  have stands : innerNote.StandsIn "@mail://x/@note://a".toList "@mail://x/".toList [] :=
    ⟨rfl, rfl, by decide, inside_of_all rfl, by simp⟩
  have outer : Reference.FirstIn ⟨.standard, "mail".toList, "x/@note://a".toList⟩
      "@mail://x/@note://a".toList [] [] :=
    ⟨⟨rfl, rfl, by decide, inside_of_all rfl, by simp⟩, fun _ _ _ => Nat.zero_le _⟩
  exact ⟨stands, (covered_iff_unglued stands innerNote_spoken).mpr ⟨[], _, outer, rfl⟩⟩

/-- In a mail address, whose sign is glued, the same note is found nowhere, though nothing that it
    could be glued to stands before it. -/
theorem inner_note_lost :
    innerNote.StandsIn "me@mail://x/@note://a".toList "me@mail://x/".toList [] ∧
      (∃ c ∈ innerNote.resource, isTrailing c = false) ∧
      glues "me@mail://x/".toList = false ∧
      ¬ Covered "me@mail://x/@note://a".toList (Text.byteSize "me@mail://x/".toList) := by
  have none : tokens "me@mail://x/@note://a".toList = [] := by
    decide
  refine ⟨⟨rfl, rfl, by decide, inside_of_all rfl, by simp⟩, innerNote_spoken, rfl, ?_⟩
  rintro ⟨token, member, _⟩
  rw [none] at member
  cases member

end RoleWeave
