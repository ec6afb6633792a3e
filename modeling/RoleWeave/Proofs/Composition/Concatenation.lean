import RoleWeave.Composition.Role
import RoleWeave.Proofs.Library.Settled
import RoleWeave.Proofs.Reference.Words

/-!
# Composing a text part by part

A text that is cut at a blank can be composed part by part: the second part goes on with the world
and the pass that the first one left, and the texts are put one behind the other. Where a fault ends
the first part, the second is not come to.

What a text is composed to depends on the outcomes of the references that it inlines and on
nothing else. They are come to one after another, as if there were no text around them. The text
is cut at the places of its references, and what is shown of each outcome is put where its
reference stood; all else stays as it was written, pointers among it (`weave_eq_inlineAll`).
-/

namespace RoleWeave

namespace Composition

variable {σ : Type}

/-! ## Pieces in two parts -/

/-- Pieces are composed one behind the other. The later ones go on with what the earlier ones have
    left, by induction on the earlier ones. -/
theorem weave_append (inline : Reference → Step (Weaving σ) Inline) (first second : List Piece) :
    weave inline (first ++ second) = (do
      let text ← weave inline first
      let more ← weave inline second
      return text ++ more) := by
  induction first with
  | nil => simp [weave]
  | cons piece later ih =>
    cases piece with
    | prose c => simp only [List.cons_append, weave, ih, bind_assoc, pure_bind]
    | reference reference =>
      simp only [List.cons_append, weave, ih]
      split
      · simp only [bind_assoc, pure_bind, List.append_assoc]
      · simp only [bind_assoc, pure_bind, List.append_assoc]

/-- A text without a reference to be inlined is composed to itself, and changes nothing. All that it
    refers to are pointers, which are written as they stand. -/
theorem weave_of_pointers (inline : Reference → Step (Weaving σ) Inline) {text : Text}
    (pointers : inlined text = []) : weave inline (pieces text) = pure text := by
  have plain : ∀ reference, Piece.reference reference ∈ pieces text →
      reference.loading.inlines = false := by
    intro reference member
    have scanned : reference ∈ references text := List.mem_filterMap.mpr ⟨_, member, rfl⟩
    have pointer := List.filter_eq_nil_iff.mp pointers reference scanned
    simpa using pointer
  funext weaving
  have composed := weave_plain inline (pieces text) plain weaving
  rwa [render_pieces] at composed

/-- One of two texts has a blank where they meet. -/
def MeetAtBlank (first second : Text) : Prop :=
  (∃ c, first.getLast? = some c ∧ Text.isBlank c = true) ∨
    ∃ c, second.head? = some c ∧ Text.isBlank c = true

/-- A blank ends a word, so no word goes on from the first text into the second. It does not matter
    to which of the two the blank belongs. -/
theorem MeetAtBlank.apart {first second : Text} (meet : MeetAtBlank first second) :
    Apart first second := by
  have ends {c : Char} (blank : Text.isBlank c = true) : endsWord c = true := by
    rw [endsWord, blank, Bool.true_or]
  intro c d last head
  rcases meet with ⟨_, same, blank⟩ | ⟨_, same, blank⟩
  · rw [last, Option.some.injEq] at same
    exact .inl (ends (same ▸ blank))
  · rw [head, Option.some.injEq] at same
    exact .inr (ends (same ▸ blank))

variable {provider : Provider σ} {limit : Nat}

/-- A text that is cut at a blank is composed part by part. Its pieces are those of the parts, and
    pieces are composed one after the other. -/
theorem composeText_append {first second : Text} (meet : MeetAtBlank first second) :
    composeText provider limit (first ++ second) = (do
      let text ← composeText provider limit first
      let more ← composeText provider limit second
      return text ++ more) := by
  rw [composeText, pieces_append meet.apart, weave_append]
  rfl

/-! ## References apart from the text around them -/

/-- The references among pieces that are to be inlined. -/
def inlinedAmong (parts : List Piece) : List Reference :=
  (parts.filterMap Piece.reference?).filter (fun reference => reference.loading.inlines)

/-- Pieces with what is shown of outcomes in place of the references that are to be inlined. -/
def shownAmong : List Piece → List Inline → Text
  | [], _ => []
  | .prose c :: later, outcomes => c :: shownAmong later outcomes
  | .reference reference :: later, outcomes =>
      if reference.loading.inlines then
        match outcomes with
        | [] => []
        | outcome :: others => outcome.shown ++ shownAmong later others
      else reference.render ++ shownAmong later outcomes

/-- To compose pieces is to inline their references one after another. What is shown of the outcomes
    is put in the places of the references afterwards. By induction on the pieces. -/
theorem weave_eq_inlineAll (parts : List Piece) :
    weave (inlineAt provider limit 0) parts =
      shownAmong parts <$> inlineAll provider limit (inlinedAmong parts) := by
  induction parts with
  | nil => simp [weave, inlinedAmong, inlineAll, shownAmong]
  | cons piece later ih =>
    cases piece with
    | prose c =>
      have same : inlinedAmong (.prose c :: later) = inlinedAmong later := rfl
      simp [weave, same, ih, shownAmong]
    | reference reference =>
      by_cases inlines : reference.loading.inlines = true
      · have first : inlinedAmong (.reference reference :: later) =
            reference :: inlinedAmong later := by
          simp [inlinedAmong, Piece.reference?, inlines]
        simp [weave, first, inlineAll, ih, shownAmong, inlines]
      · have same : inlinedAmong (.reference reference :: later) = inlinedAmong later := by
          simp [inlinedAmong, Piece.reference?, inlines]
        simp [weave, same, ih, shownAmong, inlines]

/-- There is one outcome for each reference, if no fault ends the sequence. By induction on the
    references, of which each is inlined once. -/
theorem length_of_inlineAll {references : List Reference} {weaving final : Weaving σ}
    {outcomes : List Inline}
    (ran : (inlineAll provider limit references).run weaving = (.ok outcomes, final)) :
    outcomes.length = references.length := by
  induction references generalizing weaving outcomes with
  | nil =>
    cases ran
    rfl
  | cons reference later ih =>
    obtain ⟨outcome, changed, _, further⟩ := Step.ok_of_bind ran
    obtain ⟨others, ended, rest, same⟩ := Step.ok_of_bind further
    cases same
    rw [List.length_cons, List.length_cons, ih rest]

/-- Composition goes along with a text. A text that is cut at a blank is composed to what its parts
    are composed to one after the other, the second from the world and the pass that the first has
    left; a fault in the first ends the whole. A text without references to inline is composed to
    itself, and changes nothing. Of any other text, the references to inline are come to one after
    another; there is one outcome for each, and what is shown of them takes their places in the
    text, which stays as it is everywhere else.

    Proof: at a blank the pieces of the whole are those of the parts (`composeText_append`), and
    `weave_append` composes them one behind the other. A text all of whose tokens are lazy has
    nothing to inline (`weave_of_pointers`). For any text `weave_eq_inlineAll` tells apart what
    inlining does from what is written, and the pieces are what the text is cut into at its
    tokens. -/
theorem composition_distributes (provider : Provider σ) (limit : Nat) (tag : Tag)
    (weaving : Weaving σ) :
    (∀ first second, MeetAtBlank first second →
      (composeBlock provider limit ⟨tag, first ++ second⟩).run weaving =
        match (composeBlock provider limit ⟨tag, first⟩).run weaving with
        | (.error fault, changed) => (.error fault, changed)
        | (.ok text, changed) =>
            match (composeBlock provider limit ⟨tag, second⟩).run changed with
            | (.error fault, final) => (.error fault, final)
            | (.ok more, final) => (.ok (text ++ more), final)) ∧
    (∀ text, (∀ token ∈ tokens text, token.reference.loading = .lazy) →
      (composeBlock provider limit ⟨tag, text⟩).run weaving = (.ok text, weaving)) ∧
    ∀ text,
      match (inlineAll provider limit (inlined text)).run weaving with
      | (.error fault, changed) =>
          (composeBlock provider limit ⟨tag, text⟩).run weaving = (.error fault, changed)
      | (.ok outcomes, changed) =>
          outcomes.length = (inlined text).length ∧
          ∃ parts, cutAt? text 0 (tokens text) = some parts ∧
            (composeBlock provider limit ⟨tag, text⟩).run weaving =
              (.ok (shownAmong parts outcomes), changed) := by
  refine ⟨?_, ?_, ?_⟩
  · intro first second meet
    simp only [composeBlock]
    rw [composeText_append meet, Step.run_bind]
    rcases (composeText provider limit first).run weaving with ⟨fault | text, changed⟩
    · rfl
    · simp only
      rw [bind_pure_comp, Step.run_map]
      rcases (composeText provider limit second).run changed with ⟨fault | more, final⟩ <;> rfl
  · intro text pointers
    have none : inlined text = [] := by
      rw [inlined, List.filter_eq_nil_iff, references_eq_map_tokens]
      intro reference scanned
      obtain ⟨token, placed, rfl⟩ := List.mem_map.mp scanned
      rw [pointers token placed]
      decide
    rw [composeBlock, composeText, weave_of_pointers _ none]
    rfl
  · intro text
    have composed : (composeBlock provider limit ⟨tag, text⟩).run weaving = _ :=
      congrArg (fun step => Step.run step weaving) (weave_eq_inlineAll (pieces text))
    have same : inlinedAmong (pieces text) = inlined text := rfl
    rw [Step.run_map, same] at composed
    rcases ran : (inlineAll provider limit (inlined text)).run weaving with
      ⟨fault | outcomes, changed⟩
    · rw [ran] at composed
      exact composed
    · rw [ran] at composed
      exact ⟨length_of_inlineAll ran, pieces text, cutAt?_tokens text, composed⟩

/-- A library with one document. -/
def greetingLibrary : Library :=
  Library.ofFiles "doc".toList [("a".toList, " Hello ".toList)]

/-- A text that is cut at a blank, where both parts refer to the same document: the reference in the
    second part is left out, and the pointer stays. The whole comes to both parts one behind the
    other. -/
theorem greeting_in_parts :
    MeetAtBlank "(@doc://a!)".toList " @?doc://a @doc://a.".toList ∧
      ∃ middle final,
        (composeBlock Library.provider 8 ⟨.knowledge, "(@doc://a!)".toList⟩).run
          ⟨greetingLibrary, Pass.new⟩ = (.ok "(Hello!)".toList, middle) ∧
        (composeBlock Library.provider 8 ⟨.knowledge, " @?doc://a @doc://a.".toList⟩).run
          middle = (.ok " @?doc://a .".toList, final) ∧
        (composeBlock Library.provider 8
            ⟨.knowledge, "(@doc://a!)".toList ++ " @?doc://a @doc://a.".toList⟩).run
          ⟨greetingLibrary, Pass.new⟩ = (.ok "(Hello!) @?doc://a .".toList, final) := by
  have meet : MeetAtBlank "(@doc://a!)".toList " @?doc://a @doc://a.".toList :=
    .inr ⟨' ', rfl, rfl⟩
  have one : ((composeBlock Library.provider 8 ⟨.knowledge, "(@doc://a!)".toList⟩).run
      ⟨greetingLibrary, Pass.new⟩).1.toOption = some "(Hello!)".toList := by decide +kernel
  have two : ((composeBlock Library.provider 8 ⟨.knowledge, " @?doc://a @doc://a.".toList⟩).run
      ((composeBlock Library.provider 8 ⟨.knowledge, "(@doc://a!)".toList⟩).run
        ⟨greetingLibrary, Pass.new⟩).2).1.toOption = some " @?doc://a .".toList := by
    decide +kernel
  obtain ⟨distributes, _, _⟩ := composition_distributes Library.provider 8 .knowledge
    ⟨greetingLibrary, Pass.new⟩
  have whole := distributes _ _ meet
  rcases ranOne : (composeBlock Library.provider 8 ⟨.knowledge, "(@doc://a!)".toList⟩).run
    ⟨greetingLibrary, Pass.new⟩ with ⟨fault | text, middle⟩
  · rw [ranOne] at one
    cases one
  · rw [ranOne] at one two whole
    cases one
    rcases ranTwo : (composeBlock Library.provider 8
      ⟨.knowledge, " @?doc://a @doc://a.".toList⟩).run middle with ⟨fault | more, final⟩
    · rw [ranTwo] at two
      cases two
    · rw [ranTwo] at two
      cases two
      simp only [ranTwo] at whole
      exact ⟨meet, middle, final, rfl, ranTwo, whole⟩

end Composition

end RoleWeave
