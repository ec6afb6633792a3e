import RoleWeave.Diagram.Label
import RoleWeave.Proofs.Text.Splitting

/-!
# The characters of labels

A label holds no delimiter and no blank but single spaces, and it does not begin with one. So it
stays on its line, and the blanks in front of it are all that its line is indented by.
-/

namespace RoleWeave

/-- The words of a text are not empty and hold no blank: they are the parts between its blanks,
    without the empty ones. -/
theorem Text.unblank_of_mem_words {text word : Text} (member : word ∈ Text.words text) :
    word ≠ [] ∧ ∀ c ∈ word, c ∈ text ∧ Text.isBlank c = false := by
  obtain ⟨part, kept⟩ := List.mem_filter.mp member
  exact ⟨by simpa using kept, fun c inside => Text.of_mem_split part inside⟩

/-- What is joined of words begins with the first character of the first word, so not with a blank.
    The separator comes behind the first word, which is not empty. -/
theorem Text.head_join {words : List Text}
    (solid : ∀ word ∈ words, word ≠ [] ∧ ∀ c ∈ word, Text.isBlank c = false) {c : Char}
    (first : (Text.join [' '] words).head? = some c) : Text.isBlank c = false := by
  cases words with
  | nil => cases first
  | cons word later =>
    obtain ⟨nonempty, unblank⟩ := solid word List.mem_cons_self
    have begins : word.head? = some c := by
      cases later with
      | nil => rwa [Text.join, List.intercalate_singleton] at first
      | cons second others =>
        obtain ⟨d, rest, rfl⟩ := List.exists_cons_of_ne_nil nonempty
        rw [Text.join, List.intercalate_cons_cons, List.append_assoc] at first
        exact first
    exact unblank c (List.mem_of_head? begins)

/-- No two spaces meet in or behind a word if none meet in what is behind it. The first of two
    spaces that stand side by side would be a character of the word, or they would stand in what
    follows. -/
theorem Text.single_append {word rest : Text} (solid : ∀ c ∈ word, Text.isBlank c = false)
    (single : ¬ [' ', ' '] <:+: rest) : ¬ [' ', ' '] <:+: word ++ rest := by
  induction word with
  | nil => exact single
  | cons c word ih =>
    obtain ⟨here, later⟩ := List.forall_mem_cons.mp solid
    rw [List.cons_append, List.infix_cons_iff]
    rintro (begins | further)
    · obtain ⟨rfl, _⟩ := List.cons_prefix_cons.mp begins
      revert here
      decide
    · exact ih later further

/-- No two spaces meet where words are joined by single spaces.

    Proof: by induction on the words. A word holds no blank, and the space behind it is followed by
    the first character of the next word, which by `Text.head_join` is no blank. -/
theorem Text.single_join {words : List Text}
    (solid : ∀ word ∈ words, word ≠ [] ∧ ∀ c ∈ word, Text.isBlank c = false) :
    ¬ [' ', ' '] <:+: Text.join [' '] words := by
  induction words with
  | nil => simp [Text.join]
  | cons word later ih =>
    obtain ⟨⟨_, here⟩, others⟩ := List.forall_mem_cons.mp solid
    cases later with
    | nil =>
      rw [Text.join, List.intercalate_singleton, ← List.append_nil word]
      exact Text.single_append here (by simp)
    | cons second later =>
      rw [Text.join, List.intercalate_cons_cons, List.append_assoc, ← Text.join]
      refine Text.single_append here ?_
      rw [List.singleton_append, List.infix_cons_iff]
      rintro (begins | further)
      · obtain ⟨rest, shape⟩ := (List.cons_prefix_cons.mp begins).2
        have first := Text.head_join others (by rw [← shape]; rfl)
        revert first
        decide
      · exact ih others further

namespace Diagram

/-- A character of a label is a space, or neither a delimiter nor a blank. A character of a word was
    either written in the text or stands for a delimiter; but what stands for a delimiter is a
    space, and a word has none. -/
theorem of_mem_label {text : Text} {c : Char} (inside : c ∈ label text) :
    c = ' ' ∨ isDelimiter c = false ∧ Text.isBlank c = false := by
  rcases Text.of_mem_join inside with between | ⟨word, member, deeper⟩
  · exact .inl (List.mem_singleton.mp between)
  · obtain ⟨shown, unblank⟩ := (Text.unblank_of_mem_words member).2 c deeper
    obtain ⟨original, _, rfl⟩ := List.mem_map.mp shown
    refine .inr ⟨?_, unblank⟩
    by_cases delimits : isDelimiter original = true
    · rw [if_pos delimits] at unblank
      exact absurd unblank (by decide)
    · rw [if_neg delimits]
      simpa using delimits

/-- A label is inert. -/
theorem inert_label (text : Text) : Inert (label text) := by
  intro c inside
  rcases of_mem_label inside with space | ⟨undelimiting, unblank⟩
  · exact ⟨space ▸ by decide, .inl space⟩
  · exact ⟨undelimiting, .inr unblank⟩

/-- A label stays inert when it is clipped. Only an ellipsis is added, which is no delimiter and no
    blank. -/
theorem inert_clip_label (limit : Nat) (text : Text) : Inert (clip limit (label text)) := by
  rw [clip]
  split
  · exact inert_label text
  · refine ((inert_label text).subset (List.take_subset _ _)).append ?_
    exact List.forall_mem_singleton.mpr (by decide)

/-- The words of a label are not empty and hold no blank. -/
theorem solid_words {text : Text} :
    ∀ word ∈ Text.words (text.map (fun c => if isDelimiter c then ' ' else c)),
      word ≠ [] ∧ ∀ c ∈ word, Text.isBlank c = false := fun _ member =>
  ⟨(Text.unblank_of_mem_words member).1, fun c inside =>
    ((Text.unblank_of_mem_words member).2 c inside).2⟩

/-- A label does not begin with a blank, since it begins with its first word. -/
theorem head_label {text : Text} {c : Char} (first : (label text).head? = some c) :
    Text.isBlank c = false :=
  Text.head_join solid_words first

/-- The spaces in a label are single. -/
theorem single_label (text : Text) : ¬ [' ', ' '] <:+: label text :=
  Text.single_join solid_words

end Diagram

end RoleWeave
