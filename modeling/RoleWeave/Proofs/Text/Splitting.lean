import RoleWeave.Text.Basic

/-!
# Cutting texts and joining them

A text is cut at every character with a property. The parts hold no such character, and what is cut
is where two texts were put one behind the other with such a character between them.
-/

namespace RoleWeave.Text

/-- Cutting a text is splitting it as a list. So what the library knows about splitting lists holds
    for the parts of texts. -/
theorem split_eq_splitOnP (p : Char → Bool) (text : Text) : split p text = text.splitOnP p := by
  induction text with
  | nil => rfl
  | cons c rest ih =>
    rw [split, List.splitOnP_cons_eq_if_modifyHead, ← ih]
    split
    · rfl
    · cases parts : split p rest with
      | nil => exact absurd parts (split_ne_nil p rest)
      | cons part later => rfl

/-- The characters of the parts of a text are those at which it is not cut: nothing is added to the
    parts, and no cut is left in one.

    Proof: by induction on the text. The first character is a cut, and then the first part is empty;
    or it begins the first part, and the other characters of that part are characters of the
    rest. -/
theorem of_mem_split {p : Char → Bool} {text part : Text} (member : part ∈ split p text) {c : Char}
    (inside : c ∈ part) : c ∈ text ∧ p c = false := by
  induction text generalizing part with
  | nil =>
    rw [split, List.mem_singleton] at member
    subst member
    cases inside
  | cons first rest ih =>
    rw [split] at member
    split at member
    · rcases List.mem_cons.mp member with rfl | later
      · cases inside
      · exact ⟨List.mem_cons_of_mem _ (ih later inside).1, (ih later inside).2⟩
    · rename_i kept
      cases parts : split p rest with
      | nil => exact absurd parts (split_ne_nil p rest)
      | cons found others =>
        simp only [parts] at member
        rcases List.mem_cons.mp member with rfl | later
        · rcases List.mem_cons.mp inside with rfl | deeper
          · exact ⟨List.mem_cons_self, by simpa using kept⟩
          · have known := ih (parts ▸ List.mem_cons_self) deeper
            exact ⟨List.mem_cons_of_mem _ known.1, known.2⟩
        · have known := ih (parts ▸ List.mem_cons_of_mem _ later) inside
          exact ⟨List.mem_cons_of_mem _ known.1, known.2⟩

/-- Two properties cut a text in the same way if they agree on its characters. -/
theorem split_congr {p q : Char → Bool} {text : Text} (agree : ∀ c ∈ text, p c = q c) :
    split p text = split q text := by
  induction text with
  | nil => rfl
  | cons c rest ih =>
    rw [split, split, agree c List.mem_cons_self,
      ih (fun other member => agree other (List.mem_cons_of_mem c member))]

/-- A character of joined texts is one of a part or of the separator. Joining adds nothing else, so
    what is known of all parts and of the separator is known of the whole. -/
theorem of_mem_join {separator : Text} {parts : List Text} {c : Char}
    (inside : c ∈ join separator parts) : c ∈ separator ∨ ∃ part ∈ parts, c ∈ part := by
  induction parts with
  | nil => cases inside
  | cons part later ih =>
    cases later with
    | nil =>
      rw [join, List.intercalate_singleton] at inside
      exact .inr ⟨part, List.mem_singleton_self part, inside⟩
    | cons second others =>
      rw [join, List.intercalate_cons_cons] at inside
      rcases List.mem_append.mp inside with front | back
      · rcases List.mem_append.mp front with here | between
        · exact .inr ⟨part, List.mem_cons_self, here⟩
        · exact .inl between
      · rcases ih back with between | ⟨other, member, deeper⟩
        · exact .inl between
        · exact .inr ⟨other, List.mem_cons_of_mem part member, deeper⟩

/-- A text is cut at a character behind a part that is not cut itself. The part is the first one,
    and the others are those of what is behind the character. -/
theorem split_append {p : Char → Bool} {part : Text} (whole : ∀ d ∈ part, p d = false) {c : Char}
    (cut : p c = true) (rest : Text) : split p (part ++ c :: rest) = part :: split p rest := by
  induction part with
  | nil => rw [List.nil_append, split, if_pos cut]
  | cons d later ih =>
    have kept : p d = false := whole d List.mem_cons_self
    have parts := ih (fun e member => whole e (List.mem_cons_of_mem d member))
    rw [List.cons_append, split, if_neg (by simp [kept]), parts]

/-- A text is cut at a character into the parts before it and the parts behind it. -/
theorem split_append_cons {p : Char → Bool} (before : Text) {c : Char} (cut : p c = true)
    (after : Text) : split p (before ++ c :: after) = split p before ++ split p after := by
  rw [split_eq_splitOnP, split_eq_splitOnP, split_eq_splitOnP,
    List.splitOnP_append_cons before after cut]

/-- What comes before the first cut of a text belongs to its first part. Nothing is said about how
    far that part goes on behind it. -/
theorem exists_split_append {p : Char → Bool} {part : Text} (whole : ∀ d ∈ part, p d = false)
    (rest : Text) : ∃ first later, split p (part ++ rest) = (part ++ first) :: later := by
  induction part with
  | nil => exact List.exists_cons_of_ne_nil (split_ne_nil p rest)
  | cons d part ih =>
    obtain ⟨kept, others⟩ := List.forall_mem_cons.mp whole
    obtain ⟨first, later, parts⟩ := ih others
    exact ⟨first, later, by rw [List.cons_append, split, if_neg (by simp [kept]), parts]; rfl⟩

/-- A text in which a sign does not occur is not cut at it. -/
theorem split_of_not_mem {sign : Char} {text : Text} (whole : sign ∉ text) :
    split (· == sign) text = [text] := by
  rw [split_eq_splitOnP]
  exact List.splitOnP_eq_singleton
    (fun c member => beq_false_of_ne (fun same => whole (same ▸ member)))

/-- A sign does not occur in a text that is not cut at it. -/
theorem not_mem_of_split {sign : Char} {text part : Text}
    (whole : split (· == sign) text = [part]) : sign ∉ text := by
  intro occurs
  obtain ⟨before, rest, rfl, unsigned⟩ := List.eq_append_cons_of_mem occurs
  rw [split_append_cons before (by simp) rest, split_of_not_mem unsigned] at whole
  exact split_ne_nil _ rest (List.cons.inj whole).2

/-- The first of several parts ends where the sign occurs first, and the others are those of what is
    behind it. So a text can be told from its parts, one after the other. -/
theorem of_split_cons_cons {sign : Char} {text first second : Text} {later : List Text}
    (cut : split (· == sign) text = first :: second :: later) :
    sign ∉ first ∧ ∃ rest, text = first ++ sign :: rest ∧
      split (· == sign) rest = second :: later := by
  by_cases occurs : sign ∈ text
  · obtain ⟨before, rest, rfl, whole⟩ := List.eq_append_cons_of_mem occurs
    rw [split_append_cons before (by simp) rest, split_of_not_mem whole] at cut
    obtain ⟨rfl, behind⟩ := List.cons.inj cut
    exact ⟨whole, rest, rfl, behind⟩
  · rw [split_of_not_mem occurs] at cut
    simp at cut

/-- A line feed ends the lines before it. It belongs to none of the lines, and what follows begins a
    new one. -/
theorem lines_append (before after : Text) :
    lines (before ++ '\n' :: after) = lines before ++ lines after :=
  split_append_cons before (by simp) after

/-- Texts that are closed by a line feed each, and that hold no other, are lines of their own in
    front of what follows. This is how the lines of everything that is written line by line are
    found. -/
theorem lines_closed_append {parts : List Text} (single : ∀ part ∈ parts, '\n' ∉ part)
    (rest : Text) :
    lines (parts.flatMap (fun part => part ++ ['\n']) ++ rest) = parts ++ lines rest := by
  induction parts with
  | nil => rfl
  | cons part later ih =>
    obtain ⟨here, others⟩ := List.forall_mem_cons.mp single
    have whole : ∀ c ∈ part, (c == '\n') = false := by
      intro c member
      exact beq_false_of_ne (fun same => here (same ▸ member))
    have behind := ih others
    rw [lines] at behind ⊢
    rw [List.flatMap_cons, List.append_assoc, List.append_assoc, List.singleton_append,
      split_append whole (by simp), behind, List.cons_append]

/-- Texts that are closed by a line feed each, and that hold no other, are the lines of the text that
    they make up. Behind the last line feed there is an empty line. -/
theorem lines_closed {parts : List Text} (single : ∀ part ∈ parts, '\n' ∉ part) :
    lines (parts.flatMap (fun part => part ++ ['\n'])) = parts ++ [[]] := by
  have lone := lines_closed_append single []
  rwa [List.append_nil] at lone

/-- A text whose last line is empty is made up by its other lines, each closed by a line feed. This
    is the converse of `lines_closed`.

    Proof: by induction on the text. A line feed in front closes an empty line, and the rest is made
    up by the lines behind. Any other character belongs to the first line, which the rest has
    without it; the rest has a further line, since otherwise its only line would be empty and not
    begin with anything. -/
theorem eq_of_lines {text : Text} {parts : List Text} (closed : lines text = parts ++ [[]]) :
    text = parts.flatMap (fun part => part ++ ['\n']) := by
  induction text generalizing parts with
  | nil =>
    cases parts with
    | nil => rfl
    | cons part later => simp [lines, split] at closed
  | cons c rest ih =>
    rw [lines, split, ← lines] at closed
    split at closed
    · rename_i feed
      cases parts with
      | nil =>
        have none : lines rest = [] := by simpa using closed
        exact absurd none (split_ne_nil _ rest)
      | cons part later =>
        obtain ⟨rfl, behind⟩ := List.cons.inj closed
        rw [ih behind, List.flatMap_cons, beq_iff_eq.mp feed, List.nil_append,
          List.singleton_append]
    · cases cut : lines rest with
      | nil => exact absurd cut (split_ne_nil (· == '\n') rest)
      | cons first others =>
        simp only [cut] at closed
        cases parts with
        | nil => cases closed
        | cons part later =>
          obtain ⟨rfl, behind⟩ := List.cons.inj closed
          have whole : lines rest = (first :: later) ++ [[]] := by
            rw [cut, behind]
            rfl
          rw [ih whole, List.flatMap_cons, List.flatMap_cons, List.cons_append, List.cons_append]

/-- A text whose last line is empty ends with a line feed, unless it has no other line. What is put
    behind such a text begins a line of its own. -/
theorem getLast?_of_lines {text : Text} {parts : List Text} (closed : lines text = parts ++ [[]])
    (nonempty : parts ≠ []) : text.getLast? = some '\n' := by
  rw [eq_of_lines closed, ← List.dropLast_concat_getLast nonempty, List.flatMap_append,
    List.flatMap_singleton, ← List.append_assoc, List.getLast?_concat]

end RoleWeave.Text
