import RoleWeave.Text.Character

/-!
# Texts with nothing to trim

Trimming leaves no character with the property at the end that it trims, and it leaves a text alone
that has none there.
-/

namespace RoleWeave.Text

variable {p : Char → Bool} {text : Text}

/-- Nowhere in a text is there a blank. -/
theorem any_isBlank_eq_false_iff :
    text.any isBlank = false ↔ ∀ c ∈ text, isBlank c = false := by
  simp only [List.any_eq_false, Bool.not_eq_true]

/-- A text that does not begin with the property has nothing to trim at the beginning. -/
theorem trimStart_of_head (first : ∀ c, text.head? = some c → p c = false) :
    trimStart p text = text := by
  cases text with
  | nil => rfl
  | cons c rest => simp [trimStart, first c rfl]

/-- A text that does not end with the property has nothing to trim at the end. Turned around, this
    is `trimStart_of_head`. -/
theorem trimEnd_of_last (last : ∀ c, text.getLast? = some c → p c = false) :
    trimEnd p text = text := by
  have turned : ∀ c, text.reverse.head? = some c → p c = false := by
    intro c same
    rw [List.head?_reverse] at same
    exact last c same
  have same : text.reverse.dropWhile p = text.reverse := trimStart_of_head turned
  rw [trimEnd, same, List.reverse_reverse]

/-- What is left after trimming the beginning does not begin with the property. -/
theorem head_trimStart {c : Char} (first : (trimStart p text).head? = some c) : p c = false := by
  have known := List.head?_dropWhile_not p text
  rw [trimStart] at first
  rw [first] at known
  exact known

/-- What is left after trimming the end does not end with the property. -/
theorem last_trimEnd {c : Char} (last : (trimEnd p text).getLast? = some c) : p c = false := by
  rw [trimEnd, List.getLast?_reverse] at last
  exact head_trimStart last

/-- What is cut off by trimming the end has the property. It is what stands behind the trimmed text,
    and all of that has it. -/
theorem of_mem_drop_trimEnd {c : Char} (member : c ∈ text.drop (trimEnd p text).length) :
    p c = true := by
  obtain ⟨trimmed, whole, all⟩ := trimEnd_append p text
  have dropped : text.drop (trimEnd p text).length = trimmed :=
    List.append_cancel_left ((trimEnd_append_drop p text).trans whole)
  rw [dropped] at member
  exact all c member

/-- Trimming the end keeps every character without the property. -/
theorem mem_trimEnd {c : Char} (member : c ∈ text) (kept : p c = false) : c ∈ trimEnd p text := by
  rw [← trimEnd_append_drop p text, List.mem_append] at member
  rcases member with left | cut
  · exact left
  · rw [of_mem_drop_trimEnd cut] at kept
    cases kept

/-- Trimming keeps every character that is no blank. Only blanks are cut off, first at the beginning
    and then at the end. -/
theorem mem_trim {c : Char} (member : c ∈ text) (kept : isBlank c = false) : c ∈ trim text := by
  obtain ⟨trimmed, whole, all⟩ := append_trimStart isBlank text
  rw [whole, List.mem_append] at member
  rcases member with cut | left
  · rw [all c cut] at kept
    cases kept
  · exact mem_trimEnd left kept

/-- What is left after trimming the end begins as before. -/
theorem head_trimEnd {c : Char} (first : (trimEnd p text).head? = some c) :
    text.head? = some c := by
  obtain ⟨trimmed, same, _⟩ := trimEnd_append p text
  rw [same, List.head?_append, first]
  rfl

/-- What has the property is trimmed off the end of a text, whatever is left of the text. If the
    text is trimmed away altogether, then so is what was put behind it. -/
theorem trimBoth_append {trimmed : Text} (all : ∀ c ∈ trimmed, p c = true) :
    trimBoth p (text ++ trimmed) = trimBoth p text := by
  rw [trimBoth, trimBoth, trimStart, trimStart, List.dropWhile_append]
  split
  · rename_i gone
    rw [List.isEmpty_iff.mp gone, trimEnd_of_all]
    · rfl
    · exact fun c member => all c (List.dropWhile_suffix p |>.subset member)
  · rw [trimEnd_of_append, if_pos (trimEnd_of_all all)]

/-- What is left after trimming is a part of the text. -/
theorem trim_infix (text : Text) : trim text <:+: text := by
  obtain ⟨front, whole, _⟩ := append_trimStart isBlank text
  obtain ⟨back, rest, _⟩ := trimEnd_append isBlank (trimStart isBlank text)
  refine ⟨front, back, ?_⟩
  rw [trim, trimBoth, List.append_assoc, ← rest, ← whole]

/-- Trimming a text again changes nothing, since neither end of a trimmed text is a blank. -/
theorem trim_trim (text : Text) : trim (trim text) = trim text := by
  rw [trim, trimBoth, trimStart_of_head, trimEnd_of_last]
  · intro c last
    exact last_trimEnd last
  · intro c first
    exact head_trimStart (head_trimEnd first)

/-- A text without blanks is trimmed to itself. -/
theorem trim_of_solid (solid : ∀ c ∈ text, isBlank c = false) : trim text = text := by
  rw [trim, trimBoth, trimStart_of_head (fun c first => solid c (List.mem_of_mem_head? first)),
    trimEnd_of_last (fun c last => solid c (List.mem_of_mem_getLast? last))]

end RoleWeave.Text
