import RoleWeave.Text.Character

/-!
# Parts in sequence

A text shows parts in sequence if they stand in it one after the other, in the given order and
without overlapping; what stands between them does not matter. Texts that are put one behind the
other show their parts in sequence. Trimming takes nothing from a part that begins and ends with
something else than a blank: such a part is `Solid`.
-/

namespace RoleWeave.Text

/-- The parts stand in a text one after the other, without overlapping. -/
inductive Shows : (parts : List Text) → Text → Prop where
  | nothing (text : Text) : Shows [] text
  | next {later : List Text} {after : Text} (before part : Text) (rest : Shows later after) :
      Shows (part :: later) (before ++ part ++ after)

/-- A part that neither begins nor ends with a blank. -/
structure Solid (part : Text) : Prop where
  begins : ∃ c rest, part = c :: rest ∧ isBlank c = false
  ends : ∃ front c, part = front ++ [c] ∧ isBlank c = false

namespace Shows

/-- A text shows itself. -/
theorem self (text : Text) : Shows [text] text := by
  have alone : Shows [text] ([] ++ text ++ []) := .next [] text (.nothing [])
  simpa using alone

/-- What is put before a text hides nothing of it. It only makes longer what stands before the first
    part. -/
theorem prepend {parts : List Text} {text : Text} (shows : Shows parts text) (front : Text) :
    Shows parts (front ++ text) := by
  cases shows with
  | nothing => exact .nothing _
  | next before part rest =>
    rw [← List.append_assoc, ← List.append_assoc]
    exact .next (front ++ before) part rest

/-- Texts that are put one behind the other show what each of them shows, in this order. The last
    part of the first text and the first part of the second do not overlap, since they stand in
    different texts. -/
theorem append {first second : List Text} {text other : Text} (shows : Shows first text)
    (follows : Shows second other) : Shows (first ++ second) (text ++ other) := by
  induction shows with
  | nothing text => exact follows.prepend text
  | next before part _ ih =>
    rw [List.cons_append, List.append_assoc]
    exact .next before part ih

/-- What is put behind a text hides nothing of it. -/
theorem extend {parts : List Text} {text : Text} (shows : Shows parts text) (back : Text) :
    Shows parts (text ++ back) := by
  have both : Shows (parts ++ []) (text ++ back) := shows.append (.nothing back)
  rwa [List.append_nil] at both

end Shows

/-- Trimming the beginning takes blanks before a solid part only: it stops at the first character of
    the part at the latest, and what is behind the part is not reached. -/
theorem Solid.trimStart_append {part : Text} (solid : Solid part) (before after : Text) :
    trimStart isBlank (before ++ part ++ after) =
      trimStart isBlank before ++ part ++ after := by
  obtain ⟨c, rest, rfl, begins⟩ := solid.begins
  rw [List.append_assoc, List.append_assoc]
  simp only [trimStart, List.dropWhile_append, List.isEmpty_iff]
  split
  · rename_i gone
    simp [gone, begins]
  · rfl

/-- Trimming the end takes blanks behind a solid part only: it stops at the last character of the
    part at the latest, and what is before the part is not reached. -/
theorem Solid.trimEnd_append {part : Text} (solid : Solid part) (before after : Text) :
    trimEnd isBlank (before ++ part ++ after) = before ++ part ++ trimEnd isBlank after := by
  have kept : trimEnd isBlank (before ++ part) = before ++ part := by
    obtain ⟨front, c, rfl, ends⟩ := solid.ends
    simp [trimEnd, ends]
  rw [trimEnd_of_append, kept]
  split
  · rename_i gone
    rw [gone, List.append_nil]
  · rfl

namespace Shows

/-- Trimming the end hides no solid part. The parts are passed one after the other, and trimming
    comes no further than the last of them. -/
theorem trimEnd {parts : List Text} {text : Text} (shows : Shows parts text)
    (solid : ∀ part ∈ parts, Solid part) : Shows parts (Text.trimEnd isBlank text) := by
  induction shows with
  | nothing text => exact .nothing _
  | next before part _ ih =>
    obtain ⟨here, later⟩ := List.forall_mem_cons.mp solid
    rw [here.trimEnd_append]
    exact .next before part (ih later)

/-- Trimming hides no solid part. Its beginning stops at the first part that is shown, and its end
    at the last. -/
theorem trim {parts : List Text} {text : Text} (shows : Shows parts text)
    (solid : ∀ part ∈ parts, Solid part) : Shows parts (Text.trim text) := by
  apply Shows.trimEnd _ solid
  cases shows with
  | nothing => exact .nothing _
  | next before part rest =>
    rw [(solid part List.mem_cons_self).trimStart_append]
    exact .next (trimStart isBlank before) part rest

end Shows

end RoleWeave.Text
