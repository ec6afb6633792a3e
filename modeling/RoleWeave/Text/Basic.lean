/-!
# Texts

Documents, names and paths are texts: lists of Unicode scalar values. In this form
every recogniser of the library is a recursion on its input, and a position inside a
text is the number of characters before it. Positions that leave the library are
counted in the bytes of the UTF-8 form instead; `byteSize` and `byteOffset` convert.

Nothing here knows about blanks, case or any other property of characters. Those are
the tables beside this module.
-/

namespace RoleWeave

/-- A text is the list of its Unicode scalar values. -/
abbrev Text := List Char

namespace Text

/-- The size of the UTF-8 form of a text. -/
def byteSize : Text → Nat
  | [] => 0
  | c :: rest => c.utf8Size + byteSize rest

/-- The byte position of the character that has `position` characters before it. -/
def byteOffset (text : Text) (position : Nat) : Nat :=
  byteSize (text.take position)

/-- The characters from position `start` up to, and without, position `stop`. -/
def slice (text : Text) (start stop : Nat) : Text :=
  (text.drop start).take (stop - start)

/-- Remove the longest run of characters with property `p` at the beginning. -/
def trimStart (p : Char → Bool) (text : Text) : Text :=
  text.dropWhile p

/-- Remove the longest run of characters with property `p` at the end. -/
def trimEnd (p : Char → Bool) (text : Text) : Text :=
  (text.reverse.dropWhile p).reverse

/-- Remove characters with property `p` at both ends. -/
def trimBoth (p : Char → Bool) (text : Text) : Text :=
  trimEnd p (trimStart p text)

/-- Cut a text at every character with property `p`. The cut characters belong to
    no part, and there is always one part more than there are cuts. -/
def split (p : Char → Bool) : Text → List Text
  | [] => [[]]
  | c :: rest =>
      if p c then [] :: split p rest
      else
        match split p rest with
        | [] => [[c]]
        | part :: parts => (c :: part) :: parts

/-- The maximal non-empty runs of characters without property `p`. -/
def wordsBy (p : Char → Bool) (text : Text) : List Text :=
  (split p text).filter (fun part => !part.isEmpty)

/-- The parts of a text between its line feeds. -/
def lines (text : Text) : List Text :=
  split (· == '\n') text

/-- What follows `opening` in a text that begins with it. -/
def after? : (opening text : Text) → Option Text
  | [], text => some text
  | _ :: _, [] => none
  | o :: opening, c :: text => if o = c then after? opening text else none

/-- Whether `part` occurs somewhere in `text`. -/
def holds : (text part : Text) → Bool
  | [], part => part.isEmpty
  | c :: rest, part => part.isPrefixOf (c :: rest) || holds rest part

/-- Place `separator` between neighbouring parts. -/
def join (separator : Text) (parts : List Text) : Text :=
  separator.intercalate parts

/-- A text `count` times in a row. -/
def repeated (count : Nat) (text : Text) : Text :=
  (List.replicate count text).flatten

/-- A number in decimal digits, without leading zeros. -/
def decimal (n : Nat) : Text :=
  Nat.toDigits 10 n

/-- Lower the capital letters of the basic Latin alphabet and keep all else. -/
def lowerLatin (text : Text) : Text :=
  text.map Char.toLower

/-- What follows `opening` is the whole text but the opening itself. By induction on the opening,
    whose characters are taken off one by one. -/
theorem eq_append_of_after? {opening text rest : Text}
    (found : after? opening text = some rest) : text = opening ++ rest := by
  induction opening generalizing text with
  | nil => simpa [after?] using found
  | cons o opening ih =>
    cases text with
    | nil => simp [after?] at found
    | cons c text =>
      by_cases same : o = c
      · simp only [after?, same, if_true] at found
        rw [ih found, same, List.cons_append]
      · simp [after?, same] at found

/-- Every text that begins with `opening` is cut after it. -/
theorem after?_append (opening rest : Text) : after? opening (opening ++ rest) = some rest := by
  induction opening with
  | nil => rfl
  | cons o opening ih => simp [after?, ih]

/-- Nothing takes no bytes. -/
@[simp] theorem byteSize_nil : byteSize [] = 0 := rfl

/-- A text takes the bytes of its first character and those of the rest. -/
@[simp] theorem byteSize_cons (c : Char) (text : Text) :
    byteSize (c :: text) = c.utf8Size + byteSize text := rfl

/-- Two texts one behind the other take the bytes of both. -/
@[simp] theorem byteSize_append (first second : Text) :
    byteSize (first ++ second) = byteSize first + byteSize second := by
  induction first with
  | nil => simp
  | cons c rest ih => rw [List.cons_append, byteSize_cons, byteSize_cons, ih, Nat.add_assoc]

/-- A text holds another exactly if the other is an infix of it. -/
theorem holds_iff {text part : Text} : holds text part = true ↔ part <:+: text := by
  induction text with
  | nil => simp [holds]
  | cons c rest ih =>
    rw [holds, Bool.or_eq_true, List.isPrefixOf_iff_prefix, ih, List.infix_cons_iff]

/-- What is left after trimming the end, and what was trimmed, make up the text. -/
theorem trimEnd_append_drop (p : Char → Bool) (text : Text) :
    trimEnd p text ++ text.drop (trimEnd p text).length = text := by
  have before : trimEnd p text <+: text := by
    have suffix := List.dropWhile_suffix (p := p) (l := text.reverse)
    simpa [trimEnd] using List.reverse_prefix.mpr suffix
  exact List.prefix_iff_eq_append.mp before

/-- What is trimmed at the end has the property, and stands behind what is left. -/
theorem trimEnd_append (p : Char → Bool) (text : Text) :
    ∃ trimmed, text = trimEnd p text ++ trimmed ∧ ∀ c ∈ trimmed, p c = true := by
  refine ⟨(text.reverse.takeWhile p).reverse, ?_, ?_⟩
  · rw [trimEnd, ← List.reverse_append, List.takeWhile_append_dropWhile, List.reverse_reverse]
  · intro c member
    exact List.all_eq_true.mp List.all_takeWhile c (List.mem_reverse.mp member)

/-- What is trimmed at the beginning has the property. -/
theorem append_trimStart (p : Char → Bool) (text : Text) :
    ∃ trimmed, text = trimmed ++ trimStart p text ∧ ∀ c ∈ trimmed, p c = true :=
  ⟨text.takeWhile p, List.takeWhile_append_dropWhile.symm,
    List.all_eq_true.mp List.all_takeWhile⟩

/-- Trimming the end of two texts trims the second, and then the first if nothing is left of the
    second. -/
theorem trimEnd_of_append (p : Char → Bool) (first second : Text) :
    trimEnd p (first ++ second) =
      if trimEnd p second = [] then trimEnd p first else first ++ trimEnd p second := by
  simp only [trimEnd, List.reverse_append, List.dropWhile_append, List.isEmpty_iff,
    List.reverse_eq_nil_iff]
  split <;> simp

/-- Nothing is left of a text that has the property throughout. -/
theorem trimEnd_of_all {p : Char → Bool} {text : Text} (all : ∀ c ∈ text, p c = true) :
    trimEnd p text = [] := by
  induction text with
  | nil => rfl
  | cons c rest ih =>
    have later := ih (fun d member => all d (List.mem_cons_of_mem c member))
    rw [← List.singleton_append, trimEnd_of_append, if_pos later]
    simp [trimEnd, all c]

/-- A text is cut into at least one part. -/
theorem split_ne_nil (p : Char → Bool) (text : Text) : split p text ≠ [] := by
  cases text with
  | nil => simp [split]
  | cons c rest =>
    simp only [split]
    split
    · simp
    · split <;> simp

end Text

end RoleWeave
