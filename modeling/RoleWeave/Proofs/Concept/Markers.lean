import RoleWeave.Concept.Line

/-!
# The markers of lines

A line with a marker is an indent, the marker, a blank and the body; the kinds of lines differ in
their markers, and a heading is not indented far: `Marked`. Such a line is read as its marker says,
`read_of_marked`, and every other line is plain: `read_cases`.
-/

namespace RoleWeave.Line

/-- The signs by which a line of a kind is told. -/
inductive Marker : LineKind → Text → Prop where
  | heading {signs : Text} (signed : ∀ c ∈ signs, c = '#') (least : signs ≠ [])
      (most : signs.length ≤ 6) : Marker .heading signs
  | bullet {sign : Char} (listing : isBullet sign = true) : Marker .bullet [sign]
  | numbered {digits : Text} {sign : Char} (counting : ∀ c ∈ digits, Text.isDigit c = true)
      (least : digits ≠ []) (ending : isNumberEnd sign = true) : Marker .numbered (digits ++ [sign])

/-- A text begins with a marker of a kind and a blank, and `body` is what follows. -/
def Opened (kind : LineKind) (text body : Text) : Prop :=
  ∃ mark c, Marker kind mark ∧ isSpacing c = true ∧ text = mark ++ c :: body

/-- A text is a line with a marker: behind an indent, which is short for a heading, it begins with a
    marker of the line's kind. -/
def Marked (text : Text) (line : Line) : Prop :=
  ∃ indent rest, text = indent ++ rest ∧ (∀ c ∈ indent, isSpacing c = true) ∧
    (line.kind = .heading → indent.length ≤ 3) ∧ Opened line.kind rest line.body

/-- The characters with which a marker of a kind begins. -/
def begins : LineKind → Char → Bool
  | .plain, _ => false
  | .heading, c => c == '#'
  | .bullet, c => isBullet c
  | .numbered, c => Text.isDigit c

/-- No blank begins a marker. So the indent of a line ends where its marker begins. -/
theorem begins_of_isSpacing {c : Char} (blank : isSpacing c = true) (kind : LineKind) :
    begins kind c = false := by
  simp only [isSpacing, Bool.or_eq_true, beq_iff_eq] at blank
  rcases blank with rfl | rfl <;> cases kind <;> decide

/-- A character begins markers of one kind at most. The signs of headings and bullets are gone
    through one by one, and none of them is a digit. -/
theorem begins_unique {kind other : LineKind} {c : Char} (first : begins kind c = true)
    (second : begins other c = true) : kind = other := by
  by_cases special : c ∈ ['#', '-', '*', '+', '•']
  · revert first second
    simp only [List.mem_cons, List.not_mem_nil, or_false] at special
    rcases special with rfl | rfl | rfl | rfl | rfl <;> cases kind <;> cases other <;> decide
  · have numbered : ∀ known : LineKind, begins known c = true → known = .numbered := by
      intro known possible
      cases known <;> simp_all [begins, isBullet]
    rw [numbered kind first, numbered other second]

/-- A marker begins with a character of its kind. It is not empty, since a heading has a sign and a
    number has a digit. -/
theorem Marker.exists_cons {kind : LineKind} {mark : Text} (marker : Marker kind mark) :
    ∃ c rest, mark = c :: rest ∧ begins kind c = true := by
  cases marker with
  | heading signed least most =>
    obtain ⟨c, rest, rfl⟩ := List.exists_cons_of_ne_nil least
    exact ⟨c, rest, rfl, by simp [begins, signed c List.mem_cons_self]⟩
  | bullet listing => exact ⟨_, [], rfl, listing⟩
  | @numbered digits sign counting least ending =>
    obtain ⟨c, rest, rfl⟩ := List.exists_cons_of_ne_nil least
    exact ⟨c, rest ++ [sign], rfl, counting c List.mem_cons_self⟩

/-- No text begins with markers of two kinds: their first characters are the same, and a character
    begins markers of one kind. -/
theorem Opened.unique {kind other : LineKind} {text body rest : Text}
    (opened : Opened kind text body) (also : Opened other text rest) : kind = other := by
  obtain ⟨mark, c, marker, _, rfl⟩ := opened
  obtain ⟨second, d, markerToo, _, same⟩ := also
  obtain ⟨first, _, rfl, known⟩ := marker.exists_cons
  obtain ⟨firstToo, _, rfl, knownToo⟩ := markerToo.exists_cons
  obtain ⟨rfl, _⟩ := List.cons.inj same
  exact begins_unique known knownToo

/-- A body stands behind a blank. One blank is taken away, and those that follow it belong to the
    body. -/
theorem body?_eq_some_iff {text body : Text} :
    body? text = some body ↔ ∃ c, isSpacing c = true ∧ text = c :: body := by
  cases text with
  | nil => simp [body?]
  | cons c rest =>
    simp only [body?, List.cons.injEq]
    constructor
    · intro found
      split at found
      · rename_i blank
        exact ⟨c, blank, rfl, Option.some.inj found⟩
      · cases found
    · rintro ⟨_, blank, rfl, rfl⟩
      rw [if_pos blank]

/-- A heading is told by its number signs: all that the line begins with, and there are at least one
    and at most six.

    Proof: the reader takes the longest run of signs and asks for a blank behind it. In the converse
    direction the blank behind the marker is no sign, so the run that is taken is the marker. -/
theorem heading?_eq_some_iff {text body : Text} :
    heading? text = some body ↔ Opened .heading text body := by
  constructor
  · intro found
    simp only [heading?] at found
    split at found
    · cases found
    · rename_i level
      obtain ⟨c, blank, behind⟩ := body?_eq_some_iff.mp found
      simp only [Bool.or_eq_true, decide_eq_true_eq, not_or] at level
      have signed : ∀ d ∈ text.takeWhile (· == '#'), d = '#' := fun d member =>
        beq_iff_eq.mp (List.all_eq_true.mp List.all_takeWhile d member)
      have whole := List.prefix_iff_eq_append.mp (List.takeWhile_prefix (l := text) (· == '#'))
      refine ⟨text.takeWhile (· == '#'), c, .heading signed ?_ (by omega), blank, ?_⟩
      · exact fun none => level.1 (by simp [none])
      · rw [← behind, whole]
  · rintro ⟨signs, c, marker, blank, rfl⟩
    obtain ⟨signed, least, most⟩ := marker
    have other : (c == '#') = false := begins_of_isSpacing blank .heading
    have taken : (signs ++ c :: body).takeWhile (· == '#') = signs := by
      rw [List.takeWhile_append_of_pos (fun d member => beq_iff_eq.mpr (signed d member))]
      simp [other]
    have level : ¬(signs.length = 0 || 6 < signs.length) = true := by
      simpa [List.length_eq_zero_iff] using ⟨least, most⟩
    simp only [heading?, taken]
    rw [if_neg level, List.drop_left, body?, if_pos blank]

/-- An item with a bullet is told by its bullet, which is a single character, and the blank behind
    it. -/
theorem bullet?_eq_some_iff {text body : Text} :
    bullet? text = some body ↔ Opened .bullet text body := by
  constructor
  · intro found
    cases text with
    | nil => cases found
    | cons sign rest =>
      simp only [bullet?] at found
      split at found
      · rename_i listing
        obtain ⟨c, blank, rfl⟩ := body?_eq_some_iff.mp found
        exact ⟨[sign], c, .bullet listing, blank, rfl⟩
      · cases found
  · rintro ⟨_, c, marker, blank, rfl⟩
    cases marker with
    | bullet listing => simp [bullet?, body?, listing, blank]

/-- An item with a number is told by its digits and what ends them, behind which there is a blank.

    Proof: the reader takes the longest run of digits, then the sign and then the blank. In the
    converse direction the sign is no digit, so the run that is taken is that of the marker. -/
theorem numbered?_eq_some_iff {text body : Text} :
    numbered? text = some body ↔ Opened .numbered text body := by
  constructor
  · intro found
    simp only [numbered?] at found
    split at found
    · cases found
    · rename_i least
      split at found
      · cases found
      · rename_i sign rest shape
        split at found
        · rename_i ending
          obtain ⟨c, blank, rfl⟩ := body?_eq_some_iff.mp found
          have whole := List.takeWhile_append_dropWhile (p := Text.isDigit) (l := text)
          refine ⟨text.takeWhile Text.isDigit ++ [sign], c,
            .numbered (List.all_eq_true.mp List.all_takeWhile) (by simpa using least) ending,
            blank, ?_⟩
          rw [List.append_assoc, List.singleton_append, ← shape, whole]
        · cases found
  · rintro ⟨_, c, marker, blank, rfl⟩
    cases marker with
    | @numbered digits sign counting least ending =>
      have other : Text.isDigit sign = false := by
        simp only [isNumberEnd, Bool.or_eq_true, beq_iff_eq] at ending
        rcases ending with rfl | rfl <;> decide
      have taken : (digits ++ sign :: c :: body).takeWhile Text.isDigit = digits := by
        rw [List.takeWhile_append_of_pos counting]
        simp [other]
      have dropped : (digits ++ sign :: c :: body).dropWhile Text.isDigit = sign :: c :: body := by
        rw [List.dropWhile_append_of_pos counting]
        simp [other]
      rw [List.append_assoc, List.singleton_append, numbered?, taken, dropped,
        if_neg (by simpa using least)]
      simp only [if_pos ending, body?, if_pos blank]

/-- What a marker opens does not begin with a blank, since no blank begins a marker. -/
theorem Opened.exists_cons {kind : LineKind} {text body : Text} (opened : Opened kind text body) :
    ∃ c rest, text = c :: rest ∧ isSpacing c = false := by
  obtain ⟨mark, d, marker, _, rfl⟩ := opened
  obtain ⟨c, rest, rfl, known⟩ := marker.exists_cons
  refine ⟨c, rest ++ d :: body, rfl, Bool.eq_false_iff.mpr (fun blank => ?_)⟩
  rw [begins_of_isSpacing blank] at known
  cases known

/-- A line is read as its marker says.

    Proof: the indent is the run of blanks at the beginning, because what a marker opens does not
    begin with a blank. The reader for the kind finds the body behind the marker. The readers that
    are asked before it find nothing, since no text begins with markers of two kinds. -/
theorem read_of_marked {text : Text} {line : Line} (marked : Marked text line) :
    read text = line := by
  obtain ⟨indent, rest, rfl, indented, shallow, opened⟩ := marked
  obtain ⟨kind, body⟩ := line
  have taken : (indent ++ rest).takeWhile isSpacing = indent := by
    obtain ⟨c, later, rfl, solid⟩ := opened.exists_cons
    rw [List.takeWhile_append_of_pos indented]
    simp [solid]
  have dropped : (indent ++ rest).dropWhile isSpacing = rest := by
    obtain ⟨c, later, rfl, solid⟩ := opened.exists_cons
    rw [List.dropWhile_append_of_pos indented]
    simp [solid]
  -- The readers of the other kinds find nothing here.
  have noHeading : kind ≠ .heading → heading? rest = none := fun other =>
    Option.eq_none_iff_forall_ne_some.mpr (fun _ found =>
      other (opened.unique (heading?_eq_some_iff.mp found)))
  have noBullet : kind ≠ .bullet → bullet? rest = none := fun other =>
    Option.eq_none_iff_forall_ne_some.mpr (fun _ found =>
      other (opened.unique (bullet?_eq_some_iff.mp found)))
  simp only [read, taken, dropped]
  cases kind with
  | plain =>
    obtain ⟨_, _, marker, _⟩ := opened
    cases marker
  | heading => rw [if_pos (shallow rfl), heading?_eq_some_iff.mpr opened]
  | bullet => rw [noHeading (by decide), ite_self, bullet?_eq_some_iff.mpr opened]
  | numbered =>
    rw [noHeading (by decide), ite_self, noBullet (by decide), numbered?_eq_some_iff.mpr opened]

/-- A line without a marker is plain, and it is all body. Each reader that finds something has found
    a marker of its kind, so a line that is read as anything else is `Marked`. -/
theorem read_cases (text : Text) : read text = ⟨.plain, text⟩ ∨ Marked text (read text) := by
  have marked : ∀ kind body, Opened kind (text.dropWhile isSpacing) body →
      (kind = .heading → (text.takeWhile isSpacing).length ≤ 3) → Marked text ⟨kind, body⟩ := by
    intro kind body opened shallow
    exact ⟨text.takeWhile isSpacing, text.dropWhile isSpacing,
      List.takeWhile_append_dropWhile.symm, List.all_eq_true.mp List.all_takeWhile, shallow, opened⟩
  simp only [read]
  split
  · rename_i body found
    split at found
    · rename_i short
      exact .inr (marked .heading body (heading?_eq_some_iff.mp found) (fun _ => short))
    · cases found
  · split
    · rename_i body found
      exact .inr (marked .bullet body (bullet?_eq_some_iff.mp found) (by simp))
    · split
      · rename_i body found
        exact .inr (marked .numbered body (numbered?_eq_some_iff.mp found) (by simp))
      · exact .inl rfl

end RoleWeave.Line
