import RoleWeave.Proofs.Markup.Pending

/-!
# The order of marks

The marks of a text stand one behind the other. Each covers its two brackets (`marksFrom_written`),
ends within the text, and ends before the next one begins, because a mark has no second opening
bracket inside it. So the position of a mark identifies it, and "later in the list" and "later in the
text" are the same thing.
-/

namespace RoleWeave

namespace Mark

/-- The end of a mark is read from the beginning of a text up to the other bracket, and has no
    opening bracket.

    Proof: the cases are those of reading. A bracket, or a slash and a bracket, is all that is
    covered. After a blank the run of characters up to the next bracket of either kind is covered as
    well, and the bracket that ends the run is the closing one. -/
theorem append_of_ending? {text : Text} {selfClosing : Bool} {length : Nat}
    (read : ending? text = some (selfClosing, length)) :
    ∃ covered later, text = covered ++ '>' :: later ∧ covered.length + 1 = length ∧
      '<' ∉ covered := by
  unfold ending? at read
  split at read
  · cases read
  · rename_i later
    cases read
    exact ⟨[], later, rfl, rfl, by decide⟩
  · rename_i later
    cases read
    exact ⟨['/'], later, rfl, rfl, by decide⟩
  · rename_i c rest _ _
    split at read
    · rename_i blank
      dsimp only at read
      split at read
      · rename_i later dropped
        cases read
        have whole : rest = rest.takeWhile isAttribute ++ '>' :: later := by
          rw [← dropped, List.takeWhile_append_dropWhile]
        have plain : '<' ∉ rest.takeWhile isAttribute := fun inside =>
          absurd (List.all_eq_true.mp List.all_takeWhile '<' inside) (by decide)
        have other : '<' ≠ c := by
          rintro rfl
          exact absurd blank (by decide)
        refine ⟨c :: rest.takeWhile isAttribute, later, ?_, by simp, by simp [other, plain]⟩
        rw [List.cons_append, ← whole]
      · cases read
    · cases read

/-- A name has no opening bracket, neither as its first character nor among the others. -/
theorem noBracket_of_accepts {name : Text} (accepted : Name.accepts name = true) :
    '<' ∉ name := by
  cases name with
  | nil => exact List.not_mem_nil
  | cons c rest =>
    rw [Name.accepts, Bool.and_eq_true] at accepted
    rw [List.mem_cons, not_or]
    constructor
    · rintro rfl
      exact absurd accepted.1 (by decide)
    · intro inside
      exact absurd (List.all_eq_true.mp accepted.2 '<' inside) (by decide)

/-- What is read from its name on is a mark of this name, and of the end behind the name. The mark
    goes from where its bracket was to the other one. -/
theorem parts_of_named? {closing : Bool} {start skipped : Nat} {text : Text} {mark : Mark}
    (read : named? closing start skipped text = some mark) :
    ∃ name rest selfClosing length, Name.take? text = some (name, rest) ∧
      ending? rest = some (selfClosing, length) ∧
      mark = ⟨closing, selfClosing, Text.lowerLatin name, start,
        start + skipped + name.length + length⟩ := by
  unfold named? at read
  cases taken : Name.take? text with
  | none => simp [taken] at read
  | some parts =>
    cases ended : ending? parts.2 with
    | none => simp [taken, ended] at read
    | some ending =>
      simp only [taken, ended, Option.bind_eq_bind, Option.bind_some, pure, Option.some.injEq]
        at read
      exact ⟨parts.1, parts.2, ending.1, ending.2, rfl, ended, read.symm⟩

/-- A mark is read from its name to its other bracket, without an opening bracket on the way. Its
    length is that of the name and of its end together. -/
theorem append_of_named? {closing : Bool} {start skipped : Nat} {text : Text} {mark : Mark}
    (read : named? closing start skipped text = some mark) :
    ∃ covered later, text = covered ++ '>' :: later ∧ '<' ∉ covered ∧ mark.start = start ∧
      mark.stop = start + skipped + covered.length + 1 := by
  obtain ⟨name, rest, selfClosing, length, taken, ended, rfl⟩ := parts_of_named? read
  obtain ⟨covered, later, rfl, rfl, plain⟩ := append_of_ending? ended
  have named : '<' ∉ name := noBracket_of_accepts (Name.accepts_of_take? taken)
  refine ⟨name ++ covered, later, ?_, by simp [named, plain], rfl, ?_⟩
  · rw [Name.append_of_take? taken, List.append_assoc]
  · simp [Nat.add_assoc]

/-- A mark covers its bracket and what is read behind it up to the other one, where there is no
    other opening bracket. The slash of a closing mark is covered as well. -/
theorem append_of_after? {start : Nat} {text : Text} {mark : Mark}
    (read : after? start text = some mark) :
    ∃ covered later, text = covered ++ '>' :: later ∧ '<' ∉ covered ∧ mark.start = start ∧
      mark.stop = start + 1 + covered.length + 1 := by
  unfold after? at read
  split at read
  · rename_i rest
    obtain ⟨covered, later, rfl, plain, begun, ended⟩ := append_of_named? read
    refine ⟨'/' :: covered, later, rfl, by simp [plain], begun, ?_⟩
    rw [ended, List.length_cons]
    omega
  · exact append_of_named? read

/-- One mark ends before another begins. -/
def Precedes (first second : Mark) : Prop :=
  first.stop ≤ second.start

end Mark

/-- A text without opening brackets has no marks. -/
theorem marksFrom_of_noBracket {text : Text} (plain : '<' ∉ text) (start : Nat) :
    marksFrom start text = [] := by
  have none := (plain_of_noBracket plain).1
  rw [← shape_marksFrom start, List.map_eq_nil_iff] at none
  exact none

/-- The marks behind a mark are those of the text behind it. -/
theorem marksFrom_behind {covered : Text} (plain : '<' ∉ covered) (later : Text) (start : Nat) :
    marksFrom start (covered ++ later) = marksFrom (start + covered.length) later := by
  rw [marksFrom_append (plain_of_noBracket plain).2, marksFrom_of_noBracket plain, List.nil_append]

/-- The marks of a text lie within it, and each covers something. By induction on the text: a mark
    either begins with its first character or is one of the rest. -/
theorem marksFrom_within (start : Nat) (text : Text) :
    ∀ mark ∈ marksFrom start text,
      start ≤ mark.start ∧ mark.start < mark.stop ∧ mark.stop ≤ start + text.length := by
  induction text generalizing start with
  | nil => simp [marksFrom]
  | cons c rest ih =>
    have further : ∀ mark ∈ marksFrom (start + 1) rest,
        start ≤ mark.start ∧ mark.start < mark.stop ∧
          mark.stop ≤ start + (c :: rest).length := by
      intro mark member
      obtain ⟨begins, covers, ends⟩ := ih (start + 1) mark member
      rw [List.length_cons]
      omega
    rw [marksFrom]
    split
    · split
      · rename_i mark read
        intro other member
        rcases List.mem_cons.mp member with rfl | behind
        · obtain ⟨covered, later, rfl, _, begun, ended⟩ := Mark.append_of_after? read
          rw [begun, ended, List.length_cons, List.length_append, List.length_cons]
          omega
        · exact further other behind
      · exact further
    · exact further

/-- A mark is read behind an opening bracket of its text. By induction on the text, where the
    characters before the bracket are counted. -/
theorem after?_of_mem {start : Nat} {text : Text} {mark : Mark}
    (member : mark ∈ marksFrom start text) :
    ∃ front rest, text = front ++ '<' :: rest ∧
      Mark.after? (start + front.length) rest = some mark := by
  induction text generalizing start with
  | nil => cases member
  | cons c rest ih =>
    have further (behind : mark ∈ marksFrom (start + 1) rest) :
        ∃ front later, c :: rest = front ++ '<' :: later ∧
          Mark.after? (start + front.length) later = some mark := by
      obtain ⟨front, later, rfl, read⟩ := ih behind
      refine ⟨c :: front, later, rfl, ?_⟩
      rwa [List.length_cons, Nat.add_comm front.length 1, ← Nat.add_assoc]
    rw [marksFrom] at member
    split at member
    · rename_i bracket
      split at member
      · rename_i other read
        rcases List.mem_cons.mp member with rfl | behind
        · exact ⟨[], rest, by rw [bracket]; rfl, read⟩
        · exact further behind
      · exact further member
    · exact further member

/-- A mark stands in its text from one bracket to the other. It covers the two and what is between
    them. -/
theorem marksFrom_written {start : Nat} {text : Text} {mark : Mark}
    (member : mark ∈ marksFrom start text) :
    ∃ front covered later, text = front ++ '<' :: (covered ++ '>' :: later) ∧
      mark.start = start + front.length ∧ mark.stop = mark.start + covered.length + 2 := by
  obtain ⟨front, rest, rfl, read⟩ := after?_of_mem member
  obtain ⟨covered, later, rfl, _, begun, ended⟩ := Mark.append_of_after? read
  refine ⟨front, covered, later, rfl, begun, ?_⟩
  rw [ended, begun]
  omega

/-- The marks of a text stand one behind the other. A mark that begins with the first character has
    no further opening bracket in it, so the marks of the rest begin behind its end. -/
theorem marksFrom_ordered (start : Nat) (text : Text) :
    (marksFrom start text).Pairwise Mark.Precedes := by
  induction text generalizing start with
  | nil => simp [marksFrom]
  | cons c rest ih =>
    rw [marksFrom]
    split
    · split
      · rename_i mark read
        refine List.pairwise_cons.mpr ⟨?_, ih (start + 1)⟩
        obtain ⟨covered, later, rfl, plain, _, ended⟩ := Mark.append_of_after? read
        have closed : '<' ∉ covered ++ ['>'] := by simp [plain]
        intro other member
        rw [List.append_cons, marksFrom_behind closed, List.length_append] at member
        rw [Mark.Precedes, ended]
        exact (marksFrom_within _ later other member).1
      · exact ih (start + 1)
    · exact ih (start + 1)

end RoleWeave
