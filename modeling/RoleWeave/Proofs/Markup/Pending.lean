import Mathlib.Data.List.TakeWhile
import RoleWeave.Markup.Mark
import RoleWeave.Reference.Piece

/-!
# Pending brackets

A text that goes on after its end can have marks that neither part has: an opening bracket near the
end may begin a mark that only the text after it completes. Such a bracket is pending. Where no
bracket is pending the marks of a text and of what follows are found apart (`shapes_append`).

Blanks at the end are disregarded, since a text loses them where it takes the place of a reference.
So a bracket that only blanks follow is pending, although no mark begins with a blank.
-/

namespace RoleWeave

/-- A mark without its place in the text. -/
structure Shape where
  closing : Bool
  selfClosing : Bool
  name : Text
deriving DecidableEq, Repr

/-- What a mark is apart from its place. -/
def Mark.shape (mark : Mark) : Shape :=
  ⟨mark.closing, mark.selfClosing, mark.name⟩

/-- The marks of a text without their places. -/
def shapes (text : Text) : List Shape :=
  (marks text).map Mark.shape

/-- Where not all characters of a text have a property, the longest run at its beginning that has it
    ends within the text, whatever follows. -/
theorem run_ends {p : Char → Bool} {text : Text} (ends : text.all p = false) :
    ∃ run stop rest, p stop = false ∧ ∀ later,
      (text ++ later).takeWhile p = run ∧ (text ++ later).dropWhile p = stop :: (rest ++ later) := by
  induction text with
  | nil => cases ends
  | cons c text ih =>
    cases holds : p c with
    | false => exact ⟨[], c, text, holds, fun later => by simp [holds]⟩
    | true =>
      have inside : text.all p = false := by simpa [holds] using ends
      obtain ⟨run, stop, rest, stops, cut⟩ := ih inside
      exact ⟨c :: run, stop, rest, stops, fun later => by simp [holds, cut later]⟩

namespace Mark

/-- Whether the rest of a mark, after its name, could still go on beyond the end of the text. -/
def endingOpen : Text → Bool
  | [] => true
  | c :: rest => if c = '/' then rest.isEmpty else Text.isBlank c && rest.all isAttribute

/-- Whether the rest of a mark, from its name on, could still go on beyond the end of the text. -/
def nameOpen (text : Text) : Bool :=
  match Name.take? text with
  | none => text.isEmpty
  | some (_, rest) => endingOpen rest

/-- Whether what follows an opening bracket could still become a mark beyond the end of the text. -/
def afterOpen : Text → Bool
  | '/' :: rest => nameOpen rest
  | rest => nameOpen rest

/-- Behind a name that neither a slash nor a bracket follows, a mark ends at the next angle bracket
    if there is a blank and that bracket closes it. A slash right before that bracket says that the
    mark closes itself. -/
theorem ending?_other {c : Char} (slash : c ≠ '/') (close : c ≠ '>') (rest : Text) :
    ending? (c :: rest) =
      if Text.isBlank c then
        match rest.dropWhile isAttribute with
        | '>' :: _ =>
            some ((rest.takeWhile isAttribute).getLast? == some '/',
              (rest.takeWhile isAttribute).length + 2)
        | _ => none
      else none := by
  unfold ending?
  split
  · rename_i none
    cases none
  · rename_i same
    cases same
    exact absurd rfl close
  · rename_i same
    cases same
    exact absurd rfl slash
  · rename_i same
    cases same
    rfl

/-- Behind a slash, a mark ends at once or not at all. No blank may come between the slash and the
    bracket. -/
theorem ending?_slash {c : Char} (close : c ≠ '>') (rest : Text) :
    ending? ('/' :: c :: rest) = none := by
  unfold ending?
  split
  · rename_i none
    cases none
  · rename_i same
    cases same
  · rename_i same
    cases same
    exact absurd rfl close
  · rename_i same
    cases same
    rfl

/-- The end of a mark that cannot go on is the same in a longer text, where it still cannot.

    Proof: a mark that cannot go on has something that decides about it: a bracket, a character
    behind a slash, a character that is no blank right behind the name, or one behind the blanks
    that ends the run of attributes. That character is in the longer text as well, at the same
    place. -/
theorem ending?_append {text : Text} (complete : endingOpen text = false) (later : Text) :
    ending? (text ++ later) = ending? text ∧ endingOpen (text ++ later) = false := by
  cases text with
  | nil => cases complete
  | cons c rest =>
    by_cases slash : c = '/'
    · subst slash
      cases rest with
      | nil => cases complete
      | cons d rest =>
        refine ⟨?_, by simp [endingOpen]⟩
        by_cases close : d = '>'
        · subst close
          rfl
        · rw [List.cons_append, List.cons_append, ending?_slash close, ending?_slash close]
    · by_cases close : c = '>'
      · subst close
        have solid : Text.isBlank '>' = false := by decide
        exact ⟨rfl, by simp [endingOpen, solid]⟩
      · rw [List.cons_append, ending?_other slash close, ending?_other slash close]
        cases blank : Text.isBlank c with
        | false => exact ⟨rfl, by simp [endingOpen, slash, blank]⟩
        | true =>
          have ends : rest.all isAttribute = false := by
            simpa [endingOpen, slash, blank] using complete
          obtain ⟨run, stop, tail, _, cut⟩ := run_ends ends
          obtain ⟨taken, dropped⟩ := cut later
          obtain ⟨shortTaken, shortDropped⟩ := cut []
          rw [List.append_nil] at shortTaken shortDropped
          refine ⟨?_, by simp [endingOpen, slash, blank, ends]⟩
          rw [taken, dropped, shortTaken, shortDropped]
          by_cases bracket : stop = '>'
          · subst bracket
            rfl
          · simp [bracket]

/-- The name and the end of a mark that cannot go on are the same in a longer text.

    Proof: if the text does not begin with a name, no longer text does. Otherwise the name ends
    within the text, because a name that is all of it could go on. A sign stands behind it, and from
    there `ending?_append` applies. -/
theorem named?_append {text : Text} (complete : nameOpen text = false) (later : Text)
    (closing : Bool) (start skipped : Nat) :
    named? closing start skipped (text ++ later) = named? closing start skipped text ∧
      nameOpen (text ++ later) = false := by
  cases text with
  | nil => cases complete
  | cons c rest =>
    cases first : Name.startsWith c with
    | false => exact ⟨by simp [named?, Name.take?, first], by simp [nameOpen, Name.take?, first]⟩
    | true =>
      have within : rest.all Name.continuesWith = false := by
        apply Bool.eq_false_iff.mpr
        intro all
        have none : rest.dropWhile Name.continuesWith = [] :=
          List.dropWhile_eq_nil_iff.mpr (List.all_eq_true.mp all)
        simp [nameOpen, Name.take?, first, none, endingOpen] at complete
      obtain ⟨run, stop, tail, _, cut⟩ := run_ends within
      obtain ⟨taken, dropped⟩ := cut later
      obtain ⟨shortTaken, shortDropped⟩ := cut []
      rw [List.append_nil] at shortTaken shortDropped
      have ended : endingOpen (stop :: tail) = false := by
        simpa [nameOpen, Name.take?, first, shortDropped] using complete
      obtain ⟨sameEnding, stillEnded⟩ := ending?_append ended later
      rw [List.cons_append] at sameEnding stillEnded
      constructor
      · simp [named?, Name.take?, first, taken, dropped, shortTaken, shortDropped, sameEnding]
      · simp [nameOpen, Name.take?, first, dropped, stillEnded]

/-- A mark that cannot go on is the same in a longer text. A slash in front only says that the mark
    closes an element. -/
theorem after?_append {text : Text} (complete : afterOpen text = false) (later : Text)
    (start : Nat) :
    after? start (text ++ later) = after? start text ∧ afterOpen (text ++ later) = false := by
  cases text with
  | nil => cases complete
  | cons c rest =>
    by_cases slash : c = '/'
    · subst slash
      exact named?_append complete later true start 2
    · have here : nameOpen (c :: rest) = false := by simpa [afterOpen, slash] using complete
      obtain ⟨same, still⟩ := named?_append here later false start 1
      rw [List.cons_append] at same still ⊢
      constructor
      · simpa [after?, slash] using same
      · simpa [afterOpen, slash] using still

end Mark

/-- Whether a bracket of a text could still begin a mark that ends beyond the text. -/
def leavesOpen : Text → Bool
  | [] => false
  | c :: rest => (c == '<' && Mark.afterOpen rest) || leavesOpen rest

/-- Whether a bracket of a text is pending, apart from the blanks at the end of the text. -/
def pending (text : Text) : Bool :=
  leavesOpen (Text.trimEnd Text.isBlank text)

/-- What follows a text that leaves no bracket open decides whether both together do. By induction
    on the first text, each of whose brackets has been decided about already. -/
theorem leavesOpen_append {first : Text} (complete : leavesOpen first = false) (later : Text) :
    leavesOpen (first ++ later) = leavesOpen later := by
  induction first with
  | nil => rfl
  | cons c rest ih =>
    rw [leavesOpen, Bool.or_eq_false_iff] at complete
    obtain ⟨here, further⟩ := complete
    rw [List.cons_append, leavesOpen, ih further]
    by_cases bracket : c = '<'
    · have closed : Mark.afterOpen rest = false := by simpa [bracket] using here
      simp [(Mark.after?_append closed later 0).2]
    · simp [bracket]

/-- The marks of a text that leaves no bracket open and of what follows are found apart. Those of
    the second text have the places that follow the first. -/
theorem marksFrom_append {first : Text} (complete : leavesOpen first = false) (later : Text)
    (start : Nat) :
    marksFrom start (first ++ later) =
      marksFrom start first ++ marksFrom (start + first.length) later := by
  induction first generalizing start with
  | nil => simp [marksFrom]
  | cons c rest ih =>
    rw [leavesOpen, Bool.or_eq_false_iff] at complete
    obtain ⟨here, further⟩ := complete
    have tail := ih further (start + 1)
    rw [Nat.add_right_comm, Nat.add_assoc] at tail
    rw [List.cons_append, marksFrom, marksFrom, tail, List.length_cons]
    by_cases bracket : c = '<'
    · have closed : Mark.afterOpen rest = false := by simpa [bracket] using here
      rw [if_pos bracket, if_pos bracket, (Mark.after?_append closed later start).1]
      split <;> simp
    · rw [if_neg bracket, if_neg bracket]

/-- What follows an opening bracket is the same mark at any place, but for its place. Reading looks
    at the place only to write it into the mark. -/
theorem shape_after? (first second : Nat) (text : Text) :
    (Mark.after? first text).map Mark.shape = (Mark.after? second text).map Mark.shape := by
  have named : ∀ closing skipped text,
      (Mark.named? closing first skipped text).map Mark.shape =
        (Mark.named? closing second skipped text).map Mark.shape := by
    intro closing skipped text
    unfold Mark.named?
    cases Name.take? text with
    | none => rfl
    | some parts =>
      cases ended : Mark.ending? parts.2 with
      | none => simp [ended]
      | some ending => simp [ended, Mark.shape]
  unfold Mark.after?
  split <;> exact named _ _ _

/-- The marks of a text are the same at any place, but for their places. By induction on the text,
    for any two places at once. -/
theorem shape_marksFrom (start : Nat) (text : Text) :
    (marksFrom start text).map Mark.shape = shapes text := by
  have shift : ∀ first second, (marksFrom first text).map Mark.shape =
      (marksFrom second text).map Mark.shape := by
    induction text with
    | nil => exact fun _ _ => rfl
    | cons c rest ih =>
      intro first second
      have later := ih (first + 1) (second + 1)
      have same := shape_after? first second rest
      rw [marksFrom, marksFrom]
      by_cases bracket : c = '<'
      · rw [if_pos bracket, if_pos bracket]
        cases read : Mark.after? first rest with
        | none =>
          cases other : Mark.after? second rest with
          | none => exact later
          | some mark => simp [read, other] at same
        | some mark =>
          cases other : Mark.after? second rest with
          | none => simp [read, other] at same
          | some mark => simp_all
      · rw [if_neg bracket, if_neg bracket]
        exact later
  exact shift start 0

/-- Where a text leaves no bracket open, its marks come before those of what follows. -/
theorem shapes_append_of_leavesOpen {first : Text} (complete : leavesOpen first = false)
    (later : Text) : shapes (first ++ later) = shapes first ++ shapes later := by
  rw [shapes, marks, marksFrom_append complete, List.map_append, shape_marksFrom, shape_marksFrom]

/-- A text without opening brackets has no marks and leaves none open, since every mark begins with
    one. -/
theorem plain_of_noBracket {text : Text} (plain : '<' ∉ text) :
    shapes text = [] ∧ leavesOpen text = false := by
  induction text with
  | nil => exact ⟨rfl, rfl⟩
  | cons c rest ih =>
    rw [List.mem_cons, not_or] at plain
    obtain ⟨none, closed⟩ := ih plain.2
    have other : c ≠ '<' := fun same => plain.1 same.symm
    constructor
    · rw [shapes, marks, marksFrom, if_neg other, shape_marksFrom, none]
    · simp [leavesOpen, other, closed]

/-- Blanks have no marks and leave none open. -/
theorem plain_of_blank {text : Text} (blank : ∀ c ∈ text, Text.isBlank c = true) :
    shapes text = [] ∧ leavesOpen text = false := by
  apply plain_of_noBracket
  intro bracket
  exact absurd (blank '<' bracket) (by decide)

/-- A text without a pending bracket leaves none open. -/
theorem leavesOpen_of_pending {text : Text} (complete : pending text = false) :
    leavesOpen text = false := by
  obtain ⟨trimmed, same, blank⟩ := Text.trimEnd_append Text.isBlank text
  rw [same, leavesOpen_append complete, (plain_of_blank blank).2]

/-- After a text without a pending bracket, what follows decides whether a bracket is pending. If
    only blanks follow, they are disregarded, and the first text has none. -/
theorem pending_append {first : Text} (complete : pending first = false) (later : Text) :
    pending (first ++ later) = pending later := by
  unfold pending
  rw [Text.trimEnd_of_append]
  split
  · rename_i nothing
    rw [nothing]
    exact complete
  · exact leavesOpen_append (leavesOpen_of_pending complete) _

/-- After a text without a pending bracket, the marks of what follows are found apart. -/
theorem shapes_append {first : Text} (complete : pending first = false) (later : Text) :
    shapes (first ++ later) = shapes first ++ shapes later :=
  shapes_append_of_leavesOpen (leavesOpen_of_pending complete) later

/-- A text without a pending bracket keeps its marks when it loses the blanks at its ends, and has
    no pending bracket then.

    Proof: the text is the blanks in front, the trimmed text and the blanks behind. Blanks have no
    marks, and those in front leave no bracket open, so what is behind them is found apart. The
    trimmed text has no pending bracket because the blanks behind it were disregarded already, so
    the marks behind it are found apart too, and there are none. -/
theorem shapes_trim {text : Text} (complete : pending text = false) :
    shapes (Text.trim text) = shapes text ∧ pending (Text.trim text) = false := by
  obtain ⟨before, split, blankBefore⟩ := Text.append_trimStart Text.isBlank text
  obtain ⟨after, splitEnd, blankAfter⟩ :=
    Text.trimEnd_append Text.isBlank (Text.trimStart Text.isBlank text)
  have trimmed : Text.trimEnd Text.isBlank (Text.trimStart Text.isBlank text) = Text.trim text :=
    rfl
  rw [trimmed] at splitEnd
  have pendingBefore : pending before = false := by
    rw [pending, Text.trimEnd_of_all blankBefore]
    rfl
  have inside : pending (Text.trimStart Text.isBlank text) = false := by
    rw [← pending_append pendingBefore, ← split]
    exact complete
  have still : pending (Text.trim text) = false := by
    have ends : Text.trimEnd Text.isBlank (Text.trim text) = Text.trim text := by
      have whole := trimmed
      rw [splitEnd, Text.trimEnd_of_append, if_pos (Text.trimEnd_of_all blankAfter)] at whole
      exact whole
    rw [pending, ends, ← trimmed]
    exact inside
  refine ⟨Eq.symm ?_, still⟩
  calc shapes text
      = shapes before ++ shapes (Text.trimStart Text.isBlank text) := by
        rw [← shapes_append pendingBefore, ← split]
    _ = shapes (Text.trim text ++ after) := by
        rw [(plain_of_blank blankBefore).1, List.nil_append, ← splitEnd]
    _ = shapes (Text.trim text) := by
        rw [shapes_append still, (plain_of_blank blankAfter).1, List.append_nil]

end RoleWeave
