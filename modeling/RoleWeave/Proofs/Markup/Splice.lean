import RoleWeave.Markup.Document
import RoleWeave.Proofs.Markup.Pending

/-!
# Splicing nested texts

Documents are put into other documents, and the question is when the result is a document again.
Known tags make no difficulty: each text opens and closes its own. Tags outside the vocabulary do,
since a text that stands alone may leave them unmatched: an opening mark that nothing closes later,
or a closing mark that closes nothing. In a longer text such a mark may find its counterpart.

`advance` runs the marks of a part of a text against the open elements, in view of the marks that
come after the part. A part is `Neutral` if it leaves the open elements as they are wherever the
unmatched marks of some texts find no counterpart. `neutral_spliced` says that a document with
neutral parts put into it is neutral, if no two of the texts involved match each other's marks.
-/

namespace RoleWeave

/-- Whether one of these marks closes an element of this name. -/
def closes (name : Text) (later : List Shape) : Bool :=
  later.any (fun shape => shape.closing && shape.name == name)

/-- Whether one of these marks could open an element of this name. -/
def opens (name : Text) (later : List Shape) : Bool :=
  later.any (fun shape => !shape.closing && !shape.selfClosing && shape.name == name)

/-- The open elements after a closing mark, if it may stand there. -/
def leave (name : Text) (stack : List Text) : Option (List Text) :=
  if stack.head? = some name then some stack.tail
  else if stack.contains name || isKnown name then none
  else some stack

/-- The open elements after an opening mark, which may be closed later or not. -/
def enter (name : Text) (closed : Bool) (stack : List Text) : List Text :=
  if isKnown name || closed then name :: stack else stack

/-- The open elements after the marks of a part of a text, if they may stand there. The marks of
    `after` come later in the text than the part. -/
def advance (after : List Shape) : (stack : List Text) → List Shape → Option (List Text)
  | stack, [] => some stack
  | stack, shape :: later =>
      if shape.closing then
        (leave shape.name stack).bind (fun left => advance after left later)
      else if shape.selfClosing then advance after stack later
      else advance after (enter shape.name (closes shape.name (later ++ after)) stack) later

/-- The names of the opening marks that are plain text, because no later mark closes them. -/
def loose : List Shape → List Text
  | [] => []
  | shape :: later =>
      if shape.closing || shape.selfClosing || isKnown shape.name || closes shape.name later then
        loose later
      else shape.name :: loose later

/-- The names of the closing marks that are plain text, because they close no open element. -/
def strays : (stack : List Text) → List Shape → List Text
  | _, [] => []
  | stack, shape :: later =>
      if shape.closing then
        match leave shape.name stack with
        | none => []
        | some left =>
            if stack.contains shape.name then strays left later
            else shape.name :: strays left later
      else if shape.selfClosing then strays stack later
      else strays (enter shape.name (closes shape.name later) stack) later

/-- Neither of two texts has a mark that is plain text in it and has its counterpart in the
    other. -/
def apart (first second : Text) : Bool :=
  (loose (shapes first)).all (fun name => !closes name (shapes second)) &&
    (loose (shapes second)).all (fun name => !closes name (shapes first)) &&
    (strays [] (shapes first)).all (fun name => !opens name (shapes second)) &&
    (strays [] (shapes second)).all (fun name => !opens name (shapes first))

/-- What is made of elements that were matched is there exactly if they are. -/
theorem placed_iff (matched : Except NestingFault (List Element))
    (place : List Element → List Element) :
    (∃ elements, matched.map place = .ok elements) ↔ ∃ elements, matched = .ok elements := by
  cases matched <;> simp [Except.map]

/-- Matching goes on behind a closing mark with the elements that it leaves open, if it may stand
    there. What becomes of the marks behind it is assumed; the cases are those of the open elements,
    the innermost of which has the name of the mark or another. -/
theorem nest_closing {mark : Mark} {later : List Mark} (closing : mark.closing = true)
    (rest : ∀ stack : List OpenElement, (∃ elements, nest stack later = .ok elements) ↔
      advance [] (stack.map OpenElement.name) (later.map Mark.shape) = some [])
    (stack : List OpenElement) :
    (∃ elements, nest stack (mark :: later) = .ok elements) ↔
      (leave mark.name (stack.map OpenElement.name)).bind
        (fun left => advance [] left (later.map Mark.shape)) = some [] := by
  cases stack with
  | nil =>
    by_cases known : isKnown mark.name = true
    · simp [nest, closing, known, leave]
    · have further := rest []
      rw [List.map_nil] at further
      simp [nest, closing, known, leave, further]
  | cons top below =>
    by_cases own : top.name = mark.name
    · simp [nest, closing, own, leave, placed_iff, rest]
    · have other : ¬mark.name = top.name := fun equal => own equal.symm
      by_cases deeper : ∃ outer ∈ below, outer.name = mark.name
      · simp [nest, closing, own, deeper, leave]
      · by_cases known : isKnown mark.name = true
        · simp [nest, closing, own, deeper, known, leave]
        · have further := rest (top :: below)
          rw [List.map_cons] at further
          simpa [nest, closing, own, deeper, known, leave, other] using further

/-- Matching marks comes to an end without a fault exactly if they leave nothing open.

    Proof: by induction on the marks. A closing mark is `nest_closing`. A mark that closes itself
    adds an element and opens nothing. An opening mark opens an element in both runs or in neither,
    since both look for a closing mark of its name among the later ones. -/
theorem nest_iff_advance (stack : List OpenElement) (marks : List Mark) :
    (∃ elements, nest stack marks = .ok elements) ↔
      advance [] (stack.map OpenElement.name) (marks.map Mark.shape) = some [] := by
  induction marks generalizing stack with
  | nil =>
    cases stack with
    | nil => simp [nest, advance]
    | cons top below => simp [nest, advance]
  | cons mark later ih =>
    have same : closesLater mark.name later =
        closes mark.name (later.map Mark.shape ++ []) := by
      simp [closesLater, closes, Mark.shape, Function.comp_def]
    have named : mark.shape.name = mark.name := rfl
    rw [List.map_cons, advance, named]
    by_cases closing : mark.closing = true
    · have shaped : mark.shape.closing = true := closing
      rw [if_pos shaped]
      exact nest_closing closing ih stack
    · have opening : mark.closing = false := by simpa using closing
      have shaped : mark.shape.closing = false := opening
      rw [if_neg (by simp [shaped])]
      by_cases single : mark.selfClosing = true
      · have shapedSingle : mark.shape.selfClosing = true := single
        rw [if_pos shapedSingle, ← ih]
        cases stack <;> simp [nest, opening, single, placed_iff]
      · have shapedSingle : mark.shape.selfClosing = false := Bool.eq_false_iff.mpr single
        rw [if_neg (by simp [shapedSingle]), ← same]
        by_cases entered : (isKnown mark.name || closesLater mark.name later) = true
        · have rest := ih (⟨mark.name, mark.start, mark.stop⟩ :: stack)
          rw [List.map_cons] at rest
          rw [enter, if_pos entered, ← rest]
          cases stack <;> simp [nest, opening, single, entered]
        · rw [enter, if_neg entered, ← ih]
          cases stack <;> simp [nest, opening, single, entered]

/-- A text is a document exactly if its marks leave nothing open. Only the names of the marks and
    whether they close matter for that. -/
theorem parse_iff_advance (raw : Text) :
    (∃ document, Document.parse raw = .ok document) ↔ advance [] [] (shapes raw) = some [] := by
  have matched := nest_iff_advance [] (marks raw)
  rw [List.map_nil] at matched
  rw [shapes, ← matched]
  unfold Document.parse elements
  cases nest [] (marks raw) <;> simp

/-- Running two parts one after the other is running the first in view of the second. What comes
    after both is in view of each. -/
theorem advance_append (after first second : List Shape) (stack : List Text) :
    advance after stack (first ++ second) =
      (advance (second ++ after) stack first).bind (fun left => advance after left second) := by
  induction first generalizing stack with
  | nil => rfl
  | cons shape later ih =>
    simp only [List.cons_append, advance, List.append_assoc, ih]
    split
    · cases leave shape.name stack <;> rfl
    · split <;> rfl

/-- Two parts close an element together if one of them does. -/
theorem closes_append (name : Text) (first second : List Shape) :
    closes name (first ++ second) = (closes name first || closes name second) :=
  List.any_append

/-- A mark closes an element of a name if the first mark does or a later one. -/
theorem closes_cons (name : Text) (shape : Shape) (later : List Shape) :
    closes name (shape :: later) = ((shape.closing && shape.name == name) || closes name later) :=
  rfl

/-- Where the open elements of a part stand above others, a closing mark that may stand there leaves
    those others as they are, unless it is one of the strays that they hold.

    Proof: if the part has no element open, the mark is foreign, and since the others do not hold
    its name it is plain text above them too. If it closes the innermost element of the part, it
    does the same above the others. If it is plain text although elements of the part are open, its
    name is not among them, and by assumption not among the others. -/
theorem leave_append {name : Text} {inner left : List Text} (stack : List Text)
    (alone : leave name inner = some left) (held : name ∈ inner ∨ name ∉ stack) :
    leave name (inner ++ stack) = some (left ++ stack) := by
  unfold leave at alone ⊢
  cases inner with
  | nil =>
    rcases held with impossible | outside
    · cases impossible
    · have known : isKnown name = false := by
        cases known : isKnown name with
        | false => rfl
        | true => simp [known] at alone
      have same : left = [] := by simpa [known] using alone.symm
      have other : stack.head? ≠ some name := fun first => outside (List.mem_of_head? first)
      simp [same, known, outside, other]
  | cons top below =>
    by_cases own : top = name
    · simp only [List.head?_cons, own, if_true, List.tail_cons, Option.some.injEq] at alone
      simp [own, alone]
    · have other : some top ≠ some name := fun same => own (Option.some.inj same)
      rw [List.head?_cons, if_neg other] at alone
      rw [List.cons_append, List.head?_cons, if_neg other]
      by_cases blocked : ((top :: below).contains name || isKnown name) = true
      · rw [if_pos blocked] at alone
        cases alone
      · rw [if_neg blocked] at alone
        cases alone
        rw [Bool.not_eq_true, Bool.or_eq_false_iff] at blocked
        have absent : name ∉ top :: below := by simpa using blocked.1
        have outside : name ∉ stack := by
          rcases held with present | outside
          · exact absurd present absent
          · exact outside
        have free : name ∉ top :: (below ++ stack) := by
          simp only [List.mem_cons, List.mem_append, not_or] at absent ⊢
          exact ⟨absent.1, absent.2, outside⟩
        have clear : ((top :: (below ++ stack)).contains name || isKnown name) = false := by
          simpa [blocked.2] using free
        rw [if_neg (by simpa using clear)]
        rfl

/-- A closing mark leaves no element open that was not open before. It takes one away or changes
    nothing. -/
theorem mem_of_leave {name other : Text} {stack left : List Text}
    (ran : leave name stack = some left) (member : other ∈ left) : other ∈ stack := by
  unfold leave at ran
  split at ran
  · cases ran
    exact List.mem_of_mem_tail member
  · split at ran
    · cases ran
    · cases ran
      exact member

/-- A part with marks that leaves the open elements as they are, wherever they are not among the
    strays of some texts and nothing after it closes their loose marks. It closes nothing that none
    of the texts closes. -/
structure Neutral (texts : List Text) (part : List Shape) : Prop where
  passes : ∀ stack after,
    (∀ text ∈ texts, ∀ name ∈ strays [] (shapes text), name ∉ stack) →
    (∀ text ∈ texts, ∀ name ∈ loose (shapes text), closes name after = false) →
    advance after stack part = some stack
  closed : ∀ name, closes name part = true → ∃ text ∈ texts, closes name (shapes text) = true

/-- The marks of a text with neutral parts put into it, each with the texts that it comes from. -/
inductive Spliced : List Shape → List (List Text) → List Shape → Prop where
  | done : Spliced [] [] []
  /-- A mark of the text itself. -/
  | mark {outer result : List Shape} {groups : List (List Text)} (shape : Shape)
      (rest : Spliced outer groups result) : Spliced (shape :: outer) groups (shape :: result)
  /-- A part that is put in. -/
  | insert {outer result part : List Shape} {groups : List (List Text)} {texts : List Text}
      (neutral : Neutral texts part) (rest : Spliced outer groups result) :
      Spliced outer (texts :: groups) (part ++ result)

/-- A text into which nothing is put. -/
theorem Spliced.same (outer : List Shape) : Spliced outer [] outer := by
  induction outer with
  | nil => exact .done
  | cons shape rest ih => exact .mark shape ih

/-- Marks in front of a text into which something is put. -/
theorem Spliced.prepend {outer result : List Shape} {groups : List (List Text)}
    (spliced : Spliced outer groups result) (first : List Shape) :
    Spliced (first ++ outer) groups (first ++ result) := by
  induction first with
  | nil => exact spliced
  | cons shape rest ih => exact .mark shape ih

/-- What the result closes is closed by the text itself or by a text of a part. A part closes
    nothing that none of its texts closes. -/
theorem Spliced.closes_result {outer result : List Shape} {groups : List (List Text)}
    (spliced : Spliced outer groups result) {name : Text} (closed : closes name result = true) :
    closes name outer = true ∨ ∃ text ∈ groups.flatten, closes name (shapes text) = true := by
  induction spliced with
  | done => exact .inl closed
  | mark shape rest ih =>
    rw [closes_cons, Bool.or_eq_true] at closed
    rcases closed with here | later
    · exact .inl (by rw [closes_cons, here, Bool.true_or])
    · rcases ih later with outside | ⟨text, member, inside⟩
      · exact .inl (by rw [closes_cons, outside, Bool.or_true])
      · exact .inr ⟨text, member, inside⟩
  | insert neutral rest ih =>
    rw [closes_append, Bool.or_eq_true] at closed
    rcases closed with here | later
    · obtain ⟨text, member, inside⟩ := neutral.closed name here
      exact .inr ⟨text, by simp [member], inside⟩
    · rcases ih later with outside | ⟨text, member, inside⟩
      · exact .inl outside
      · exact .inr ⟨text, by simp [List.mem_flatten.mp member], inside⟩

/-- What the text itself closes is closed by the result. Putting parts in takes no mark away. -/
theorem Spliced.closes_outer {outer result : List Shape} {groups : List (List Text)}
    (spliced : Spliced outer groups result) {name : Text} (closed : closes name outer = true) :
    closes name result = true := by
  induction spliced with
  | done => exact closed
  | mark shape rest ih =>
    rw [closes_cons, Bool.or_eq_true] at closed
    rcases closed with here | later
    · rw [closes_cons, here, Bool.true_or]
    · rw [closes_cons, ih later, Bool.or_true]
  | insert neutral rest ih => rw [closes_append, ih closed, Bool.or_true]

/-- The texts that are put into the rest of a text do not match its marks, and those that come first
    leave no mark open that a later one closes. `inner` are the elements of the text that are open
    where its rest begins. -/
structure Fits (inner : List Text) (outer : List Shape) (texts : List Text) : Prop where
  strays : ∀ text ∈ texts, ∀ name ∈ strays [] (shapes text),
    name ∉ inner ∧ opens name outer = false
  loose : ∀ text ∈ texts, ∀ name ∈ loose (shapes text), closes name outer = false
  closed : ∀ name ∈ RoleWeave.loose outer, ∀ text ∈ texts, closes name (shapes text) = false
  ordered : texts.Pairwise (fun first second =>
    ∀ name ∈ RoleWeave.loose (shapes first), closes name (shapes second) = false)

/-- What is plain text in the rest of a text is plain text in it. -/
theorem mem_loose_cons {name : Text} {outer : List Shape} (shape : Shape)
    (plain : name ∈ loose outer) : name ∈ loose (shape :: outer) := by
  rw [loose]
  split
  · exact plain
  · exact List.mem_cons_of_mem _ plain

/-- What closes nothing behind a closing mark closes nothing in the whole. The mark itself may be
    one more such mark. -/
theorem mem_strays_of_leave {name : Text} {shape : Shape} {outer : List Shape}
    {inner left : List Text} (closing : shape.closing = true)
    (ran : leave shape.name inner = some left) (stray : name ∈ strays left outer) :
    name ∈ strays inner (shape :: outer) := by
  rw [strays, if_pos closing, ran]
  dsimp only
  split
  · exact stray
  · exact List.mem_cons_of_mem _ stray

/-- Behind its first mark, the rest of a text fits as well. The open elements may only become fewer,
    or the mark itself opens one. Such a mark is among those that no stray of the texts may meet. -/
theorem Fits.tail {inner left texts : List Text} {shape : Shape} {outer : List Shape}
    (fits : Fits inner (shape :: outer) texts)
    (opened : ∀ name ∈ left, name ∈ inner ∨ opens name (shape :: outer) = true) :
    Fits left outer texts where
  strays := by
    intro text member name stray
    obtain ⟨outside, unopened⟩ := fits.strays text member name stray
    refine ⟨?_, ?_⟩
    · intro held
      rcases opened name held with before | here
      · exact outside before
      · rw [unopened] at here
        cases here
    · rw [opens, List.any_cons, Bool.or_eq_false_iff] at unopened
      exact unopened.2
  loose := by
    intro text member name plain
    have closed := fits.loose text member name plain
    rw [closes_cons, Bool.or_eq_false_iff] at closed
    exact closed.2
  closed := fun name plain => fits.closed name (mem_loose_cons shape plain)
  ordered := fits.ordered

/-- Without the texts that come first, the others fit as well. Each condition speaks of fewer texts
    then. -/
theorem Fits.later {inner first second : List Text} {outer : List Shape}
    (fits : Fits inner outer (first ++ second)) : Fits inner outer second where
  strays := fun text member => fits.strays text (List.mem_append_right _ member)
  loose := fun text member => fits.loose text (List.mem_append_right _ member)
  closed := fun name plain text member =>
    fits.closed name plain text (List.mem_append_right _ member)
  ordered := (List.pairwise_append.mp fits.ordered).2.1

/-- The unmatched marks of a text, from where the elements `inner` are open, and those of the texts
    put into it find no counterpart around: not among the open elements of `stack`, and not among
    the marks of `after`. -/
structure Detached (inner : List Text) (outer : List Shape) (texts stack : List Text)
    (after : List Shape) : Prop where
  unheld : ∀ name ∈ strays inner outer, name ∉ stack
  unclosed : ∀ name ∈ loose outer, closes name after = false
  unheldInside : ∀ text ∈ texts, ∀ name ∈ strays [] (shapes text), name ∉ stack
  unclosedInside : ∀ text ∈ texts, ∀ name ∈ loose (shapes text), closes name after = false

/-- Behind its first mark, the rest of a text is detached as well, if it has no unmatched marks that
    the whole does not have. -/
theorem Detached.tail {inner left texts stack : List Text} {shape : Shape}
    {outer after : List Shape} (detached : Detached inner (shape :: outer) texts stack after)
    (fewer : ∀ name ∈ strays left outer, name ∈ strays inner (shape :: outer)) :
    Detached left outer texts stack after where
  unheld := fun name stray => detached.unheld name (fewer name stray)
  unclosed := fun name plain => detached.unclosed name (mem_loose_cons shape plain)
  unheldInside := detached.unheldInside
  unclosedInside := detached.unclosedInside

/-- Without the texts that come first, the others are detached as well. What the condition asks of
    the text around them does not depend on which they are. -/
theorem Detached.later {inner first second stack : List Text} {outer after : List Shape}
    (detached : Detached inner outer (first ++ second) stack after) :
    Detached inner outer second stack after where
  unheld := detached.unheld
  unclosed := detached.unclosed
  unheldInside := fun text member => detached.unheldInside text (List.mem_append_right _ member)
  unclosedInside := fun text member =>
    detached.unclosedInside text (List.mem_append_right _ member)

/-- Whether an opening mark of a text opens an element is decided by the text itself, whatever is
    put in behind the mark.

    Proof: only a foreign mark can be in doubt. If the text closes it, the result does so too. If
    not, the mark is plain text in the text alone, and then no text that is put in closes its name,
    because they fit, and nothing after the result does, because it is detached. -/
theorem enter_spliced {outer result after : List Shape} {groups : List (List Text)}
    (rest : Spliced outer groups result) {shape : Shape} {inner stack : List Text}
    (closing : shape.closing = false) (single : shape.selfClosing = false)
    (fits : Fits inner (shape :: outer) groups.flatten)
    (detached : Detached inner (shape :: outer) groups.flatten stack after) :
    enter shape.name (closes shape.name (result ++ after)) (inner ++ stack) =
      enter shape.name (closes shape.name outer) inner ++ stack := by
  have same : (isKnown shape.name || closes shape.name (result ++ after)) =
      (isKnown shape.name || closes shape.name outer) := by
    cases known : isKnown shape.name with
    | true => rfl
    | false =>
      rw [Bool.false_or, Bool.false_or]
      cases closed : closes shape.name outer with
      | true => rw [closes_append, rest.closes_outer closed, Bool.true_or]
      | false =>
        have plain : shape.name ∈ loose (shape :: outer) := by
          simp [loose, closing, single, known, closed]
        apply Bool.eq_false_iff.mpr
        intro found
        rw [closes_append, detached.unclosed shape.name plain, Bool.or_false] at found
        rcases rest.closes_result found with outside | ⟨text, member, inside⟩
        · rw [closed] at outside
          cases outside
        · rw [fits.closed shape.name plain text member] at inside
          cases inside
  unfold enter
  rw [same]
  split <;> rfl

/-- The first part that is put into the rest of a text leaves the open elements as they are. Its
    strays are neither among the open elements of the text, because it fits, nor among those below,
    because it is detached; and what is behind it closes none of its loose marks, for the same two
    reasons and because of the order of the texts. -/
theorem Neutral.passes_within {outer result part after : List Shape} {groups : List (List Text)}
    {texts inner stack : List Text} (neutral : Neutral texts part)
    (rest : Spliced outer groups result) (fits : Fits inner outer (texts ++ groups.flatten))
    (detached : Detached inner outer (texts ++ groups.flatten) stack after) :
    advance (result ++ after) (inner ++ stack) part = some (inner ++ stack) := by
  obtain ⟨_, _, earlier⟩ := List.pairwise_append.mp fits.ordered
  refine neutral.passes _ _ ?_ ?_
  · intro text member name stray
    have among : text ∈ texts ++ groups.flatten := List.mem_append_left _ member
    rw [List.mem_append, not_or]
    exact ⟨(fits.strays text among name stray).1, detached.unheldInside text among name stray⟩
  · intro text member name plain
    have among : text ∈ texts ++ groups.flatten := List.mem_append_left _ member
    apply Bool.eq_false_iff.mpr
    intro found
    rw [closes_append, detached.unclosedInside text among name plain, Bool.or_false] at found
    rcases rest.closes_result found with outside | ⟨other, otherMember, inside⟩
    · rw [fits.loose text among name plain] at outside
      cases outside
    · rw [earlier text member other otherMember name plain] at inside
      cases inside

/-- If the rest of a text alone takes the open elements `inner` to `left`, then with the parts put
    in it does so above any other open elements, as long as the unmatched marks of the text and of
    the parts find no counterpart around them.

    Proof: by induction on how the parts are put in. At a mark of the text itself, what decides
    about the mark has to be the same as where the text stands alone (`leave_append`,
    `enter_spliced`); at a part, its neutrality is used (`Neutral.passes_within`). -/
theorem advance_spliced {outer result : List Shape} {groups : List (List Text)}
    (spliced : Spliced outer groups result) {inner left stack : List Text} {after : List Shape}
    (alone : advance [] inner outer = some left) (fits : Fits inner outer groups.flatten)
    (detached : Detached inner outer groups.flatten stack after) :
    advance after (inner ++ stack) result = some (left ++ stack) := by
  induction spliced generalizing inner with
  | done =>
    cases alone
    rfl
  | @mark outer result groups shape rest ih =>
    rw [advance] at alone ⊢
    by_cases closing : shape.closing = true
    · rw [if_pos closing] at alone ⊢
      obtain ⟨middle, ran, further⟩ := Option.bind_eq_some_iff.mp alone
      have held : shape.name ∈ inner ∨ shape.name ∉ stack := by
        by_cases inside : shape.name ∈ inner
        · exact .inl inside
        · refine .inr (detached.unheld shape.name ?_)
          simp [strays, closing, ran, inside]
      rw [leave_append stack ran held, Option.bind_some]
      refine ih further (fits.tail ?_) (detached.tail ?_)
      · exact fun name member => .inl (mem_of_leave ran member)
      · exact fun name => mem_strays_of_leave closing ran
    · have opening : shape.closing = false := by simpa using closing
      rw [if_neg closing] at alone ⊢
      by_cases single : shape.selfClosing = true
      · rw [if_pos single] at alone ⊢
        refine ih alone (fits.tail fun name member => .inl member) (detached.tail ?_)
        intro name stray
        simpa [strays, opening, single] using stray
      · have double : shape.selfClosing = false := by simpa using single
        rw [if_neg single] at alone ⊢
        rw [List.append_nil] at alone
        rw [enter_spliced rest opening double fits detached]
        refine ih alone (fits.tail ?_) (detached.tail ?_)
        · intro name member
          unfold enter at member
          split at member
          · rcases List.mem_cons.mp member with rfl | before
            · exact .inr (by simp [opens, opening, double])
            · exact .inl before
          · exact .inl member
        · intro name stray
          simpa [strays, opening, double] using stray
  | @insert outer result part groups texts neutral rest ih =>
    rw [List.flatten_cons] at fits detached
    rw [advance_append, neutral.passes_within rest fits detached, Option.bind_some]
    exact ih alone fits.later detached.later

/-- What it says of two texts that neither has the counterpart of a mark that is plain text in the
    other. -/
theorem apart_iff (first second : Text) :
    apart first second = true ↔
      (∀ name ∈ loose (shapes first), closes name (shapes second) = false) ∧
      (∀ name ∈ loose (shapes second), closes name (shapes first) = false) ∧
      (∀ name ∈ strays [] (shapes first), opens name (shapes second) = false) ∧
      ∀ name ∈ strays [] (shapes second), opens name (shapes first) = false := by
  simp [apart, and_assoc]

/-- A document with neutral parts put into it is neutral, if no two of its texts match each other's
    marks.

    Proof: alone the document takes no open elements to none. Its texts fit and are detached,
    because of any two of them neither has the counterpart of a mark that is plain text in the
    other, and around them the strays and the loose marks find none by assumption. So
    `advance_spliced` applies with nothing open inside. What the result closes is closed by one of
    the texts. -/
theorem neutral_spliced {content : Text} {document : Document} {groups : List (List Text)}
    {result : List Shape} (parses : Document.parse content = .ok document)
    (spliced : Spliced (shapes content) groups result)
    (separate : (content :: groups.flatten).Pairwise (fun first second =>
      apart first second = true)) :
    Neutral (content :: groups.flatten) result := by
  obtain ⟨around, among⟩ := List.pairwise_cons.mp separate
  have alone : advance [] [] (shapes content) = some [] :=
    (parse_iff_advance content).mp ⟨document, parses⟩
  have fits : Fits [] (shapes content) groups.flatten := by
    refine ⟨?_, ?_, ?_, ?_⟩
    · intro text member name stray
      obtain ⟨_, _, _, unopened⟩ := (apart_iff content text).mp (around text member)
      exact ⟨List.not_mem_nil, unopened name stray⟩
    · intro text member
      obtain ⟨_, unclosed, _, _⟩ := (apart_iff content text).mp (around text member)
      exact unclosed
    · intro name plain text member
      obtain ⟨unclosed, _, _, _⟩ := (apart_iff content text).mp (around text member)
      exact unclosed name plain
    · exact among.imp (fun both => ((apart_iff _ _).mp both).1)
  constructor
  · intro stack after unheld unclosed
    refine advance_spliced spliced alone fits ⟨?_, ?_, ?_, ?_⟩
    · exact unheld content List.mem_cons_self
    · exact unclosed content List.mem_cons_self
    · exact fun text member => unheld text (List.mem_cons_of_mem _ member)
    · exact fun text member => unclosed text (List.mem_cons_of_mem _ member)
  · intro name closed
    rcases spliced.closes_result closed with outside | ⟨text, member, inside⟩
    · exact ⟨content, List.mem_cons_self, outside⟩
    · exact ⟨text, List.mem_cons_of_mem _ member, inside⟩

/-- Nothing is neutral: without marks no open element is touched. -/
theorem neutral_nil : Neutral [] [] where
  passes := by
    intro stack after _ _
    rfl
  closed := by
    intro name closed
    cases closed

/-- A text whose marks are neutral is a document. With nothing open around it and nothing after it,
    it leaves nothing open. -/
theorem Neutral.parses {texts : List Text} {raw : Text} (neutral : Neutral texts (shapes raw)) :
    ∃ document, Document.parse raw = .ok document := by
  apply (parse_iff_advance raw).mpr
  apply neutral.passes [] []
  · intro text member name stray
    exact List.not_mem_nil
  · intro text member name plain
    rfl

end RoleWeave
