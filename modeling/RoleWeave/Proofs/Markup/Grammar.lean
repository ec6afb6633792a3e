import Mathlib.Data.Multiset.AddSub
import RoleWeave.Proofs.Markup.Order
import RoleWeave.Proofs.Markup.Splice

/-!
# The grammar of nesting

Whether a text is a document is decided by a stack of open elements and a look ahead for closing
marks. Here the same is said without a stack. Of the marks of a text, those that close themselves
and the opening marks of foreign tags that nothing closes later are plain text; the others are the
skeleton of the text. A text is a document exactly if its skeleton is derived by the grammar
`Nested`: sequences, an opening and a closing mark of one name around a sequence, and single closing
marks of foreign tags that are not open around them.

The derivation has one result, the pairs of marks that it puts together. The elements of the
document are those pairs and the marks that close themselves (`parse_iff_nested`).
-/

namespace RoleWeave

/-- Whether a mark belongs to the skeleton of a text with these marks. An opening mark of a foreign
    tag does if a mark of its name closes at its end or behind it. -/
def belongs (all : List Mark) (mark : Mark) : Bool :=
  mark.closing || (!mark.selfClosing && (isKnown mark.name ||
    all.any (fun other =>
      other.closing && other.name == mark.name && decide (mark.stop ≤ other.start))))

/-- The marks of a text that take part in its nesting, in their order. -/
def skeleton (raw : Text) : List Mark :=
  (marks raw).filter (belongs (marks raw))

/-- The marks of a text that close themselves, in their order. -/
def singles (marks : List Mark) : List Mark :=
  marks.filter (fun mark => !mark.closing && mark.selfClosing)

/-- The grammar of nesting. `Nested around marks pairs` derives a sequence of marks that stands
    inside open elements with the names `around`, and puts pairs of marks together, in the order of
    their opening marks. -/
inductive Nested : (around : List Text) → List Mark → List (Mark × Mark) → Prop where
  | nothing (around : List Text) : Nested around [] []
  | beside {around : List Text} {first second : List Mark} {pairs others : List (Mark × Mark)}
      (left : Nested around first pairs) (right : Nested around second others) :
      Nested around (first ++ second) (pairs ++ others)
  | inside {around : List Text} {inner : List Mark} {pairs : List (Mark × Mark)}
      {opening closing : Mark} (opens : opening.closing = false) (closes : closing.closing = true)
      (same : closing.name = opening.name) (content : Nested (opening.name :: around) inner pairs) :
      Nested around (opening :: (inner ++ [closing])) ((opening, closing) :: pairs)
  | stray {around : List Text} {mark : Mark} (closes : mark.closing = true)
      (foreign : isKnown mark.name = false) (unopened : mark.name ∉ around) :
      Nested around [mark] []

namespace Element

/-- The element of an opening and a closing mark. -/
def between (pair : Mark × Mark) : Element :=
  ⟨pair.1.name, pair.1.stop, pair.2.start⟩

/-- The element of a mark that closes itself. It is empty. -/
def single (mark : Mark) : Element :=
  ⟨mark.name, mark.stop, mark.stop⟩

/-- Two contents lie one behind the other or one inside the other. -/
def Laminar (first second : Element) : Prop :=
  first.stop ≤ second.start ∨ second.stop ≤ first.start ∨
    (first.start ≤ second.start ∧ second.stop ≤ first.stop) ∨
    (second.start ≤ first.start ∧ first.stop ≤ second.stop)

end Element

/-! ## The skeleton by looking ahead -/

/-- The marks that take part in the nesting, where each looks at those behind it in the list. -/
def kept : List Mark → List Mark
  | [] => []
  | mark :: later =>
      if mark.closing ||
          (!mark.selfClosing && (isKnown mark.name || closesLater mark.name later)) then
        mark :: kept later
      else kept later

/-- A mark that takes part in the nesting closes an element or does not close itself. So it is put
    together with another mark or stands alone as a closing one. -/
theorem closing_or_double_of_mem_kept {marks : List Mark} {mark : Mark}
    (member : mark ∈ kept marks) : mark.closing = true ∨ mark.selfClosing = false := by
  induction marks with
  | nil => cases member
  | cons first later ih =>
    rw [kept] at member
    split at member
    · rename_i taken
      rcases List.mem_cons.mp member with rfl | behind
      · rw [Bool.or_eq_true, Bool.and_eq_true] at taken
        exact taken.imp_right fun both => by simpa using both.1
      · exact ih behind
    · exact ih member

/-- In a text, looking behind a mark in the list is looking behind it in the text.

    Proof: by induction on the marks, while those already seen are kept in front. The marks are in
    order and each covers something. So a closing mark that stands at the end of this one or behind
    it is not among the marks before it and is not the mark itself, and each mark that comes later
    in the list does stand there. -/
theorem filter_belongs {before rest : List Mark}
    (covers : ∀ mark ∈ before ++ rest, mark.start < mark.stop)
    (ordered : (before ++ rest).Pairwise Mark.Precedes) :
    rest.filter (belongs (before ++ rest)) = kept rest := by
  induction rest generalizing before with
  | nil => rfl
  | cons mark later ih =>
    have moved : before ++ mark :: later = before ++ [mark] ++ later := by simp
    have further : later.filter (belongs (before ++ mark :: later)) = kept later := by
      rw [moved] at covers ordered ⊢
      exact ih covers ordered
    obtain ⟨_, behind, across⟩ := List.pairwise_append.mp ordered
    obtain ⟨follows, _⟩ := List.pairwise_cons.mp behind
    have covered : mark.start < mark.stop := covers mark (by simp)
    have passed : before.any (fun other =>
        other.closing && other.name == mark.name && decide (mark.stop ≤ other.start)) = false := by
      rw [List.any_eq_false]
      intro other member
      have ends : other.stop ≤ mark.start := across other member mark List.mem_cons_self
      have begins : other.start < other.stop := covers other (by simp [member])
      have early : ¬mark.stop ≤ other.start := by omega
      simp [early]
    have ahead : later.any (fun other =>
        other.closing && other.name == mark.name && decide (mark.stop ≤ other.start)) =
          closesLater mark.name later := by
      unfold closesLater
      rw [Bool.eq_iff_iff, List.any_eq_true, List.any_eq_true]
      constructor
      · rintro ⟨other, member, found⟩
        rw [Bool.and_eq_true] at found
        exact ⟨other, member, found.1⟩
      · rintro ⟨other, member, found⟩
        have order : mark.stop ≤ other.start := follows other member
        exact ⟨other, member, by rw [found, Bool.true_and, decide_eq_true_eq]; exact order⟩
    have looks : belongs (before ++ mark :: later) mark = (mark.closing ||
        (!mark.selfClosing && (isKnown mark.name || closesLater mark.name later))) := by
      have itself : ¬mark.stop ≤ mark.start := by omega
      rw [belongs, List.any_append, List.any_cons, passed, ahead]
      simp [itself]
    rw [List.filter_cons, looks, further, kept]

/-- The skeleton of a text by looking ahead. -/
theorem skeleton_eq_kept (raw : Text) : skeleton raw = kept (marks raw) := by
  have covers : ∀ mark ∈ [] ++ marks raw, mark.start < mark.stop :=
    fun mark member => (marksFrom_within 0 raw mark member).2.1
  have ordered : ([] ++ marks raw).Pairwise Mark.Precedes := marksFrom_ordered 0 raw
  exact filter_belongs covers ordered

/-! ## Acceptance -/

/-- The names of the elements that are open after marks of which each takes part in the nesting, if
    they may stand there. -/
def settle : (stack : List Text) → List Mark → Option (List Text)
  | stack, [] => some stack
  | stack, mark :: later =>
      if mark.closing then (leave mark.name stack).bind (fun left => settle left later)
      else settle (mark.name :: stack) later

/-- Running all marks is running those that take part in the nesting. A mark that does not take part
    is left out when it is met: one that closes itself, or a foreign one that nothing closes behind
    it. -/
theorem advance_eq_settle (stack : List Text) (marks : List Mark) :
    advance [] stack (marks.map Mark.shape) = settle stack (kept marks) := by
  induction marks generalizing stack with
  | nil => rfl
  | cons mark later ih =>
    have ahead : closes mark.name (later.map Mark.shape ++ []) = closesLater mark.name later := by
      simp [closesLater, closes, Mark.shape, Function.comp_def]
    have named : mark.shape.name = mark.name := rfl
    rw [List.map_cons, advance, named, ahead, kept]
    by_cases closing : mark.closing = true
    · have shaped : mark.shape.closing = true := closing
      rw [if_pos shaped, if_pos (by simp [closing]), settle, if_pos closing]
      simp only [ih]
    · have opening : mark.closing = false := by simpa using closing
      have shaped : ¬mark.shape.closing = true := closing
      rw [if_neg shaped]
      by_cases single : mark.selfClosing = true
      · have shapedSingle : mark.shape.selfClosing = true := single
        rw [if_pos shapedSingle, if_neg (by simp [opening, single]), ih]
      · have shapedSingle : ¬mark.shape.selfClosing = true := single
        rw [if_neg shapedSingle, enter]
        by_cases entered : (isKnown mark.name || closesLater mark.name later) = true
        · rw [if_pos entered, if_pos (by simp [single, entered]), settle, if_neg closing, ih]
        · rw [if_neg entered, if_neg (by simp [opening, entered]), ih]

/-- A closing mark of a foreign tag that is not open is plain text. -/
theorem leave_absent {name : Text} {stack : List Text} (foreign : isKnown name = false)
    (absent : name ∉ stack) : leave name stack = some stack := by
  have first : stack.head? ≠ some name := fun head => absent (List.mem_of_head? head)
  rw [leave, if_neg first, if_neg (by simp [absent, foreign])]

/-- A derived sequence leaves the open elements around it as they are, and the run goes on behind
    it. By induction on the derivation. Only which names are open matters to it, not how often or in
    which order. -/
theorem Nested.settle_append {around : List Text} {marks : List Mark} {pairs : List (Mark × Mark)}
    (nested : Nested around marks pairs) {stack : List Text}
    (same : ∀ name, name ∈ stack ↔ name ∈ around) (later : List Mark) :
    settle stack (marks ++ later) = settle stack later := by
  induction nested generalizing stack later with
  | nothing => rfl
  | beside left right ihLeft ihRight =>
    rw [List.append_assoc, ihLeft same, ihRight same]
  | @inside around inner pairs opening closing opens closes named content ih =>
    have inward : ∀ name, name ∈ opening.name :: stack ↔ name ∈ opening.name :: around := by
      intro name
      rw [List.mem_cons, List.mem_cons, same]
    have left : leave closing.name (opening.name :: stack) = some stack := by
      simp [leave, named]
    rw [List.cons_append, List.append_assoc, settle, if_neg (by simp [opens]), ih inward,
      List.singleton_append, settle, if_pos closes, left, Option.bind_some]
  | @stray around mark closes foreign unopened =>
    have absent : mark.name ∉ stack := fun member => unopened ((same mark.name).mp member)
    rw [List.singleton_append, settle, if_pos closes, leave_absent foreign absent,
      Option.bind_some]

/-- A sequence that closes open elements, the first of them first: derived sequences with the
    closing marks of those elements between them. -/
inductive Unwinds : (stack : List Text) → List Mark → Prop where
  | done {marks : List Mark} {pairs : List (Mark × Mark)} (nested : Nested [] marks pairs) :
      Unwinds [] marks
  | close {below : List Text} {marks later : List Mark} {pairs : List (Mark × Mark)} {mark : Mark}
      (nested : Nested (mark.name :: below) marks pairs) (closes : mark.closing = true)
      (rest : Unwinds below later) :
      Unwinds (mark.name :: below) (marks ++ mark :: later)

/-- A derived sequence may stand before a sequence that closes the elements around it. It becomes
    part of the derived sequence that comes first there. -/
theorem Unwinds.prepend {stack : List Text} {first rest : List Mark} {pairs : List (Mark × Mark)}
    (nested : Nested stack first pairs) (unwinds : Unwinds stack rest) :
    Unwinds stack (first ++ rest) := by
  cases unwinds with
  | done other => exact .done (nested.beside other)
  | close other closes rest =>
    rw [← List.append_assoc]
    exact .close (nested.beside other) closes rest

/-- A sequence after which nothing is open closes the elements that were open before.

    Proof: by induction on the marks. An opening mark puts its element on the stack, so what follows
    closes that element first: it is a derived sequence, the closing mark, and the rest; the opening
    mark, the sequence and the closing mark are a derived sequence together. A closing mark closes
    the first open element, with an empty sequence before it, or it is foreign and not open, and is
    derived by itself. -/
theorem unwinds_of_settle {stack : List Text} {marks : List Mark}
    (settled : settle stack marks = some []) : Unwinds stack marks := by
  induction marks generalizing stack with
  | nil =>
    cases settled
    exact .done (.nothing [])
  | cons mark later ih =>
    rw [settle] at settled
    by_cases closing : mark.closing = true
    · rw [if_pos closing] at settled
      obtain ⟨left, ran, further⟩ := Option.bind_eq_some_iff.mp settled
      have unwinds := ih further
      unfold leave at ran
      split at ran
      · rename_i own
        cases ran
        obtain ⟨below, rfl⟩ : ∃ below, stack = mark.name :: below :=
          ⟨stack.tail, List.eq_cons_of_mem_head? own⟩
        exact .close (.nothing _) closing unwinds
      · split at ran
        · cases ran
        · rename_i free
          cases ran
          rw [Bool.not_eq_true, Bool.or_eq_false_iff] at free
          have absent : mark.name ∉ stack := by simpa using free.1
          exact Unwinds.prepend (.stray closing free.2 absent) unwinds
    · rw [if_neg closing] at settled
      have opens : mark.closing = false := by simpa using closing
      generalize named : mark.name :: stack = opened at settled
      cases ih settled with
      | done => cases named
      | @close below inner rest pairs last nested closes unwinds =>
        obtain ⟨same, rfl⟩ := List.cons.inj named
        rw [← same] at nested
        have whole := Unwinds.prepend (.inside opens closes same.symm nested) unwinds
        simpa using whole

/-- A sequence is derived exactly if it leaves nothing open. So the run with a stack decides what
    the grammar says without one. -/
theorem settle_iff_nested (marks : List Mark) :
    settle [] marks = some [] ↔ ∃ pairs, Nested [] marks pairs := by
  constructor
  · intro settled
    cases unwinds_of_settle settled with
    | done nested => exact ⟨_, nested⟩
  · rintro ⟨pairs, nested⟩
    have closed := nested.settle_append (fun name => Iff.rfl) []
    rwa [List.append_nil] at closed

/-- A text is a document exactly if its skeleton is derived. -/
theorem accepts_iff_nested (raw : Text) :
    (∃ document, Document.parse raw = .ok document) ↔
      ∃ pairs, Nested [] (skeleton raw) pairs := by
  rw [parse_iff_advance, shapes, advance_eq_settle, skeleton_eq_kept, settle_iff_nested]

end RoleWeave
