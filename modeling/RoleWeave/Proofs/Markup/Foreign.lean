import RoleWeave.Proofs.Markup.Elements

/-!
# Foreign tags among those of the vocabulary

Foreign tags share one stack of open elements with the tags of the vocabulary, and nothing but a
closing mark somewhere later decides whether an opening one counts. So a foreign tag can keep a text
from being a document although the marks of the vocabulary are nested: it is opened twice and closed
once, or its element crosses another (`foreign_conflicts`).

Nothing else goes wrong. Marks are nested exactly if those with any two names are
(`settle_iff_among`), so the conflict is one between a foreign name and itself or one other name
(`document_iff_unconflicted`). Where there is none, the elements of the vocabulary are the same as
if the foreign marks were not there.
-/

namespace RoleWeave

/-- The marks of the vocabulary that do not close themselves, in their order. -/
def knownMarks (raw : Text) : List Mark :=
  (marks raw).filter (fun mark => isKnown mark.name && (mark.closing || !mark.selfClosing))

/-- The marks with one of two names. -/
def among (first second : Text) (marks : List Mark) : List Mark :=
  marks.filter (fun mark => mark.name == first || mark.name == second)

/-! ## Runs with some names only -/

/-- A closing mark does to the open elements of some names what it does to all of them, if its own
    is one of the names. If it is not, it leaves the elements of these names alone. -/
theorem leave_filter {name : Text} {stack left : List Text} (ran : leave name stack = some left)
    (p : Text → Bool) :
    if p name then leave name (stack.filter p) = some (left.filter p)
    else left.filter p = stack.filter p := by
  unfold leave at ran
  split at ran
  · rename_i own
    obtain ⟨below, rfl⟩ : ∃ below, stack = name :: below :=
      ⟨stack.tail, List.eq_cons_of_mem_head? own⟩
    cases ran
    split
    · rename_i among
      simp [leave, among]
    · rename_i other
      simp [other]
  · split at ran
    · cases ran
    · rename_i free
      cases ran
      rw [Bool.not_eq_true, Bool.or_eq_false_iff] at free
      have absent : name ∉ stack := by simpa using free.1
      split
      · exact leave_absent free.2 fun member => absent (List.mem_of_mem_filter member)
      · rfl

/-- A closing mark that may not stand where it stands is in conflict with one other name at most.

    Proof: the element that is open last has another name. If the mark closes a tag of the
    vocabulary, or an element of its name is open further out, that last name is the other one, and
    it stays on top whichever names are looked at besides. If nothing is open at all, the mark is in
    conflict by itself. -/
theorem leave_conflict {name : Text} {stack : List Text} (blocked : leave name stack = none) :
    ∃ other, ∀ p : Text → Bool, p name = true → p other = true →
      leave name (stack.filter p) = none := by
  unfold leave at blocked
  split at blocked
  · cases blocked
  · rename_i top
    split at blocked
    · rename_i held
      rw [Bool.or_eq_true] at held
      cases stack with
      | nil =>
        refine ⟨name, fun p _ _ => ?_⟩
        have known : isKnown name = true := by simpa using held
        simp [leave, known]
      | cons first below =>
        refine ⟨first, fun p own other => ?_⟩
        have front : some first ≠ some name := top
        have still : ((first :: below.filter p).contains name || isKnown name) = true := by
          rcases held with inside | known
          · have member : name ∈ first :: below := by simpa using inside
            rcases List.mem_cons.mp member with rfl | deeper
            · exact absurd rfl front
            · have kept : name ∈ first :: below.filter p :=
                List.mem_cons_of_mem _ (List.mem_filter.mpr ⟨deeper, own⟩)
              simp only [List.contains_eq_mem, decide_eq_true kept, Bool.true_or]
          · rw [known, Bool.or_true]
        rw [List.filter_cons, if_pos other, leave, List.head?_cons, if_neg front, if_pos still]
    · cases blocked

/-- A run of all marks is a run of those with some names, on the part of the stack that has such
    names.

    Proof: by induction on the marks. An opening mark of one of the names is put on both stacks, and
    a closing one is `leave_filter`. The marks of other names change nothing about the elements that
    are looked at. -/
theorem settle_filter {stack left : List Text} {marks : List Mark}
    (settled : settle stack marks = some left) (p : Text → Bool) :
    settle (stack.filter p) (marks.filter (fun mark => p mark.name)) = some (left.filter p) := by
  induction marks generalizing stack with
  | nil =>
    cases settled
    rfl
  | cons mark later ih =>
    rw [settle] at settled
    rw [List.filter_cons]
    by_cases closes : mark.closing = true
    · rw [if_pos closes] at settled
      obtain ⟨middle, ran, further⟩ := Option.bind_eq_some_iff.mp settled
      have both := leave_filter ran p
      split at both
      · rename_i own
        rw [if_pos own, settle, if_pos closes, both, Option.bind_some, ih further]
      · rename_i other
        rw [if_neg other, ← both, ih further]
    · rw [if_neg closes] at settled
      have pushed := ih settled
      rw [List.filter_cons] at pushed
      by_cases own : p mark.name = true
      · rw [if_pos own] at pushed
        rw [if_pos own, settle, if_neg closes, pushed]
      · rw [if_neg own] at pushed
        rw [if_neg own, pushed]

/-- Marks that cannot be run are in conflict already where only two names are looked at.

    Proof: by induction on the marks. If the first mark already may not stand where it stands, the
    names are its own and that of `leave_conflict`. Otherwise the conflict comes later, and the
    names are those that the induction gives. The first mark goes through as well when only these
    names are looked at, since looking at fewer names takes no run away. -/
theorem settle_conflict {stack : List Text} {marks : List Mark}
    (blocked : settle stack marks = none) :
    ∃ first second, ∀ p : Text → Bool, p first = true → p second = true →
      settle (stack.filter p) (marks.filter (fun mark => p mark.name)) = none := by
  induction marks generalizing stack with
  | nil => cases blocked
  | cons mark later ih =>
    rw [settle] at blocked
    by_cases closes : mark.closing = true
    · rw [if_pos closes] at blocked
      cases ran : leave mark.name stack with
      | none =>
        obtain ⟨other, conflict⟩ := leave_conflict ran
        refine ⟨mark.name, other, fun p own theirs => ?_⟩
        rw [List.filter_cons, if_pos own, settle, if_pos closes, conflict p own theirs,
          Option.bind_none]
      | some middle =>
        rw [ran, Option.bind_some] at blocked
        obtain ⟨first, second, conflict⟩ := ih blocked
        refine ⟨first, second, fun p one two => ?_⟩
        have both := leave_filter ran p
        rw [List.filter_cons]
        split at both
        · rename_i own
          rw [if_pos own, settle, if_pos closes, both, Option.bind_some, conflict p one two]
        · rename_i other
          rw [if_neg other, ← both, conflict p one two]
    · rw [if_neg closes] at blocked
      obtain ⟨first, second, conflict⟩ := ih blocked
      refine ⟨first, second, fun p one two => ?_⟩
      have inner := conflict p one two
      rw [List.filter_cons] at inner ⊢
      by_cases own : p mark.name = true
      · rw [if_pos own] at inner
        rw [if_pos own, settle, if_neg closes, inner]
      · rw [if_neg own] at inner
        rw [if_neg own, inner]

/-- Marks are nested exactly if those with any two names are. In one direction a run of all is a run
    of some, in the other a conflict needs two names only. -/
theorem settle_iff_among (marks : List Mark) :
    settle [] marks = some [] ↔ ∀ first second, settle [] (among first second marks) = some [] := by
  constructor
  · intro settled first second
    exact settle_filter settled (fun name => name == first || name == second)
  · intro every
    cases ran : settle [] marks with
    | none =>
      obtain ⟨first, second, conflict⟩ := settle_conflict ran
      have blocked := conflict (fun name => name == first || name == second) (by simp) (by simp)
      have fine := every first second
      rw [among] at fine
      rw [List.filter_nil, fine] at blocked
      cases blocked
    | some left =>
      cases left with
      | nil => rfl
      | cons top below =>
        have open' := settle_filter ran (fun name => name == top || name == top)
        have fine := every top top
        rw [among] at fine
        rw [List.filter_nil, fine, Option.some.injEq, List.filter_cons, if_pos (by simp)] at open'
        cases open'

/-! ## The marks of the vocabulary -/

/-- The marks of the vocabulary in the skeleton are all marks of the vocabulary that do not close
    themselves. Only foreign marks have to be closed later in order to count. -/
theorem filter_known_skeleton (raw : Text) :
    (skeleton raw).filter (fun mark => isKnown mark.name) = knownMarks raw := by
  rw [skeleton, knownMarks, List.filter_filter]
  refine List.filter_congr fun mark _ => ?_
  cases known : isKnown mark.name <;> simp [belongs, known]

/-- Two names of the vocabulary are not in conflict if its marks are nested. Among the marks with
    these names there are no foreign ones, so they are the same in the skeleton and in the
    vocabulary. -/
theorem settle_among_known {raw : Text} {pairs : List (Mark × Mark)}
    (nested : Nested [] (knownMarks raw) pairs) {first second : Text}
    (one : isKnown first = true) (two : isKnown second = true) :
    settle [] (among first second (skeleton raw)) = some [] := by
  have settled := (settle_iff_nested (knownMarks raw)).mpr ⟨pairs, nested⟩
  have same : among first second (skeleton raw) = among first second (knownMarks raw) := by
    rw [among, among, ← filter_known_skeleton, List.filter_filter]
    refine List.filter_congr fun mark _ => ?_
    by_cases named : (mark.name == first || mark.name == second) = true
    · have known : isKnown mark.name = true := by
        rw [Bool.or_eq_true, beq_iff_eq, beq_iff_eq] at named
        rcases named with rfl | rfl
        · exact one
        · exact two
      rw [known, Bool.and_true]
    · rw [Bool.not_eq_true] at named
      rw [named, Bool.false_and]
  rw [same]
  exact (settle_iff_among (knownMarks raw)).mp settled first second

/-- Closing marks of foreign tags are plain text where no foreign element is open.

    Proof: by induction on the marks, with a stack that has names of the vocabulary only. An opening
    mark has such a name by assumption, so the stack stays of this kind. A closing mark of another
    name finds nothing of its name on the stack, and the run goes on as if it were not there. -/
theorem settle_known {stack : List Text} {marks : List Mark}
    (inside : ∀ name ∈ stack, isKnown name = true)
    (opening : ∀ mark ∈ marks, mark.closing = false → isKnown mark.name = true) :
    settle stack marks = settle stack (marks.filter (fun mark => isKnown mark.name)) := by
  induction marks generalizing stack with
  | nil => rfl
  | cons mark later ih =>
    have further : ∀ other ∈ later, other.closing = false → isKnown other.name = true :=
      fun other member => opening other (List.mem_cons_of_mem _ member)
    rw [List.filter_cons]
    by_cases known : isKnown mark.name = true
    · rw [if_pos known, settle, settle]
      by_cases closes : mark.closing = true
      · rw [if_pos closes, if_pos closes]
        cases ran : leave mark.name stack with
        | none => rfl
        | some left =>
          rw [Option.bind_some, Option.bind_some]
          exact ih (fun name member => inside name (mem_of_leave ran member)) further
      · rw [if_neg closes, if_neg closes]
        refine ih ?_ further
        intro name member
        rcases List.mem_cons.mp member with rfl | before
        · exact known
        · exact inside name before
    · have closes : mark.closing = true := by
        by_contra opens
        exact known (opening mark List.mem_cons_self (by simpa using opens))
      have left : leave mark.name stack = some stack :=
        leave_absent (by simpa using known) fun member => known (inside mark.name member)
      rw [if_neg known, settle, if_pos closes, left, Option.bind_some, ih inside further]

/-! ## The elements of the vocabulary -/

/-- A derivation of all marks is one of those with some names.

    Proof: by induction on the derivation. A pair is kept or left out as a whole, because its two
    marks have one name. A stray mark that is kept is as foreign as before, and it is not open among
    fewer elements either. -/
theorem Nested.filter {around : List Text} {marks : List Mark} {pairs : List (Mark × Mark)}
    (nested : Nested around marks pairs) (p : Text → Bool) :
    Nested (around.filter p) (marks.filter (fun mark => p mark.name))
      (pairs.filter (fun pair => p pair.1.name)) := by
  induction nested with
  | nothing => exact .nothing _
  | beside left right ihLeft ihRight =>
    rw [List.filter_append, List.filter_append]
    exact ihLeft.beside ihRight
  | @inside around inner pairs opening closing opens closes same content ih =>
    simp only [List.filter_cons, List.filter_append, List.filter_nil] at ih ⊢
    by_cases own : p opening.name = true
    · have twin : p closing.name = true := by rw [same, own]
      rw [if_pos own] at ih
      rw [if_pos own, if_pos own, if_pos twin]
      exact .inside opens closes same ih
    · have twin : p closing.name = false := by rw [same]; simpa using own
      rw [if_neg own] at ih
      rw [if_neg own, if_neg own, if_neg (by simp [twin]), List.append_nil]
      exact ih
  | @stray around mark closes foreign unopened =>
    rw [List.filter_singleton]
    cases own : p mark.name with
    | true =>
      exact .stray closes foreign fun member => unopened (List.mem_of_mem_filter member)
    | false => exact .nothing _

/-- Choosing the marks of the vocabulary and choosing those that take part in the nesting can be
    done in either order. Whether a mark of the vocabulary takes part does not depend on the marks
    behind it. -/
theorem kept_filter_known (marks : List Mark) :
    kept (marks.filter (fun mark => isKnown mark.name)) =
      (kept marks).filter (fun mark => isKnown mark.name) := by
  induction marks with
  | nil => rfl
  | cons mark later ih =>
    rw [List.filter_cons]
    by_cases known : isKnown mark.name = true
    · rw [if_pos known, kept, kept, ih, known, Bool.true_or, Bool.true_or]
      split
      · rw [List.filter_cons, if_pos known]
      · rfl
    · rw [if_neg known, ih, kept]
      split
      · rw [List.filter_cons, if_neg known]
      · rfl

/-- The elements of the vocabulary are those that its marks alone give.

    Proof: the derivation of the skeleton, looked at for the names of the vocabulary, derives the
    marks of the vocabulary, and its pairs are those pairs of the document. The marks that close
    themselves are chosen in the same way. So the elements are the same up to their order, and both
    lists are ordered by where the elements begin. -/
theorem elements_known {raw : Text} {document : Document}
    (parses : Document.parse raw = .ok document) :
    nest [] ((marks raw).filter (fun mark => isKnown mark.name)) =
      .ok (document.elements.filter (fun element => isKnown element.name)) := by
  obtain ⟨pairs, nested, describes⟩ := Document.described parses
  have known := nested.filter isKnown
  rw [List.filter_nil, skeleton_eq_kept, ← kept_filter_known] at known
  obtain ⟨found, matched, perm⟩ := nest_of_nested known
  have lone : singles ((marks raw).filter (fun mark => isKnown mark.name)) =
      (singles (marks raw)).filter (fun mark => isKnown mark.name) := List.filter_comm _ _ _
  have same : found.Perm (document.elements.filter (fun element => isKnown element.name)) := by
    have filtered := describes.elements.filter (fun element => isKnown element.name)
    rw [List.filter_append, List.filter_map, List.filter_map] at filtered
    rw [lone] at perm
    exact perm.trans filtered.symm
  rw [matched, Except.ok.injEq]
  refine same.eq_of_pairwise ?_ (nest_ordered matched)
    ((describes.ordered.sublist List.filter_sublist).imp Nat.le_of_lt)
  intro first second one two before after
  have firstIn := List.mem_of_mem_filter (same.mem_iff.mp one)
  have secondIn := List.mem_of_mem_filter two
  rcases eq_or_related describes.ordered firstIn secondIn with equal | apart
  · exact equal
  · omega

/-- Let the marks of the vocabulary be nested. Then a text is a document exactly if no foreign name
    is in conflict with itself or another name, where marks are looked at that have one of the two
    names. In particular it is a document if foreign opening marks are never closed later. And where
    it is a document, the elements of the vocabulary are those that its marks alone give.

    Proof: the text is a document exactly if the marks with any two names are nested. Two names of
    the vocabulary are never in conflict by assumption, and which of two names comes first does not
    matter; so it is enough to ask this of a foreign name and any other. If no foreign mark opens an
    element, the foreign marks of the skeleton all close something that is not open, and are plain
    text. -/
theorem document_iff_unconflicted {raw : Text} {pairs : List (Mark × Mark)}
    (nested : Nested [] (knownMarks raw) pairs) :
    ((∃ document, Document.parse raw = .ok document) ↔
      ∀ foreign other, isKnown foreign = false →
        ∃ found, Nested [] (among foreign other (skeleton raw)) found) ∧
    ((∀ mark ∈ skeleton raw, mark.closing = false → isKnown mark.name = true) →
      ∃ document, Document.parse raw = .ok document) ∧
    ∀ document, Document.parse raw = .ok document →
      nest [] ((marks raw).filter (fun mark => isKnown mark.name)) =
        .ok (document.elements.filter (fun element => isKnown element.name)) := by
  refine ⟨?_, ?_, fun document => elements_known⟩
  · rw [accepts_iff_nested, ← settle_iff_nested, settle_iff_among]
    constructor
    · intro every foreign other _
      exact (settle_iff_nested _).mp (every foreign other)
    · intro every first second
      by_cases one : isKnown first = true
      · by_cases two : isKnown second = true
        · exact settle_among_known nested one two
        · have swapped : among first second (skeleton raw) = among second first (skeleton raw) :=
            List.filter_congr fun mark _ => Bool.or_comm _ _
          rw [swapped]
          exact (settle_iff_nested _).mpr (every second first (by simpa using two))
      · exact (settle_iff_nested _).mpr (every first second (by simpa using one))
  · intro plain
    rw [accepts_iff_nested, ← settle_iff_nested,
      settle_known (fun name member => absurd member List.not_mem_nil) plain,
      filter_known_skeleton, settle_iff_nested]
    exact ⟨pairs, nested⟩

/-- An opening and a closing mark of one name are nested. -/
theorem Nested.pair {opening closing : Mark} (around : List Text)
    (opens : opening.closing = false) (closes : closing.closing = true)
    (same : closing.name = opening.name) :
    Nested around [opening, closing] [(opening, closing)] :=
  @Nested.inside around [] [] opening closing opens closes same (.nothing _)

/-- A text of the vocabulary with a foreign opening mark, a foreign closing mark and a foreign mark
    that closes itself. -/
def snippets : Text :=
  "<rule>Vec<T> or </u> or <v/></rule>".toList

/-- Foreign marks without a counterpart do no harm. The text is a document, and its one element is
    the rule that would be there without them. -/
theorem snippets_harmless :
    Nested [] (knownMarks snippets)
        [(⟨false, false, "rule".toList, 0, 6⟩, ⟨true, false, "rule".toList, 28, 35⟩)] ∧
      (∃ document, Document.parse snippets = .ok document) ∧
      ∀ document, Document.parse snippets = .ok document →
        nest [] ((marks snippets).filter (fun mark => isKnown mark.name)) =
          .ok (document.elements.filter (fun element => isKnown element.name)) := by
  have only : knownMarks snippets =
      [⟨false, false, "rule".toList, 0, 6⟩, ⟨true, false, "rule".toList, 28, 35⟩] := by
    decide +kernel
  have nested : Nested [] (knownMarks snippets)
      [(⟨false, false, "rule".toList, 0, 6⟩, ⟨true, false, "rule".toList, 28, 35⟩)] := by
    rw [only]
    exact .pair [] rfl rfl rfl
  obtain ⟨_, harmless, known⟩ := document_iff_unconflicted nested
  exact ⟨nested, harmless (by decide +kernel), known⟩

/-- A foreign tag that is opened twice and closed once, and one whose element crosses an element of
    the vocabulary, are faults, although the marks of the vocabulary are nested. The fault names the
    mark that comes too early or the one that is never closed. -/
theorem foreign_conflicts :
    ((∃ pairs, Nested [] (knownMarks "<T> then <T>x</T>".toList) pairs) ∧
      Document.parse "<T> then <T>x</T>".toList =
        .error (.parse 0 "unterminated tag <t>".toList)) ∧
    ((∃ pairs, Nested [] (knownMarks "<rule>a<b>c</rule>d</b>".toList) pairs) ∧
      Document.parse "<rule>a<b>c</rule>d</b>".toList =
        .error (.parse 11 "</rule> closes while <b> is still open".toList)) := by
  have none : knownMarks "<T> then <T>x</T>".toList = [] := by decide +kernel
  have only : knownMarks "<rule>a<b>c</rule>d</b>".toList =
      [⟨false, false, "rule".toList, 0, 6⟩, ⟨true, false, "rule".toList, 11, 18⟩] := by
    decide +kernel
  rw [none, only]
  exact ⟨⟨⟨[], .nothing []⟩, by decide +kernel⟩,
    ⟨⟨_, .pair [] rfl rfl rfl⟩, by decide +kernel⟩⟩

end RoleWeave
