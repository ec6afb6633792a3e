import Mathlib.Data.Multiset.AddSub
import RoleWeave.Proofs.Markup.Grammar

/-!
# Matching, mark by mark

What `nest` does with each kind of mark, and what follows for all marks together. `gathered` forgets
the order in which the elements come out, which is that of the beginnings of their contents
(`nest_ordered`): so marks that close themselves can be told apart from those that take part in the
nesting (`gathered_kept`), and a derived sequence gives its pairs wherever it stands
(`Nested.gathered_append`).
-/

namespace RoleWeave

/-! ## What matching does with a mark -/

/-- A closing mark is at fault, or closes the innermost open element, or is plain text. What comes
    later has no part in it.

    Proof: if nothing is open, the mark is at fault for a tag of the vocabulary and plain text for
    another. Otherwise its name is that of the innermost open element, or that of an element further
    out, where it would cross the others, or it is the name of no open element, as if nothing were
    open. -/
theorem nest_closing_cases {mark : Mark} (closes : mark.closing = true)
    (stack : List OpenElement) :
    ((stack.map OpenElement.name).head? ≠ some mark.name ∧
      (isKnown mark.name = true ∨ mark.name ∈ stack.map OpenElement.name) ∧
      ∃ fault : NestingFault, fault.position = mark.start ∧
        ∀ later, nest stack (mark :: later) = .error fault) ∨
    (∃ top below, stack = top :: below ∧ top.name = mark.name ∧ ∀ later,
      nest stack (mark :: later) =
        (nest below later).map (insertElement ⟨top.name, top.inner, mark.start⟩)) ∨
    (isKnown mark.name = false ∧ mark.name ∉ stack.map OpenElement.name ∧
      ∀ later, nest stack (mark :: later) = nest stack later) := by
  cases stack with
  | nil =>
    by_cases known : isKnown mark.name = true
    · exact .inl ⟨by simp, .inl known, .stray mark.start mark.name, rfl,
        fun later => by simp [nest, closes, known]⟩
    · exact .inr (.inr ⟨by simpa using known, by simp, fun later => by simp [nest, closes, known]⟩)
  | cons top below =>
    by_cases own : top.name = mark.name
    · exact .inr (.inl ⟨top, below, rfl, own, fun later => by simp [nest, closes, own]⟩)
    · by_cases deeper : below.any (fun outer => outer.name == mark.name) = true
      · have among : mark.name ∈ (top :: below).map OpenElement.name := by
          obtain ⟨outer, inside, named⟩ := List.any_eq_true.mp deeper
          have same : outer.name = mark.name := by simpa using named
          exact List.mem_map.mpr ⟨outer, List.mem_cons_of_mem _ inside, same⟩
        exact .inl ⟨by simpa using own, .inr among, .crossing mark.start mark.name top.name, rfl,
          fun later => by rw [nest, if_pos closes, if_neg own, if_pos deeper]⟩
      · by_cases known : isKnown mark.name = true
        · exact .inl ⟨by simpa using own, .inl known, .stray mark.start mark.name, rfl,
            fun later => by
              rw [nest, if_pos closes, if_neg own, if_neg deeper, if_pos known]⟩
        · refine .inr (.inr ⟨by simpa using known, ?_, fun later => by
            rw [nest, if_pos closes, if_neg own, if_neg deeper, if_neg known]⟩)
          rw [List.map_cons, List.mem_cons, not_or]
          refine ⟨fun same => own same.symm, fun member => deeper ?_⟩
          obtain ⟨outer, inside, named⟩ := List.mem_map.mp member
          exact List.any_eq_true.mpr ⟨outer, inside, by simp [named]⟩

/-- A mark that closes itself is an empty element. -/
theorem nest_single {mark : Mark} (opens : mark.closing = false) (single : mark.selfClosing = true)
    (stack : List OpenElement) (later : List Mark) :
    nest stack (mark :: later) =
      (nest stack later).map (insertElement (Element.single mark)) := by
  cases stack <;> simp [nest, opens, single, Element.single]

/-- An opening mark that is closed later opens an element, and any other is plain text. The tags of
    the vocabulary have to be closed, so their marks open an element in any case. -/
theorem nest_opening {mark : Mark} (opens : mark.closing = false)
    (double : mark.selfClosing = false) (stack : List OpenElement) (later : List Mark) :
    nest stack (mark :: later) =
      if isKnown mark.name || closesLater mark.name later then
        nest (⟨mark.name, mark.start, mark.stop⟩ :: stack) later
      else nest stack later := by
  cases stack <;> simp [nest, opens, double]

/-! ## The elements without their order -/

/-- What marks are matched to, without the order of the elements. -/
def gathered (matched : Except NestingFault (List Element)) :
    Except NestingFault (Multiset Element) :=
  matched.map (fun elements => (elements : Multiset Element))

/-- Putting an element among others adds it to them and changes nothing else. Where it is put is a
    matter of their order. -/
theorem insertElement_perm (element : Element) (others : List Element) :
    (insertElement element others).Perm (element :: others) := by
  induction others with
  | nil => exact .refl _
  | cons other rest ih =>
    rw [insertElement]
    split
    · exact .refl _
    · exact (ih.cons other).trans (.swap element other rest)

/-- What marks are matched to, together with further elements. -/
def together (further : List Element) (matched : Except NestingFault (Multiset Element)) :
    Except NestingFault (Multiset Element) :=
  matched.map ((further : Multiset Element) + ·)

/-- Without further elements nothing is added, and a fault stays the fault that it is. -/
theorem together_nil (matched : Except NestingFault (Multiset Element)) :
    together [] matched = matched := by
  cases matched <;> simp [together, Except.map]

/-- Adding the elements of two lists is adding those of the second and then those of the first. -/
theorem together_append (first second : List Element)
    (matched : Except NestingFault (Multiset Element)) :
    together (first ++ second) matched = together first (together second matched) := by
  cases matched with
  | error fault => rfl
  | ok elements => simp [together, Except.map, ← Multiset.coe_add, Multiset.add_assoc]

/-- Elements may be added in any order, because their order is forgotten. -/
theorem together_comm (first second : List Element)
    (matched : Except NestingFault (Multiset Element)) :
    together first (together second matched) = together second (together first matched) := by
  cases matched with
  | error fault => rfl
  | ok elements =>
    apply congrArg Except.ok
    calc (first : Multiset Element) + (second + elements)
        = first + second + elements := (Multiset.add_assoc _ _ _).symm
      _ = second + first + elements := by rw [Multiset.add_comm (first : Multiset Element)]
      _ = second + (first + elements) := Multiset.add_assoc _ _ _

/-- Putting an element into the result of matching adds it to what was gathered. A fault is passed
    on. -/
theorem gathered_insert (element : Element) (matched : Except NestingFault (List Element)) :
    gathered (matched.map (insertElement element)) = together [element] (gathered matched) := by
  cases matched with
  | error fault => rfl
  | ok elements => exact congrArg Except.ok (Multiset.coe_eq_coe.mpr (insertElement_perm _ _))

/-- Whether an element is closed later is decided by the marks that take part in the nesting.
    Closing marks all take part in it. -/
theorem closesLater_kept (name : Text) (marks : List Mark) :
    closesLater name (kept marks) = closesLater name marks := by
  induction marks with
  | nil => rfl
  | cons mark later ih =>
    unfold closesLater at ih ⊢
    rw [kept]
    split
    · rw [List.any_cons, List.any_cons, ih]
    · rename_i dropped
      have opens : mark.closing = false := by
        rw [Bool.or_eq_true, not_or] at dropped
        simpa using dropped.1
      rw [List.any_cons, opens, Bool.false_and, Bool.false_or, ih]

/-- Matching all marks is matching those that take part in the nesting, and the marks that close
    themselves are elements of their own.

    Proof: by induction on the marks. A closing mark takes part, and what it does depends on the
    open elements alone by `nest_closing_cases`. A mark that closes itself adds its element and
    leaves the open elements as they are. An opening mark takes part if it is closed later, which
    the marks that are left out do not change, and is plain text in both runs otherwise. -/
theorem gathered_kept (stack : List OpenElement) (marks : List Mark) :
    gathered (nest stack marks) =
      together ((singles marks).map Element.single) (gathered (nest stack (kept marks))) := by
  induction marks generalizing stack with
  | nil => exact (together_nil _).symm
  | cons mark later ih =>
    by_cases closes : mark.closing = true
    · have unchanged : singles (mark :: later) = singles later := by simp [singles, closes]
      have keeps : kept (mark :: later) = mark :: kept later := by simp [kept, closes]
      rw [unchanged, keeps]
      obtain ⟨_, _, fault, _, fails⟩ | ⟨top, below, _, _, closed⟩ | ⟨_, _, plain⟩ :=
        nest_closing_cases closes stack
      · rw [fails, fails]
        rfl
      · rw [closed, closed, gathered_insert, gathered_insert, ih, together_comm]
      · rw [plain, plain, ih]
    · have opens : mark.closing = false := by simpa using closes
      by_cases single : mark.selfClosing = true
      · have added : singles (mark :: later) = mark :: singles later := by
          simp [singles, opens, single]
        have dropped : kept (mark :: later) = kept later := by simp [kept, opens, single]
        rw [added, dropped, nest_single opens single, gathered_insert, ih, ← together_append]
        rfl
      · have double : mark.selfClosing = false := by simpa using single
        have unchanged : singles (mark :: later) = singles later := by simp [singles, double]
        rw [unchanged, nest_opening opens double, kept]
        by_cases entered : (isKnown mark.name || closesLater mark.name later) = true
        · rw [if_pos entered, if_pos (by simp [double, entered]), nest_opening opens double,
            closesLater_kept, if_pos entered, ih]
        · rw [if_neg entered, if_neg (by simp [opens, entered]), ih]

/-- The pairs of a derived sequence are elements, wherever it stands.

    Proof: by induction on the derivation. For two sequences side by side the pairs of the second
    are added first and those of the first after them. For a pair around a sequence, the opening
    mark is closed later, so its element is open while the sequence inside is matched; what comes
    behind the sequence is the closing mark, which closes that element. A stray mark is that of a
    foreign element that is not open, and is plain text. -/
theorem Nested.gathered_append {around : List Text} {marks : List Mark}
    {pairs : List (Mark × Mark)} (nested : Nested around marks pairs)
    (double : ∀ mark ∈ marks, mark.closing = false → mark.selfClosing = false)
    {stack : List OpenElement} (same : ∀ name, name ∈ stack.map OpenElement.name ↔ name ∈ around)
    (later : List Mark) :
    gathered (nest stack (marks ++ later)) =
      together (pairs.map Element.between) (gathered (nest stack later)) := by
  induction nested generalizing stack later with
  | nothing => exact (together_nil _).symm
  | beside left right ihLeft ihRight =>
    rw [List.append_assoc,
      ihLeft (fun mark member => double mark (List.mem_append_left _ member)) same,
      ihRight (fun mark member => double mark (List.mem_append_right _ member)) same,
      List.map_append, together_append]
  | @inside around inner pairs opening closing opens closes named content ih =>
    have inward : ∀ name, name ∈ (OpenElement.mk opening.name opening.start opening.stop ::
        stack).map OpenElement.name ↔ name ∈ opening.name :: around := by
      intro name
      rw [List.map_cons, List.mem_cons, List.mem_cons, same]
    have closed : closesLater opening.name (inner ++ (closing :: later)) = true := by
      simp [closesLater, closes, named]
    have single : opening.selfClosing = false := double opening List.mem_cons_self opens
    have within : ∀ mark ∈ inner, mark.closing = false → mark.selfClosing = false :=
      fun mark member => double mark (by simp [member])
    rw [List.cons_append, List.append_assoc, List.singleton_append, nest_opening opens single,
      closed, Bool.or_true, if_pos rfl, ih within inward]
    obtain ⟨other, _⟩ | ⟨top, below, whole, _, ends⟩ | ⟨_, absent, _⟩ :=
      nest_closing_cases closes (OpenElement.mk opening.name opening.start opening.stop :: stack)
    · exact absurd (by simp [named]) other
    · cases whole
      rw [ends, gathered_insert, together_comm, ← together_append]
      rfl
    · exact absurd (by simp [named]) absent
  | @stray around mark closes foreign unopened =>
    have outside : mark.name ∉ stack.map OpenElement.name :=
      fun member => unopened ((same mark.name).mp member)
    rw [List.singleton_append, List.map_nil, together_nil]
    obtain ⟨_, blocked, _⟩ | ⟨top, below, rfl, own, _⟩ | ⟨_, _, plain⟩ :=
      nest_closing_cases closes stack
    · rcases blocked with known | inside
      · rw [foreign] at known
        cases known
      · exact absurd inside outside
    · exact absurd (by simp [own]) outside
    · rw [plain]

/-! ## Order and faults -/

/-- An element is put where its content begins. If the others are in the order of their beginnings,
    they are so with it. -/
theorem insertElement_ordered (element : Element) {others : List Element}
    (ordered : others.Pairwise (fun first second => first.start ≤ second.start)) :
    (insertElement element others).Pairwise (fun first second => first.start ≤ second.start) := by
  induction others with
  | nil => simp [insertElement]
  | cons other rest ih =>
    obtain ⟨first, further⟩ := List.pairwise_cons.mp ordered
    rw [insertElement]
    split
    · rename_i before
      refine List.pairwise_cons.mpr ⟨?_, ordered⟩
      intro behind member
      rcases List.mem_cons.mp member with rfl | later
      · exact before
      · exact before.trans (first behind later)
    · rename_i behind
      refine List.pairwise_cons.mpr ⟨?_, ih further⟩
      intro inserted member
      rcases List.mem_cons.mp ((insertElement_perm element rest).mem_iff.mp member) with
        rfl | later
      · omega
      · exact first inserted later

/-- Elements come out in the order in which their contents begin.

    Proof: by induction on the marks. What a mark adds to the elements of the later marks, if
    anything, is put in its place by `insertElement`, which keeps the order; a mark that is plain
    text adds nothing. -/
theorem nest_ordered {stack : List OpenElement} {marks : List Mark} {elements : List Element}
    (matched : nest stack marks = .ok elements) :
    elements.Pairwise (fun first second => first.start ≤ second.start) := by
  induction marks generalizing stack elements with
  | nil =>
    cases stack with
    | nil =>
      cases matched
      exact .nil
    | cons top below => cases matched
  | cons mark later ih =>
    have inserted : ∀ (open' : List OpenElement) (element : Element),
        (nest open' later).map (insertElement element) = .ok elements →
        elements.Pairwise (fun first second => first.start ≤ second.start) := by
      intro open' element same
      cases inner : nest open' later with
      | error fault => simp [inner, Except.map] at same
      | ok others =>
        rw [inner] at same
        cases same
        exact insertElement_ordered element (ih inner)
    by_cases closes : mark.closing = true
    · obtain ⟨_, _, fault, _, fails⟩ | ⟨top, below, _, _, closed⟩ | ⟨_, _, plain⟩ :=
        nest_closing_cases closes stack
      · rw [fails] at matched
        cases matched
      · rw [closed] at matched
        exact inserted _ _ matched
      · rw [plain] at matched
        exact ih matched
    · have opens : mark.closing = false := by simpa using closes
      by_cases single : mark.selfClosing = true
      · rw [nest_single opens single] at matched
        exact inserted _ _ matched
      · have double : mark.selfClosing = false := by simpa using single
        rw [nest_opening opens double] at matched
        split at matched
        · exact ih matched
        · exact ih matched

/-- A fault has the position of a mark, or of the opening mark of an element that was open before.

    Proof: by induction on the marks. If none is left, the fault is that of an element that is still
    open. A closing mark that may not stand where it stands is the fault itself. After any other
    mark the fault is one of the later marks or of an element that is open then; such an element was
    open before, or this mark has opened it. -/
theorem nest_fault_position {stack : List OpenElement} {marks : List Mark} {fault : NestingFault}
    (fails : nest stack marks = .error fault) :
    (∃ mark ∈ marks, fault.position = mark.start) ∨
      ∃ outer ∈ stack, fault.position = outer.opened := by
  induction marks generalizing stack with
  | nil =>
    cases stack with
    | nil => cases fails
    | cons top below =>
      cases fails
      exact .inr ⟨top, List.mem_cons_self, rfl⟩
  | cons mark later ih =>
    have inner : ∀ open' : List OpenElement, nest open' later = .error fault →
        (∀ outer ∈ open', outer ∈ stack ∨ outer.opened = mark.start) →
        (∃ other ∈ mark :: later, fault.position = other.start) ∨
          ∃ outer ∈ stack, fault.position = outer.opened := by
      intro open' inside known
      obtain ⟨other, member, here⟩ | ⟨outer, member, here⟩ := ih inside
      · exact .inl ⟨other, List.mem_cons_of_mem _ member, here⟩
      · rcases known outer member with before | own
        · exact .inr ⟨outer, before, here⟩
        · exact .inl ⟨mark, List.mem_cons_self, here.trans own⟩
    have mapped : ∀ (open' : List OpenElement) (element : Element),
        (nest open' later).map (insertElement element) = .error fault →
        nest open' later = .error fault := by
      intro open' element same
      cases inside : nest open' later with
      | error other =>
        rw [inside] at same
        cases same
        rfl
      | ok others => simp [inside, Except.map] at same
    by_cases closes : mark.closing = true
    · obtain ⟨_, _, other, here, failing⟩ | ⟨top, below, rfl, _, closed⟩ | ⟨_, _, plain⟩ :=
        nest_closing_cases closes stack
      · rw [failing] at fails
        cases fails
        exact .inl ⟨mark, List.mem_cons_self, here⟩
      · rw [closed] at fails
        exact inner below (mapped _ _ fails) fun outer member =>
          .inl (List.mem_cons_of_mem _ member)
      · rw [plain] at fails
        exact inner stack fails fun outer member => .inl member
    · have opens : mark.closing = false := by simpa using closes
      by_cases single : mark.selfClosing = true
      · rw [nest_single opens single] at fails
        exact inner stack (mapped _ _ fails) fun outer member => .inl member
      · have double : mark.selfClosing = false := by simpa using single
        rw [nest_opening opens double] at fails
        split at fails
        · refine inner _ fails fun outer member => ?_
          rcases List.mem_cons.mp member with rfl | before
          · exact .inr rfl
          · exact .inl before
        · exact inner stack fails fun outer member => .inl member

end RoleWeave
