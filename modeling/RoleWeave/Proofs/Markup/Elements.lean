import Mathlib
import RoleWeave.Proofs.Markup.Matching

/-!
# The elements of a document

A derivation of the skeleton of a text puts marks together in pairs. Each pair is an element, and so
is each mark that closes itself; nothing else is. No two elements begin at the same place, and of
two contents one lies behind or inside the other. `parse_iff_nested` collects what is known: when a
text is a document, what the document then consists of, and where a fault points at otherwise.

Names need care, since tags are found without regard to the case of letters. Those of marks are in
small letters already, so a tag is found under its own name alone.
-/

namespace RoleWeave

/-- The marks put together are marks of the derived sequence. Those that open elements are met in
    the order in which the sequence has them. By induction on the derivation. -/
theorem Nested.sublist {around : List Text} {marks : List Mark} {pairs : List (Mark × Mark)}
    (nested : Nested around marks pairs) :
    (pairs.map Prod.fst).Sublist marks ∧ ∀ pair ∈ pairs, pair.2 ∈ marks := by
  induction nested with
  | nothing => exact ⟨.slnil, by simp⟩
  | beside left right ihLeft ihRight =>
    rw [List.map_append]
    refine ⟨ihLeft.1.append ihRight.1, ?_⟩
    intro pair member
    rcases List.mem_append.mp member with inLeft | inRight
    · exact List.mem_append_left _ (ihLeft.2 pair inLeft)
    · exact List.mem_append_right _ (ihRight.2 pair inRight)
  | inside opens closes same content ih =>
    refine ⟨(ih.1.trans (List.sublist_append_left _ _)).cons_cons _, ?_⟩
    intro pair member
    rcases List.mem_cons.mp member with rfl | within
    · simp
    · exact List.mem_cons_of_mem _ (List.mem_append_left _ (ih.2 pair within))
  | stray => exact ⟨List.nil_sublist _, by simp⟩

/-- The contents of the pairs of a derived sequence are valid, and lie one behind or inside the
    other.

    Proof: by induction on the derivation. Of two sequences side by side every mark of the first
    ends before every mark of the second begins, so their contents lie one behind the other. A pair
    around a sequence has its content from the end of its first mark to the start of its last, and
    every mark of the sequence lies there; so the contents of the pairs inside are inside its
    own. -/
theorem Nested.laminar {around : List Text} {marks : List Mark} {pairs : List (Mark × Mark)}
    (nested : Nested around marks pairs) (covers : ∀ mark ∈ marks, mark.start < mark.stop)
    (ordered : marks.Pairwise Mark.Precedes) :
    (∀ pair ∈ pairs, pair.1.Precedes pair.2) ∧
      (pairs.map Element.between).Pairwise Element.Laminar := by
  induction nested with
  | nothing => exact ⟨by simp, .nil⟩
  | beside left right ihLeft ihRight =>
    obtain ⟨before, behind, across⟩ := List.pairwise_append.mp ordered
    obtain ⟨validLeft, laminarLeft⟩ :=
      ihLeft (fun mark member => covers mark (List.mem_append_left _ member)) before
    obtain ⟨validRight, laminarRight⟩ :=
      ihRight (fun mark member => covers mark (List.mem_append_right _ member)) behind
    refine ⟨?_, ?_⟩
    · intro pair member
      rcases List.mem_append.mp member with inLeft | inRight
      · exact validLeft pair inLeft
      · exact validRight pair inRight
    · rw [List.map_append]
      refine List.pairwise_append.mpr ⟨laminarLeft, laminarRight, ?_⟩
      simp only [List.mem_map]
      rintro _ ⟨first, inLeft, rfl⟩ _ ⟨second, inRight, rfl⟩
      have closing : first.2 ∈ _ := left.sublist.2 first inLeft
      have opening : second.1 ∈ _ :=
        right.sublist.1.subset (List.mem_map_of_mem inRight)
      have order : first.2.stop ≤ second.1.start := across _ closing _ opening
      have one := covers _ (List.mem_append_left _ closing)
      have two := covers _ (List.mem_append_right _ opening)
      left
      simp only [Element.between]
      omega
  | @inside around inner pairs opening closing opens closes same content ih =>
    obtain ⟨behind, rest⟩ := List.pairwise_cons.mp ordered
    obtain ⟨within, _, before⟩ := List.pairwise_append.mp rest
    have coversInner : ∀ mark ∈ inner, mark.start < mark.stop :=
      fun mark member => covers mark (by simp [member])
    obtain ⟨valid, laminar⟩ := ih coversInner within
    refine ⟨?_, ?_⟩
    · intro pair member
      rcases List.mem_cons.mp member with rfl | inInner
      · exact behind closing (by simp)
      · exact valid pair inInner
    · refine List.pairwise_cons.mpr ⟨?_, laminar⟩
      simp only [List.mem_map]
      rintro _ ⟨pair, member, rfl⟩
      have first : pair.1 ∈ inner := content.sublist.1.subset (List.mem_map_of_mem member)
      have last : pair.2 ∈ inner := content.sublist.2 pair member
      have after : opening.stop ≤ pair.1.start := behind _ (List.mem_append_left _ first)
      have ends : pair.2.stop ≤ closing.start := before _ last closing (by simp)
      have one := coversInner _ first
      have two := coversInner _ last
      right; right; left
      simp only [Element.between]
      omega
  | stray => exact ⟨by simp, .nil⟩

/-! ## Names -/

/-- A text in small letters stays as it is when its letters are lowered again. -/
theorem Text.lowerLatin_idem (text : Text) :
    Text.lowerLatin (Text.lowerLatin text) = Text.lowerLatin text := by
  rw [lowerLatin, lowerLatin, List.map_map]
  exact List.map_congr_left fun c _ => c.toLower_toLower_eq_toLower

/-- A tag is found under its name alone. The name may be written in any letters, and the tag has it
    in small ones. -/
theorem Tag.ofName?_eq_some_iff {name : Text} {tag : Tag} :
    Tag.ofName? name = some tag ↔ Text.lowerLatin name = tag.name := by
  constructor
  · intro found
    have same := List.find?_some found
    exact (by simpa using same : tag.name = Text.lowerLatin name).symm
  · intro same
    rw [Tag.ofName?, same]
    cases tag <;> decide

/-- The names of marks are in small letters. A mark takes what is written behind its bracket and
    lowers it, whether it opens or closes. -/
theorem Mark.lowerLatin_name {start : Nat} {text : Text} {mark : Mark}
    (member : mark ∈ marksFrom start text) : Text.lowerLatin mark.name = mark.name := by
  have named : ∀ {closing skipped rest start}, named? closing start skipped rest = some mark →
      Text.lowerLatin mark.name = mark.name := by
    intro closing skipped rest start read
    obtain ⟨name, _, _, _, _, _, rfl⟩ := parts_of_named? read
    exact Text.lowerLatin_idem name
  obtain ⟨_, rest, _, read⟩ := after?_of_mem member
  unfold after? at read
  split at read <;> exact named read

/-! ## Documents -/

namespace Document

/-- The elements of a document are those of a derivation of its text, and its blocks and foreign
    elements are made of them. Since an element begins where its opening mark ends, the elements are
    in the order of their opening marks. -/
structure Describes (document : Document) (raw : Text) (pairs : List (Mark × Mark)) : Prop where
  text : document.raw = raw
  elements : document.elements.Perm
    (pairs.map Element.between ++ (singles (marks raw)).map Element.single)
  ordered : document.elements.Pairwise (fun first second => first.start < second.start)
  valid : ∀ element ∈ document.elements,
    element.start ≤ element.stop ∧ element.stop ≤ raw.length
  laminar : document.elements.Pairwise Element.Laminar
  blocks : document.blocks =
    (Tag.all.filter (fun tag => document.elements.any (fun element => element.name == tag.name))).map
      (fun tag => ⟨tag, Text.join blankLine ((document.elements.filter
        (fun element => element.name == tag.name)).map (fun element => element.content raw))⟩)
  foreign : document.foreignElements =
    (document.elements.filter
      (fun element => Tag.all.all (fun tag => element.name != tag.name))).map
        (fun element => (element.name, element.content raw))

end Document

/-- Two members of a list in which each is related to those behind it are the same or are related
    in one way or the other. Taken in both directions the relation is symmetric, so it does not
    matter which of the two comes first. -/
theorem eq_or_related {α : Type} {related : α → α → Prop} {all : List α}
    (ordered : all.Pairwise related) {first second : α} (one : first ∈ all) (two : second ∈ all) :
    first = second ∨ related first second ∨ related second first := by
  have symmetric : Std.Symm fun element other =>
      element = other ∨ related element other ∨ related other element :=
    ⟨fun _ _ either => either.imp Eq.symm Or.symm⟩
  have either : all.Pairwise fun element other =>
      element = other ∨ related element other ∨ related other element :=
    ordered.imp fun here => .inr (.inl here)
  exact either.forall_of_forall (fun _ _ => .inl rfl) one two

/-- A mark of the skeleton is one of the text, and it closes an element or does not close itself. -/
theorem mem_skeleton {raw : Text} {mark : Mark} (member : mark ∈ skeleton raw) :
    mark ∈ marks raw ∧ (mark.closing = true ∨ mark.selfClosing = false) := by
  refine ⟨List.mem_of_mem_filter member, ?_⟩
  rw [skeleton_eq_kept] at member
  exact closing_or_double_of_mem_kept member

/-- The marks that close themselves are those that open nothing behind them, among all marks. -/
theorem mem_singles {all : List Mark} {mark : Mark} :
    mark ∈ singles all ↔ mark ∈ all ∧ mark.closing = false ∧ mark.selfClosing = true := by
  simp [singles]

/-- A document has the elements that matching the marks of its text gives. Nothing is left out or
    put in another order afterwards. -/
theorem elements_of_parse {raw : Text} {document : Document}
    (parses : Document.parse raw = .ok document) : elements raw = .ok document.elements := by
  unfold Document.parse at parses
  cases matched : elements raw with
  | error fault => simp [matched] at parses
  | ok found =>
    simp only [matched, Except.ok.injEq] at parses
    rw [← parses]

/-- Marks whose skeleton is derived are matched, and their elements are the pairs of the derivation
    and the marks that close themselves.

    Proof: the skeleton is matched together with what is open around it, and by
    `Nested.gathered_append` this adds the pairs of the derivation to what the rest gives, which
    here is nothing. By `gathered_kept` all marks give what the skeleton gives and the marks that
    close themselves besides. Both hold up to the order of the elements, as matching lists them by
    where they begin. -/
theorem nest_of_nested {all : List Mark} {pairs : List (Mark × Mark)}
    (nested : Nested [] (kept all) pairs) :
    ∃ found, nest [] all = .ok found ∧
      found.Perm (pairs.map Element.between ++ (singles all).map Element.single) := by
  have double : ∀ mark ∈ kept all, mark.closing = false → mark.selfClosing = false := by
    intro mark member opens
    rcases closing_or_double_of_mem_kept member with closes | double
    · rw [opens] at closes
      cases closes
    · exact double
  have nothing : ∀ name, name ∈ ([] : List OpenElement).map OpenElement.name ↔
      name ∈ ([] : List Text) := fun name => Iff.rfl
  have paired := nested.gathered_append double nothing []
  have whole := gathered_kept [] all
  rw [← List.append_nil (kept all), paired, ← together_append] at whole
  cases matched : nest [] all with
  | error cause =>
    rw [matched] at whole
    cases whole
  | ok found =>
    rw [matched] at whole
    have same : (found : Multiset Element) =
        ((singles all).map Element.single ++ pairs.map Element.between : List Element) := by
      simpa [gathered, together, nest, Except.map] using whole
    exact ⟨found, rfl, (Multiset.coe_eq_coe.mp same).trans List.perm_append_comm⟩

/-- The elements of a document are the pairs of any derivation of its skeleton and the marks that
    close themselves. -/
theorem elements_perm {raw : Text} {pairs : List (Mark × Mark)} {found : List Element}
    (nested : Nested [] (skeleton raw) pairs) (matched : elements raw = .ok found) :
    found.Perm (pairs.map Element.between ++ (singles (marks raw)).map Element.single) := by
  rw [skeleton_eq_kept] at nested
  obtain ⟨other, same, perm⟩ := nest_of_nested nested
  rw [elements, same, Except.ok.injEq] at matched
  rwa [← matched]

/-- A mark of a text is the only one that ends where it ends, and the only one that begins where it
    begins. -/
theorem mark_unique {raw : Text} {first second : Mark} (one : first ∈ marks raw)
    (two : second ∈ marks raw) (same : first.stop = second.stop ∨ first.start = second.start) :
    first = second := by
  obtain ⟨_, covered, _⟩ := marksFrom_within 0 raw first one
  obtain ⟨_, covering, _⟩ := marksFrom_within 0 raw second two
  rcases eq_or_related (marksFrom_ordered 0 raw) one two with equal | order
  · exact equal
  · simp only [Mark.Precedes] at order
    omega

/-- The pairs of a derivation of a skeleton are marks of the text. -/
theorem Nested.mem_marks {raw : Text} {pairs : List (Mark × Mark)}
    (nested : Nested [] (skeleton raw) pairs) {pair : Mark × Mark} (member : pair ∈ pairs) :
    pair.1 ∈ marks raw ∧ pair.2 ∈ marks raw :=
  ⟨(mem_skeleton (nested.sublist.1.subset (List.mem_map_of_mem member))).1,
    (mem_skeleton (nested.sublist.2 pair member)).1⟩

/-- The pairs of a derivation of a skeleton are in the order of their opening marks. -/
theorem Nested.ordered {raw : Text} {pairs : List (Mark × Mark)}
    (nested : Nested [] (skeleton raw) pairs) :
    pairs.Pairwise (fun first second => first.1.Precedes second.1) :=
  List.pairwise_map.mp
    ((marksFrom_ordered 0 raw).sublist (nested.sublist.1.trans List.filter_sublist))

/-- The contents of these pairs are valid, and lie one behind or inside the other. -/
theorem Nested.laminar_of_skeleton {raw : Text} {pairs : List (Mark × Mark)}
    (nested : Nested [] (skeleton raw) pairs) :
    (∀ pair ∈ pairs, pair.1.Precedes pair.2) ∧
      (pairs.map Element.between).Pairwise Element.Laminar :=
  nested.laminar (fun mark member => (marksFrom_within 0 raw mark (mem_skeleton member).1).2.1)
    ((marksFrom_ordered 0 raw).sublist List.filter_sublist)

/-- No pair of a derivation occurs twice. The marks that open elements are in the order of the text,
    and each is behind the one before it. -/
theorem Nested.nodup {raw : Text} {pairs : List (Mark × Mark)}
    (nested : Nested [] (skeleton raw) pairs) : pairs.Nodup := by
  refine nested.ordered.imp_of_mem ?_
  rintro pair _ member _ before rfl
  obtain ⟨_, covers, _⟩ := marksFrom_within 0 raw pair.1 (nested.mem_marks member).1
  simp only [Mark.Precedes] at before
  omega

/-- A derivation that gives the same elements as another puts together no other marks. An element
    says where its marks meet its content, and a mark of a text is known by where it begins or
    ends. -/
theorem Nested.subset_of_perm {raw : Text} {pairs others : List (Mark × Mark)}
    (first : Nested [] (skeleton raw) pairs) (second : Nested [] (skeleton raw) others)
    (same : (pairs.map Element.between).Perm (others.map Element.between)) :
    ∀ pair ∈ pairs, pair ∈ others := by
  intro pair member
  obtain ⟨twin, among, alike⟩ :=
    List.mem_map.mp (same.mem_iff.mp (List.mem_map_of_mem member))
  simp only [Element.between, Element.mk.injEq] at alike
  have opening : twin.1 = pair.1 :=
    mark_unique (second.mem_marks among).1 (first.mem_marks member).1 (.inl alike.2.1)
  have closing : twin.2 = pair.2 :=
    mark_unique (second.mem_marks among).2 (first.mem_marks member).2 (.inr alike.2.2)
  have whole : twin = pair := Prod.ext opening closing
  rwa [← whole]

/-- A derivation of a skeleton puts the same marks together as any other.

    Proof: both derivations give the elements of the document, so each has the pairs of the other.
    They also have them in the order of the opening marks, and there is one such order. -/
theorem Nested.unique {raw : Text} {pairs others : List (Mark × Mark)}
    (first : Nested [] (skeleton raw) pairs) (second : Nested [] (skeleton raw) others) :
    others = pairs := by
  obtain ⟨document, parses⟩ := (accepts_iff_nested raw).mpr ⟨pairs, first⟩
  have matched := elements_of_parse parses
  have same : (pairs.map Element.between).Perm (others.map Element.between) :=
    (List.perm_append_right_iff _).mp
      ((elements_perm first matched).symm.trans (elements_perm second matched))
  have perm : others.Perm pairs :=
    (List.perm_ext_iff_of_nodup second.nodup first.nodup).mpr fun pair =>
      ⟨second.subset_of_perm first same.symm pair, first.subset_of_perm second same pair⟩
  refine perm.eq_of_pairwise ?_ second.ordered first.ordered
  intro one two oneIn twoIn before after
  obtain ⟨_, covers, _⟩ := marksFrom_within 0 raw one.1 (second.mem_marks oneIn).1
  obtain ⟨_, covered, _⟩ := marksFrom_within 0 raw two.1 (first.mem_marks twoIn).1
  simp only [Mark.Precedes] at before after
  omega

/-- Two elements of a derivation of a text and of the marks that close themselves begin at different
    places, and lie one behind or inside the other.

    Proof: there are three sorts of two elements. Two pairs are `Nested.laminar_of_skeleton`. Two
    marks that close themselves are apart because marks are. Of a pair and a mark that closes
    itself, the mark is another one than both of the pair, so it ends before the content, lies in
    it, or begins behind it. -/
theorem derived_pairwise {raw : Text} {pairs : List (Mark × Mark)}
    (nested : Nested [] (skeleton raw) pairs) :
    (pairs.map Element.between ++ (singles (marks raw)).map Element.single).Pairwise
      (fun first second => first.start ≠ second.start ∧ first.Laminar second) := by
  have within := marksFrom_within 0 raw
  obtain ⟨valid, laminar⟩ := nested.laminar_of_skeleton
  refine List.pairwise_append.mpr ⟨?_, ?_, ?_⟩
  · refine (List.pairwise_map.mpr (nested.ordered.imp_of_mem ?_)).and laminar
    intro first second _ member before
    obtain ⟨_, covers, _⟩ := within second.1 (nested.mem_marks member).1
    simp only [Mark.Precedes] at before
    simp only [Element.between]
    omega
  · refine List.pairwise_map.mpr
      (((marksFrom_ordered 0 raw).sublist List.filter_sublist).imp_of_mem ?_)
    intro first second _ member before
    obtain ⟨_, covers, _⟩ := within second (mem_singles.mp member).1
    simp only [Mark.Precedes] at before
    simp only [Element.single, Element.Laminar]
    omega
  · simp only [List.mem_map]
    rintro _ ⟨pair, member, rfl⟩ _ ⟨mark, lone, rfl⟩
    obtain ⟨among, opens, single⟩ := mem_singles.mp lone
    obtain ⟨openIn, closeIn⟩ := nested.mem_marks member
    have other : ∀ {paired : Mark}, paired ∈ skeleton raw → paired ≠ mark := by
      rintro paired inSkeleton rfl
      rcases (mem_skeleton inSkeleton).2 with closes | double
      · rw [opens] at closes
        cases closes
      · rw [single] at double
        cases double
    have byOpening := (eq_or_related (marksFrom_ordered 0 raw) openIn among).resolve_left
      (other (nested.sublist.1.subset (List.mem_map_of_mem member)))
    have byClosing := (eq_or_related (marksFrom_ordered 0 raw) closeIn among).resolve_left
      (other (nested.sublist.2 pair member))
    obtain ⟨_, opening, _⟩ := within pair.1 openIn
    obtain ⟨_, closing, _⟩ := within pair.2 closeIn
    obtain ⟨_, covers, _⟩ := within mark among
    have inner := valid pair member
    simp only [Mark.Precedes] at byOpening byClosing inner
    simp only [Element.between, Element.single, Element.Laminar]
    omega

/-- The contents of the elements of a derivation of a text, and of the marks that close themselves,
    lie within the text. A pair has its content between its marks, and the other marks hold
    nothing. -/
theorem derived_valid {raw : Text} {pairs : List (Mark × Mark)}
    (nested : Nested [] (skeleton raw) pairs) :
    ∀ element ∈ pairs.map Element.between ++ (singles (marks raw)).map Element.single,
      element.start ≤ element.stop ∧ element.stop ≤ raw.length := by
  have within := marksFrom_within 0 raw
  obtain ⟨valid, _⟩ := nested.laminar_of_skeleton
  intro element member
  rcases List.mem_append.mp member with paired | lone
  · obtain ⟨pair, among, rfl⟩ := List.mem_map.mp paired
    obtain ⟨_, covers, ends⟩ := within pair.2 (nested.mem_marks among).2
    have inner : pair.1.stop ≤ pair.2.start := valid pair among
    simp only [Element.between]
    omega
  · obtain ⟨mark, among, rfl⟩ := List.mem_map.mp lone
    obtain ⟨_, _, ends⟩ := within mark (mem_singles.mp among).1
    simp only [Element.single]
    omega

/-- The names of these elements are in small letters, since an element has the name of the mark that
    opens it. -/
theorem derived_lower {raw : Text} {pairs : List (Mark × Mark)}
    (nested : Nested [] (skeleton raw) pairs) :
    ∀ element ∈ pairs.map Element.between ++ (singles (marks raw)).map Element.single,
      Text.lowerLatin element.name = element.name := by
  intro element member
  rcases List.mem_append.mp member with paired | lone
  · obtain ⟨pair, among, rfl⟩ := List.mem_map.mp paired
    exact Mark.lowerLatin_name (nested.mem_marks among).1
  · obtain ⟨mark, among, rfl⟩ := List.mem_map.mp lone
    exact Mark.lowerLatin_name (mem_singles.mp among).1

namespace Document

/-- A block is there exactly if an element has its tag, for names in small letters. It holds the
    contents of all such elements in their order, with a blank line between two of them.

    Proof: for names in small letters the elements with the tag are those with its name. If there is
    one, the list of their contents has something in it, and the block is made of it; if there is
    none, the list is empty. -/
theorem block?_eq {document : Document}
    (lower : ∀ element ∈ document.elements, Text.lowerLatin element.name = element.name)
    (tag : Tag) :
    document.block? tag =
      if document.elements.any (fun element => element.name == tag.name) then
        some ⟨tag, Text.join blankLine ((document.elements.filter
          (fun element => element.name == tag.name)).map
            (fun element => element.content document.raw))⟩
      else none := by
  have tagged : document.elements.filter (fun element => Tag.ofName? element.name == some tag) =
      document.elements.filter (fun element => element.name == tag.name) := by
    refine List.filter_congr fun element member => ?_
    rw [Bool.eq_iff_iff, beq_iff_eq, beq_iff_eq, Tag.ofName?_eq_some_iff, lower element member]
  rw [block?, contents, tagged]
  by_cases present : document.elements.any (fun element => element.name == tag.name) = true
  · rw [if_pos present]
    obtain ⟨element, member, named⟩ := List.any_eq_true.mp present
    have inside : element ∈ document.elements.filter (fun element => element.name == tag.name) :=
      List.mem_filter.mpr ⟨member, named⟩
    split
    · rename_i none
      rw [List.map_eq_nil_iff] at none
      rw [none] at inside
      cases inside
    · rfl
  · have absent : document.elements.filter (fun element => element.name == tag.name) = [] := by
      rw [List.filter_eq_nil_iff]
      exact fun element member named => present (List.any_eq_true.mpr ⟨element, member, named⟩)
    rw [if_neg present, absent]
    rfl

/-- The blocks are those of the tags that have an element, for names in small letters. They are in
    the order of the vocabulary, whatever the order in the text. -/
theorem blocks_eq {document : Document}
    (lower : ∀ element ∈ document.elements, Text.lowerLatin element.name = element.name) :
    document.blocks =
      (Tag.all.filter
        (fun tag => document.elements.any (fun element => element.name == tag.name))).map
        (fun tag => ⟨tag, Text.join blankLine ((document.elements.filter
          (fun element => element.name == tag.name)).map
            (fun element => element.content document.raw))⟩) := by
  rw [blocks]
  generalize Tag.all = tags
  induction tags with
  | nil => rfl
  | cons tag rest ih =>
    rw [List.filterMap_cons, block?_eq lower, List.filter_cons, ih]
    by_cases present : document.elements.any (fun element => element.name == tag.name) = true
    · rw [if_pos present, if_pos present, List.map_cons]
    · rw [if_neg present, if_neg present]

/-- The foreign elements are those with none of the names of the vocabulary, for names in small
    letters. They stay in the order of the text, and none is joined with another.

    Proof: an element is left out if a tag is found for its name, and the tag that is found is the
    one with that name in small letters. -/
theorem foreignElements_eq {document : Document}
    (lower : ∀ element ∈ document.elements, Text.lowerLatin element.name = element.name) :
    document.foreignElements =
      (document.elements.filter
        (fun element => Tag.all.all (fun tag => element.name != tag.name))).map
          (fun element => (element.name, element.content document.raw)) := by
  rw [foreignElements]
  congr 1
  refine List.filter_congr fun element member => ?_
  rw [Bool.eq_iff_iff, Bool.not_eq_true', isKnown, Option.isSome_eq_false_iff,
    Option.isNone_iff_eq_none, List.all_eq_true]
  constructor
  · intro none tag _
    rw [bne_iff_ne]
    intro named
    have found := Tag.ofName?_eq_some_iff.mpr ((lower element member).trans named)
    rw [none] at found
    cases found
  · intro others
    cases known : Tag.ofName? element.name with
    | none => rfl
    | some tag =>
      have named := Tag.ofName?_eq_some_iff.mp known
      rw [lower element member] at named
      have other := others tag (Tag.mem_all tag)
      rw [bne_iff_ne] at other
      exact absurd named other

end Document

/-- The document of a text has the elements of the derivation of its skeleton.

    Proof: `elements_perm` gives them up to their order. The order itself is known because no two
    elements begin at the same place, and the document has them by where they begin. All names are
    in small letters, so the blocks and the foreign elements can be told by their names. -/
theorem Nested.describes {raw : Text} {pairs : List (Mark × Mark)} {document : Document}
    (nested : Nested [] (skeleton raw) pairs) (parses : Document.parse raw = .ok document) :
    document.Describes raw pairs := by
  have matched := elements_of_parse parses
  have perm := elements_perm nested matched
  have text : document.raw = raw := by
    rw [Document.parse, matched] at parses
    exact (congrArg Document.raw (Except.ok.inj parses)).symm
  have pairwise : document.elements.Pairwise
      (fun first second => first.start ≠ second.start ∧ first.Laminar second) := by
    refine (perm.pairwise_iff ?_).mpr (derived_pairwise nested)
    rintro first second ⟨apart, laminar⟩
    refine ⟨apart.symm, ?_⟩
    simp only [Element.Laminar] at laminar ⊢
    omega
  have lower : ∀ element ∈ document.elements, Text.lowerLatin element.name = element.name :=
    fun element member => derived_lower nested element (perm.mem_iff.mp member)
  refine ⟨text, perm, ?_, ?_, pairwise.imp fun both => both.2, ?_, ?_⟩
  · exact ((nest_ordered matched).and pairwise).imp fun ⟨before, apart, _⟩ =>
      Nat.lt_of_le_of_ne before apart
  · exact fun element member => derived_valid nested element (perm.mem_iff.mp member)
  · rw [Document.blocks_eq lower, text]
  · rw [Document.foreignElements_eq lower, text]

/-- Every document is described by a derivation. -/
theorem Document.described {raw : Text} {document : Document}
    (parses : Document.parse raw = .ok document) :
    ∃ pairs, Nested [] (skeleton raw) pairs ∧ document.Describes raw pairs := by
  obtain ⟨pairs, nested⟩ := (accepts_iff_nested raw).mp ⟨document, parses⟩
  exact ⟨pairs, nested, nested.describes parses⟩

/-- Matching all marks of a text fails as matching its skeleton does. The marks that are left out
    add elements at most, and never a fault. -/
theorem nest_skeleton_error {raw : Text} {cause : NestingFault}
    (fails : elements raw = .error cause) : nest [] (skeleton raw) = .error cause := by
  have whole := gathered_kept [] (marks raw)
  rw [elements] at fails
  rw [fails, ← skeleton_eq_kept] at whole
  cases matched : nest [] (skeleton raw) with
  | error other =>
    rw [matched] at whole
    have same : cause = other := Except.error.inj whole
    rw [same]
  | ok found =>
    rw [matched] at whole
    cases whole

/-- A text is a document exactly if its skeleton is derived by the grammar. The derivation has only
    one result, and the document has one element for each of its pairs and one empty element for
    each mark that closes itself. Where a text is no document, the fault has the position of a mark
    of the skeleton.

    Proof: `accepts_iff_nested` is the first part, and `Document.described` and `Nested.unique` are
    the second. A fault of the text is one of its skeleton by `nest_skeleton_error`, and the faults
    of a sequence name a mark of it or an element that was open before, of which there is none
    here. -/
theorem parse_iff_nested (raw : Text) :
    ((∃ document, Document.parse raw = .ok document) ↔
      ∃ pairs, Nested [] (skeleton raw) pairs) ∧
    (∀ document, Document.parse raw = .ok document →
      ∃ pairs, Nested [] (skeleton raw) pairs ∧
        (∀ others, Nested [] (skeleton raw) others → others = pairs) ∧
        document.Describes raw pairs) ∧
    ∀ fault, Document.parse raw = .error fault →
      ∃ mark ∈ skeleton raw, ∃ cause : NestingFault, cause.position = mark.start ∧
        fault = .parse (Text.byteOffset raw mark.start) cause.message := by
  refine ⟨accepts_iff_nested raw, ?_, ?_⟩
  · intro document parses
    obtain ⟨pairs, nested, describes⟩ := Document.described parses
    exact ⟨pairs, nested, fun others other => nested.unique other, describes⟩
  · intro fault fails
    unfold Document.parse at fails
    cases matched : elements raw with
    | ok found => simp [matched] at fails
    | error cause =>
      simp only [matched, Except.error.injEq] at fails
      obtain ⟨mark, member, here⟩ | ⟨outer, impossible, _⟩ :=
        nest_fault_position (nest_skeleton_error matched)
      · exact ⟨mark, member, cause, here, by rw [← here, fails]⟩
      · cases impossible

/-- The inner element comes out behind the one around it, and the last mark is plain text. -/
example : Document.parse "<Mood>a<rule/>b</mood></calm>".toList =
    .ok ⟨"<Mood>a<rule/>b</mood></calm>".toList,
      [⟨"mood".toList, 6, 15⟩, ⟨"rule".toList, 14, 14⟩]⟩ := by decide +kernel

end RoleWeave
