import RoleWeave.Proofs.Markup.Placement

/-!
# Where the text of a block comes from

The text of a block is put together from the contents of all elements with its tag, so each of its
characters but those of the empty lines comes from a position of the document (`written_origins`). A
position is covered by an element if it lies in its content, and it comes into the block once for
each element with the tag that covers it (`count_originsOf`).

Elements that follow each other cover no position twice. An element inside another of the same tag
does: its content is part of the content around it, and is put behind that once more.
-/

namespace RoleWeave

namespace Element

/-- The positions in the content of an element. -/
def positions (element : Element) : List Nat :=
  List.range' element.start (element.stop - element.start)

/-- Whether a position lies in the content of an element. -/
def covers (element : Element) (position : Nat) : Bool :=
  decide (element.start ≤ position) && decide (position < element.stop)

/-- Whether the content of an element lies within that of another one. -/
def Inside (inner outer : Element) : Prop :=
  outer.start < inner.start ∧ inner.stop ≤ outer.stop

instance (inner outer : Element) : Decidable (inner.Inside outer) :=
  inferInstanceAs (Decidable (_ ∧ _))

/-- A position that lies in the content of an element is there once, and any other not at all. The
    positions of an element are a range, in which nothing is repeated. -/
theorem count_positions (element : Element) (position : Nat) :
    element.positions.count position = if element.covers position then 1 else 0 := by
  have inside : position ∈ element.positions ↔ element.covers position = true := by
    rw [positions, List.mem_range'_1, covers, Bool.and_eq_true, decide_eq_true_eq,
      decide_eq_true_eq]
    omega
  have once : element.positions.Nodup := List.nodup_range'
  rw [once.count, ite_cond_congr (propext inside)]

end Element

/-- The positions that joined contents of elements come from. What is put between two contents comes
    from nowhere. -/
def originsOf (elements : List Element) : List (Option Nat) :=
  [none, none].intercalate (elements.map (fun element => element.positions.map some))

/-- What is written at a position of a text. What comes from nowhere is a line feed. -/
def Text.written (raw : Text) : Option Nat → Option Char
  | some position => raw[position]?
  | none => some '\n'

/-- The contents of several elements come from those of the first, from nowhere twice for the empty
    line, and from those of the others. -/
theorem originsOf_cons (element next : Element) (later : List Element) :
    originsOf (element :: next :: later) =
      element.positions.map some ++ none :: none :: originsOf (next :: later) := by
  simp [originsOf]

/-- A position comes into joined contents once for each of the elements that covers it. What is put
    between the contents comes from no position. -/
theorem count_originsOf (elements : List Element) (position : Nat) :
    (originsOf elements).count (some position) =
      elements.countP (fun element => element.covers position) := by
  have own (element : Element) : (element.positions.map some).count (some position) =
      if element.covers position then 1 else 0 := by
    rw [List.count_map_of_injective _ _ (Option.some_injective Nat), element.count_positions]
  induction elements with
  | nil => rfl
  | cons element later ih =>
    rw [List.countP_cons, ← ih]
    cases later with
    | nil => simp [originsOf, own]
    | cons next others =>
      rw [originsOf_cons, List.count_append, own]
      simp [Nat.add_comm]

/-- The content of an element is what is written at its positions, if the element ends within the
    text. -/
theorem written_positions {raw : Text} {element : Element} (within : element.stop ≤ raw.length) :
    (element.content raw).map some = (element.positions.map some).map raw.written := by
  apply List.ext_getElem?
  intro index
  rw [List.map_map, List.getElem?_map, List.getElem?_map, Element.content, Text.slice,
    List.getElem?_take, List.getElem?_drop, Element.positions]
  by_cases inside : index < element.stop - element.start
  · have there : element.start + index < raw.length := by omega
    rw [if_pos inside, List.getElem?_range' inside, List.getElem?_eq_getElem there]
    simp [Text.written, List.getElem?_eq_getElem there]
  · rw [if_neg inside, List.getElem?_eq_none (by simpa using inside)]
    rfl

/-- Joined contents of elements are what is written at the positions that they come from. By
    induction on the elements, where an empty line is what is written nowhere. -/
theorem written_originsOf {raw : Text} {elements : List Element}
    (within : ∀ element ∈ elements, element.stop ≤ raw.length) :
    (Text.join Document.blankLine (elements.map (fun element => element.content raw))).map some =
      (originsOf elements).map raw.written := by
  induction elements with
  | nil => rfl
  | cons element later ih =>
    obtain ⟨here, further⟩ := List.forall_mem_cons.mp within
    cases later with
    | nil => simpa [Text.join, originsOf] using written_positions here
    | cons next others =>
      have rest := ih further
      rw [List.map_cons] at rest
      rw [List.map_cons, List.map_cons, Text.join_cons_cons, originsOf_cons, List.map_append,
        List.map_append, List.map_append, written_positions here, rest]
      rfl

/-- A list has no two elements with a property exactly if of no two of its places both have it. This
    counts places and not values, so an element that occurs twice counts twice. -/
theorem countP_le_one_iff {α : Type} {p : α → Bool} {elements : List α} :
    elements.countP p ≤ 1 ↔
      elements.Pairwise (fun first second => ¬ (p first = true ∧ p second = true)) := by
  induction elements with
  | nil => simp
  | cons element later ih =>
    rw [List.countP_cons, List.pairwise_cons, ← ih]
    by_cases holds : p element = true
    · have none : later.countP p = 0 ↔ ∀ other ∈ later, ¬ p other = true := List.countP_eq_zero
      simp only [holds, if_true, true_and, ← none]
      omega
    · simp [holds]

namespace Document

variable {raw : Text} {document : Document}

/-- Where the characters of the block of a tag come from. -/
def origins (document : Document) (tag : Tag) : List (Option Nat) :=
  originsOf (document.tagged tag)

/-- The text of a block is what is written where it comes from. The elements of a document end
    within it. -/
theorem written_origins (parses : parse raw = .ok document) {tag : Tag} {block : Block}
    (found : document.block? tag = some block) :
    block.text.map some = (document.origins tag).map raw.written := by
  obtain ⟨_, _, describes⟩ := described parses
  rw [text_of_block parses found]
  exact written_originsOf fun element member =>
    (describes.valid element (List.mem_of_mem_filter member)).2

/-- The content of an element is empty exactly if it ends where it begins. No element of a document
    begins behind its end or ends behind the text. -/
theorem content_eq_nil_iff (parses : parse raw = .ok document) {element : Element}
    (member : element ∈ document.elements) :
    element.content raw = [] ↔ element.start = element.stop := by
  obtain ⟨_, _, describes⟩ := described parses
  obtain ⟨ordered, within⟩ := describes.valid element member
  rw [Element.content, Text.slice, ← List.length_eq_zero_iff, List.length_take, List.length_drop]
  omega

/-- The contents of the elements with a tag cover no position twice exactly if none of them that is
    not empty lies within another one.

    Proof: if one that is not empty lies within another, both cover the position where it begins.
    The other way round, let two of them cover a position. They are elements of a document, so they
    lie one behind or inside the other; they share a position, so one lies inside, and it is not
    empty. -/
theorem apart_iff (parses : parse raw = .ok document) (tag : Tag) :
    (∀ position, (document.tagged tag).Pairwise (fun first second =>
      ¬ (first.covers position = true ∧ second.covers position = true))) ↔
    ∀ outer ∈ document.tagged tag, ∀ inner ∈ document.tagged tag, inner.Inside outer →
      inner.content raw = [] := by
  obtain ⟨_, _, describes⟩ := described parses
  have among : ∀ {element}, element ∈ document.tagged tag → element ∈ document.elements :=
    fun member => List.mem_of_mem_filter member
  constructor
  · rintro apart outer outerIn inner innerIn ⟨begins, ends⟩
    rw [content_eq_nil_iff parses (among innerIn)]
    have ordered := (describes.valid inner (among innerIn)).1
    -- If there were anything in the inner element, both would cover where its content begins.
    by_contra filled
    have outerCovers : outer.covers inner.start = true := by
      simp only [Element.covers, Bool.and_eq_true, decide_eq_true_eq]
      omega
    have innerCovers : inner.covers inner.start = true := by
      simp only [Element.covers, Bool.and_eq_true, decide_eq_true_eq]
      omega
    rcases eq_or_related (apart inner.start) outerIn innerIn with rfl | not | not
    · omega
    · exact not ⟨outerCovers, innerCovers⟩
    · exact not ⟨innerCovers, outerCovers⟩
  · intro nested position
    refine ((describes.ordered.and describes.laminar).filter _).imp_of_mem ?_
    rintro first second firstIn secondIn ⟨before, laminar⟩ ⟨firstCovers, secondCovers⟩
    simp only [Element.covers, Bool.and_eq_true, decide_eq_true_eq] at firstCovers secondCovers
    simp only [Element.Laminar] at laminar
    have empty := nested first firstIn second secondIn ⟨before, by omega⟩
    rw [content_eq_nil_iff parses (among secondIn)] at empty
    omega

end Document

/-- Repeated tags are merged content by content. Every character of a block but those of the empty
    lines comes from a position of the document, and a position comes into the block once for each
    of the elements with the tag that covers it. So no position comes into the block twice exactly
    if no element with the tag, unless it is empty, lies within another one.

    Proof: what is written and how often a position comes in are `written_origins` and
    `count_originsOf`. A position comes in at most once if of no two elements both cover it, which
    `apart_iff` tells by how the elements lie. -/
theorem merged_once_iff_apart {raw : Text} {document : Document}
    (parses : Document.parse raw = .ok document) (tag : Tag) :
    (∀ block, document.block? tag = some block →
      block.text.map some = (document.origins tag).map raw.written) ∧
    (∀ position, (document.origins tag).count (some position) =
      (document.tagged tag).countP (fun element => element.covers position)) ∧
    ((∀ position, (document.origins tag).count (some position) ≤ 1) ↔
      ∀ outer ∈ document.tagged tag, ∀ inner ∈ document.tagged tag, inner.Inside outer →
        inner.content raw = []) := by
  have counted (position : Nat) : (document.origins tag).count (some position) =
      (document.tagged tag).countP (fun element => element.covers position) :=
    count_originsOf _ position
  refine ⟨fun block found => Document.written_origins parses found, counted, ?_⟩
  rw [← Document.apart_iff parses tag]
  refine forall_congr' fun position => ?_
  rw [counted, countP_le_one_iff]

/-- A document in which an empty element lies within another one of its tag, and a third one
    follows. -/
def repeatedRules : Document :=
  ⟨"<rule>a<rule/>b</rule> and <rule>c</rule>".toList,
    [⟨"rule".toList, 6, 15⟩, ⟨"rule".toList, 14, 14⟩, ⟨"rule".toList, 33, 34⟩]⟩

/-- No position comes into their block twice, although one of the elements lies within another. It
    is empty. -/
theorem repeated_rules_merged_once :
    Document.parse repeatedRules.raw = .ok repeatedRules ∧
    (repeatedRules.block? .rule).map Block.text = some "a<rule/>b\n\n\n\nc".toList ∧
    (∀ outer ∈ repeatedRules.tagged .rule, ∀ inner ∈ repeatedRules.tagged .rule,
      inner.Inside outer → inner.content repeatedRules.raw = []) ∧
    ∀ position, (repeatedRules.origins .rule).count (some position) ≤ 1 := by
  have parses : Document.parse repeatedRules.raw = .ok repeatedRules := by decide +kernel
  obtain ⟨_, _, once⟩ := merged_once_iff_apart parses .rule
  have apart : ∀ outer ∈ repeatedRules.tagged .rule, ∀ inner ∈ repeatedRules.tagged .rule,
      inner.Inside outer → inner.content repeatedRules.raw = [] := by decide +kernel
  exact ⟨parses, by decide +kernel, apart, once.mpr apart⟩

/-- The content of an element within another one of its tag comes into their block twice, in its place
    and again behind all that is around it. -/
theorem inner_rule_repeated :
    ∃ document, Document.parse "<rule>a<rule>b</rule>c</rule>".toList = .ok document ∧
      (document.block? .rule).map Block.text = some "a<rule>b</rule>c\n\nb".toList ∧
      (document.origins .rule).count (some 13) = 2 := by
  have parses : Document.parse "<rule>a<rule>b</rule>c</rule>".toList =
      .ok ⟨"<rule>a<rule>b</rule>c</rule>".toList,
        [⟨"rule".toList, 6, 22⟩, ⟨"rule".toList, 13, 14⟩]⟩ := by decide +kernel
  exact ⟨_, parses, by decide +kernel, by decide +kernel⟩

end RoleWeave
