import RoleWeave.Markup.Document
import RoleWeave.Proofs.Reference.Words

/-!
# Lists of references

A block may be a list: references, with blanks and separators before, between and behind them. No
list has prose. Whether its references are the items is decided by what is glued to each item, up to
the next character that ends a word. The full-width comma and the ideographic comma are punctuation
at the end of a word, and are cut off. A bar, a star, a hyphen or a bullet may stand in a resource,
and goes into the one it is glued to.
-/

namespace RoleWeave

/-- Whether a character may stand between the items of a list. -/
def separates (c : Char) : Bool :=
  Text.isBlank c || isSeparator c

/-- Whether a separator may stand in a resource, at any place of it. -/
def joins (c : Char) : Bool :=
  c ∈ ['|', '*', '-', '•']

/-- A reference in a list, with the blanks and separators behind it. -/
structure ListItem where
  reference : Reference
  run : Text
deriving DecidableEq, Repr

namespace ListItem

/-- An item as it is written. -/
def render (item : ListItem) : Text :=
  item.reference.render ++ item.run

/-- What is glued to the reference of an item. -/
def glued (item : ListItem) : Text :=
  wordOf item.run

/-- The reference of an item can be told from what separates the items: its resource does not end
    with punctuation, and there is no separator in it. -/
structure Plain (item : ListItem) : Prop where
  named : Name.accepts item.reference.protocol = true
  nonempty : item.reference.resource ≠ []
  inside : ∀ c ∈ item.reference.resource, endsWord c = false
  bare : ∀ c, item.reference.resource.getLast? = some c → isTrailing c = false
  solid : ∀ c ∈ item.reference.resource, isSeparator c = false
  run : ∀ c ∈ item.run, separates c = true

instance (item : ListItem) : Decidable item.Plain :=
  decidable_of_iff
    (Name.accepts item.reference.protocol = true ∧ item.reference.resource ≠ [] ∧
      item.reference.resource.all (fun c => !endsWord c) = true ∧
      item.reference.resource.getLast?.all (fun c => !isTrailing c) = true ∧
      item.reference.resource.all (fun c => !isSeparator c) = true ∧
      item.run.all separates = true) (by
    simp only [List.all_eq_true, Option.all_eq_true, Bool.not_eq_true']
    constructor
    · rintro ⟨named, nonempty, inside, bare, solid, run⟩
      exact ⟨named, nonempty, inside, bare, solid, run⟩
    · rintro ⟨named, nonempty, inside, bare, solid, run⟩
      exact ⟨named, nonempty, inside, bare, solid, run⟩)

end ListItem

/-- The text of a list. -/
def listed (front : Text) (items : List ListItem) : Text :=
  front ++ items.flatMap ListItem.render

/-- A list has blanks and separators only around its references, and something between every two
    of them. -/
structure Listing (front : Text) (items : List ListItem) : Prop where
  front : ∀ c ∈ front, separates c = true
  plain : ∀ item ∈ items, item.Plain
  parted : ∀ item ∈ items.dropLast, item.run ≠ []

instance (front : Text) (items : List ListItem) : Decidable (Listing front items) :=
  decidable_of_iff
    (front.all separates = true ∧ (∀ item ∈ items, item.Plain) ∧
      ∀ item ∈ items.dropLast, item.run ≠ []) (by
    rw [List.all_eq_true]
    constructor
    · rintro ⟨front, plain, parted⟩
      exact ⟨front, plain, parted⟩
    · rintro ⟨front, plain, parted⟩
      exact ⟨front, plain, parted⟩)

/-- Nothing but punctuation is glued to an item, and the word of every item but the last ends before
    the next item. -/
structure Released (items : List ListItem) : Prop where
  punctuation : ∀ item ∈ items, ∀ c ∈ item.glued, isTrailing c = true
  ended : ∀ item ∈ items.dropLast, ∃ c ∈ item.run, endsWord c = true

instance (items : List ListItem) : Decidable (Released items) :=
  decidable_of_iff
    (items.all (fun item => item.glued.all isTrailing) = true ∧
      items.dropLast.all (fun item => item.run.any endsWord) = true) (by
    simp only [List.all_eq_true, List.any_eq_true]
    constructor
    · rintro ⟨punctuation, ended⟩
      exact ⟨punctuation, ended⟩
    · rintro ⟨punctuation, ended⟩
      exact ⟨punctuation, ended⟩)

/-! ## No list has prose -/

/-- A block has no prose if all that it holds in prose are characters that separate items. A
    reference is never prose, so only the pieces of the other kind have to be looked at. -/
theorem Block.hasProse_eq_false_iff {block : Block} :
    block.hasProse = false ↔ ∀ c, Piece.prose c ∈ pieces block.text → separates c = true := by
  have each : ∀ c, (Piece.prose c).isProse = !separates c := by
    intro c
    rw [separates, Bool.not_or]
    rfl
  rw [hasProse, List.any_eq_false]
  constructor
  · intro none c member
    simpa [each] using none _ member
  · intro all piece member
    cases piece with
    | reference r => exact Bool.false_ne_true
    | prose c => simpa [each] using all c member

/-- What separates items is neither a sign nor a letter or number inside of a word. So no reference
    begins there and no word goes on. -/
theorem plain_of_separates {c : Char} (separate : separates c = true) :
    c ≠ '@' ∧ (endsWord c = true ∨ Text.isAlphanumeric c = false) := by
  refine ⟨?_, ?_⟩
  · rintro rfl
    exact absurd separate (by decide)
  · rw [separates, Bool.or_eq_true] at separate
    rcases separate with blank | separator
    · left
      rw [endsWord, blank, Bool.true_or]
    · right
      have none : [',', ';', '|', '*', '-', '•', '，', '；', '、'].all
          (fun d => !Text.isAlphanumeric d) = true := by
        decide +kernel
      simpa using List.all_eq_true.mp none c (of_decide_eq_true separator)

/-- What separates items is no part of a reference that follows. Each character of it is a piece of
    its own. -/
theorem pieces_append_run {run : Text} (separate : ∀ c ∈ run, separates c = true) (rest : Text) :
    pieces (run ++ rest) = run.map .prose ++ pieces rest := by
  induction run with
  | nil => rfl
  | cons c run ih =>
    obtain ⟨first, later⟩ := List.forall_mem_cons.mp separate
    obtain ⟨signless, plain⟩ := plain_of_separates first
    rw [List.cons_append, pieces_cons_of_plain signless plain, ih later]
    rfl

/-- A reference that does not end with punctuation is written without punctuation at the end. Its
    last character is the last one of its resource. -/
theorem Reference.eq_nil_of_trailing {bare : Reference} (nonempty : bare.resource ≠ [])
    (last : ∀ c, bare.resource.getLast? = some c → isTrailing c = false) {front back : Text}
    (split : bare.render = front ++ back) (trailing : ∀ c ∈ back, isTrailing c = true) :
    back = [] := by
  have ends : back.getLast? = none := by
    rw [Option.eq_none_iff_forall_ne_some]
    intro c final
    have whole : bare.render.getLast? = bare.resource.getLast? := by
      rw [render, key, Key.render, ← List.append_assoc, List.getLast?_append,
        List.getLast?_eq_some_getLast nonempty]
      rfl
    have bareLast : bare.resource.getLast? = some c := by
      rw [← whole, split, List.getLast?_append, final]
      rfl
    have punctuation := trailing c (List.mem_of_getLast? final)
    rw [last c bareLast] at punctuation
    cases punctuation
  exact List.getLast?_eq_none_iff.mp ends

/-- All of the punctuation at the end of a reference is cut from it. What is left does not end with
    punctuation, so none of what was there can be in it. -/
theorem mem_of_cutTrailing {raw bare : Reference} {cut front back : Text}
    (same : cutTrailing raw = some (bare, cut)) (split : raw.render = front ++ back)
    (trailing : ∀ c ∈ back, isTrailing c = true) : ∀ c ∈ back, c ∈ cut := by
  intro c member
  obtain ⟨_, nonempty, resource⟩ := eq_of_cutTrailing same
  have whole := render_cutTrailing same
  rw [split, List.append_eq_append_iff] at whole
  rcases whole with ⟨between, _, rfl⟩ | ⟨kept, shape, rfl⟩
  · exact List.mem_append_right _ member
  · have last : ∀ d, bare.resource.getLast? = some d → isTrailing d = false := by
      intro d final
      rw [resource] at final
      exact Text.last_trimEnd final
    have none := Reference.eq_nil_of_trailing nonempty last shape
      (List.forall_mem_append.mp trailing).1
    rw [none] at member
    exact member

/-- The punctuation at the end of a word is prose.

    Proof: by induction on the word. Where a reference is read, it takes the whole word, and the
    punctuation is cut from it by `mem_of_cutTrailing` and comes out as prose. Where none is read,
    the first character is prose, and the rest of the word is looked at in the same way. -/
theorem prose_of_trailing {word front back : Text} (split : word = front ++ back)
    (trailing : ∀ c ∈ back, isTrailing c = true) (before : Option Char) :
    ∀ c ∈ back, Piece.prose c ∈ wordPieces before word := by
  intro c member
  induction word generalizing front back before with
  | nil =>
    rw [(List.append_eq_nil_iff.mp split.symm).2] at member
    cases member
  | cons d rest ih =>
    have within : c ∈ d :: rest := by
      rw [split]
      exact List.mem_append_right _ member
    rw [wordPieces]
    split
    · cases front with
      | cons e front =>
        cases split
        exact List.mem_cons_of_mem _ (ih rfl trailing _ member)
      | nil =>
        subst split
        rcases List.mem_cons.mp member with rfl | later
        · exact List.mem_cons_self
        · have others := (List.forall_mem_cons.mp trailing).2
          exact List.mem_cons_of_mem _ (ih (List.nil_append rest).symm others _ later)
    · rename_i raw found
      split
      · exact List.mem_map_of_mem within
      · split
        · exact List.mem_map_of_mem within
        · rename_i bare cut same
          have whole : raw.render = front ++ back := (render_of_marked? found).trans split
          apply List.mem_cons_of_mem
          exact List.mem_map_of_mem (mem_of_cutTrailing same whole trailing c member)

/-- A reference before a text takes prose from it, but brings none. It takes what the word goes on
    with, up to the punctuation at its end, and that is prose of the text as well. -/
theorem Reference.Scanned.prose_of_append {reference : Reference} (scanned : reference.Scanned)
    {text : Text} {c : Char} (member : Piece.prose c ∈ pieces (reference.render ++ text)) :
    Piece.prose c ∈ pieces text := by
  rw [scanned.pieces_append] at member
  rw [pieces_eq_wordOf]
  rcases List.mem_cons.mp member with impossible | later
  · cases impossible
  · rcases List.mem_append.mp later with cut | behind
    · obtain ⟨d, among, same⟩ := List.mem_map.mp cut
      cases same
      have split := (Text.trimEnd_append_drop isTrailing (wordOf text)).symm
      have trailing : ∀ d ∈ (wordOf text).drop (Text.trimEnd isTrailing (wordOf text)).length,
          isTrailing d = true :=
        fun d dropped => Text.of_mem_drop_trimEnd dropped
      exact List.mem_append_left _ (prose_of_trailing split trailing none _ among)
    · exact List.mem_append_right _ behind

/-- A reference that can be told from separators is one that running text can hold. -/
theorem ListItem.Plain.scanned {item : ListItem} (plain : item.Plain) : item.reference.Scanned :=
  ⟨plain.named, plain.nonempty, plain.bare, Reference.inside_render plain.named plain.inside⟩

/-- The prose of items is what separates them. By induction on the items: the reference of the first
    brings no prose, and behind it come its own separators and the other items. -/
theorem separates_of_prose {items : List ListItem} (plain : ∀ item ∈ items, item.Plain) {c : Char}
    (member : Piece.prose c ∈ pieces (items.flatMap ListItem.render)) : separates c = true := by
  induction items with
  | nil => cases member
  | cons item later ih =>
    obtain ⟨first, others⟩ := List.forall_mem_cons.mp plain
    rw [List.flatMap_cons, ListItem.render, List.append_assoc] at member
    have behind := first.scanned.prose_of_append member
    rw [pieces_append_run first.run, List.mem_append] at behind
    rcases behind with inRun | further
    · obtain ⟨d, among, same⟩ := List.mem_map.mp inRun
      cases same
      exact first.run c among
    · exact ih others further

/-! ## What is glued to an item -/

/-- There is no reference in prose. -/
theorem filterMap_prose (text : Text) : (text.map Piece.prose).filterMap Piece.reference? = [] := by
  rw [List.filterMap_map]
  exact List.filterMap_eq_nil_iff.mpr (fun _ _ => rfl)

/-- An item that is released is read as it is: its reference, what separates it, and the rest. The
    word in which the reference stands ends within the item, and what is glued to the reference
    there is cut off. -/
theorem pieces_of_released {item : ListItem} (plain : item.Plain)
    (punctuation : ∀ c ∈ item.glued, isTrailing c = true) {rest : Text}
    (ended : rest ≠ [] → ∃ c ∈ item.run, endsWord c = true) :
    pieces (item.render ++ rest) =
      .reference item.reference :: (item.run.map .prose ++ pieces rest) := by
  have word : wordOf (item.run ++ rest) = item.glued ∧
      behindWord (item.run ++ rest) = behindWord item.run ++ rest := by
    by_cases last : rest = []
    · rw [last, List.append_nil, List.append_nil]
      exact ⟨rfl, rfl⟩
    · exact wordOf_append_of_ended (ended last) rest
  have nothing : item.reference.extend (Text.trimEnd isTrailing item.glued) = item.reference := by
    rw [Text.trimEnd_of_all punctuation, Reference.extend, List.append_nil]
  have further : ∀ c ∈ behindWord item.run, separates c = true :=
    fun c member => plain.run c ((List.dropWhile_sublist _).mem member)
  rw [ListItem.render, List.append_assoc, plain.scanned.pieces_append, word.1, word.2, nothing,
    Text.trimEnd_of_all punctuation, pieces_append_run further, List.length_nil, List.drop_zero]
  rw [← List.append_assoc, ← List.map_append, ListItem.glued, wordOf_append_behindWord]

/-- The first of released items, and the others. The first has nothing but punctuation glued to it,
    and its word ends before the next item if there is one. -/
theorem Released.of_cons {item : ListItem} {later : List ListItem}
    (released : Released (item :: later)) :
    (∀ c ∈ item.glued, isTrailing c = true) ∧
      (later ≠ [] → ∃ c ∈ item.run, endsWord c = true) ∧ Released later := by
  obtain ⟨here, further⟩ := List.forall_mem_cons.mp released.punctuation
  refine ⟨here, ?_, further, ?_⟩
  · intro followed
    apply released.ended
    rw [List.dropLast_cons_of_ne_nil followed]
    exact List.mem_cons_self
  · intro other among
    have followed : later ≠ [] := List.ne_nil_of_mem ((List.dropLast_sublist later).mem among)
    apply released.ended
    rw [List.dropLast_cons_of_ne_nil followed]
    exact List.mem_cons_of_mem _ among

/-- The references of released items are read as they are listed, by induction on the items. Each is
    read as `pieces_of_released` says, and its separators have no references. -/
theorem references_of_released {items : List ListItem} (plain : ∀ item ∈ items, item.Plain)
    (released : Released items) :
    references (items.flatMap ListItem.render) = items.map ListItem.reference := by
  induction items with
  | nil => rfl
  | cons item later ih =>
    obtain ⟨here, others⟩ := List.forall_mem_cons.mp plain
    obtain ⟨punctuation, ended, further⟩ := released.of_cons
    have followed : later.flatMap ListItem.render ≠ [] → ∃ c ∈ item.run, endsWord c = true := by
      intro more
      apply ended
      rintro rfl
      exact more rfl
    have found : (Piece.reference item.reference).reference? = some item.reference := rfl
    have read := ih others further
    rw [references] at read ⊢
    rw [List.flatMap_cons, pieces_of_released here punctuation followed,
      List.filterMap_cons_some found, List.filterMap_append, filterMap_prose, read,
      List.nil_append, List.map_cons]

/-- Some reference of a text has a separator in its resource. -/
def Joined (text : Text) : Prop :=
  ∃ reference, Piece.reference reference ∈ pieces text ∧ ∃ c ∈ reference.resource, joins c = true

/-- A separator that may stand in a resource is one of the separators, and it is no punctuation. -/
theorem isSeparator_of_joins {c : Char} (binding : joins c = true) :
    isSeparator c = true ∧ isTrailing c = false := by
  have known : ['|', '*', '-', '•'].all (fun d => isSeparator d && !isTrailing d) = true := by
    decide
  simpa using List.all_eq_true.mp known c (of_decide_eq_true binding)

/-- If one is glued to a reference, it goes into the resource. It is no punctuation, so it is not
    cut off at the end of the word. -/
theorem joined_of_glued {reference : Reference} (scanned : reference.Scanned) {text : Text}
    {c : Char} (member : c ∈ wordOf text) (binding : joins c = true) :
    Joined (reference.render ++ text) := by
  refine ⟨reference.extend (Text.trimEnd isTrailing (wordOf text)), ?_, c, ?_, binding⟩
  · rw [scanned.pieces_append]
    exact List.mem_cons_self
  · exact List.mem_append_right _ (Text.mem_trimEnd member (isSeparator_of_joins binding).2)

/-- What stands before a text does not take it out again. If the reference that was found stands in
    the word that goes on behind the item, the separator goes into the reference of the item;
    otherwise the reference stays what it is. -/
theorem Joined.append {item : ListItem} (plain : item.Plain) {text : Text} (joined : Joined text) :
    Joined (item.render ++ text) := by
  obtain ⟨reference, found, c, member, binding⟩ := joined
  have behindRun : Joined (item.run ++ text) := by
    refine ⟨reference, ?_, c, member, binding⟩
    rw [pieces_append_run plain.run]
    exact List.mem_append_right _ found
  obtain ⟨reference, found, c, member, binding⟩ := behindRun
  rw [ListItem.render, List.append_assoc]
  rw [pieces_eq_wordOf, List.mem_append] at found
  rcases found with inWord | behind
  · have within : c ∈ wordOf (item.run ++ text) := by
      rw [← render_wordPieces none (wordOf (item.run ++ text))]
      exact List.mem_flatMap.mpr ⟨_, inWord, Reference.mem_render member⟩
    exact joined_of_glued plain.scanned within binding
  · refine ⟨reference, ?_, c, member, binding⟩
    rw [plain.scanned.pieces_append]
    exact List.mem_cons_of_mem _ (List.mem_append_right _ behind)

/-- A list in which such a separator is glued to an item has a reference with a separator in its
    resource. By induction on the items in front of it. -/
theorem joined_of_mem {items : List ListItem} (plain : ∀ item ∈ items, item.Plain)
    {item : ListItem} (among : item ∈ items) {c : Char} (member : c ∈ item.glued)
    (binding : joins c = true) : Joined (items.flatMap ListItem.render) := by
  induction items with
  | nil => cases among
  | cons first later ih =>
    obtain ⟨here, others⟩ := List.forall_mem_cons.mp plain
    rw [List.flatMap_cons]
    rcases List.mem_cons.mp among with rfl | further
    · rw [ListItem.render, List.append_assoc]
      exact joined_of_glued here.scanned (mem_wordOf_append member _) binding
    · exact (ih others further).append here

/-- What a list is read as. It never has prose. If its items are released, its references are the
    items in their order. If a bar, a star, a hyphen or a bullet is glued to an item, some reference
    has one in its resource, and is not among the items.

    Proof: the separators in front have no references and take part in no word, so the references
    and the prose are those of the items. Of these `separates_of_prose`, `references_of_released`
    and `joined_of_mem` speak. The resource of an item has no such separator inside, so the
    reference that has one is none of the items. -/
theorem listing_read {front : Text} {items : List ListItem} (listing : Listing front items)
    (tag : Tag) :
    (Block.mk tag (listed front items)).hasProse = false ∧
    (Released items →
      (Block.mk tag (listed front items)).tokens.map Token.reference =
        items.map ListItem.reference) ∧
    ((∃ item ∈ items, ∃ c ∈ item.glued, joins c = true) →
      ∃ reference ∈ (Block.mk tag (listed front items)).tokens.map Token.reference,
        (∃ c ∈ reference.resource, joins c = true) ∧ reference ∉ items.map ListItem.reference) := by
  have parts : pieces (listed front items) =
      front.map .prose ++ pieces (items.flatMap ListItem.render) :=
    pieces_append_run listing.front _
  have found : references (listed front items) = references (items.flatMap ListItem.render) := by
    rw [references, parts, List.filterMap_append, filterMap_prose, List.nil_append, references]
  simp only [Block.tokens, ← references_eq_map_tokens, found]
  refine ⟨?_, references_of_released listing.plain, ?_⟩
  · apply Block.hasProse_eq_false_iff.mpr
    intro c member
    rw [parts, List.mem_append] at member
    rcases member with inFront | behind
    · obtain ⟨d, among, same⟩ := List.mem_map.mp inFront
      cases same
      exact listing.front c among
    · exact separates_of_prose listing.plain behind
  · rintro ⟨item, among, c, member, binding⟩
    obtain ⟨reference, read, inner⟩ := joined_of_mem listing.plain among member binding
    refine ⟨reference, List.mem_filterMap.mpr ⟨_, read, rfl⟩, inner, ?_⟩
    intro itemThere
    obtain ⟨other, present, rfl⟩ := List.mem_map.mp itemThere
    obtain ⟨d, within, separator⟩ := inner
    have solid := (listing.plain other present).solid d within
    rw [(isSeparator_of_joins separator).1] at solid
    cases solid

/-- A list with an item on each line, and others behind a bar and before a comma. -/
def tidyList : List ListItem :=
  [⟨⟨.standard, "thought".toList, "calm".toList⟩, "，\n- ".toList⟩,
   ⟨⟨.eager, "execution".toList, "review".toList⟩, " | ".toList⟩,
   ⟨⟨.lazy, "knowledge".toList, "style".toList⟩, "、".toList⟩]

/-- It is read as it is listed. The comma that is glued to the first item is punctuation and is cut
    off. -/
theorem tidy_list_read :
    Listing "- ".toList tidyList ∧ Released tidyList ∧
      (Block.mk .principle (listed "- ".toList tidyList)).hasProse = false ∧
      (Block.mk .principle (listed "- ".toList tidyList)).tokens.map Token.reference =
        tidyList.map ListItem.reference := by
  have listing : Listing "- ".toList tidyList := by
    decide
  have released : Released tidyList := by
    decide
  obtain ⟨prose, read, _⟩ := listing_read listing .principle
  exact ⟨listing, released, prose, read released⟩

/-- Two items with nothing but a bar between them. -/
def barredList : List ListItem :=
  [⟨⟨.standard, "thought".toList, "a".toList⟩, ['|']⟩,
   ⟨⟨.standard, "thought".toList, "b".toList⟩, []⟩]

/-- They are read as one reference, whose resource has the bar and the second reference in it. -/
theorem barred_list_misread :
    Listing [] barredList ∧
      (Block.mk .principle (listed [] barredList)).tokens.map Token.reference =
        [⟨.standard, "thought".toList, "a|@thought://b".toList⟩] ∧
      (Block.mk .principle (listed [] barredList)).tokens.map Token.reference ≠
        barredList.map ListItem.reference := by
  decide

end RoleWeave
