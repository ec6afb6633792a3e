import RoleWeave.Proofs.Markup.Elements
import RoleWeave.Proofs.Reference.Words

/-!
# The places of references in blocks

A document is scanned in two ways: as a whole, and block by block. Both find the same references.
The brackets of the marks around the content of an element end words, so no reference reaches across
the beginning or the end of a content (`apart_of_element`), and a content is scanned in the whole
text as it is by itself. In a block the contents of several elements follow each other, with an
empty line between them, which ends words too.

An element inside another of the same tag has its content in the block twice, and so its references.
-/

namespace RoleWeave

/-! ## References in a part of a text -/

/-- The references of a text that lie between two of its bytes. -/
def tokensBetween (text : Text) (start stop : Nat) : List Token :=
  (tokens text).filter (fun token => decide (start ≤ token.start) && decide (token.stop ≤ stop))

/-- A reference reaches across a byte position if it begins before it and ends behind it. -/
def Token.Straddles (token : Token) (position : Nat) : Prop :=
  token.start < position ∧ position < token.stop

/-- Where no word goes on, no reference reaches across. The references of both parts are found
    apart, and each lies in its own part. -/
theorem not_straddles {first second : Text} (apart : Apart first second) :
    ∀ token ∈ tokens (first ++ second), ¬ token.Straddles (Text.byteSize first) := by
  intro token member
  rw [tokens_append apart, List.mem_append] at member
  simp only [Token.Straddles]
  rcases member with inFirst | inSecond
  · have within := (exact_of_mem_tokens inFirst).inside
    omega
  · obtain ⟨origin, _, rfl⟩ := List.mem_map.mp inSecond
    simp only [Token.shift]
    omega

/-- The references that lie in a part of a text are those of the part, if words end at its beginning
    and at its end.

    Proof: the text has the references of what is before the part, of the part, and of what is
    behind it, each moved to its place. Those before end at the latest where the part begins, and
    none is empty, so none of them lies in the part. Those of the part all lie in it. Those behind
    begin where it ends. -/
theorem tokensBetween_eq {before part after : Text} (opens : Apart before (part ++ after))
    (closes : Apart part after) :
    tokensBetween (before ++ (part ++ after)) (Text.byteSize before)
        (Text.byteSize before + Text.byteSize part) =
      (tokens part).map (Token.shift (Text.byteSize before)) := by
  rw [tokensBetween, tokens_append opens, tokens_append closes, List.map_append, List.filter_append,
    List.filter_append]
  have none : (tokens before).filter (fun token => decide (Text.byteSize before ≤ token.start) &&
      decide (token.stop ≤ Text.byteSize before + Text.byteSize part)) = [] := by
    rw [List.filter_eq_nil_iff]
    intro token member
    have exact := exact_of_mem_tokens member
    have begun := exact.nonempty
    have ended := exact.inside
    simp
    omega
  have all : ((tokens part).map (Token.shift (Text.byteSize before))).filter
      (fun token => decide (Text.byteSize before ≤ token.start) &&
        decide (token.stop ≤ Text.byteSize before + Text.byteSize part)) =
      (tokens part).map (Token.shift (Text.byteSize before)) := by
    rw [List.filter_eq_self]
    intro token member
    obtain ⟨origin, among, rfl⟩ := List.mem_map.mp member
    have ended := (exact_of_mem_tokens among).inside
    simp [Token.shift, ended]
  have behind : (((tokens after).map (Token.shift (Text.byteSize part))).map
      (Token.shift (Text.byteSize before))).filter
        (fun token => decide (Text.byteSize before ≤ token.start) &&
          decide (token.stop ≤ Text.byteSize before + Text.byteSize part)) = [] := by
    rw [List.filter_eq_nil_iff]
    intro token member
    obtain ⟨moved, among, rfl⟩ := List.mem_map.mp member
    obtain ⟨origin, inAfter, rfl⟩ := List.mem_map.mp among
    have begun := (exact_of_mem_tokens inAfter).nonempty
    simp [Token.shift]
    omega
  rw [none, all, behind, List.nil_append, List.append_nil]

/-! ## The content of an element -/

/-- A text up to a position goes on to a later one with what lies between them. -/
theorem Text.take_append_slice (text : Text) {start stop : Nat} (ordered : start ≤ stop) :
    text.take start ++ slice text start stop = text.take stop := by
  obtain ⟨length, rfl⟩ := Nat.exists_eq_add_of_le ordered
  rw [slice, Nat.add_sub_cancel_left, ← List.take_add]

/-- What lies between two positions, and what is behind the second, is all that is behind the
    first. -/
theorem Text.slice_append_drop (text : Text) {start stop : Nat} (ordered : start ≤ stop) :
    slice text start stop ++ text.drop stop = text.drop start := by
  have whole : text.take start ++ (slice text start stop ++ text.drop stop) =
      text.take start ++ text.drop start := by
    rw [← List.append_assoc, take_append_slice text ordered, List.take_append_drop,
      List.take_append_drop]
  exact List.append_cancel_left whole

/-- What lies between two positions lies before and behind a position between them. Both sides
    become the same text when what is behind the last position is put to them. -/
theorem Text.slice_append_slice (text : Text) {start middle stop : Nat} (first : start ≤ middle)
    (second : middle ≤ stop) :
    slice text start middle ++ slice text middle stop = slice text start stop := by
  have whole : (slice text start middle ++ slice text middle stop) ++ text.drop stop =
      slice text start stop ++ text.drop stop := by
    rw [List.append_assoc, slice_append_drop text second, slice_append_drop text first,
      slice_append_drop text (first.trans second)]
  exact List.append_cancel_right whole

/-- Behind a mark nothing goes on of a word before it. The mark ends with a bracket, and a bracket
    ends words. -/
theorem apart_of_stop {raw : Text} {mark : Mark} (member : mark ∈ marks raw) :
    Apart (raw.take mark.stop) (raw.drop mark.stop) := by
  obtain ⟨front, covered, later, rfl, begun, ended⟩ := marksFrom_written member
  have length : mark.stop = ((front ++ '<' :: covered) ++ ['>']).length := by
    simp
    omega
  have whole : front ++ '<' :: (covered ++ '>' :: later) =
      ((front ++ '<' :: covered) ++ ['>']) ++ later := by
    simp
  intro c d last _
  rw [whole, length, List.take_left, List.getLast?_append, List.getLast?_singleton] at last
  cases last
  exact .inl (by decide)

/-- Before a mark no word goes on into it. The mark begins with a bracket, and a bracket ends a
    word. -/
theorem apart_of_start {raw : Text} {mark : Mark} (member : mark ∈ marks raw) :
    Apart (raw.take mark.start) (raw.drop mark.start) := by
  obtain ⟨front, covered, later, rfl, begun, _⟩ := marksFrom_written member
  rw [Nat.zero_add] at begun
  intro c d _ head
  rw [begun, List.drop_left, List.head?_cons, Option.some.injEq] at head
  subst head
  exact .inr (by decide)

namespace Document

variable {raw : Text} {document : Document}

/-- The elements of a document with a known tag. -/
def tagged (document : Document) (tag : Tag) : List Element :=
  document.elements.filter (fun element => Tag.ofName? element.name == some tag)

/-- The block of a tag is made of the contents of the elements with this tag, if there are any. The
    contents are read off the text that was parsed. -/
theorem block?_of_parse (parses : parse raw = .ok document) (tag : Tag) :
    document.block? tag =
      if document.tagged tag = [] then none
      else some ⟨tag,
        Text.join blankLine ((document.tagged tag).map (fun element => element.content raw))⟩ := by
  obtain ⟨_, _, describes⟩ := described parses
  rw [block?, contents, ← tagged, describes.text]
  cases document.tagged tag <;> rfl

/-- The text of a block is made up of the contents of the elements with its tag, with an empty line
    between two of them. -/
theorem text_of_block (parses : parse raw = .ok document) {tag : Tag} {block : Block}
    (found : document.block? tag = some block) :
    block.text =
      Text.join blankLine ((document.tagged tag).map (fun element => element.content raw)) := by
  rw [block?_of_parse parses] at found
  split at found
  · cases found
  · cases found
    rfl

/-- No word of a document goes on at the beginning or at the end of the content of an element. The
    content begins behind a mark and ends before one; that of a mark that closes itself is at its
    end. -/
theorem apart_of_element (parses : parse raw = .ok document) {element : Element}
    (member : element ∈ document.elements) :
    Apart (raw.take element.start) (raw.drop element.start) ∧
      Apart (raw.take element.stop) (raw.drop element.stop) := by
  obtain ⟨pairs, nested, describes⟩ := described parses
  rcases List.mem_append.mp (describes.elements.mem_iff.mp member) with paired | lone
  · obtain ⟨pair, among, rfl⟩ := List.mem_map.mp paired
    obtain ⟨opening, closing⟩ := nested.mem_marks among
    exact ⟨apart_of_stop opening, apart_of_start closing⟩
  · obtain ⟨mark, among, rfl⟩ := List.mem_map.mp lone
    have apart := apart_of_stop (mem_singles.mp among).1
    exact ⟨apart, apart⟩

/-- A text is made up of what is before the content of an element, the content, and what is behind
    it. Up to the end of the content it is the first two of these. -/
theorem raw_eq_of_element (parses : parse raw = .ok document) {element : Element}
    (member : element ∈ document.elements) :
    raw = raw.take element.start ++ (element.content raw ++ raw.drop element.stop) ∧
      raw.take element.stop = raw.take element.start ++ element.content raw := by
  obtain ⟨_, _, describes⟩ := described parses
  obtain ⟨ordered, _⟩ := describes.valid element member
  have upTo : raw.take element.stop = raw.take element.start ++ element.content raw :=
    (Text.take_append_slice raw ordered).symm
  refine ⟨?_, upTo⟩
  rw [← List.append_assoc, ← upTo, List.take_append_drop]

/-- The references of a text that lie in the content of an element are those of the content. They
    lie as far behind its beginning as they do in the content by itself. -/
theorem tokensBetween_of_element (parses : parse raw = .ok document) {element : Element}
    (member : element ∈ document.elements) :
    tokensBetween raw (Text.byteOffset raw element.start) (Text.byteOffset raw element.stop) =
      (RoleWeave.tokens (element.content raw)).map
        (Token.shift (Text.byteOffset raw element.start)) := by
  obtain ⟨whole, upTo⟩ := raw_eq_of_element parses member
  obtain ⟨opens, closes⟩ := apart_of_element parses member
  have ends : Text.byteOffset raw element.stop =
      Text.byteSize (raw.take element.start) + Text.byteSize (element.content raw) := by
    rw [Text.byteOffset, upTo, Text.byteSize_append]
  obtain ⟨_, _, describes⟩ := described parses
  have rest : element.content raw ++ raw.drop element.stop = raw.drop element.start :=
    Text.slice_append_drop raw (describes.valid element member).1
  rw [← rest] at opens
  rw [upTo] at closes
  have between := tokensBetween_eq opens closes.of_append
  rwa [← whole, ← ends, ← Text.byteOffset] at between

end Document

/-! ## Contents one behind the other -/

/-- A reference that lay behind byte `origin`, as far behind byte `target`. -/
def Token.move (origin target : Nat) (token : Token) : Token :=
  ⟨token.reference, target + (token.start - origin), target + (token.stop - origin)⟩

/-- The references of a text that lie in the contents of elements, element by element, as they lie
    if the contents follow each other from byte `offset` on, an empty line apart. -/
def mergedTokens (raw : Text) : (offset : Nat) → List Element → List Token
  | _, [] => []
  | offset, element :: later =>
      (tokensBetween raw (Text.byteOffset raw element.start)
          (Text.byteOffset raw element.stop)).map
        (Token.move (Text.byteOffset raw element.start) offset) ++
      mergedTokens raw
        (offset + Text.byteSize (element.content raw) + Text.byteSize Document.blankLine) later

/-- An empty line between two texts keeps their references apart. It ends the words of the first,
    begins no word of the second, and has no reference itself. -/
theorem tokens_blankLine_append (first second : Text) :
    tokens (first ++ (Document.blankLine ++ second)) =
      tokens first ++ (tokens second).map
        (Token.shift (Text.byteSize first + Text.byteSize Document.blankLine)) := by
  have before : Apart first (Document.blankLine ++ second) := by
    intro c d _ head
    cases head
    exact .inr (by decide)
  have behind : Apart Document.blankLine second := by
    intro c d last _
    cases last
    exact .inl (by decide)
  have silent : tokens Document.blankLine = [] := by decide
  rw [tokens_append before, tokens_append behind, silent, List.nil_append, List.map_map]
  congr 2
  funext token
  simp [Token.shift, Nat.add_assoc]

/-- Joined parts are the first one and the others, with the separator between them. -/
theorem Text.join_cons_cons (separator first next : Text) (others : List Text) :
    join separator (first :: next :: others) =
      first ++ (separator ++ join separator (next :: others)) := by
  simp [join]

/-- A reference that is moved from the content of an element lies in the block as it lies in the
    content. -/
theorem move_shift (origin target : Nat) (token : Token) :
    (token.shift origin).move origin target = token.shift target := by
  simp [Token.move, Token.shift]

namespace Document

variable {raw : Text} {document : Document}

/-- The references of joined contents are those that lie in the contents. By induction on the
    elements, where the others begin behind the content of the first and an empty line. -/
theorem tokens_join (parses : parse raw = .ok document) {elements : List Element}
    (among : ∀ element ∈ elements, element ∈ document.elements) (offset : Nat) :
    (RoleWeave.tokens (Text.join blankLine
        (elements.map (fun element => element.content raw)))).map (Token.shift offset) =
      mergedTokens raw offset elements := by
  induction elements generalizing offset with
  | nil => rfl
  | cons element later ih =>
    obtain ⟨here, further⟩ := List.forall_mem_cons.mp among
    have own : (tokensBetween raw (Text.byteOffset raw element.start)
        (Text.byteOffset raw element.stop)).map
          (Token.move (Text.byteOffset raw element.start) offset) =
        (RoleWeave.tokens (element.content raw)).map (Token.shift offset) := by
      rw [tokensBetween_of_element parses here, List.map_map]
      exact List.map_congr_left fun token _ => move_shift _ _ token
    rw [mergedTokens, own]
    cases later with
    | nil => simp [Text.join, mergedTokens]
    | cons next others =>
      rw [List.map_cons, List.map_cons, Text.join_cons_cons, tokens_blankLine_append,
        List.map_append, List.map_map, ← ih further]
      congr 2
      funext token
      simp [Token.shift, Nat.add_assoc]

end Document

/-- The blocks of a document and the document as a whole have the same references. Elements come in
    the order in which they are opened, and no reference of the text reaches across the beginning or
    the end of the content of one. The references of a block are, element by element, those of the
    text that lie in the content of the element, as far behind the beginning of the content in the
    block as they are in the text.

    Proof: words end at both ends of each content by `apart_of_element`. So no reference reaches
    across, and `tokens_join` finds the references of the joined contents in the text. -/
theorem blocks_and_text_agree {raw : Text} {document : Document}
    (parses : Document.parse raw = .ok document) :
    document.elements.Pairwise (fun first second => first.start < second.start) ∧
    (∀ element ∈ document.elements, ∀ token ∈ tokens raw,
      ¬ token.Straddles (Text.byteOffset raw element.start) ∧
        ¬ token.Straddles (Text.byteOffset raw element.stop)) ∧
    ∀ tag block, document.block? tag = some block →
      block.text = Text.join Document.blankLine
          ((document.tagged tag).map (fun element => element.content raw)) ∧
        block.tokens = mergedTokens raw 0 (document.tagged tag) := by
  obtain ⟨_, _, describes⟩ := Document.described parses
  refine ⟨describes.ordered, ?_, ?_⟩
  · intro element member token placed
    obtain ⟨opens, closes⟩ := Document.apart_of_element parses member
    constructor
    · apply not_straddles opens
      rwa [List.take_append_drop]
    · apply not_straddles closes
      rwa [List.take_append_drop]
  · intro tag block found
    have text := Document.text_of_block parses found
    refine ⟨text, ?_⟩
    have among : ∀ element ∈ document.tagged tag, element ∈ document.elements :=
      fun element member => List.mem_of_mem_filter member
    have unmoved : Token.shift 0 = id := by
      funext token
      simp [Token.shift]
    have merged := Document.tokens_join parses among 0
    rwa [← text, unmoved, List.map_id] at merged

/-- A text with an element inside another of the same tag, and a reference outside of both. -/
def nestedRules : Text :=
  "<rule>@a://b <rule>@?c://d.</rule></rule> @e://f".toList

/-- The reference in the inner element is in the block twice, and the one outside is not in it. The
    full stop behind it belongs to neither. -/
theorem nested_rules_agree :
    ∃ document block, Document.parse nestedRules = .ok document ∧
      document.block? .rule = some block ∧
      block.tokens = mergedTokens nestedRules 0 (document.tagged .rule) ∧
      block.tokens =
        [⟨Reference.plain "a".toList "b".toList, 0, 6⟩,
          ⟨⟨.lazy, "c".toList, "d".toList⟩, 13, 20⟩,
          ⟨⟨.lazy, "c".toList, "d".toList⟩, 30, 37⟩] := by
  have parses : Document.parse nestedRules =
      .ok ⟨nestedRules, [⟨"rule".toList, 6, 34⟩, ⟨"rule".toList, 19, 27⟩]⟩ := by decide +kernel
  obtain ⟨_, _, agree⟩ := blocks_and_text_agree parses
  refine ⟨_, ⟨.rule, "@a://b <rule>@?c://d.</rule>\n\n@?c://d.".toList⟩, parses, by decide +kernel,
    (agree .rule _ (by decide +kernel)).2, by decide +kernel⟩

end RoleWeave
