import RoleWeave.Proofs.Composition.Accounting
import RoleWeave.Proofs.Composition.Concatenation
import RoleWeave.Proofs.Markup.Origins

/-!
# Foreign elements in texts that are composed

A document lists its foreign elements with their contents, and composition does not touch this list.
It does not look at it either. The text of a block, and that of a document which is loaded for a
reference, still holds the foreign elements, and composition goes along with the text alone: a
foreign element is composed in its place, by itself, from the pass that the text before it has left
(`foreign_composed_in_place`).

So a foreign element stays as it is written exactly where it refers to nothing, or only points at
resources. Any other reference in it is come to like one outside, and leaves its trace in the pass.
-/

namespace RoleWeave

/-! ## Texts around the content of an element -/

/-- Where no word goes on, none does if the text before is changed far from there, and the text
    behind after its beginning or where a word ends. Only the characters at the place itself
    matter. -/
theorem Apart.around {before near first after : Text}
    (apart : Apart (before ++ near) (first ++ after)) (nonempty : near ≠ []) {back : Text}
    (ends : ∀ c, back.head? = some c → endsWord c = true) (front : Text) :
    Apart (front ++ near) (first ++ back) := by
  intro c d last head
  have sameLast : (before ++ near).getLast? = some c := by
    rw [List.getLast?_append_of_ne_nil _ nonempty] at last ⊢
    exact last
  cases first with
  | nil => exact .inr (ends d head)
  | cons e rest => exact apart c d sameLast head

/-- A part of joined texts has nothing behind it, or an empty line. By induction on the parts, where
    what is before the part grows. -/
theorem Text.join_around {parts : List Text} {part : Text} (member : part ∈ parts) :
    ∃ front back, join Document.blankLine parts = front ++ (part ++ back) ∧
      ∀ c, back.head? = some c → c = '\n' := by
  induction parts with
  | nil => cases member
  | cons first later ih =>
    cases later with
    | nil =>
      rw [List.mem_singleton] at member
      exact ⟨[], [], by simp [join, member], by simp⟩
    | cons next others =>
      rw [join_cons_cons]
      rcases List.mem_cons.mp member with rfl | behind
      · refine ⟨[], _, rfl, ?_⟩
        intro c head
        cases head
        rfl
      · obtain ⟨front, back, whole, ends⟩ := ih behind
        exact ⟨first ++ (Document.blankLine ++ front), back, by simp [whole], ends⟩

/-- A text is read as three parts, one behind the other. -/
structure InParts (text before content after : Text) : Prop where
  whole : text = before ++ (content ++ after)
  read : pieces text = pieces before ++ (pieces content ++ pieces after)

/-- A text is read in three parts if no word goes on from one into another. -/
theorem inParts_of_apart {before content after : Text} (opens : Apart before (content ++ after))
    (closes : Apart content after) : InParts (before ++ (content ++ after)) before content after :=
  ⟨rfl, by rw [pieces_append opens, pieces_append closes]⟩

namespace Document

variable {raw : Text} {document : Document} {element outer : Element}

/-- A document is read as what is before an element, its content, and what is behind it. No word
    goes on at either end of the content. -/
theorem inParts_of_element (parses : parse raw = .ok document)
    (member : element ∈ document.elements) :
    InParts raw (raw.take element.start) (element.content raw) (raw.drop element.stop) := by
  obtain ⟨whole, upTo⟩ := raw_eq_of_element parses member
  obtain ⟨opens, closes⟩ := apart_of_element parses member
  obtain ⟨_, _, describes⟩ := described parses
  have rest : element.content raw ++ raw.drop element.stop = raw.drop element.start :=
    Text.slice_append_drop raw (describes.valid element member).1
  rw [← rest] at opens
  rw [upTo] at closes
  have parts := inParts_of_apart opens closes.of_append
  rwa [← whole] at parts

/-- The content of an element around another one is what is before the content of the inner element,
    this content, and what is behind it. No word goes on at either end of the inner content, since
    none does there in the whole document. -/
theorem content_around (parses : parse raw = .ok document) (member : element ∈ document.elements)
    (inside : element.Inside outer) :
    outer.content raw = Text.slice raw outer.start element.start ++
        (element.content raw ++ Text.slice raw element.stop outer.stop) ∧
      Apart (raw.take outer.start ++ Text.slice raw outer.start element.start)
        ((element.content raw ++ Text.slice raw element.stop outer.stop) ++ raw.drop outer.stop) ∧
      Apart (raw.take outer.start ++
          (Text.slice raw outer.start element.start ++ element.content raw))
        (Text.slice raw element.stop outer.stop ++ raw.drop outer.stop) := by
  obtain ⟨begins, ends⟩ := inside
  obtain ⟨_, _, describes⟩ := described parses
  obtain ⟨ordered, _⟩ := describes.valid element member
  obtain ⟨opens, closes⟩ := apart_of_element parses member
  refine ⟨?_, ?_, ?_⟩
  · rw [Element.content, Element.content, Text.slice_append_slice raw ordered ends,
      Text.slice_append_slice raw begins.le (ordered.trans ends)]
  · rw [Text.take_append_slice raw begins.le, List.append_assoc, Text.slice_append_drop raw ends,
      Element.content, Text.slice_append_drop raw ordered]
    exact opens
  · rw [← List.append_assoc, Text.take_append_slice raw begins.le, Element.content,
      Text.take_append_slice raw ordered, Text.slice_append_drop raw ends]
    exact closes

/-- A block is read as what is before an element in one of the contents that it is made of, the
    content of that element, and what is behind it.

    Proof: the content around the element stands in the block with something before it and, behind
    it, nothing or an empty line. No word of the document goes on at the ends of the inner content.
    That holds in the block too: before the inner content there is at least the mark that opens it,
    and what is behind it goes on as in the document or ends the word. -/
theorem inParts_of_block (parses : parse raw = .ok document) (member : element ∈ document.elements)
    {tag : Tag} {block : Block} (found : document.block? tag = some block)
    (holds : outer ∈ document.tagged tag) (inside : element.Inside outer) :
    ∃ front back, InParts block.text (front ++ Text.slice raw outer.start element.start)
      (element.content raw) (Text.slice raw element.stop outer.stop ++ back) := by
  obtain ⟨cut, opens, closes⟩ := content_around parses member inside
  have among : outer.content raw ∈
      (document.tagged tag).map (fun element => element.content raw) := List.mem_map_of_mem holds
  obtain ⟨front, back, whole, ended⟩ := Text.join_around among
  have gap : ∀ c, back.head? = some c → endsWord c = true := by
    intro c head
    rw [ended c head]
    decide
  have near : Text.slice raw outer.start element.start ≠ [] := by
    obtain ⟨_, _, describes⟩ := described parses
    obtain ⟨_, within⟩ := describes.valid element member
    obtain ⟨begins, _⟩ := inside
    rw [Text.slice, ← List.length_pos_iff, List.length_take, List.length_drop]
    omega
  have opensBlock := opens.around near gap front
  have closesBlock := closes.around (by simp [near]) gap front
  rw [List.append_assoc] at opensBlock
  rw [← List.append_assoc] at closesBlock
  have text : block.text = front ++ Text.slice raw outer.start element.start ++
      (element.content raw ++ (Text.slice raw element.stop outer.stop ++ back)) := by
    rw [text_of_block parses found, whole, cut]
    simp only [List.append_assoc]
  refine ⟨front, back, ?_⟩
  rw [text]
  exact inParts_of_apart opensBlock closesBlock.of_append

end Document

namespace Composition

variable {σ : Type}

/-! ## Traces in the pass -/

/-- Calls leave a trace in the pass: something is met that had not been met before, or left out. The
    first call alone does one of the two. -/
theorem Accounted.ne_of_calls {start final : Pass} {calls : List Call}
    (account : Accounted start final calls) (made : calls ≠ []) : final ≠ start := by
  rintro rfl
  obtain ⟨call, later, rfl⟩ := List.exists_cons_of_ne_nil made
  cases met : call.met with
  | true =>
    have suppressed := congrArg List.length account.suppressed
    simp [met] at suppressed
  | false =>
    have emits : call.emits = true := by rw [account.exact call List.mem_cons_self, met]; rfl
    have fresh := account.fresh call List.mem_cons_self emits
    rw [account.known call List.mem_cons_self] at fresh
    cases fresh

/-- Inlining a reference makes a call, at any depth and whatever it comes to. It is the first of the
    calls that are made while the reference is inlined. -/
theorem callsWithin_ne_nil (provider : Provider σ) (limit allowance : Nat) (reference : Reference)
    (weaving : Weaving σ) : callsWithin provider limit allowance reference weaving ≠ [] := by
  cases allowance with
  | zero => simp [callsWithin]
  | succ allowance =>
    rw [callsWithin]
    split
    · simp
    · split <;> simp

/-- Composing pieces makes calls if there is a reference to be inlined. Pieces without one are
    passed over until the first is reached. -/
theorem weaveCalls_ne_nil {inline : Reference → Step (Weaving σ) Inline}
    {calls : Reference → Weaving σ → List Call}
    (made : ∀ reference weaving, calls reference weaving ≠ []) {parts : List Piece}
    (refers : inlinedAmong parts ≠ []) (weaving : Weaving σ) :
    weaveCalls inline calls parts weaving ≠ [] := by
  induction parts with
  | nil => exact absurd rfl refers
  | cons piece later ih =>
    cases piece with
    | prose c => exact ih refers
    | reference reference =>
      by_cases inlines : reference.loading.inlines = true
      · simp [weaveCalls, inlines, made]
      · have same : inlinedAmong (.reference reference :: later) = inlinedAmong later := by
          simp [inlinedAmong, Piece.reference?, inlines]
        rw [weaveCalls, if_neg inlines]
        exact ih (same ▸ refers)

/-- Composing a text with a reference to be inlined leaves a trace in the pass. Its resource is met
    by the call, or the call leaves it out because it was met before. -/
theorem pass_ne_of_inlined {provider : Provider σ} {limit : Nat} {text : Text}
    (refers : inlined text ≠ []) (allowance : Nat) (weaving : Weaving σ) :
    ((weave (inlineWithin provider limit allowance) (pieces text)).run weaving).2.pass ≠
      weaving.pass := by
  have run := run_weave (run_within provider limit allowance) (pieces text) weaving
  exact run.accounted.ne_of_calls
    (weaveCalls_ne_nil (callsWithin_ne_nil provider limit allowance) refers weaving)

/-! ## Composition in parts -/

/-- Compose three texts one after the other. -/
def weaveParts (inline : Reference → Step (Weaving σ) Inline) (before content after : Text) :
    Step (Weaving σ) Text := do
  let front ← weave inline (pieces before)
  let inner ← weave inline (pieces content)
  let back ← weave inline (pieces after)
  return front ++ (inner ++ back)

/-- Compose the texts around another one, which is put between them as it is written. -/
def weaveAround (inline : Reference → Step (Weaving σ) Inline) (before content after : Text) :
    Step (Weaving σ) Text := do
  let front ← weave inline (pieces before)
  let back ← weave inline (pieces after)
  return front ++ (content ++ back)

variable (inline : Reference → Step (Weaving σ) Inline)

/-- A text that is read in parts is composed part by part. -/
theorem weave_inParts {text before content after : Text}
    (parts : InParts text before content after) :
    weave inline (pieces text) = weaveParts inline before content after := by
  rw [parts.read, weave_append, weave_append, weaveParts]
  simp only [bind_assoc, pure_bind]

/-- Between other texts, a text without a reference to be inlined stays as it is written. -/
theorem weaveParts_of_pointers {content : Text} (pointers : inlined content = [])
    (before after : Text) :
    weaveParts inline before content after = weaveAround inline before content after := by
  rw [weaveParts, weave_of_pointers inline pointers, weaveAround]
  simp only [pure_bind]

/-- Foreign elements are listed as they are written, and composed where they stand. A document with
    such an element is composed in three parts, and so is a block with the element in one of the
    contents that it is made of: what is before the element, its content, and what is behind it. If
    the content has no reference to be inlined, it stays as it is written, and all else is composed
    as if it were not there. If it has one, composing the content leaves a trace in the pass.

    Proof: the document and the block are read in three parts (`inParts_of_element`,
    `inParts_of_block`), and pieces that follow each other are composed one behind the other. A
    content that refers to nothing is composed to itself without a step. One that does refer to
    something makes calls, and calls leave a trace in the pass that accounts for them. -/
theorem foreign_composed_in_place (provider : Provider σ) (limit : Nat) {raw : Text}
    {document : Document} (parses : Document.parse raw = .ok document) {element : Element}
    (member : element ∈ document.elements) (foreign : isKnown element.name = false) :
    (element.name, element.content raw) ∈ document.foreignElements ∧
    (∀ allowance, weave (inlineWithin provider limit allowance) (pieces raw) =
      weaveParts (inlineWithin provider limit allowance) (raw.take element.start)
        (element.content raw) (raw.drop element.stop)) ∧
    (∀ tag block, document.block? tag = some block →
      ∀ outer ∈ document.tagged tag, element.Inside outer →
        ∃ before after, block.text = before ++ (element.content raw ++ after) ∧
          Text.slice raw outer.start element.start <:+ before ∧
          Text.slice raw element.stop outer.stop <+: after ∧
          composeBlock provider limit block =
            weaveParts (inlineAt provider limit 0) before (element.content raw) after) ∧
    (inlined (element.content raw) = [] → ∀ allowance before after,
      weaveParts (inlineWithin provider limit allowance) before (element.content raw) after =
        weaveAround (inlineWithin provider limit allowance) before (element.content raw) after) ∧
    (inlined (element.content raw) ≠ [] → ∀ allowance weaving,
      ((weave (inlineWithin provider limit allowance)
        (pieces (element.content raw))).run weaving).2.pass ≠ weaving.pass) := by
  refine ⟨?_, ?_, ?_, fun pointers _ => weaveParts_of_pointers _ pointers, pass_ne_of_inlined⟩
  · obtain ⟨_, _, describes⟩ := Document.described parses
    rw [Document.foreignElements, describes.text]
    exact List.mem_map_of_mem (List.mem_filter.mpr ⟨member, by simp [foreign]⟩)
  · exact fun allowance => weave_inParts _ (Document.inParts_of_element parses member)
  · intro tag block found outer holds inside
    obtain ⟨front, back, parts⟩ := Document.inParts_of_block parses member found holds inside
    exact ⟨_, _, parts.whole, List.suffix_append .., List.prefix_append .., weave_inParts _ parts⟩

/-- A document with a foreign element that points at a resource, behind a reference to it. -/
def moodyDocument : Document :=
  ⟨"<knowledge>@doc://a <mood>calm, @?doc://a</mood></knowledge>".toList,
    [⟨"knowledge".toList, 11, 48⟩, ⟨"mood".toList, 26, 41⟩]⟩

/-- The foreign element stays as it is written while the reference before it is inlined. It points
    at a resource and refers to nothing else. -/
theorem mood_stays :
    Document.parse moodyDocument.raw = .ok moodyDocument ∧
    moodyDocument.foreignElements = [("mood".toList, "calm, @?doc://a".toList)] ∧
    ∃ block before after, moodyDocument.block? .knowledge = some block ∧
      block.text = before ++ ("calm, @?doc://a".toList ++ after) ∧
      composeBlock Library.provider 8 block =
        weaveAround (inlineAt Library.provider 8 0) before "calm, @?doc://a".toList after ∧
      ((composeBlock Library.provider 8 block).run ⟨greetingLibrary, Pass.new⟩).1.toOption =
        some "Hello <mood>calm, @?doc://a</mood>".toList := by
  have parses : Document.parse moodyDocument.raw = .ok moodyDocument := by decide +kernel
  have member : (⟨"mood".toList, 26, 41⟩ : Element) ∈ moodyDocument.elements := by decide +kernel
  obtain ⟨_, _, composed, stays, _⟩ :=
    foreign_composed_in_place Library.provider 8 parses member (by decide +kernel)
  have found : moodyDocument.block? .knowledge =
      some ⟨.knowledge, "@doc://a <mood>calm, @?doc://a</mood>".toList⟩ := by decide +kernel
  obtain ⟨before, after, text, _, _, parts⟩ := composed .knowledge _ found
    ⟨"knowledge".toList, 11, 48⟩ (by decide +kernel) (by decide +kernel)
  have content : Element.content ⟨"mood".toList, 26, 41⟩ moodyDocument.raw =
      "calm, @?doc://a".toList := by decide +kernel
  rw [content] at text parts stays
  refine ⟨parses, by decide +kernel, _, before, after, found, text, ?_, by decide +kernel⟩
  rw [parts]
  exact stays (by decide +kernel) 8 before after

/-- A document with a foreign element that refers to a resource. -/
def greetedDocument : Document :=
  ⟨"<knowledge>Notes: <mood>@doc://a</mood></knowledge>".toList,
    [⟨"knowledge".toList, 11, 39⟩, ⟨"mood".toList, 24, 32⟩]⟩

/-- The reference in the foreign element is loaded, and the content of the resource takes its place.
    The document lists the element as it was written all the same. -/
theorem mood_is_composed :
    Document.parse greetedDocument.raw = .ok greetedDocument ∧
    greetedDocument.foreignElements = [("mood".toList, "@doc://a".toList)] ∧
    greetedDocument.block? .knowledge =
      some ⟨.knowledge, "Notes: <mood>@doc://a</mood>".toList⟩ ∧
    ((composeBlock Library.provider 8 ⟨.knowledge, "Notes: <mood>@doc://a</mood>".toList⟩).run
      ⟨greetingLibrary, Pass.new⟩).1.toOption = some "Notes: <mood>Hello</mood>".toList ∧
    ((composeBlock Library.provider 8 ⟨.knowledge, "Notes: <mood>@doc://a</mood>".toList⟩).run
      ⟨greetingLibrary, Pass.new⟩).2.pass.visited = [⟨"doc".toList, "a".toList⟩] := by
  refine ⟨?_, ?_, ?_, ?_, ?_⟩ <;> decide +kernel

end Composition

end RoleWeave
