import RoleWeave.Proofs.Markup.Origins

/-!
# The case of letters

Nothing that makes a mark depends on the case of basic Latin letters: names and blanks are told by
classes of characters that have a letter in both cases, and a mark gives its name in small letters.
So a text has the marks of the same text in small letters (`marksFrom_lowerLatin`), and two texts that
are the same then are read alike (`parse_eq_map`): both are documents with the same elements, or both
fail with the same fault at the same place.

What the elements hold is written in each text as it is. Where two texts differ in the names of their
marks only, what is read off the same places of both differs in such names only.
-/

namespace RoleWeave

namespace Text

/-- The capital letters of the basic Latin alphabet. -/
def capitals : Text :=
  "ABCDEFGHIJKLMNOPQRSTUVWXYZ".toList

/-- Only capital letters are changed where letters are lowered. So what has to be known of all
    characters can be tried for these letters, and holds of the others at once. -/
theorem toLower_eq_or_capital (c : Char) : c.toLower = c ∨ c ∈ capitals := by
  have letters : ∀ n < 91, 65 ≤ n → Char.ofNat n ∈ capitals := by decide
  by_cases capital : 65 ≤ c.toNat ∧ c.toNat ≤ 90
  · right
    have letter := letters c.toNat (by omega) capital.1
    rwa [Char.ofNat_toNat] at letter
  · left
    unfold Char.toLower
    rw [dif_neg]
    rintro ⟨above, below⟩
    exact capital ⟨UInt32.le_iff_toNat_le.mp above, UInt32.le_iff_toNat_le.mp below⟩

/-- What is the same for the capital letters and their small forms does not depend on the case of
    any character. -/
theorem caseless {α : Type} (value : Char → α)
    (same : capitals.map (fun c => value c.toLower) = capitals.map value) (c : Char) :
    value c.toLower = value c := by
  rcases toLower_eq_or_capital c with small | capital
  · rw [small]
  · exact List.map_inj_left.mp same c capital

/-- A text has the same size in small letters. Basic letters take one byte in both cases, and no
    other character is changed. -/
theorem byteSize_lowerLatin (text : Text) : byteSize (lowerLatin text) = byteSize text := by
  induction text with
  | nil => rfl
  | cons c rest ih =>
    have size : c.toLower.utf8Size = c.utf8Size := caseless Char.utf8Size (by decide) c
    change c.toLower.utf8Size + byteSize (lowerLatin rest) = _
    rw [size, ih, byteSize_cons]

/-- A run of characters told without regard to case ends at the same place in small letters. -/
theorem takeWhile_lowerLatin {p : Char → Bool} (same : ∀ c : Char, p c.toLower = p c)
    (text : Text) : (lowerLatin text).takeWhile p = lowerLatin (text.takeWhile p) ∧
      (lowerLatin text).dropWhile p = lowerLatin (text.dropWhile p) := by
  have still : p ∘ Char.toLower = p := funext same
  rw [lowerLatin, List.takeWhile_map, List.dropWhile_map, still]
  exact ⟨rfl, rfl⟩

end Text

/-! ## Marks -/

/-- A name is taken without regard to the case of letters. The text in small letters has the same
    name and the same rest, in small letters. -/
theorem Name.take?_lowerLatin (text : Text) :
    Name.take? (Text.lowerLatin text) =
      (Name.take? text).map (fun parts => (Text.lowerLatin parts.1, Text.lowerLatin parts.2)) := by
  cases text with
  | nil => rfl
  | cons c rest =>
    have first : Name.startsWith c.toLower = Name.startsWith c :=
      Text.caseless Name.startsWith (by decide) c
    obtain ⟨taken, dropped⟩ :=
      Text.takeWhile_lowerLatin (Text.caseless Name.continuesWith (by decide)) rest
    change Name.take? (c.toLower :: Text.lowerLatin rest) = _
    rw [Name.take?, Name.take?, first, taken, dropped]
    split <;> rfl

namespace Mark

/-- Signs have no case: a small form is a bracket or a slash only of the same character. -/
theorem toLower_eq_sign_iff (c : Char) :
    (c.toLower = '<' ↔ c = '<') ∧ (c.toLower = '>' ↔ c = '>') ∧ (c.toLower = '/' ↔ c = '/') := by
  have sign {s : Char} (same : Text.capitals.map (fun c => c.toLower == s) =
      Text.capitals.map (fun c => c == s)) : c.toLower = s ↔ c = s := by
    rw [← beq_iff_eq, Text.caseless (fun c => c == s) same c, beq_iff_eq]
  exact ⟨sign (by decide), sign (by decide), sign (by decide)⟩

/-- The end of a mark is read without regard to the case of letters.

    Proof: the end is told by what comes first. A bracket and a slash have no case, so where the
    text has one the text in small letters has it too, and where it has none neither has the other.
    What is skipped before them are blanks, and a character is blank in both cases or in neither.
    The cases are those of reading the end. -/
theorem ending?_lowerLatin (text : Text) : ending? (Text.lowerLatin text) = ending? text := by
  cases text with
  | nil => rfl
  | cons c rest =>
    change ending? (c.toLower :: Text.lowerLatin rest) = _
    by_cases closes : c = '>'
    · subst closes
      rfl
    by_cases slashed : c = '/'
    · subst slashed
      cases rest with
      | nil => rfl
      | cons d later =>
        change ending? ('/' :: d.toLower :: Text.lowerLatin later) = _
        by_cases closes : d = '>'
        · subst closes
          rfl
        · have open' : d.toLower ≠ '>' := mt (toLower_eq_sign_iff d).2.1.mp closes
          rw [ending?_slash closes, ending?_slash open']
    · have still : c.toLower ≠ '/' ∧ c.toLower ≠ '>' :=
        ⟨mt (toLower_eq_sign_iff c).2.2.mp slashed, mt (toLower_eq_sign_iff c).2.1.mp closes⟩
      have blank : Text.isBlank c.toLower = Text.isBlank c :=
        Text.caseless Text.isBlank (by decide) c
      obtain ⟨taken, dropped⟩ :=
        Text.takeWhile_lowerLatin (Text.caseless isAttribute (by decide)) rest
      have slashLast : ((Text.lowerLatin (rest.takeWhile isAttribute)).getLast? == some '/') =
          ((rest.takeWhile isAttribute).getLast? == some '/') := by
        rw [Text.lowerLatin, List.getLast?_map]
        cases (rest.takeWhile isAttribute).getLast? with
        | none => rfl
        | some last =>
          rw [Bool.eq_iff_iff]
          simp [(toLower_eq_sign_iff last).2.2]
      rw [ending?_other slashed closes, ending?_other still.1 still.2, blank, taken, dropped,
        slashLast]
      cases rest.dropWhile isAttribute with
      | nil => rfl
      | cons d later =>
        by_cases bracket : d = '>'
        · subst bracket
          simp [Text.lowerLatin]
        · have other : d.toLower ≠ '>' := mt (toLower_eq_sign_iff d).2.1.mp bracket
          simp [Text.lowerLatin, bracket, other]

/-- The name and the end of a mark are read without regard to the case of letters. The mark has its
    name in small letters anyway, and the name is as long as before. -/
theorem named?_lowerLatin (closing : Bool) (start skipped : Nat) (text : Text) :
    named? closing start skipped (Text.lowerLatin text) = named? closing start skipped text := by
  rw [named?, named?, Name.take?_lowerLatin]
  cases Name.take? text with
  | none => rfl
  | some parts =>
    have size : (Text.lowerLatin parts.1).length = parts.1.length := List.length_map ..
    simp [ending?_lowerLatin, Text.lowerLatin_idem, size]

/-- A mark is read without regard to the case of letters. Whether it closes an element is told by a
    slash. -/
theorem after?_lowerLatin (start : Nat) (text : Text) :
    after? start (Text.lowerLatin text) = after? start text := by
  cases text with
  | nil => rfl
  | cons c rest =>
    by_cases slashed : c = '/'
    · subst slashed
      exact named?_lowerLatin true start 2 rest
    · have still : c.toLower ≠ '/' := mt (toLower_eq_sign_iff c).2.2.mp slashed
      have same := named?_lowerLatin false start 1 (c :: rest)
      change after? start (c.toLower :: Text.lowerLatin rest) = _
      simpa [after?, slashed, still, Text.lowerLatin] using same

end Mark

/-- The marks of a text do not depend on the case of letters: they are of the same kinds, have the
    same names and are at the same places. -/
theorem marksFrom_lowerLatin (start : Nat) (text : Text) :
    marksFrom start (Text.lowerLatin text) = marksFrom start text := by
  induction text generalizing start with
  | nil => rfl
  | cons c rest ih =>
    change marksFrom start (c.toLower :: Text.lowerLatin rest) = _
    rw [marksFrom, marksFrom, ih, Mark.after?_lowerLatin]
    simp only [(Mark.toLower_eq_sign_iff c).1]

/-- Texts that differ in the case of letters only have the same marks. -/
theorem marks_eq_of_lowerLatin {first second : Text}
    (same : Text.lowerLatin first = Text.lowerLatin second) : marks first = marks second := by
  rw [marks, marks, ← marksFrom_lowerLatin, same, marksFrom_lowerLatin]

/-- Texts that differ in the case of letters only have the same size up to each position. So a fault
    at a position is given the same offset in both. -/
theorem byteOffset_eq_of_lowerLatin {first second : Text}
    (same : Text.lowerLatin first = Text.lowerLatin second) (position : Nat) :
    Text.byteOffset first position = Text.byteOffset second position := by
  have front : Text.lowerLatin (first.take position) = Text.lowerLatin (second.take position) := by
    rw [Text.lowerLatin, Text.lowerLatin, List.map_take, List.map_take]
    exact congrArg (List.take position) same
  rw [Text.byteOffset, Text.byteOffset, ← Text.byteSize_lowerLatin, front,
    Text.byteSize_lowerLatin]

/-- Texts that differ in the case of letters only are read alike. Of two documents only the text
    itself differs, and two faults are the same. -/
theorem Document.parse_eq_map {first second : Text}
    (same : Text.lowerLatin first = Text.lowerLatin second) :
    Document.parse second =
      (Document.parse first).map (fun document => ⟨second, document.elements⟩) := by
  have read : RoleWeave.elements second = RoleWeave.elements first := by
    rw [RoleWeave.elements, RoleWeave.elements, marks_eq_of_lowerLatin same]
  rw [Document.parse, Document.parse, read]
  cases RoleWeave.elements first with
  | ok elements => rfl
  | error fault => simp [Except.map, byteOffset_eq_of_lowerLatin same]

/-! ## The names of marks -/

/-- The position where the name of a mark begins, behind the bracket and the slash. -/
def Mark.nameStart (mark : Mark) : Nat :=
  mark.start + if mark.closing then 2 else 1

/-- A position lies in the name of a mark. -/
def Mark.NameCovers (mark : Mark) (position : Nat) : Prop :=
  mark.nameStart ≤ position ∧ position < mark.nameStart + mark.name.length

instance (mark : Mark) (position : Nat) : Decidable (mark.NameCovers position) :=
  inferInstanceAs (Decidable (_ ∧ _))

/-- A position lies in the name of one of the marks of a text. -/
def InMarkName (text : Text) (position : Nat) : Prop :=
  ∃ mark ∈ marks text, mark.NameCovers position

instance (text : Text) (position : Nat) : Decidable (InMarkName text position) :=
  inferInstanceAs (Decidable (∃ mark ∈ marks text, mark.NameCovers position))

/-- The name of a mark is what is written at its place, in small letters. The place is behind the
    bracket, or behind the slash of a closing mark. -/
theorem name_written {text : Text} {mark : Mark} (member : mark ∈ marks text) :
    ∃ before name after, text = before ++ (name ++ after) ∧ mark.nameStart = before.length ∧
      mark.name = Text.lowerLatin name := by
  obtain ⟨front, rest, rfl, read⟩ := after?_of_mem member
  unfold Mark.after? at read
  split at read
  · rename_i closed
    obtain ⟨name, after, _, _, taken, _, rfl⟩ := Mark.parts_of_named? read
    refine ⟨front ++ ['<', '/'], name, after, ?_, by simp [Mark.nameStart], rfl⟩
    simp [Name.append_of_take? taken]
  · obtain ⟨name, after, _, _, taken, _, rfl⟩ := Mark.parts_of_named? read
    refine ⟨front ++ ['<'], name, after, ?_, by simp [Mark.nameStart], rfl⟩
    simp [Name.append_of_take? taken]

/-- Two texts differ in nothing but the case of letters in the names of their marks. -/
structure Recased (first second : Text) : Prop where
  lower : Text.lowerLatin first = Text.lowerLatin second
  named : ∀ position : Nat, first[position]? ≠ second[position]? → InMarkName first position

/-- Two parts are read off the same places of two texts, and differ in nothing but the case of
    letters that are read off names of marks. -/
structure RecasedAt (first second : Text) (origins : List (Option Nat)) (part other : Text) :
    Prop where
  written : part.map some = origins.map first.written
  rewritten : other.map some = origins.map second.written
  lower : Text.lowerLatin part = Text.lowerLatin other
  named : ∀ index : Nat, part[index]? ≠ other[index]? →
    ∃ position, origins[index]? = some (some position) ∧ InMarkName first position

/-- What is read off the same places of two texts differs as the texts do.

    Proof: both parts are read off the same places, so a character of one stands at the place of the
    character of the other. In small letters the texts are the same at each place, and so are the
    parts. Where two characters differ, they were read off a place at which the texts differ, and
    that lies in the name of a mark. -/
theorem Recased.at {first second : Text} (recased : Recased first second)
    {origins : List (Option Nat)} {part other : Text}
    (written : part.map some = origins.map first.written)
    (rewritten : other.map some = origins.map second.written) :
    RecasedAt first second origins part other where
  written := written
  rewritten := rewritten
  lower := by
    have places : ∀ origin, (first.written origin).map Char.toLower =
        (second.written origin).map Char.toLower := by
      rintro (_ | position)
      · rfl
      · rw [Text.written, Text.written, ← List.getElem?_map, ← List.getElem?_map]
        exact congrArg (·[position]?) recased.lower
    have same : (part.map some).map (Option.map Char.toLower) =
        (other.map some).map (Option.map Char.toLower) := by
      rw [written, rewritten, List.map_map, List.map_map]
      exact List.map_congr_left fun origin _ => places origin
    rw [List.map_map, List.map_map] at same
    apply List.map_injective_iff.mpr (Option.some_injective Char)
    simpa [Text.lowerLatin] using same
  named := by
    intro index differ
    have here : part[index]?.map some = origins[index]?.map first.written := by
      rw [← List.getElem?_map, written, List.getElem?_map]
    have there : other[index]?.map some = origins[index]?.map second.written := by
      rw [← List.getElem?_map, rewritten, List.getElem?_map]
    have apart : origins[index]?.map first.written ≠ origins[index]?.map second.written := by
      rw [← here, ← there]
      exact fun same => differ (Option.map_injective (Option.some_injective Char) same)
    rcases place : origins[index]? with _ | _ | position
    · simp [place] at apart
    · simp [place, Text.written] at apart
    · refine ⟨position, rfl, recased.named position fun same => apart ?_⟩
      simp [place, Text.written, same]

/-- Two readings of recased texts agree: both are documents, with the same elements, with blocks of
    the same tags and with foreign elements of the same names, each read off the same places of both
    texts; or both fail with the same fault. -/
def ReadAlike (first second : Text) : Except Fault Document → Except Fault Document → Prop
  | .ok document, .ok other =>
      document.elements = other.elements ∧
      List.Forall₂ (fun block twin => block.tag = twin.tag ∧
          RecasedAt first second (document.origins block.tag) block.text twin.text)
        document.blocks other.blocks ∧
      List.Forall₂ (fun mine theirs => mine.1 = theirs.1 ∧
          ∃ element ∈ document.elements, element.name = mine.1 ∧
            RecasedAt first second (element.positions.map some) mine.2 theirs.2)
        document.foreignElements other.foreignElements
  | .error fault, .error cause => fault = cause
  | _, _ => False

namespace Recased

variable {first second : Text} {document other : Document}

/-- A tag has a block in both of two recased documents or in neither, read off the same places. The
    elements with the tag are the same in both, and a block is read off the places of their
    contents. -/
theorem block? (recased : Recased first second) (parses : Document.parse first = .ok document)
    (reparses : Document.parse second = .ok other) (same : document.elements = other.elements)
    (tag : Tag) :
    Option.Rel (fun block twin => block.tag = twin.tag ∧
        RecasedAt first second (document.origins block.tag) block.text twin.text)
      (document.block? tag) (other.block? tag) := by
  have tagged : other.tagged tag = document.tagged tag := by
    rw [Document.tagged, Document.tagged, same]
  have found := Document.block?_of_parse parses tag
  have refound := Document.block?_of_parse reparses tag
  rw [tagged] at refound
  by_cases nothing : document.tagged tag = []
  · rw [found, refound, if_pos nothing, if_pos nothing]
    exact .none
  · rw [if_neg nothing] at found refound
    rw [found, refound]
    refine .some ⟨rfl, recased.at (Document.written_origins parses found) ?_⟩
    rw [Document.written_origins reparses refound, Document.origins, Document.origins, tagged]

/-- The contents of an element in two recased documents are read off the same places. They lie
    within both texts, which are of one length. -/
theorem content (recased : Recased first second) (parses : Document.parse first = .ok document)
    {element : Element} (member : element ∈ document.elements) :
    RecasedAt first second (element.positions.map some) (element.content first)
      (element.content second) := by
  obtain ⟨_, _, describes⟩ := Document.described parses
  have within : element.stop ≤ first.length := (describes.valid element member).2
  have size : first.length = second.length := by
    simpa [Text.lowerLatin] using congrArg List.length recased.lower
  exact recased.at (written_positions within) (written_positions (size ▸ within))

end Recased

/-- Marks are read without regard to the case of letters. Texts that differ in nothing but the case
    of letters in the names of their marks have the same marks, and are read alike.

    Proof: the texts are the same in small letters, so one is read as the other up to the text
    itself. A fault is the same. Of two documents the elements are the same; the blocks are compared
    tag by tag and the foreign elements one by one, and each is read off the same places of both
    texts. -/
theorem recased_read_alike {first second : Text} (recased : Recased first second) :
    marks first = marks second ∧
      ReadAlike first second (Document.parse first) (Document.parse second) := by
  refine ⟨marks_eq_of_lowerLatin recased.lower, ?_⟩
  have map := Document.parse_eq_map recased.lower
  cases parses : Document.parse first with
  | error fault =>
    rw [parses] at map
    rw [map]
    exact rfl
  | ok document =>
    have reparses : Document.parse second = .ok ⟨second, document.elements⟩ := by
      rw [map, parses]
      rfl
    have text : document.raw = first := by
      obtain ⟨_, _, describes⟩ := Document.described parses
      exact describes.text
    rw [reparses]
    refine ⟨rfl, ?_, ?_⟩
    · refine List.rel_filterMap (R := Eq) ?_ (List.forall₂_refl Tag.all)
      rintro tag _ rfl
      exact recased.block? parses reparses rfl tag
    · rw [Document.foreignElements, Document.foreignElements, List.forall₂_map_left_iff,
        List.forall₂_map_right_iff, List.forall₂_same, text]
      intro element foreign
      have member := List.mem_of_mem_filter foreign
      exact ⟨rfl, element, member, rfl, recased.content parses member⟩

/-- A text with a foreign element around a rule, a mark that closes itself, and a tag that is never
    closed. -/
def mixedCase : Text :=
  "<Mood>A<RULE>b <T> c</rule></mOOd><plan/>".toList

/-- The same text with the names of its marks in other letters. -/
def otherCase : Text :=
  "<mOOD>A<rule>b <t> c</RULE></Mood><PLAN/>".toList

/-- Both are documents with the same elements. Their rules differ in the name of the tag that is
    never closed, since that tag is part of what the rule holds. -/
theorem mixed_case_read_alike :
    Recased mixedCase otherCase ∧
    ReadAlike mixedCase otherCase (Document.parse mixedCase) (Document.parse otherCase) ∧
    (Document.parse mixedCase).toOption.bind (fun document => document.block? .rule) =
      some ⟨.rule, "b <T> c".toList⟩ ∧
    (Document.parse otherCase).toOption.bind (fun document => document.block? .rule) =
      some ⟨.rule, "b <t> c".toList⟩ := by
  have recased : Recased mixedCase otherCase := by
    refine ⟨by decide +kernel, ?_⟩
    intro position differ
    by_cases within : position < 41
    · have named : ∀ position < 41, mixedCase[position]? ≠ otherCase[position]? →
          InMarkName mixedCase position := by decide +kernel
      exact named position within differ
    · have sizes : mixedCase.length = 41 ∧ otherCase.length = 41 := by decide +kernel
      rw [List.getElem?_eq_none (by omega), List.getElem?_eq_none (by omega)] at differ
      exact absurd rfl differ
  exact ⟨recased, (recased_read_alike recased).2, by decide +kernel, by decide +kernel⟩

end RoleWeave
