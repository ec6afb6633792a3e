import Mathlib.Data.List.Sort
import RoleWeave.Proofs.Composition.Task
import RoleWeave.Proofs.Library.Settled
import RoleWeave.Proofs.Reference.Scanning

/-!
# What is hoisted

The thoughts and executions of a role are those to which its sections without prose refer, unless
they do so lazily: `mem_idsOf_iff`. Nothing else of a document adds to them, and what is loaded adds
nothing either.

Of a section without prose, the composed role shows nothing but these two sets and the other
references of that section. Documents that agree on them, and on the sections with prose, are
composed alike, whatever the order, the number and the place of the references to thoughts and
executions (`composeRole_congr`), although a resource is shown where it is met first and all
sections share one pass.
-/

namespace RoleWeave

/-- Sets with the same members are equal. -/
theorem NameSet.eq_of_mem_iff {first second : NameSet}
    (same : ∀ name, name ∈ first ↔ name ∈ second) : first = second := by
  obtain ⟨names, ascending⟩ := first
  obtain ⟨others, ascendingToo⟩ := second
  have equal : names = others := List.Pairwise.eq_of_mem_iff ascending ascendingToo same
  subst equal
  rfl

/-- Only lazy references are not inlined. -/
theorem Loading.inlines_iff {loading : Loading} : loading.inlines = true ↔ loading ≠ .lazy := by
  cases loading <;> decide

namespace Composition

/-- The block of a section that has prose, if there is one. -/
def proseBlock? (document : Document) (tag : Tag) : Option Block :=
  (document.block? tag).filter Block.hasProse

/-- A section without prose refers to a resource, and does not do so lazily. -/
def Hoisted (document : Document) (protocol id : Text) : Prop :=
  ∃ tag ∈ [Tag.personality, .principle, .knowledge], ∃ block,
    document.block? tag = some block ∧ block.hasProse = false ∧
      ∃ token ∈ block.tokens, token.reference.protocol = protocol ∧
        token.reference.resource = id ∧ token.reference.loading ≠ .lazy

/-- The references of a section without prose that are neither lazy nor point at a thought or an
    execution, in their order. -/
def residual (document : Document) (tag : Tag) : List Reference :=
  match (document.block? tag).filter (fun block => !block.hasProse) with
  | none => []
  | some block => (block.tokens.map Token.reference).filter (fun reference =>
      reference.loading ≠ .lazy ∧ reference.protocol ≠ thoughtProtocol ∧
        reference.protocol ≠ executionProtocol)

/-- Two documents agree on what a role is composed from. -/
structure Agree (first second : Document) : Prop where
  thoughts : ∀ id, Hoisted first thoughtProtocol id ↔ Hoisted second thoughtProtocol id
  executions : ∀ id, Hoisted first executionProtocol id ↔ Hoisted second executionProtocol id
  prose : ∀ tag ∈ Tag.sections, proseBlock? first tag = proseBlock? second tag
  others : ∀ tag ∈ Tag.sections, residual first tag = residual second tag

/-- The references of a block that are to be inlined are those of its tokens that are not lazy.
    Eager references and those with the standard marker are both inlined. -/
theorem inlined_eq (block : Block) :
    inlined block.text =
      (block.tokens.map Token.reference).filter (fun reference => reference.loading ≠ .lazy) := by
  rw [inlined, references_eq_map_tokens, Block.tokens]
  apply List.filter_congr
  intro reference _
  rw [Bool.eq_iff_iff, Loading.inlines_iff, decide_eq_true_eq]

/-- The ids that are shown as skills are those that are hoisted. A section without prose lists its
    tokens that are not lazy, and the ids are those of the listed references with the protocol of
    the skills. -/
theorem mem_idsOf_iff {document : Document} {protocol id : Text} :
    id ∈ idsOf protocol (listedReferences document) ↔ Hoisted document protocol id := by
  rw [idsOf, NameSet.mem_ofList, List.mem_map]
  constructor
  · rintro ⟨reference, member, rfl⟩
    obtain ⟨listed, same⟩ := List.mem_filter.mp member
    obtain ⟨block, among, inside⟩ := List.mem_flatMap.mp listed
    obtain ⟨section_, bare⟩ := List.mem_filter.mp among
    obtain ⟨tag, known, found⟩ := List.mem_filterMap.mp section_
    rw [inlined_eq] at inside
    obtain ⟨scanned, eager⟩ := List.mem_filter.mp inside
    obtain ⟨token, placed, rfl⟩ := List.mem_map.mp scanned
    exact ⟨tag, known, block, found, by simpa using bare, token, placed, by simpa using same, rfl,
      by simpa using eager⟩
  · rintro ⟨tag, known, block, found, bare, token, placed, rfl, rfl, eager⟩
    have section_ : block ∈ sectionBlocks document :=
      List.mem_filterMap.mpr ⟨tag, known, found⟩
    have inside : token.reference ∈ inlined block.text := by
      rw [inlined_eq]
      exact List.mem_filter.mpr ⟨List.mem_map_of_mem placed, by simpa using eager⟩
    have listed : token.reference ∈ listedReferences document :=
      List.mem_flatMap.mpr ⟨block, List.mem_filter.mpr ⟨section_, by simp [bare]⟩, inside⟩
    exact ⟨token.reference, List.mem_filter.mpr ⟨listed, by simp⟩, rfl⟩

variable {σ : Type}

/-- What is shown of a section, given its block if that has prose, and its other references if it
    is a list. -/
def sectionText (provider : Provider σ) (limit : Nat) (prose : Option Block)
    (others : List Reference) : Step (Weaving σ) Text :=
  match prose with
  | some block => composeSection provider limit (.inPlace block)
  | none => composeSection provider limit (.listed others)

/-- Nothing is shown of an empty list, and nothing is loaded for it. -/
theorem sectionText_nothing (provider : Provider σ) (limit : Nat) :
    sectionText provider limit none [] = pure [] := by
  simp only [sectionText, composeSection, inlineAll, pure_bind]
  rfl

/-- A section is composed from its block if that has prose, and from its other references if it is a
    list. A section that is missing is as good as one of which nothing is shown.

    Proof: without a block, both sides go on with the later tags. A block with prose is composed in
    place on both sides. Of a block without prose the plan is the list of its references that are
    neither lazy nor those of skills, which is what is left of the section besides. -/
theorem composeSections_cons (provider : Provider σ) (limit : Nat) (document : Document) (tag : Tag)
    (later : List Tag) :
    composeSections provider limit document (tag :: later) = (do
      let text ← sectionText provider limit (proseBlock? document tag) (residual document tag)
      let others ← composeSections provider limit document later
      return if text.isEmpty then others else (tag, text) :: others) := by
  rw [composeSections, proseBlock?, residual]
  cases found : document.block? tag with
  | none =>
    simp only [Option.filter_none, sectionText_nothing, pure_bind, List.isEmpty_nil, if_true,
      bind_pure]
  | some block =>
    by_cases prose : block.hasProse = true
    · simp only [Option.filter_some, prose, if_true, sectionText, planOf]
    · have bare : block.hasProse = false := by simpa using prose
      have listed : planOf block = .listed ((block.tokens.map Token.reference).filter
          (fun reference => reference.loading ≠ .lazy ∧ reference.protocol ≠ thoughtProtocol ∧
            reference.protocol ≠ executionProtocol)) := by
        rw [planOf, if_neg prose, inlined_eq, List.filter_filter]
        congr 1
        apply List.filter_congr
        intro reference _
        rw [Bool.eq_iff_iff]
        simp only [isSkill, Bool.and_eq_true, Bool.not_eq_true', Bool.or_eq_false_iff,
          beq_eq_false_iff_ne, decide_eq_true_eq]
        exact and_comm
      simp only [Option.filter_some, bare, Bool.false_eq_true, if_false, Bool.not_false, if_true,
        listed, sectionText]

/-- Sections on which two documents agree are composed alike, by induction on their tags. -/
theorem composeSections_congr (provider : Provider σ) (limit : Nat) {first second : Document}
    (agree : Agree first second) {tags : List Tag} (known : ∀ tag ∈ tags, tag ∈ Tag.sections) :
    composeSections provider limit first tags = composeSections provider limit second tags := by
  induction tags with
  | nil => rfl
  | cons tag later ih =>
    obtain ⟨here, rest⟩ := List.forall_mem_cons.mp known
    rw [composeSections_cons, composeSections_cons, agree.prose tag here, agree.others tag here,
      ih rest]

/-- Documents that agree have the same skills. They list the same ids for either protocol, and a set
    of ids is known by its members. -/
theorem Agree.sameIds {first second : Document} (agree : Agree first second) :
    idsOf thoughtProtocol (listedReferences first) =
        idsOf thoughtProtocol (listedReferences second) ∧
      idsOf executionProtocol (listedReferences first) =
        idsOf executionProtocol (listedReferences second) := by
  constructor
  · apply NameSet.eq_of_mem_iff
    intro id
    rw [mem_idsOf_iff, mem_idsOf_iff]
    exact agree.thoughts id
  · apply NameSet.eq_of_mem_iff
    intro id
    rw [mem_idsOf_iff, mem_idsOf_iff]
    exact agree.executions id

/-- Whether two documents agree can be computed: what they hoist is compared as the two sets of ids,
    and the sections one by one. -/
theorem agree_iff {first second : Document} :
    Agree first second ↔
      (idsOf thoughtProtocol (listedReferences first)).names =
          (idsOf thoughtProtocol (listedReferences second)).names ∧
        (idsOf executionProtocol (listedReferences first)).names =
          (idsOf executionProtocol (listedReferences second)).names ∧
        (∀ tag ∈ Tag.sections, proseBlock? first tag = proseBlock? second tag) ∧
        ∀ tag ∈ Tag.sections, residual first tag = residual second tag := by
  constructor
  · intro agree
    obtain ⟨thoughts, executions⟩ := agree.sameIds
    exact ⟨congrArg NameSet.names thoughts, congrArg NameSet.names executions, agree.prose,
      agree.others⟩
  · rintro ⟨thoughts, executions, prose, others⟩
    refine ⟨?_, ?_, prose, others⟩
    · intro id
      rw [← mem_idsOf_iff, ← mem_idsOf_iff, NameSet.mem_def, NameSet.mem_def, thoughts]
    · intro id
      rw [← mem_idsOf_iff, ← mem_idsOf_iff, NameSet.mem_def, NameSet.mem_def, executions]

instance (first second : Document) : Decidable (Agree first second) :=
  decidable_of_iff _ agree_iff.symm

/-- Documents that agree are composed alike. Composing a role looks at nothing of its document but
    the two sets of ids and the sections. -/
theorem composeRole_congr (provider : Provider σ) (limit : Nat) (info : RoleInfo)
    {first second : Document} (agree : Agree first second) :
    composeRole provider limit info first = composeRole provider limit info second := by
  obtain ⟨thoughts, executions⟩ := agree.sameIds
  have parts : composeParts provider limit first = composeParts provider limit second := by
    funext thoughts executions
    rw [composeParts, composeParts, composeSections_congr provider limit agree (by decide),
      composeSections_congr provider limit agree (by decide)]
  rw [composeRole, composeRole, thoughts, executions, parts]

/-- Hoisting is exact, and the order does not matter. The thoughts of a role that was composed are
    exactly those to which a section without prose refers other than lazily, and so are its
    executions. Two documents that agree on these two sets, on the sections with prose and on the
    other references of each section without prose are composed alike.

    Proof: a composed role has the sets of ids that were computed from its document, whatever became
    of the composition (`tasks_of_composeRole`), and `mem_idsOf_iff` says what is in them. The
    second part is `composeRole_congr`. -/
theorem hoisting_is_exact (provider : Provider σ) (limit : Nat) (info : RoleInfo) :
    (∀ (document : Document) (world after : σ) (role : ComposedRole),
      (composeRole provider limit info document).run world = (.ok role, after) →
      ∀ id, (id ∈ role.thoughts ↔ Hoisted document thoughtProtocol id) ∧
        (id ∈ role.executions ↔ Hoisted document executionProtocol id)) ∧
    ∀ first second, Agree first second →
      composeRole provider limit info first = composeRole provider limit info second := by
  constructor
  · intro document world after role composed id
    obtain ⟨_, _, _, _, _, _, rfl, _⟩ := tasks_of_composeRole composed
    exact ⟨mem_idsOf_iff, mem_idsOf_iff⟩
  · intro first second agree
    exact composeRole_congr provider limit info agree

/-- A role that refers to a thought and an execution. -/
def plainRole : Document :=
  ⟨"<personality>@thought://a @execution://b</personality>".toList,
    [⟨"personality".toList, 13, 40⟩]⟩

/-- A role that refers to the same thought and the same execution more often, with other marks, in
    another order and in other sections. A lazy reference is added. -/
def movedRole : Document :=
  ⟨"<principle>@!execution://b - @thought://a</principle>".toList ++
      "<knowledge>@!thought://a @?thought://d</knowledge>".toList,
    [⟨"principle".toList, 11, 41⟩, ⟨"knowledge".toList, 64, 91⟩]⟩

/-- Both are composed alike. The thought is hoisted, and the one that is referred to lazily is not.
    That the documents agree is computed. -/
theorem moved_role_composed_alike :
    composeRole Library.provider 8 (RoleInfo.plain "r".toList) plainRole =
        composeRole Library.provider 8 (RoleInfo.plain "r".toList) movedRole ∧
      ∃ role after,
        (composeRole Library.provider 8 (RoleInfo.plain "r".toList) movedRole).run
            (Library.ofFiles "thought".toList [("a".toList, "Think.".toList)]) =
          (.ok role, after) ∧
        "a".toList ∈ role.thoughts ∧ "d".toList ∉ role.thoughts := by
  have agree : Agree plainRole movedRole := by decide +kernel
  obtain ⟨exact, alike⟩ :=
    hoisting_is_exact Library.provider 8 (RoleInfo.plain "r".toList)
  have ended : ((composeRole Library.provider 8 (RoleInfo.plain "r".toList) movedRole).run
      (Library.ofFiles "thought".toList [("a".toList, "Think.".toList)])).1.isOk = true := by
    decide +kernel
  have ids : (idsOf thoughtProtocol (listedReferences movedRole)).names = ["a".toList] := by
    decide +kernel
  rcases composed : (composeRole Library.provider 8 (RoleInfo.plain "r".toList) movedRole).run
      (Library.ofFiles "thought".toList [("a".toList, "Think.".toList)]) with ⟨fault | role, after⟩
  · rw [composed] at ended
    cases ended
  · have hoisted (id : Text) : id ∈ role.thoughts ↔ id ∈ ["a".toList] := by
      rw [(exact movedRole _ after role composed id).1, ← mem_idsOf_iff, NameSet.mem_def, ids]
    refine ⟨alike plainRole movedRole agree, role, after, rfl, ?_, ?_⟩
    · rw [hoisted]
      decide
    · rw [hoisted]
      decide

end Composition

end RoleWeave
