import RoleWeave.Proofs.Text.Trimming
import RoleWeave.Reference.Basic

/-!
# Reading what was written

A reference whose protocol is a name and whose resource is neither empty nor holds a blank is read
back from the text that it is written as.
-/

namespace RoleWeave

namespace Name

/-- A character of a name is not blank. It is a letter, a figure or one of two signs. -/
theorem isBlank_of_continuesWith {c : Char} (continues : continuesWith c = true) :
    Text.isBlank c = false := by
  delta continuesWith Char.isAlphanum Char.isAlpha Char.isUpper Char.isLower Char.isDigit
    at continues
  simp only [Bool.or_eq_true, Bool.and_eq_true, decide_eq_true_eq, beq_iff_eq, ge_iff_le,
    UInt32.le_iff_toNat_le] at continues
  change (((65 ≤ c.toNat ∧ c.toNat ≤ 90 ∨ 97 ≤ c.toNat ∧ c.toNat ≤ 122) ∨
    48 ≤ c.toNat ∧ c.toNat ≤ 57) ∨ c = '_') ∨ c = '-' at continues
  rcases continues with (ranged | rfl) | rfl
  · simp [Text.isBlank]
    omega
  · decide
  · decide

/-- A character with which a name begins may also stand further on. -/
theorem continuesWith_of_startsWith {c : Char} (starts : startsWith c = true) :
    continuesWith c = true := by
  have letter : c.isAlpha = true := starts
  simp [continuesWith, Char.isAlphanum, letter]

/-- The characters of a name are all of the kind that a name goes on with, the first among them. A
    name begins with a letter, and letters are of that kind. -/
theorem continuesWith_of_mem {name : Text} (accepted : accepts name = true) {c : Char}
    (member : c ∈ name) : continuesWith c = true := by
  cases name with
  | nil => cases member
  | cons first rest =>
    rw [accepts, Bool.and_eq_true] at accepted
    rcases List.mem_cons.mp member with rfl | later
    · exact continuesWith_of_startsWith accepted.1
    · exact List.all_eq_true.mp accepted.2 c later

/-- A name is taken whole where something follows it with which no name goes on. What follows is
    left. -/
theorem take?_append {name : Text} (accepted : accepts name = true) {c : Char} (rest : Text)
    (ends : continuesWith c = false) : take? (name ++ c :: rest) = some (name, c :: rest) := by
  cases name with
  | nil => cases accepted
  | cons first later =>
    rw [accepts, Bool.and_eq_true] at accepted
    have all : ∀ other ∈ later, continuesWith other = true := List.all_eq_true.mp accepted.2
    rw [List.cons_append, take?, if_pos accepted.1, List.takeWhile_append_of_pos all,
      List.dropWhile_append_of_pos all, List.takeWhile_cons_of_neg (by simp [ends]),
      List.dropWhile_cons_of_neg (by simp [ends]), List.append_nil]

end Name

namespace Reference

/-- A key with a name as its protocol and anything as its id is read to its end. The first separator
    is the one behind the name, since no name holds one. -/
theorem body?_render (loading : Loading) {key : Key} (named : Name.accepts key.protocol = true)
    (nonempty : key.id ≠ []) :
    body? loading key.render = some ⟨loading, key.protocol, key.id⟩ := by
  have cut : Text.after? Key.separator (Key.separator ++ key.id) = some key.id :=
    Text.after?_append Key.separator key.id
  have taken : Name.take? key.render = some (key.protocol, Key.separator ++ key.id) := by
    rw [Key.render, List.append_assoc]
    exact Name.take?_append named _ (by decide)
  simp [body?, taken, cut, nonempty]

/-- A reference holds no blank if its resource holds none. There is none in the marker, in a name or
    between the name and the resource. -/
theorem solid_render {reference : Reference} (named : Name.accepts reference.protocol = true)
    (solid : ∀ c ∈ reference.resource, Text.isBlank c = false) :
    ∀ c ∈ reference.render, Text.isBlank c = false := by
  have marker : ∀ c ∈ reference.loading.marker, Text.isBlank c = false := by
    apply Text.any_isBlank_eq_false_iff.mp
    cases reference.loading <;> rfl
  have separator : ∀ c ∈ Key.separator, Text.isBlank c = false :=
    Text.any_isBlank_eq_false_iff.mp rfl
  have protocol : ∀ c ∈ reference.protocol, Text.isBlank c = false :=
    fun c member => Name.isBlank_of_continuesWith (Name.continuesWith_of_mem named member)
  simp only [render, key, Key.render, List.forall_mem_append]
  exact ⟨marker, ⟨protocol, separator⟩, solid⟩

/-- A name does not begin with a sign of loading, so a key by itself is loaded in the standard
    way. -/
theorem ofSign_render {key : Key} (named : Name.accepts key.protocol = true) :
    Loading.ofSign key.render = (.standard, key.render) := by
  obtain ⟨protocol, id⟩ := key
  cases protocol with
  | nil => cases named
  | cons first rest =>
    simp only [Key.render, List.cons_append, Loading.ofSign]
    split
    · rename_i same
      cases same
      cases named
    · rename_i same
      cases same
      cases named
    · rfl

/-- The marker of a reference is told apart from its key, whichever of the three it is. A key begins
    with a letter, so it does not look like the rest of a marker. -/
theorem marked?_render {reference : Reference} (named : Name.accepts reference.protocol = true) :
    marked? reference.render = body? reference.loading reference.key.render := by
  obtain ⟨loading, protocol, resource⟩ := reference
  cases loading with
  | eager => rfl
  | lazy => rfl
  | standard =>
    have sign : Loading.ofSign (Key.mk protocol resource).render =
        (.standard, (Key.mk protocol resource).render) := ofSign_render named
    simp only [render, Loading.marker, List.singleton_append, marked?, key, sign]

/-- A reference whose protocol is a name is told from what it is written as. -/
theorem marked?_whole {reference : Reference} (named : Name.accepts reference.protocol = true)
    (nonempty : reference.resource ≠ []) : marked? reference.render = some reference := by
  rw [marked?_render named, body?_render reference.loading named nonempty]
  rfl

/-- Two such references that are written alike are the same. Reading what is written gives back
    either of them. -/
theorem eq_of_render_eq {first second : Reference}
    (named : Name.accepts first.protocol = true) (nonempty : first.resource ≠ [])
    (namedToo : Name.accepts second.protocol = true) (nonemptyToo : second.resource ≠ [])
    (same : first.render = second.render) : first = second := by
  have read := marked?_whole named nonempty
  rw [same, marked?_whole namedToo nonemptyToo] at read
  exact (Option.some.inj read).symm

/-- A reference begins with the sign of its marker. -/
theorem exists_cons_render (reference : Reference) : ∃ rest, reference.render = '@' :: rest := by
  unfold render
  cases reference.loading <;> exact ⟨_, rfl⟩

/-- A reference is read back from the text that it is written as, unless its resource holds a blank.
    The text begins with a sign, so it is read with its marker. -/
theorem read?_render_eq {reference : Reference} (named : Name.accepts reference.protocol = true)
    (nonempty : reference.resource ≠ []) :
    read? reference.render =
      if reference.resource.any Text.isBlank then none else some reference := by
  have body := marked?_whole named nonempty
  obtain ⟨rest, shape⟩ := exists_cons_render reference
  rw [shape] at body
  rw [shape, read?]
  simp only [body, Option.bind_eq_bind, Option.bind_some]

/-- Without blanks, a reference is read back from the text that it is written as. -/
theorem read?_render {reference : Reference} (named : Name.accepts reference.protocol = true)
    (nonempty : reference.resource ≠ [])
    (solid : ∀ c ∈ reference.resource, Text.isBlank c = false) :
    read? reference.render = some reference := by
  rw [read?_render_eq named nonempty, Text.any_isBlank_eq_false_iff.mpr solid]
  rfl

/-- Without blanks, nothing of it is taken for what stands around a reference. Trimming leaves it as
    it is, and then it is read as a whole. -/
theorem parse_render {reference : Reference} (named : Name.accepts reference.protocol = true)
    (nonempty : reference.resource ≠ [])
    (solid : ∀ c ∈ reference.resource, Text.isBlank c = false) :
    parse reference.render = .ok reference := by
  have whole : Text.trim reference.render = reference.render :=
    Text.trim_of_solid (solid_render named solid)
  rw [parse, whole, read?_render named nonempty solid]

/-- Nothing is trimmed from a reference whose resource does not end with a blank. It begins with a
    sign. -/
theorem trim_render {reference : Reference}
    (ends : ∃ c, reference.resource.getLast? = some c ∧ Text.isBlank c = false) :
    Text.trim reference.render = reference.render := by
  obtain ⟨rest, shape⟩ := exists_cons_render reference
  obtain ⟨last, ending, solid⟩ := ends
  rw [Text.trim, Text.trimBoth, Text.trimStart_of_head, Text.trimEnd_of_last]
  · intro c final
    rw [render, key, Key.render, ← List.append_assoc, List.getLast?_append, ending,
      Option.some_or, Option.some.injEq] at final
    exact final ▸ solid
  · intro c first
    rw [shape, List.head?_cons, Option.some.injEq] at first
    exact first ▸ rfl

/-- A text that a reference with a blank inside is written as is no reference. It is read as a
    whole, and the blank is refused. -/
theorem parse_render_of_blank {reference : Reference}
    (named : Name.accepts reference.protocol = true)
    (ends : ∃ c, reference.resource.getLast? = some c ∧ Text.isBlank c = false)
    (blank : ∃ c ∈ reference.resource, Text.isBlank c = true) :
    parse reference.render = .error (.invalidReference reference.render) := by
  obtain ⟨inner, inside, white⟩ := blank
  have holds : reference.resource.any Text.isBlank = true :=
    List.any_eq_true.mpr ⟨inner, inside, white⟩
  rw [parse, trim_render ends, read?_render_eq named (List.ne_nil_of_mem inside), if_pos holds]

end Reference

end RoleWeave
