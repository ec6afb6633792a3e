import RoleWeave.Proofs.Library.Resolution
import RoleWeave.Proofs.Library.Scanned
import RoleWeave.Registry.Manifest

/-!
# Bare paths

A descriptor may give a bare path instead of a reference. There are two ways in which such a path
comes to its location: a manifest that is bound to a protocol writes it as a reference to that
protocol, and a catalogue looks for it in its default location. The first way goes through the text
of a reference, in which no blank may stand, and keeps the path as it is. The second takes the path
as it is given, but for a marker in front of it. So they agree on a path that has neither a blank
inside nor a marker in front, and on no other: `binding_agrees_iff`.
-/

namespace RoleWeave

/-- A bound manifest writes a bare path as a reference, with the blanks around the path left out.
    Nothing else about the descriptor changes. -/
theorem Manifest.reference_bind {location : Text} {descriptor : Descriptor}
    (said : Text.trim descriptor.reference ≠ [])
    (bare : ¬ Key.separator <:+: Text.trim descriptor.reference) :
    (bind location descriptor).reference =
      (Reference.plain location (Text.trim descriptor.reference)).render := by
  have unseparated : Text.holds (Text.trim descriptor.reference) Key.separator = false := by
    rw [Bool.eq_false_iff]
    exact fun held => bare (Text.holds_iff.mp held)
  rw [bind]
  simp [said, unseparated]

namespace Library

/-- Two readings come to the same: to one resource of one protocol, or to the same kind of fault. -/
inductive Agree : Except Fault Reference → Except Fault Reference → Prop where
  | found {first second : Reference} (same : first.key = second.key) :
      Agree (.ok first) (.ok second)
  | refused {first second : Fault} (kind : first.ctorIdx = second.ctorIdx) :
      Agree (.error first) (.error second)

/-- A character of a marker is not blank. So a marker in front of a path is still there when the
    path has been trimmed. -/
theorem isBlank_of_isMarker {c : Char} (marker : isMarker c = true) : Text.isBlank c = false := by
  simp only [isMarker, Bool.or_eq_true, beq_iff_eq] at marker
  rcases marker with (rfl | rfl) | rfl <;> decide

/-- A path is left as it is without a marker exactly if it begins with none. -/
theorem trimStart_isMarker_eq_iff {path : Text} :
    Text.trimStart isMarker path = path ↔ ∀ c, path.head? = some c → isMarker c = false := by
  constructor
  · intro same c first
    exact Text.head_trimStart (same.symm ▸ first)
  · exact Text.trimStart_of_head

section Bare

variable {location : Text} {descriptor : Descriptor}

/-- A catalogue takes a bare path without the marker in front of it. If something is left, it is
    never refused. -/
theorem target_unbound (protocol : Text)
    (bare : ¬ Key.separator <:+: Text.trim descriptor.reference)
    (left : Text.trimStart isMarker (Text.trim descriptor.reference) ≠ []) :
    target protocol location descriptor.reference =
      .ok (Reference.plain location
        (Text.trimStart isMarker (Text.trim descriptor.reference))) :=
  target_of_points (.path bare left)

/-- A bound path without blanks inside is looked for as it is, with any marker in front of it. The
    marker of the reference that was written stands before the protocol, and the one of the path is
    part of it. -/
theorem target_bound (protocol defaultLocation : Text) (named : Name.accepts location = true)
    (said : Text.trim descriptor.reference ≠ [])
    (bare : ¬ Key.separator <:+: Text.trim descriptor.reference)
    (solid : ∀ c ∈ Text.trim descriptor.reference, Text.isBlank c = false) :
    target protocol defaultLocation (Manifest.bind location descriptor).reference =
      .ok (Reference.plain location (Text.trim descriptor.reference)) := by
  rw [Manifest.reference_bind said bare]
  exact target_render protocol defaultLocation named said solid

/-- A bound path with a blank inside is refused. It is written into a reference, and no reference
    with a blank in it can be read. -/
theorem target_bound_of_blank (protocol defaultLocation : Text)
    (named : Name.accepts location = true)
    (bare : ¬ Key.separator <:+: Text.trim descriptor.reference)
    (blank : ∃ c ∈ Text.trim descriptor.reference, Text.isBlank c = true) :
    ∃ reason, target protocol defaultLocation (Manifest.bind location descriptor).reference =
      .error (.invalidReference reason) := by
  obtain ⟨inner, inside, white⟩ := blank
  have said : Text.trim descriptor.reference ≠ [] := List.ne_nil_of_mem inside
  have ends : ∃ c, (Text.trim descriptor.reference).getLast? = some c ∧
      Text.isBlank c = false :=
    ⟨_, List.getLast?_eq_some_getLast said,
      Text.last_trimEnd (List.getLast?_eq_some_getLast said)⟩
  rw [Manifest.reference_bind said bare, target_of_render _ _ (Reference.trim_render ends)]
  exact ⟨_, Reference.parse_render_of_blank named ends ⟨inner, inside, white⟩⟩

/-- Binding a bare path to a location and leaving it to a catalogue with that default location come
    to the same exactly if no blank is inside the path and no marker in front of it. Then both look
    for the path as it is given.

    Proof: a path with a blank inside is refused when it is bound. The catalogue refuses a path only
    if nothing but a marker is there, and a marker has no blank, so the two do not agree. A path
    without a blank is looked for as it is when it is bound, and without its marker by the
    catalogue; both are paths of the same location, so they agree exactly if there is no marker to
    leave out. -/
theorem binding_agrees_iff (named : Name.accepts location = true)
    (said : Text.trim descriptor.reference ≠ [])
    (bare : ¬ Key.separator <:+: descriptor.reference) (protocol defaultLocation : Text) :
    Agree (target protocol defaultLocation (Manifest.bind location descriptor).reference)
        (target protocol location descriptor.reference) ↔
      (∀ c ∈ Text.trim descriptor.reference, Text.isBlank c = false) ∧
        ∀ c, (Text.trim descriptor.reference).head? = some c → isMarker c = false := by
  have trimmed : ¬ Key.separator <:+: Text.trim descriptor.reference :=
    fun separated => bare (separated.trans (Text.trim_infix descriptor.reference))
  rw [← trimStart_isMarker_eq_iff]
  by_cases solid : ∀ c ∈ Text.trim descriptor.reference, Text.isBlank c = false
  · rw [target_bound protocol defaultLocation named said trimmed solid]
    by_cases left : Text.trimStart isMarker (Text.trim descriptor.reference) = []
    · -- A path that is a marker only is refused by the catalogue, and bound it is a path.
      obtain ⟨reason, refused⟩ :=
        @target_of_unreadable protocol location descriptor.reference
          (.inl (saysNothing_iff.mpr left))
      rw [refused]
      constructor
      · intro agree
        cases agree
      · rintro ⟨_, plain⟩
        exact absurd (plain.symm.trans left) said
    · rw [target_unbound protocol trimmed left]
      constructor
      · rintro (⟨same⟩)
        exact ⟨solid, (congrArg Key.id same).symm⟩
      · rintro ⟨_, plain⟩
        rw [plain]
        exact .found rfl
  · -- With a blank inside, binding fails; the catalogue takes what is left behind the marker.
    obtain ⟨c, inside, blank⟩ : ∃ c ∈ Text.trim descriptor.reference, Text.isBlank c = true := by
      simpa using solid
    have left : Text.trimStart isMarker (Text.trim descriptor.reference) ≠ [] := by
      intro none
      rw [isBlank_of_isMarker (saysNothing_iff.mpr none c inside)] at blank
      cases blank
    obtain ⟨reason, refused⟩ :=
      target_bound_of_blank protocol defaultLocation named trimmed ⟨c, inside, blank⟩
    rw [refused, target_unbound protocol trimmed left]
    constructor
    · intro agree
      cases agree
    · rintro ⟨unblank, _⟩
      exact absurd unblank solid

end Bare

/-- A manifest entry that gives a bare path. -/
def bareEntry (path : Text) : Descriptor :=
  Descriptor.plain "thought".toList "plain".toList path

/-- Blanks around a path do not matter, nor does a marker further on in it. -/
theorem spaced_path_agrees :
    Agree
      (target "thought".toList "package".toList
        (Manifest.bind "project".toList (bareEntry " notes/what?@home.md ".toList)).reference)
      (target "thought".toList "project".toList
        (bareEntry " notes/what?@home.md ".toList).reference) := by
  have said : Text.trim (bareEntry " notes/what?@home.md ".toList).reference ≠ [] := by decide
  have bare : ¬ Key.separator <:+: (bareEntry " notes/what?@home.md ".toList).reference := by
    rw [← Text.holds_iff]
    decide
  refine (binding_agrees_iff (by decide) said bare _ _).mpr ⟨?_, ?_⟩
  · exact Text.any_isBlank_eq_false_iff.mp (by decide)
  · intro c first
    cases first
    decide

/-- Two bare paths that are not blank: with a marker in front, binding looks for another path than
    the catalogue does, and with a blank inside it fails where the catalogue finds the path. -/
theorem marked_path_misbound :
    Name.accepts "project".toList = true ∧
    (∀ path ∈ ["@thought/plain.md".toList, "my notes.md".toList],
      Text.trim (bareEntry path).reference ≠ [] ∧
        Text.holds (bareEntry path).reference Key.separator = false) ∧
    target "thought".toList "package".toList
        (Manifest.bind "project".toList (bareEntry "@thought/plain.md".toList)).reference =
      .ok (Reference.plain "project".toList "@thought/plain.md".toList) ∧
    target "thought".toList "project".toList (bareEntry "@thought/plain.md".toList).reference =
      .ok (Reference.plain "project".toList "thought/plain.md".toList) ∧
    target "thought".toList "package".toList
        (Manifest.bind "project".toList (bareEntry "my notes.md".toList)).reference =
      .error (.invalidReference "@project://my notes.md".toList) ∧
    target "thought".toList "project".toList (bareEntry "my notes.md".toList).reference =
      .ok (Reference.plain "project".toList "my notes.md".toList) := by
  decide +kernel

end Library

end RoleWeave
