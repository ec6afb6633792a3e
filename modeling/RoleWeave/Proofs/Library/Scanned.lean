import RoleWeave.Proofs.Library.Rooted
import RoleWeave.Proofs.Reference.Reading
import RoleWeave.Proofs.Registry.Scanned

/-!
# Loading what was scanned

A scanned folder lists its files under references to the protocol of its shelf. Such a reference is
written in one place and read in others: it has to be found in the registry, to be read back from its
text, and to lead to a safe path. A path without blanks gets through exactly if it is in normal form
already, because the resource is then found at the path of its own file.
-/

namespace RoleWeave

namespace Library

/-- A library that knows what a scan of a folder of a pack finds. -/
def scanning (storage : Storage) (table : Table) (location name folder : Text) : Library :=
  ⟨storage, Registry.ofSources [Scan.source location (.pack name) folder], table⟩

section Scanning

variable {storage : Storage} {table : Table} {location name folder : Text} {paths : List Text}

/-- Such a library settles, and knows the files that are called after resources. Its one source
    answers at once, so the registry can be filled. -/
theorem settles_scanning (table : Table) (location : Text)
    (walked : storage.walk (.pack name) folder = .ok paths) :
    ∃ settled, Settles (scanning storage table location name folder) settled ∧
      settled.storage = storage ∧ settled.table = table ∧
      settled.registry.known = Index.empty.deliver location
        (paths.filterMap (Scan.described location (.pack name) storage)) := by
  obtain ⟨registry, filled, known⟩ :=
    Registry.fill_prompt location (Scan.discover_of_walk location walked)
  refine ⟨⟨storage, registry, table⟩, ?_, rfl, rfl, known⟩
  have same : (scanning storage table location name folder).registry.fill
      (scanning storage table location name folder).storage = (.ok (), registry) := filled
  unfold Settles fill
  rw [Step.run_of, same]
  rfl

/-- A written reference with nothing to trim is read as a reference. It has a separator between its
    protocol and its resource, so it is not taken for a path. -/
theorem target_of_render (protocol defaultLocation : Text) {reference : Reference}
    (whole : Text.trim reference.render = reference.render) :
    target protocol defaultLocation reference.render = Reference.parse reference.render := by
  have separated : Text.holds reference.render Key.separator = true := by
    rw [Text.holds_iff]
    exact ⟨reference.loading.marker ++ reference.protocol, reference.resource,
      by simp [Reference.render, Reference.key, Key.render]⟩
  rw [target, whole, if_pos separated]

/-- A reference that was written with a name and a path without blanks is read as it was meant.
    Printing and reading are inverse for such references. -/
theorem target_render (protocol defaultLocation : Text) {path : Text}
    (named : Name.accepts location = true) (nonempty : path ≠ [])
    (solid : ∀ c ∈ path, Text.isBlank c = false) :
    target protocol defaultLocation (Reference.plain location path).render =
      .ok (Reference.plain location path) := by
  rw [target_of_render _ _ (Text.trim_of_solid (Reference.solid_render named solid))]
  exact Reference.parse_render named nonempty solid

/-- A resource is looked for where the last file that is called after it is.

    Proof: of all files that are called after the resource the index knows the last one, since later
    definitions win. Its descriptor has the path of the file as a written reference, which is read
    back because the path has no blank, and the protocol of that reference is the directory. -/
theorem place_scanned {settled : Library}
    (known : settled.registry.known = Index.empty.deliver location
      (paths.filterMap (Scan.described location (.pack name) settled.storage)))
    (named : Name.accepts location = true)
    (directory : settled.table.resolver location = .ok (.directory (.pack name)))
    {kind defaultLocation : Text}
    (catalogue : settled.table.resolver kind = .ok (.catalogue defaultLocation))
    {before after : List Text} {last id : Text} (split : paths = before ++ last :: after)
    (called : Scan.Called last id kind) (final : ∀ other ∈ after, ¬ Scan.Called other id kind)
    (solid : ∀ c ∈ last, Text.isBlank c = false) (loading : Loading) :
    settled.place ⟨loading, kind, id⟩ =
      findOnShelf settled.storage location (.pack name) last := by
  have found : ∃ descriptor, settled.registry.known.find? kind id = some descriptor ∧
      descriptor.reference = (Reference.plain location last).render := by
    rw [known, Index.find?_deliver, split, Scan.find?_described called final]
    refine ⟨_, rfl, ?_⟩
    rw [(Descriptor.attributedTo_eq _ _).2, (Scan.describe_eq _ _ _ _ _ _).2]
  obtain ⟨descriptor, listed, written⟩ := found
  have pointed := target_render kind defaultLocation named called.nonempty solid
  unfold place
  simp only [catalogue, bind, Except.bind, resolveListed, listed, written, pointed]
  simp only [resolveLocation, Reference.plain, directory, bind, Except.bind]

/-- What is looked for at the path of a file is loaded from there exactly if the path is in normal
    form, since the location has its path in normal form.

    Proof: what is loaded comes from the normalized path, so if it is the path of the file then that
    is in normal form. Conversely a path in normal form is normalized to itself; there is something
    at it, and it can be read. -/
theorem loads_there_iff_proper {library settled : Library} (settles : Settles library settled)
    {reference : Reference} {shelf : Shelf} {path content : Text}
    (placed : settled.place reference = findOnShelf settled.storage location shelf path)
    (nonempty : path ≠ []) (held : settled.storage.holds shelf path = .ok true)
    (stored : settled.storage.read shelf path = .ok content) :
    (∃ left, (load reference).run library =
        (.ok ⟨reference, ⟨location, path, shelf⟩, content⟩, left)) ↔
      Path.Proper path := by
  rw [resolved_of_settles settles, placed]
  constructor
  · rintro ⟨left, loaded⟩
    cases found : findOnShelf settled.storage location shelf path with
    | error fault =>
      rw [found] at loaded
      cases loaded
    | ok place =>
      obtain ⟨normalized, admitted, _, _, rfl⟩ := findOnShelf_eq_ok_iff.mp found
      have proper : Path.Proper normalized := Path.proper_of_normalize admitted
      rw [found] at loaded
      dsimp only at loaded
      cases served : settled.readFor reference ⟨location, normalized, shelf⟩ with
      | error fault =>
        rw [served] at loaded
        cases loaded
      | ok text =>
        rw [served] at loaded
        cases loaded
        exact proper
  · intro proper
    have found : findOnShelf settled.storage location shelf path = .ok ⟨location, path, shelf⟩ :=
      findOnShelf_eq_ok_iff.mpr ⟨path, proper.normalize_eq, nonempty, held, rfl⟩
    refine ⟨settled, ?_⟩
    rw [found]
    simp only [readFor, stored]

/-- Scanned resources are loaded as far as their paths are safe. A resource after which a file of
    the walk is called is looked for where the last such file is. If no blank is in the path of that
    file, its content is loaded from there exactly if the path is in normal form: a path that has a
    colon is refused, and one that has to be rewritten leads elsewhere.

    Proof: the library settles, and the resource is looked for at the path of the last file that is
    called after it, `place_scanned`. The file was found by the walk, so there is something at its
    path and it can be read, and `loads_there_iff_proper` applies. -/
theorem scanned_loads_iff_proper {root : Text} {files : List (Text × Text)}
    (filled : storage.pack name = Pack.filled root files)
    (named : Name.accepts location = true)
    (directory : table.resolver location = .ok (.directory (.pack name)))
    (walked : storage.walk (.pack name) folder = .ok paths)
    (catalogues : ∀ path ∈ paths, ∀ id kind, Scan.Called path id kind → kind ≠ location →
      ∃ defaultLocation, table.resolver kind = .ok (.catalogue defaultLocation)) :
    ∀ path ∈ paths, ∀ id kind, Scan.Called path id kind → kind ≠ location → ∀ loading,
      ∃ before last after content, paths = before ++ last :: after ∧ Scan.Called last id kind ∧
        (∀ other ∈ after, ¬ Scan.Called other id kind) ∧
        storage.read (.pack name) last = .ok content ∧
        ((∀ c ∈ last, Text.isBlank c = false) →
          ((∃ left,
              (load ⟨loading, kind, id⟩).run (scanning storage table location name folder) =
                (.ok ⟨⟨loading, kind, id⟩, ⟨location, last, .pack name⟩, content⟩, left)) ↔
            Path.Proper last)) := by
  intro path member id kind called other loading
  obtain ⟨before, last, after, split, lastCalled, final⟩ := Scan.exists_last member called
  have among : last ∈ paths := by
    rw [split]
    exact List.mem_append_right before List.mem_cons_self
  obtain ⟨defaultLocation, catalogue⟩ := catalogues last among id kind lastCalled other
  obtain ⟨settled, settles, rfl, rfl, known⟩ :=
    settles_scanning table location walked
  have tidy : (settled.storage.pack name).Tidy := by
    rw [filled]
    exact Pack.tidy_filled root files
  obtain ⟨content, stored, held⟩ := tidy.read (Storage.key_of_walk walked last among)
  refine ⟨before, last, after, content, split, lastCalled, final, stored, ?_⟩
  intro solid
  exact loads_there_iff_proper settles
    (place_scanned known named directory catalogue split lastCalled final solid loading)
    lastCalled.nonempty (congrArg Except.ok held) stored

end Scanning

/-- The protocols of a pack of notes and of the thoughts that are found among them. -/
def notesTable : Table :=
  (Table.empty.register "notes".toList (.directory (.pack "files".toList))).register
    "thought".toList (.catalogue Table.defaultLocation)

/-- Two notes that are called after the same thought. -/
def notes : Storage :=
  Storage.empty.setPack "files".toList (Pack.filled Pack.defaultRoot
    [("drafts/calm.thought.md".toList, "Stay calm.".toList),
      ("calm.thought.md".toList, "Breathe.".toList)])

/-- Of the two notes with one name, the later one of the walk is loaded.

    Which of them is registered last is told by `scanned_loads_iff_proper`, and not by running the
    scan. No other place in the walk is the last, because the later note has the same name. -/
theorem later_note_loads :
    notes.walk (.pack "files".toList) [] =
      .ok ["calm.thought.md".toList, "drafts/calm.thought.md".toList] ∧
    ∃ left,
      (load (Reference.plain "thought".toList "calm".toList)).run
          (scanning notes notesTable "notes".toList "files".toList []) =
        (.ok ⟨Reference.plain "thought".toList "calm".toList,
          ⟨"notes".toList, "drafts/calm.thought.md".toList, .pack "files".toList⟩,
          "Stay calm.".toList⟩, left) := by
  have walked : notes.walk (.pack "files".toList) [] =
      .ok ["calm.thought.md".toList, "drafts/calm.thought.md".toList] := rfl
  have filled : notes.pack "files".toList = Pack.filled Pack.defaultRoot _ := rfl
  have first : Scan.Called "calm.thought.md".toList "calm".toList "thought".toList :=
    ⟨rfl, by decide, by decide, List.all_eq_true.mp rfl⟩
  have second : Scan.Called "drafts/calm.thought.md".toList "calm".toList "thought".toList :=
    ⟨rfl, by decide, by decide, List.all_eq_true.mp rfl⟩
  have catalogues : ∀ path ∈ ["calm.thought.md".toList, "drafts/calm.thought.md".toList],
      ∀ id kind, Scan.Called path id kind → kind ≠ "notes".toList →
        ∃ defaultLocation, notesTable.resolver kind = .ok (.catalogue defaultLocation) := by
    intro path member id kind called _
    have read := Scan.resourceName?_eq_some_iff.mpr called
    simp only [List.mem_cons, List.not_mem_nil, or_false] at member
    obtain rfl | rfl := member <;> cases read <;> exact ⟨Table.defaultLocation, rfl⟩
  obtain ⟨before, last, after, content, split, _, final, stored, loads⟩ :=
    scanned_loads_iff_proper filled (by decide) rfl walked catalogues
      _ List.mem_cons_self _ _ first (by decide) .standard
  have latest : last = "drafts/calm.thought.md".toList := by
    rcases before with _ | ⟨_, _ | ⟨_, beyond⟩⟩
    · cases split
      exact absurd second (final _ List.mem_cons_self)
    · cases split
      rfl
    · simp at split
  subst latest
  have proper : Path.Proper "drafts/calm.thought.md".toList :=
    ⟨by decide, by decide, by decide, by decide⟩
  obtain ⟨left, loaded⟩ := (loads (Text.any_isBlank_eq_false_iff.mp rfl)).mpr proper
  cases stored
  exact ⟨walked, left, loaded⟩

/-- Notes whose paths hold a colon, a backslash or a blank. -/
def oddNotes : Storage :=
  Storage.empty.setPack "files".toList (Pack.filled Pack.defaultRoot
    [("a:b.thought.md".toList, "Colon".toList), ("a\\b.thought.md".toList, "Backslash".toList),
      ("my drafts/calm.thought.md".toList, "Blank".toList)])

/-- They are found and listed, and cannot be loaded. Their names are those of resources, but a path
    with a colon, a backslash or a blank is not read back as it is. -/
theorem odd_notes_never_load :
    ∃ paths, oddNotes.walk (.pack "files".toList) [] = .ok paths ∧
      ∀ id ∈ ["a:b".toList, "a\\b".toList, "calm".toList],
        (∃ path ∈ paths, Scan.Called path id "thought".toList) ∧
        ∃ fault left,
          (load (Reference.plain "thought".toList id)).run
            (scanning oddNotes notesTable "notes".toList "files".toList []) =
              (.error fault, left) := by
  refine ⟨_, rfl, ?_⟩
  intro id member
  simp only [List.mem_cons, List.not_mem_nil, or_false] at member
  obtain rfl | rfl | rfl := member
  · have called : Scan.Called "a:b.thought.md".toList "a:b".toList "thought".toList :=
      ⟨rfl, by decide, by decide, List.all_eq_true.mp rfl⟩
    exact ⟨⟨_, by decide, called⟩, _, _, rfl⟩
  · have called : Scan.Called "a\\b.thought.md".toList "a\\b".toList "thought".toList :=
      ⟨rfl, by decide, by decide, List.all_eq_true.mp rfl⟩
    exact ⟨⟨_, by decide, called⟩, _, _, rfl⟩
  · have called : Scan.Called "my drafts/calm.thought.md".toList "calm".toList "thought".toList :=
      ⟨rfl, by decide, by decide, List.all_eq_true.mp rfl⟩
    exact ⟨⟨_, by decide, called⟩, _, _, rfl⟩

end Library

end RoleWeave
