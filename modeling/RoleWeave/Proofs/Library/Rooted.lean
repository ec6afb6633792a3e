import RoleWeave.Proofs.Library.Faults
import RoleWeave.Proofs.Storage.NormalForm
import RoleWeave.Proofs.Text.Trimming

/-!
# No reference escapes its root

Whatever a reference says, and whatever the registry says about it, the location that it is resolved
to lies on the shelf of a directory, at a path in normal form below the root of that shelf, and there
is something at it.
-/

namespace RoleWeave

/-- The root of a shelf, as it is shown. -/
def Storage.root (storage : Storage) : Shelf → Text
  | .pack name => (storage.pack name).root
  | .folder root => root

namespace Library

/-- A location lies below the root of the directory that it names. -/
structure Rooted (library : Library) (location : Location) : Prop where
  nonempty : location.path ≠ []
  proper : Path.Proper location.path
  directory : library.table.resolver location.protocol = .ok (.directory location.shelf)
  held : library.storage.holds location.shelf location.path = .ok true
  absolute : library.absolute location =
    if library.storage.root location.shelf = [] then location.path
    else Text.trimEnd (· == '/') (library.storage.root location.shelf) ++ '/' :: location.path

/-- The place of a path in normal form below a root. Such a path does not begin with a slash, so it
    is put behind the root as it is. -/
theorem absolute_of_proper (library : Library) {location : Location}
    (proper : Path.Proper location.path) :
    library.absolute location =
      if library.storage.root location.shelf = [] then location.path
      else Text.trimEnd (· == '/') (library.storage.root location.shelf) ++
        '/' :: location.path := by
  have bare : Text.trimStart (· == '/') location.path = location.path := by
    apply Text.trimStart_of_head
    intro c first
    have other : c ≠ '/' := by
      rintro rfl
      exact proper.relative first
    simpa using other
  unfold absolute Storage.locate Storage.root
  cases location.shelf <;> simp [Path.locate, bare]

/-- A location is rooted in a library as far as its storage and its protocols go. The registry does
    not matter. -/
theorem Rooted.of_same {library other : Library} {location : Location}
    (rooted : library.Rooted location) (storage : other.storage = library.storage)
    (table : other.table = library.table) : other.Rooted location where
  nonempty := rooted.nonempty
  proper := rooted.proper
  directory := by
    rw [table]
    exact rooted.directory
  held := by
    rw [storage]
    exact rooted.held
  absolute := absolute_of_proper other rooted.proper

/-- A path leads to a location on a shelf exactly if it can be normalized, something is left of it
    and there is something at what is left. The location then has the normalized path. -/
theorem findOnShelf_eq_ok_iff {storage : Storage} {protocol path : Text} {shelf : Shelf}
    {location : Location} :
    findOnShelf storage protocol shelf path = .ok location ↔
      ∃ normalized, Path.normalize path = .ok normalized ∧ normalized ≠ [] ∧
        storage.holds shelf normalized = .ok true ∧ location = ⟨protocol, normalized, shelf⟩ := by
  constructor
  · intro found
    obtain ⟨normalized, admitted, found⟩ := ok_of_bind found
    split at found
    · cases found
    · rename_i nonempty
      obtain ⟨there, held, found⟩ := ok_of_bind found
      cases there with
      | false => cases found
      | true =>
        cases found
        exact ⟨normalized, admitted, by simpa using nonempty, held, rfl⟩
  · rintro ⟨normalized, admitted, nonempty, held, rfl⟩
    simp [findOnShelf, admitted, nonempty, held, bind, Except.bind]

/-- The location of a reference is rooted in the directory of its protocol. Catalogues and protocols
    that never answer give no location. -/
theorem rooted_of_resolveLocation {library : Library} {reference : Reference} {location : Location}
    (resolved : library.resolveLocation reference = .ok location) : library.Rooted location := by
  obtain ⟨resolver, known, resolved⟩ := ok_of_bind resolved
  cases resolver with
  | catalogue defaultLocation => cases resolved
  | failing fault => cases resolved
  | directory shelf =>
    obtain ⟨path, admitted, nonempty, held, rfl⟩ := findOnShelf_eq_ok_iff.mp resolved
    have proper : Path.Proper path := Path.proper_of_normalize admitted
    exact ⟨nonempty, proper, known, held, absolute_of_proper library proper⟩

/-- So is what the registry leads to. It leads to a reference, which is resolved like any other. -/
theorem rooted_of_resolveListed {library : Library} {protocol defaultLocation id : Text}
    {location : Location}
    (resolved : library.resolveListed protocol defaultLocation id = .ok location) :
    library.Rooted location := by
  unfold resolveListed at resolved
  split at resolved
  · cases resolved
  · obtain ⟨reference, _, resolved⟩ := ok_of_bind resolved
    exact rooted_of_resolveLocation resolved

/-- So is whatever a reference is resolved to. Filling the registry changes neither the storage nor
    the protocols. -/
theorem rooted_of_resolve {library after : Library} {reference : Reference} {location : Location}
    (resolved : (resolve reference).run library = (.ok location, after)) :
    library.Rooted location := by
  obtain ⟨resolver, looked, known, resolved⟩ := Step.ok_of_bind resolved
  have same : looked = library := (congrArg Prod.snd known).symm
  subst same
  cases resolver with
  | catalogue defaultLocation =>
    obtain ⟨_, filled, ready, resolved⟩ := Step.ok_of_bind resolved
    have listed := rooted_of_resolveListed (congrArg Prod.fst resolved)
    have left : filled = (fill.run looked).2 := (congrArg Prod.snd ready).symm
    subst left
    exact listed.of_same rfl rfl
  | directory shelf => exact rooted_of_resolveLocation (congrArg Prod.fst resolved)
  | failing fault => exact rooted_of_resolveLocation (congrArg Prod.fst resolved)

/-- No reference escapes its root. A path is admitted exactly if it neither begins with a slash or a
    backslash nor holds a colon or a segment of two dots; what is left of it are its other segments
    that move, which is a path in normal form and stays as it is when it is normalized again.
    Whatever the registry holds, the location of any reference lies in a directory, at such a path
    below its root, and there is something at it.

    Proof: the first two parts are what normalizing does to the segments of a path, which are those
    between slashes of either kind. A location is only ever made by looking for a normalized path on
    the shelf of a directory, directly or by way of the registry. -/
theorem no_reference_escapes :
    (∀ path : Text,
      (∃ result, Path.normalize path = .ok result) ↔
        (∀ c, path.head? = some c → c ≠ '/' ∧ c ≠ '\\') ∧ ':' ∉ path ∧
          "..".toList ∉ path.splitOnP (fun c => c == '/' || c == '\\')) ∧
    (∀ path result : Text, Path.normalize path = .ok result →
      result = List.intercalate "/".toList
          ((path.splitOnP (fun c => c == '/' || c == '\\')).filter
            (fun segment => segment ≠ [] ∧ segment ≠ ".".toList)) ∧
        Path.Proper result ∧ Path.normalize result = .ok result) ∧
    ∀ (library : Library) (reference : Reference) (location : Location),
      (library.resolveLocation reference = .ok location ∨
        ∃ after, (resolve reference).run library = (.ok location, after)) →
      library.Rooted location := by
  have segments : ∀ path : Text,
      Path.segments path = path.splitOnP (fun c => c == '/' || c == '\\') :=
    fun path => Text.split_eq_splitOnP Path.isSlash path
  refine ⟨?_, ?_, ?_⟩
  · intro path
    rw [← segments, ← and_assoc, ← Path.isAbsolute_eq_false_iff]
    constructor
    · rintro ⟨result, admitted⟩
      obtain ⟨relative, stays, _⟩ := Path.normalize_eq_ok_iff.mp admitted
      exact ⟨relative, stays⟩
    · rintro ⟨relative, stays⟩
      exact ⟨_, Path.normalize_eq_ok_iff.mpr ⟨relative, stays, rfl⟩⟩
  · intro path result admitted
    have proper : Path.Proper result := Path.proper_of_normalize admitted
    refine ⟨?_, proper, proper.normalize_eq⟩
    rw [← segments, (Path.normalize_eq_ok_iff.mp admitted).2.2, Text.join]
    congr 1
    apply List.filter_congr
    intro segment _
    rw [Bool.eq_iff_iff, Path.moves_iff, decide_eq_true_eq]
    rfl
  · rintro library reference location (resolved | ⟨after, resolved⟩)
    · exact rooted_of_resolveLocation resolved
    · exact rooted_of_resolve resolved

/-- A library with a file, and with a resource whose bare reference winds its way to it. -/
def windingLibrary : Library where
  storage := Storage.empty.setPack "files".toList
    ⟨"/work//".toList, [("notes/calm.md".toList, "Stay calm.".toList)]⟩
  registry :=
    { Registry.ofSources [] with
      index := some ⟨[Descriptor.plain "thought".toList "calm".toList
        " @.\\notes//./calm.md".toList]⟩
      phase := .ready }
  table := (Table.empty.register "package".toList (.directory (.pack "files".toList))).register
    "thought".toList (.catalogue "package".toList)

/-- The resource is resolved to the plain path of the file, below the root of its directory. The
    entry refers to it with backslashes, an empty segment and dots. -/
theorem winding_rooted :
    ∃ location after,
      (resolve (Reference.plain "thought".toList "calm".toList)).run windingLibrary =
        (.ok location, after) ∧
      location.path = "notes/calm.md".toList ∧
      windingLibrary.absolute location = "/work/notes/calm.md".toList ∧
      windingLibrary.Rooted location := by
  have found : ((resolve (Reference.plain "thought".toList "calm".toList)).run
      windingLibrary).1.toOption =
        some ⟨"package".toList, "notes/calm.md".toList, .pack "files".toList⟩ := by
    decide +kernel
  rcases ran : (resolve (Reference.plain "thought".toList "calm".toList)).run windingLibrary with
    ⟨fault | location, after⟩
  · rw [ran] at found
    cases found
  · rw [ran] at found
    have rooted := no_reference_escapes.2.2 _ _ _ (.inr ⟨after, ran⟩)
    cases found
    exact ⟨_, after, rfl, rfl, by decide +kernel, rooted⟩

end Library

end RoleWeave
