import RoleWeave.Proofs.Storage.Below
import RoleWeave.Proofs.Storage.NormalForm

/-!
# Walks that come through

A walk lists the folders below a folder one after another. It comes to an end if the way to no
document leads it back: two slashes in a row name the folder before them once more, and a single dot
at the root is the root again. A folder below which there are documents, none of them in this way, is
`Walkable`, and so are the folders in it.

Every listing of a walkable folder takes a name from what is still under the pending folders, so the
slashes there bound the number of listings. What is found are all documents below the folder, each of
them once, because they are those in it and those below the folders in it.
-/

namespace RoleWeave

/-- Inserting a text adds it once, wherever it is put. -/
theorem insertSorted_perm (text : Text) (texts : List Text) :
    (insertSorted text texts).Perm (text :: texts) := by
  induction texts with
  | nil => exact .refl _
  | cons other rest ih =>
    rw [insertSorted]
    split
    · exact .refl _
    · exact (ih.cons other).trans (.swap text other rest)

/-- Sorting changes nothing but the order. The texts are inserted one after the other, and each
    insertion adds its text to those that were sorted before. -/
theorem sorted_perm (texts : List Text) : (sorted texts).Perm texts := by
  have folded : ∀ done : List Text,
      (texts.foldl (fun done text => insertSorted text done) done).Perm (done ++ texts) := by
    induction texts with
    | nil =>
      intro done
      rw [List.append_nil]
      exact .refl _
    | cons text rest ih =>
      intro done
      rw [List.foldl_cons]
      refine (ih _).trans ?_
      exact ((insertSorted_perm text done).append_right rest).trans List.perm_middle.symm
  exact folded []

/-- In a list that is in order, no text comes before one that stands in front of it. -/
def Ordered (texts : List Text) : Prop :=
  texts.Pairwise (fun first second => ¬ second < first)

/-- Inserting keeps a list in order. The text stands before the first that it comes before. -/
theorem insertSorted_ordered {text : Text} {texts : List Text} (ordered : Ordered texts) :
    Ordered (insertSorted text texts) := by
  induction texts with
  | nil => simp [insertSorted, Ordered]
  | cons other rest ih =>
    obtain ⟨before, tail⟩ := List.pairwise_cons.mp ordered
    rw [insertSorted]
    split
    · rename_i smaller
      refine List.pairwise_cons.mpr ⟨?_, ordered⟩
      intro tested member
      rcases List.mem_cons.mp member with rfl | later
      · exact List.lt_asymm smaller
      · exact fun less => before tested later (List.lt_trans less smaller)
    · rename_i greater
      refine List.pairwise_cons.mpr ⟨?_, ih tail⟩
      intro tested member
      rcases mem_insertSorted.mp member with rfl | later
      · exact greater
      · exact before tested later

/-- Different texts are sorted into ascending order. In a list in order none comes before one that
    stands in front of it, and of two different texts one comes before the other. -/
theorem sorted_ascending {texts : List Text} (distinct : texts.Nodup) :
    (sorted texts).Pairwise (· < ·) := by
  have folded : ∀ done : List Text, Ordered done →
      Ordered (texts.foldl (fun done text => insertSorted text done) done) := by
    clear distinct
    induction texts with
    | nil => exact fun done ordered => ordered
    | cons text rest ih => exact fun done ordered => ih _ (insertSorted_ordered ordered)
  have ordered : Ordered (sorted texts) := folded [] .nil
  have apart : (sorted texts).Nodup := (sorted_perm texts).nodup_iff.mpr distinct
  refine (ordered.and (List.nodup_iff_pairwise_ne.mp apart)).imp ?_
  rintro first second ⟨before, other⟩
  by_contra notBefore
  exact other (List.le_antisymm (List.not_lt.mp before) (List.not_lt.mp notBefore))

/-- A folder that can be listed gives way to the folders in it, and the files in it are found. These
    folders come next, before those that were pending. -/
theorem walkWithin_listed {list : Text → Except Fault (List Entry)} {folder : Text}
    {entries : List Entry} (listed : list folder = .ok entries) (budget : Nat)
    (pending files : List Text) :
    walkWithin list (budget + 1) (folder :: pending) files =
      walkWithin list budget
        ((Entry.folderNames entries).map (Pack.opening folder ++ ·) ++ pending)
        (files ++ (Entry.fileNames entries).map (Pack.opening folder ++ ·)) := by
  have path : Entry.path folder = fun entry => Pack.opening folder ++ entry.name := by
    funext entry
    exact Pack.path_of_entry folder entry
  rw [walkWithin, listed, Entry.folderNames, Entry.fileNames, List.map_map, List.map_map, path]
  rfl

namespace Text

/-- In front of a slash, a name without slashes makes no two slashes in a row. -/
theorem holds_slashes_name {name : Text} (slashless : '/' ∉ name) (later : Text) :
    holds (name ++ '/' :: later) ['/', '/'] = holds ('/' :: later) ['/', '/'] := by
  induction name with
  | nil => rfl
  | cons c rest ih =>
    rw [List.mem_cons, not_or] at slashless
    rw [List.cons_append, holds, ih slashless.2]
    simp [slashless.1]

/-- Behind a slash neither does a name that is not empty. It keeps the slashes around it apart. -/
theorem holds_slashes_behind {name : Text} (slashless : '/' ∉ name) (named : name ≠ [])
    (later : Text) :
    holds ('/' :: (name ++ '/' :: later)) ['/', '/'] = holds ('/' :: later) ['/', '/'] := by
  cases name with
  | nil => exact absurd rfl named
  | cons c rest =>
    rw [holds, holds_slashes_name slashless]
    rw [List.mem_cons, not_or] at slashless
    simp [slashless.1]

/-- A name without slashes that is cut at a dot before a slash is that dot. -/
theorem eq_here_of_prefix {name later : Text} (slashless : '/' ∉ name)
    (begins : ['.', '/'] <+: name ++ '/' :: later) : name = Path.here := by
  cases name with
  | nil => simp at begins
  | cons c rest =>
    cases rest with
    | nil =>
      simp only [List.cons_append, List.nil_append, List.cons_prefix_cons] at begins
      rw [Path.here, begins.1]
    | cons d others =>
      simp only [List.cons_append, List.cons_prefix_cons] at begins
      obtain ⟨_, rfl, _⟩ := begins
      simp at slashless

end Text

namespace Pack

/-- Whether the way from a folder to a document leads back to a folder that it has passed. -/
def returns (folder key : Text) : Bool :=
  (Text.after? (opening folder) key).any (fun rest =>
    Text.holds ('/' :: rest) ['/', '/'] || isRoot folder && ['.', '/'].isPrefixOf rest)

/-- Only a document below a folder can lead back to it: by two slashes in a row behind the folder,
    or by a single dot at the root. -/
theorem returns_iff {folder key : Text} :
    returns folder key = true ↔ ∃ rest, key = opening folder ++ rest ∧
      (Text.holds ('/' :: rest) ['/', '/'] = true ∨
        isRoot folder = true ∧ ['.', '/'] <+: rest) := by
  rw [returns, Option.any_eq_true]
  simp only [Bool.or_eq_true, Bool.and_eq_true, List.isPrefixOf_iff_prefix]
  constructor
  · rintro ⟨rest, found, back⟩
    exact ⟨rest, Text.eq_append_of_after? found, back⟩
  · rintro ⟨rest, rfl, back⟩
    exact ⟨rest, Text.after?_append _ _, back⟩

/-- What is not the root is neither empty nor a single dot. -/
theorem isRoot_eq_false_iff {path : Text} :
    isRoot path = false ↔ path ≠ [] ∧ path ≠ Path.here := by
  simp [isRoot]

/-- A named folder in a folder is not the root, unless it is called by a dot at the root. In any
    other folder its path has a slash and is longer than a dot. -/
theorem isRoot_child {folder name : Text} (named : name ≠ [])
    (elsewhere : isRoot folder = true → name ≠ Path.here) :
    isRoot (opening folder ++ name) = false := by
  rw [isRoot_eq_false_iff]
  cases root : isRoot folder with
  | true => simp [opening, root, named, elsewhere root]
  | false =>
    obtain ⟨nonempty, _⟩ := isRoot_eq_false_iff.mp root
    cases folder with
    | nil => exact absurd rfl nonempty
    | cons c rest => simp [opening, root, Path.here]

/-- A named folder in a trimmed folder is trimmed. At the root it is its name. -/
theorem trimmed_named {folder name : Text} (trimmed : Path.Trimmed folder)
    (slashless : '/' ∉ name) (named : name ≠ []) : Path.Trimmed (opening folder ++ name) := by
  cases root : isRoot folder with
  | true =>
    rw [opening, root, if_pos rfl, List.nil_append]
    exact Path.trimmed_name slashless
  | false =>
    have deeper : opening folder ++ name = folder ++ '/' :: name := by simp [opening, root]
    rw [deeper]
    exact trimmed.child (isRoot_eq_false_iff.mp root).1 named slashless

/-- From a folder in a folder the way leads back if it does from the folder.

    Proof: the key has the same rest below both, up to the name between them. That name is not empty
    and has no slash, so two slashes in a row stand behind both or behind neither. The folder in the
    folder is not the root, so a dot in front of a slash does not lead back from it. -/
theorem returns_child {folder name : Text} (slashless : '/' ∉ name) (named : name ≠ [])
    (deep : isRoot (opening folder ++ name) = false) (later : Text) :
    returns (opening folder ++ name) (opening folder ++ (name ++ '/' :: later)) =
      returns folder (opening folder ++ (name ++ '/' :: later)) := by
  have same : opening folder ++ (name ++ '/' :: later) =
      opening (opening folder ++ name) ++ later := by
    rw [opening_child deep]
    simp
  have elsewhere : ¬ (isRoot folder = true ∧ ['.', '/'] <+: name ++ '/' :: later) := by
    rintro ⟨root, begins⟩
    rw [opening, root, if_pos rfl, Text.eq_here_of_prefix slashless begins] at deep
    cases deep
  rw [Bool.eq_iff_iff, returns_iff, returns_iff]
  constructor
  · rintro ⟨rest, cut, back⟩
    rw [same, List.append_cancel_left_eq] at cut
    subst cut
    refine ⟨_, rfl, .inl ?_⟩
    rw [Text.holds_slashes_behind slashless named]
    simpa [deep] using back
  · rintro ⟨rest, cut, back⟩
    rw [List.append_cancel_left_eq] at cut
    subst cut
    refine ⟨later, same, .inl ?_⟩
    rw [← Text.holds_slashes_behind slashless named]
    exact back.resolve_right elsewhere

/-- A folder through which a walk comes: there are documents below it, unless it is the root, and the
    way to none of them leads back. -/
structure Walkable (pack : Pack) (folder : Text) : Prop where
  trimmed : Path.Trimmed folder
  there : isRoot folder = false → pack.under folder ≠ []
  straight : ∀ key ∈ pack.keys, returns folder key = false

/-- A folder that is the root, or below which there is a document, can be listed. -/
theorem listed_of_there {pack : Pack} {folder : Text} (trimmed : Path.Trimmed folder)
    (there : isRoot folder = false → pack.under folder ≠ []) :
    pack.list folder = .ok (Entry.listing ((pack.under folder).map Entry.ofRest)) := by
  rw [list_of_trimmed trimmed, if_neg]
  rintro ⟨deep, empty⟩
  exact there deep empty

/-- The folders in a walkable folder are walkable, and none of them is the root.

    Proof: a folder in the folder is there because a key goes on with its name and a slash. If the
    name were empty, two slashes would stand in a row in that key, and if it were a dot at the root,
    the way to that key would lead back; so it is named otherwise. Then the way to a key leads back
    from it only if it does from the folder (`returns_child`). -/
theorem Walkable.child {pack : Pack} {folder : Text} {entries : List Entry}
    (walkable : pack.Walkable folder) (listed : pack.list folder = .ok entries) :
    ∀ name ∈ Entry.folderNames entries, isRoot (opening folder ++ name) = false ∧
      pack.Walkable (opening folder ++ name) := by
  intro name member
  obtain ⟨slashless, later, inside⟩ := (mem_of_list walkable.trimmed listed name).2.mp member
  have known : opening folder ++ (name ++ '/' :: later) ∈ pack.keys := mem_under.mp inside
  have straight := walkable.straight _ known
  rw [Bool.eq_false_iff, ne_eq, returns_iff] at straight
  have named : name ≠ [] := by
    rintro rfl
    exact straight ⟨_, rfl, .inl rfl⟩
  have elsewhere : isRoot folder = true → name ≠ Path.here := by
    rintro root rfl
    exact straight ⟨_, rfl, .inr ⟨root, later, rfl⟩⟩
  have deep : isRoot (opening folder ++ name) = false := isRoot_child named elsewhere
  refine ⟨deep, trimmed_named walkable.trimmed slashless named, ?_, ?_⟩
  · intro _
    refine List.ne_nil_of_mem (a := later) (mem_under.mpr ?_)
    rw [opening_child deep]
    simpa using known
  · intro key known
    apply Bool.eq_false_iff.mpr
    intro back
    obtain ⟨rest, same, _⟩ := returns_iff.mp back
    rw [opening_child deep, List.append_assoc, List.append_assoc, List.singleton_append] at same
    subst same
    rw [returns_child slashless named deep, walkable.straight _ known] at back
    cases back

/-- How many listings a walk can make at most that has these folders before it. -/
def listings (pack : Pack) (folders : List Text) : Nat :=
  folders.length + (folders.flatMap pack.under).flatten.count '/'

/-- A name and a slash in front of each of some texts add a slash to each. The slashes of a name
    would only add to that. -/
theorem length_add_count_le (name : Text) (rests : List Text) :
    rests.length + rests.flatten.count '/' ≤
      (rests.map (fun rest => name ++ '/' :: rest)).flatten.count '/' := by
  induction rests with
  | nil => exact Nat.le_refl 0
  | cons rest others ih =>
    simp only [List.length_cons, List.flatten_cons, List.count_append, List.map_cons,
      List.count_cons_self] at ih ⊢
    omega

/-- The folders in a folder take no more listings than there are slashes in what leads to them. Each
    of them has something under it, which a slash leads to. -/
theorem listings_children {pack : Pack} {folder : Text} {names : List Text}
    (there : ∀ name ∈ names, pack.under (opening folder ++ name) ≠ []) :
    pack.listings (names.map (opening folder ++ ·)) ≤
      (names.flatMap (fun name => (pack.under (opening folder ++ name)).map
        (fun rest => name ++ '/' :: rest))).flatten.count '/' := by
  induction names with
  | nil => exact Nat.le_refl 0
  | cons name others ih =>
    obtain ⟨here, later⟩ := List.forall_mem_cons.mp there
    have counted := length_add_count_le name (pack.under (opening folder ++ name))
    have positive := List.length_pos_of_ne_nil here
    have rest := ih later
    simp only [listings, List.map_cons, List.length_cons, List.flatMap_cons, List.flatten_append,
      List.count_append, List.length_map] at rest ⊢
    omega

/-- To list a walkable folder leaves fewer listings to make. What was under it is under the folders
    in it, less a name and a slash each, and the folder itself is done. -/
theorem Walkable.listings_lt {pack : Pack} {folder : Text} {entries : List Entry}
    (walkable : pack.Walkable folder) (distinct : pack.keys.Nodup)
    (listed : pack.list folder = .ok entries) (pending : List Text) :
    pack.listings ((Entry.folderNames entries).map (opening folder ++ ·) ++ pending) <
      pack.listings (folder :: pending) := by
  have child := walkable.child listed
  have parts := under_perm distinct walkable.trimmed listed (fun name member =>
    (child name member).1)
  have counted := parts.flatten.count_eq '/'
  have fewer : pack.listings ((Entry.folderNames entries).map (opening folder ++ ·)) ≤ _ :=
    listings_children (fun name member => (child name member).2.there (child name member).1)
  simp only [listings, List.length_append, List.length_cons, List.flatMap_append, List.flatMap_cons,
    List.flatten_append, List.count_append] at counted fewer ⊢
  omega

/-- A walk with enough listings comes through walkable folders, and finds all documents below them,
    each of them once.

    Proof: by induction on the listings that may still be made. The folder in front is listed; the
    folders in it are walkable, and fewer listings are left to make (`Walkable.listings_lt`), so the
    rest of the walk comes through. What it finds are the files of the folder and what is below the
    folders in it, which is all below the folder (`below_perm`). -/
theorem walkWithin_of_walkable {pack : Pack} (distinct : pack.keys.Nodup) {budget : Nat}
    {pending : List Text} (walkable : ∀ folder ∈ pending, pack.Walkable folder)
    (enough : pack.listings pending ≤ budget) (files : List Text) :
    ∃ found, found.Perm (files ++ pending.flatMap pack.below) ∧
      walkWithin pack.list budget pending files = some (.ok (sorted found)) := by
  induction budget generalizing pending files with
  | zero =>
    cases pending with
    | nil => exact ⟨files, by simp, rfl⟩
    | cons folder pending => simp [listings] at enough
  | succ budget ih =>
    cases pending with
    | nil => exact ⟨files, by simp, rfl⟩
    | cons folder pending =>
      obtain ⟨here, later⟩ := List.forall_mem_cons.mp walkable
      have listed := listed_of_there here.trimmed here.there
      generalize Entry.listing ((pack.under folder).map Entry.ofRest) = entries at listed
      have child := here.child listed
      have fewer := here.listings_lt distinct listed pending
      have through : ∀ tested ∈ (Entry.folderNames entries).map (opening folder ++ ·) ++ pending,
          pack.Walkable tested := by
        rw [List.forall_mem_append, List.forall_mem_map]
        exact ⟨fun name member => (child name member).2, later⟩
      obtain ⟨found, all, walked⟩ := ih through (by omega)
        (files ++ (Entry.fileNames entries).map (opening folder ++ ·))
      refine ⟨found, all.trans ?_, ?_⟩
      · have parts := below_perm distinct here.trimmed listed
          (fun name member => (child name member).1)
        rw [List.append_assoc, List.flatMap_append, List.flatMap_cons,
          ← List.append_assoc (List.map _ _)]
        exact (parts.symm.append_right _).append_left files
      · rw [walkWithin_listed listed]
        exact walked

/-- The listings that a walk below a folder can make are no more than its budget. The budget counts
    every character of every key, and the slashes under the folder are some of them. -/
theorem listings_le_folderBound (pack : Pack) (folder : Text) :
    pack.listings [folder] ≤ pack.folderBound := by
  have bounded : ∀ bound : Nat,
      bound + ((pack.files.map Prod.fst).filterMap (Text.after? (opening folder))).flatten.count '/' ≤
        pack.files.foldl (fun bound file => bound + file.1.length + 1) bound := by
    induction pack.files with
    | nil => exact fun bound => Nat.le_refl bound
    | cons file others ih =>
      intro bound
      have rest := ih (bound + file.1.length + 1)
      rw [List.map_cons, List.foldl_cons]
      cases found : Text.after? (opening folder) file.1 with
      | none =>
        rw [List.filterMap_cons_none found]
        omega
      | some later =>
        have slashes : later.count '/' ≤ later.length := List.count_le_length
        have whole := congrArg List.length (Text.eq_append_of_after? found)
        rw [List.length_append] at whole
        rw [List.filterMap_cons_some found, List.flatten_cons, List.count_append]
        omega
  rw [listings, List.flatMap_singleton]
  exact bounded 1

/-- A walk through a walkable folder finds the documents below it, in ascending order. The budget
    suffices for all listings, and what was found is sorted at the end. -/
theorem walk_of_walkable {pack : Pack} (distinct : pack.keys.Nodup) {folder : Text}
    (walkable : pack.Walkable folder) :
    ∃ paths, walkWithin pack.list pack.folderBound [folder] [] = some (.ok paths) ∧
      paths.Perm (pack.below folder) ∧ paths.Pairwise (· < ·) := by
  obtain ⟨found, all, walked⟩ := walkWithin_of_walkable distinct
    (List.forall_mem_singleton.mpr walkable) (listings_le_folderBound pack folder) []
  rw [List.nil_append, List.flatMap_singleton] at all
  have once : found.Nodup := all.nodup_iff.mpr (nodup_below distinct folder)
  exact ⟨sorted found, walked, (sorted_perm found).trans all, sorted_ascending once⟩

/-- A walk below a folder that is not there fails at once, when it lists that folder. The budget
    allows for at least one listing. -/
theorem walk_of_missing {pack : Pack} {folder : Text} (trimmed : Path.Trimmed folder)
    (deep : isRoot folder = false) (empty : pack.under folder = []) :
    walkWithin pack.list pack.folderBound [folder] [] = some (.error (notFound folder)) := by
  have listed : pack.list folder = .error (notFound folder) := by
    rw [list_of_trimmed trimmed, if_pos ⟨deep, empty⟩]
  have positive := listings_le_folderBound pack folder
  cases bound : pack.folderBound with
  | zero => simp [listings, bound] at positive
  | succ budget => rw [walkWithin, listed]

/-- The keys of a pack that was filled are those that documents were put at, each once.

    Proof: by induction on the documents, for any pack to which they are added. Putting a document
    takes out the key that it is put at and puts it in front. -/
theorem keys_filled (root : Text) (files : List (Text × Text)) :
    (filled root files).keys.Nodup ∧ ∀ key,
      key ∈ (filled root files).keys ↔ ∃ file ∈ files, Path.trimSlashes file.1 = key := by
  have further : ∀ pack : Pack, pack.keys.Nodup →
      (files.foldl (fun pack file => pack.put file.1 file.2) pack).keys.Nodup ∧ ∀ key,
        key ∈ (files.foldl (fun pack file => pack.put file.1 file.2) pack).keys ↔
          key ∈ pack.keys ∨ ∃ file ∈ files, Path.trimSlashes file.1 = key := by
    induction files with
    | nil => simp
    | cons file later ih =>
      intro pack distinct
      have put : (pack.put file.1 file.2).keys =
          Path.trimSlashes file.1 :: pack.keys.filter (· != Path.trimSlashes file.1) := by
        simp [keys, Pack.put, List.filter_map, Function.comp_def]
      obtain ⟨once, known⟩ := ih (pack.put file.1 file.2) (by
        rw [put, List.nodup_cons]
        exact ⟨by simp, distinct.filter _⟩)
      refine ⟨once, fun key => ?_⟩
      rw [List.foldl_cons, known, put]
      by_cases same : key = Path.trimSlashes file.1
      · simp [same]
      · simp [same, Ne.symm same]
  have none : (empty root).keys = [] := rfl
  obtain ⟨once, known⟩ := further (empty root) .nil
  simp only [none, List.not_mem_nil, false_or] at known
  exact ⟨once, known⟩

/-- No two documents of a pack that was filled have the same key. -/
theorem nodup_filled (root : Text) (files : List (Text × Text)) :
    (filled root files).keys.Nodup :=
  (keys_filled root files).1

end Pack

namespace Path

/-- A path in normal form is made up of names between slashes. They are the segments that move; the
    others were left out, and none has a slash because the path was cut there. -/
theorem names_of_normalize {path result : Text} (admitted : normalize path = .ok result) :
    ∃ names : List Text, result = Text.join ['/'] names ∧
      ∀ name ∈ names, name ≠ [] ∧ name ≠ here ∧ '/' ∉ name := by
  obtain ⟨_, _, rfl⟩ := normalize_eq_ok_iff.mp admitted
  refine ⟨_, rfl, ?_⟩
  intro name member
  obtain ⟨inside, moving⟩ := List.mem_filter.mp member
  obtain ⟨named, elsewhere⟩ := moves_iff.mp moving
  refine ⟨named, elsewhere, ?_⟩
  intro slash
  exact absurd (Text.of_mem_split inside slash).2 (by decide)

/-- Names between slashes make no two slashes in a row, and a dot before a slash is none of them.

    Proof: by induction on the names. Behind a name that is not empty and has no slash, two slashes
    are among the names that follow. A dot before the first slash would be the whole of the first
    name. -/
theorem straight_join {names : List Text}
    (each : ∀ name ∈ names, name ≠ [] ∧ name ≠ here ∧ '/' ∉ name) :
    Text.holds ('/' :: Text.join ['/'] names) ['/', '/'] = false ∧
      ¬ ['.', '/'] <+: Text.join ['/'] names := by
  induction names with
  | nil => decide
  | cons name later ih =>
    obtain ⟨⟨named, elsewhere, slashless⟩, others⟩ := List.forall_mem_cons.mp each
    cases later with
    | nil =>
      rw [Text.join, List.intercalate_singleton]
      constructor
      · apply Bool.eq_false_iff.mpr
        intro slashes
        have twice := (Text.holds_iff.mp slashes).sublist.count_le '/'
        simp [List.count_eq_zero.mpr slashless] at twice
      · intro begins
        exact slashless (begins.subset (by decide))
    | cons second rest =>
      have same : Text.join ['/'] (name :: second :: rest) =
          name ++ '/' :: Text.join ['/'] (second :: rest) := by
        simp [Text.join]
      rw [same]
      constructor
      · rw [Text.holds_slashes_behind slashless named]
        exact (ih others).1
      · intro begins
        exact elsewhere (Text.eq_here_of_prefix slashless begins)

/-- The way to a document whose key is in normal form leads back to no folder. What follows the
    folder in the key is part of names between slashes. -/
theorem straight_of_normalize {path key : Text} (admitted : normalize path = .ok key)
    (folder : Text) : Pack.returns folder key = false := by
  obtain ⟨names, rfl, each⟩ := names_of_normalize admitted
  obtain ⟨apart, undotted⟩ := straight_join each
  apply Bool.eq_false_iff.mpr
  intro back
  obtain ⟨rest, same, slashes | ⟨root, begins⟩⟩ := Pack.returns_iff.mp back
  · have inside : '/' :: rest <:+ '/' :: Text.join ['/'] names := by
      rw [same]
      cases root : Pack.isRoot folder with
      | true => exact ⟨[], by simp [Pack.opening, root]⟩
      | false => exact ⟨'/' :: folder, by simp [Pack.opening, root]⟩
    rw [Bool.eq_false_iff, ne_eq, Text.holds_iff] at apart
    exact apart ((Text.holds_iff.mp slashes).trans inside.isInfix)
  · rw [same, Pack.opening, root, if_pos rfl] at undotted
    exact undotted begins

/-- A path lies below a folder. All paths lie below the root, which a single dot names as well. -/
def LiesBelow (folder path : Text) : Prop :=
  folder = [] ∨ folder = here ∨ folder ++ ['/'] <+: path

/-- The paths below a folder are those that begin with it and a slash, and all paths are below the
    root. -/
theorem liesBelow_iff {folder path : Text} :
    LiesBelow folder path ↔ Pack.opening folder <+: path := by
  rw [LiesBelow, Pack.opening]
  cases root : Pack.isRoot folder with
  | true =>
    have known : folder = [] ∨ folder = here := by simpa [Pack.isRoot] using root
    simp only [if_true, List.nil_prefix, iff_true]
    exact known.imp_right .inl
  | false =>
    obtain ⟨nonempty, elsewhere⟩ := Pack.isRoot_eq_false_iff.mp root
    simp [nonempty, elsewhere]

end Path

namespace Storage

/-- A walk through a pack lists exactly the files below a folder. Let the keys of the pack be paths
    in normal form. A walk below the root, or below a folder in which there is a document at any
    depth, comes to the keys that lie below it, each of them once and in ascending order. A walk
    below any other path fails, because there is nothing at that path.

    Proof: the way to a key in normal form leads back nowhere (`straight_of_normalize`), so a folder
    with something under it is walkable, and `walk_of_walkable` gives what a walk finds. A folder
    that is not the root and has nothing under it is missing, and `walk_of_missing` is the fault. -/
theorem walk_lists_all_below {storage : Storage} {name root : Text} {files : List (Text × Text)}
    (filled : storage.pack name = Pack.filled root files)
    (normal : ∀ key, (storage.pack name).IsKey key →
      key ≠ [] ∧ ∃ path, Path.normalize path = .ok key)
    (dir : Text) :
    let folder := Path.trimSlashes dir
    let missing := folder ≠ [] ∧ folder ≠ ['.'] ∧
      ∀ key, (storage.pack name).IsKey key → ¬ Path.LiesBelow folder key
    (storage.walk (.pack name) dir = .error (.io .missing ("not found: ".toList ++ folder)) ↔
      missing) ∧
    (¬ missing → ∃ paths, storage.walk (.pack name) dir = .ok paths ∧ paths.Pairwise (· < ·) ∧
      ∀ path, path ∈ paths ↔ (storage.pack name).IsKey path ∧ Path.LiesBelow folder path) := by
  intro folder missing
  have distinct : (storage.pack name).keys.Nodup := filled ▸ Pack.nodup_filled root files
  have trimmed : Path.Trimmed folder := Path.trimmed_trimSlashes dir
  have walks : storage.walk (.pack name) dir =
      (walkWithin (storage.pack name).list (storage.pack name).folderBound [folder] []).getD
        (.error endlessWalk) := rfl
  have inside : ∀ key, (storage.pack name).IsKey key ∧ Path.LiesBelow folder key ↔
      key ∈ (storage.pack name).below folder := by
    intro key
    rw [Pack.isKey_iff, Path.liesBelow_iff, Pack.mem_below]
  have exact : missing ↔ Pack.isRoot folder = false ∧ (storage.pack name).under folder = [] := by
    rw [Pack.isRoot_eq_false_iff, and_assoc, ← List.map_eq_nil_iff, ← Pack.below,
      List.eq_nil_iff_forall_not_mem]
    simp only [← inside, not_and]
    rfl
  have fails : missing → storage.walk (.pack name) dir =
      .error (.io .missing ("not found: ".toList ++ folder)) := by
    intro gone
    obtain ⟨deep, empty⟩ := exact.mp gone
    rw [walks, Pack.walk_of_missing trimmed deep empty]
    rfl
  have succeeds : ¬ missing → ∃ paths, storage.walk (.pack name) dir = .ok paths ∧
      paths.Pairwise (· < ·) ∧
      ∀ path, path ∈ paths ↔ (storage.pack name).IsKey path ∧ Path.LiesBelow folder path := by
    intro there
    have walkable : (storage.pack name).Walkable folder := by
      refine ⟨trimmed, fun deep empty => there (exact.mpr ⟨deep, empty⟩), ?_⟩
      intro key known
      obtain ⟨_, path, admitted⟩ := normal key (Pack.isKey_iff.mpr known)
      exact Path.straight_of_normalize admitted folder
    obtain ⟨paths, walked, all, ascending⟩ := Pack.walk_of_walkable distinct walkable
    refine ⟨paths, ?_, ascending, ?_⟩
    · rw [walks, walked]
      rfl
    · intro path
      rw [inside, all.mem_iff]
  refine ⟨⟨?_, fails⟩, succeeds⟩
  intro failed
  by_contra there
  obtain ⟨paths, walked, _⟩ := succeeds there
  rw [walked] at failed
  cases failed

/-- A pack in which one name is a document and a folder at once, and others begin alike. -/
def clashing : Storage :=
  Storage.empty.setPack "files".toList (Pack.filled Pack.defaultRoot
    [("a".toList, "1".toList), ("a/x/c.md".toList, "2".toList), ("a/b.md".toList, "3".toList),
      ("a.b/d.md".toList, "4".toList), ("ab".toList, "5".toList)])

/-- Of these documents, two lie below the folder, and nothing lies below the last of them. A key
    that only begins with the name of the folder is not below it. -/
theorem clashing_walked :
    (∃ paths, clashing.walk (.pack "files".toList) "/a/".toList = .ok paths ∧
      paths.Pairwise (· < ·) ∧
      ∀ path, path ∈ paths ↔ path = "a/b.md".toList ∨ path = "a/x/c.md".toList) ∧
    clashing.walk (.pack "files".toList) "ab".toList =
      .error (.io .missing "not found: ab".toList) := by
  have filled : clashing.pack "files".toList = Pack.filled Pack.defaultRoot _ := rfl
  have keys : (clashing.pack "files".toList).keys =
      ["ab".toList, "a.b/d.md".toList, "a/b.md".toList, "a/x/c.md".toList, "a".toList] := rfl
  have normal : ∀ key, (clashing.pack "files".toList).IsKey key →
      key ≠ [] ∧ ∃ path, Path.normalize path = .ok key := by
    intro key known
    rw [Pack.isKey_iff, keys] at known
    simp only [List.mem_cons, List.not_mem_nil, or_false] at known
    obtain rfl | rfl | rfl | rfl | rfl := known
    · exact ⟨by decide, "ab".toList, rfl⟩
    · exact ⟨by decide, "a.b/d.md".toList, rfl⟩
    · exact ⟨by decide, "a/b.md".toList, rfl⟩
    · exact ⟨by decide, "a/x/c.md".toList, rfl⟩
    · exact ⟨by decide, "a".toList, rfl⟩
  constructor
  · have present : (clashing.pack "files".toList).IsKey "a/b.md".toList :=
      Pack.isKey_iff.mpr (by rw [keys]; simp)
    obtain ⟨paths, walked, ascending, all⟩ := (walk_lists_all_below filled normal "/a/".toList).2
      (fun missing => missing.2.2 _ present (.inr (.inr ⟨"b.md".toList, rfl⟩)))
    refine ⟨paths, walked, ascending, fun path => ?_⟩
    have folder : Path.trimSlashes "/a/".toList = "a".toList := rfl
    rw [all, Pack.isKey_iff, keys, folder, Path.LiesBelow]
    simp only [List.mem_cons, List.not_mem_nil, or_false]
    constructor
    · rintro ⟨rfl | rfl | rfl | rfl | rfl, below⟩ <;> simp [Path.here] at below ⊢
    · rintro (rfl | rfl)
      · exact ⟨by simp, .inr (.inr ⟨"b.md".toList, rfl⟩)⟩
      · exact ⟨by simp, .inr (.inr ⟨"x/c.md".toList, rfl⟩)⟩
  · refine (walk_lists_all_below filled normal "ab".toList).1.mpr ⟨by decide, by decide, ?_⟩
    intro key known
    have folder : Path.trimSlashes "ab".toList = "ab".toList := rfl
    rw [Pack.isKey_iff, keys] at known
    rw [folder, Path.LiesBelow]
    simp only [List.mem_cons, List.not_mem_nil, or_false] at known
    rcases known with rfl | rfl | rfl | rfl | rfl <;> simp [Path.here]

end Storage

end RoleWeave
