import Mathlib.Data.List.Basic
import Mathlib.Data.List.Nodup
import Mathlib.Data.List.Perm.Basic
import RoleWeave.Proofs.Storage.Walked

/-!
# What lies below a folder

A pack has no folders of its own. A folder is there because documents lie below it: their keys begin
with the folder and a slash, and `Pack.under` is what they go on with. The entries of a folder are the
first names of that, a file if nothing follows and a folder if a slash does.

The documents below a folder are therefore those in it and those below the folders in it, each of
them once (`Pack.below_perm`). This needs that no folder in it is the root again, as which an empty
path and a single dot are listed.
-/

namespace RoleWeave

namespace Entry

/-- The entry of a folder to which what follows the folder in a key leads. -/
def ofRest (rest : Text) : Entry :=
  ⟨rest.takeWhile (· != '/'), rest.contains '/'⟩

/-- A name without slashes is not cut. -/
theorem differs_of_slashless {name : Text} (slashless : '/' ∉ name) :
    ∀ c ∈ name, (c != '/') = true := by
  intro c inside
  rw [bne_iff_ne]
  rintro rfl
  exact slashless inside

/-- A single name leads to a file. -/
theorem ofRest_file {name : Text} (slashless : '/' ∉ name) : ofRest name = ⟨name, false⟩ := by
  simp [ofRest, List.takeWhile_eq_self_iff.mpr (differs_of_slashless slashless), slashless]

/-- A name before a slash leads to a folder. -/
theorem ofRest_folder {name : Text} (slashless : '/' ∉ name) (later : Text) :
    ofRest (name ++ '/' :: later) = ⟨name, true⟩ := by
  simp [ofRest, List.takeWhile_append_of_pos (differs_of_slashless slashless)]

/-- The names of the files among entries. -/
def fileNames (entries : List Entry) : List Text :=
  (entries.filter (fun entry => !entry.isFolder)).map Entry.name

/-- The names of the folders among entries. -/
def folderNames (entries : List Entry) : List Text :=
  (entries.filter (fun entry => entry.isFolder)).map Entry.name

/-- A name is that of a file among entries if the entry of a file with this name is one of them. A
    folder with the same name does not count. -/
theorem mem_fileNames {entries : List Entry} {name : Text} :
    name ∈ fileNames entries ↔ ⟨name, false⟩ ∈ entries := by
  constructor
  · intro member
    obtain ⟨⟨_, isFolder⟩, among, rfl⟩ := List.mem_map.mp member
    obtain ⟨inside, isFile⟩ := List.mem_filter.mp among
    cases isFolder with
    | false => exact inside
    | true => cases isFile
  · intro inside
    exact List.mem_map.mpr ⟨⟨name, false⟩, List.mem_filter.mpr ⟨inside, rfl⟩, rfl⟩

/-- A name is that of a folder among entries if the entry of a folder with this name is one of
    them. -/
theorem mem_folderNames {entries : List Entry} {name : Text} :
    name ∈ folderNames entries ↔ ⟨name, true⟩ ∈ entries := by
  constructor
  · intro member
    obtain ⟨⟨_, isFolder⟩, among, rfl⟩ := List.mem_map.mp member
    obtain ⟨inside, folded⟩ := List.mem_filter.mp among
    cases isFolder with
    | false => cases folded
    | true => exact inside
  · intro inside
    exact List.mem_map.mpr ⟨⟨name, true⟩, List.mem_filter.mpr ⟨inside, rfl⟩, rfl⟩

/-- How two entries of a folder follow each other: by their names, and of one name the folder first. -/
def Before (first second : Entry) : Prop :=
  first.name < second.name ∨
    first.name = second.name ∧ first.isFolder = true ∧ second.isFolder = false

/-- A listing is in the order of names. It takes the names in ascending order, and of each name the
    folder before the file. -/
theorem listing_ordered (entries : List Entry) : (listing entries).Pairwise Before := by
  rw [listing, List.pairwise_flatMap]
  constructor
  · intro name _
    refine List.Pairwise.filter _ ?_
    simp [Before]
  · have ascending := (NameSet.ofList (entries.map Entry.name)).ascending
    refine ascending.imp ?_
    intro first second before entry inFirst other inSecond
    have named : entry.name = first := by
      rcases List.mem_cons.mp (List.mem_filter.mp inFirst).1 with rfl | same
      · rfl
      · rw [List.mem_singleton.mp same]
    have otherNamed : other.name = second := by
      rcases List.mem_cons.mp (List.mem_filter.mp inSecond).1 with rfl | same
      · rfl
      · rw [List.mem_singleton.mp same]
    exact .inl (by rwa [named, otherNamed])

/-- So it has each entry once. -/
theorem nodup_listing (entries : List Entry) : (listing entries).Nodup := by
  refine (listing_ordered entries).imp ?_
  rintro first _ (before | ⟨_, folder, file⟩) rfl
  · exact List.lt_irrefl _ before
  · rw [folder] at file
    cases file

/-- So no two files, and no two folders, of a listing have the same name. Two entries of one kind
    and with one name are the same entry. -/
theorem nodup_names (entries : List Entry) :
    (fileNames (listing entries)).Nodup ∧ (folderNames (listing entries)).Nodup := by
  have distinct := nodup_listing entries
  constructor
  · refine List.Nodup.map_on ?_ (distinct.filter _)
    rintro ⟨name, isFolder⟩ member ⟨other, otherFolder⟩ otherMember same
    have isFile := (List.mem_filter.mp member).2
    have otherFile := (List.mem_filter.mp otherMember).2
    simp_all
  · refine List.Nodup.map_on ?_ (distinct.filter _)
    rintro ⟨name, isFolder⟩ member ⟨other, otherFolder⟩ otherMember same
    have folded := (List.mem_filter.mp member).2
    have otherFolded := (List.mem_filter.mp otherMember).2
    simp_all

end Entry

namespace Pack

/-- The keys of a pack. -/
def keys (pack : Pack) : List Text :=
  pack.files.map Prod.fst

/-- There is a document with a key exactly if the key is among those of the pack. -/
theorem isKey_iff {pack : Pack} {key : Text} : pack.IsKey key ↔ key ∈ pack.keys := by
  simp [IsKey, keys]

/-- What the keys of the documents below a folder go on with. -/
def under (pack : Pack) (folder : Text) : List Text :=
  pack.keys.filterMap (Text.after? (opening folder))

/-- The keys of the documents below a folder. -/
def below (pack : Pack) (folder : Text) : List Text :=
  (pack.under folder).map (opening folder ++ ·)

/-- A text is under a folder exactly if the folder, followed by the text, is a key. At the root
    nothing stands in front of the text. -/
theorem mem_under {pack : Pack} {folder rest : Text} :
    rest ∈ pack.under folder ↔ opening folder ++ rest ∈ pack.keys := by
  rw [under, List.mem_filterMap]
  constructor
  · rintro ⟨key, known, found⟩
    rw [← Text.eq_append_of_after? found]
    exact known
  · intro known
    exact ⟨_, known, Text.after?_append _ _⟩

/-- The keys below a folder are those that begin with it. -/
theorem mem_below {pack : Pack} {folder key : Text} :
    key ∈ pack.below folder ↔ key ∈ pack.keys ∧ opening folder <+: key := by
  rw [below, List.mem_map]
  constructor
  · rintro ⟨rest, member, rfl⟩
    exact ⟨mem_under.mp member, List.prefix_append _ _⟩
  · rintro ⟨known, rest, rfl⟩
    exact ⟨rest, mem_under.mpr known, rfl⟩

/-- Where no two documents have the same key, what they go on with differs as well. -/
theorem nodup_under {pack : Pack} (distinct : pack.keys.Nodup) (folder : Text) :
    (pack.under folder).Nodup := by
  refine List.Nodup.filterMap ?_ distinct
  intro key other rest found otherFound
  rw [Text.eq_append_of_after? found, Text.eq_append_of_after? otherFound]

/-- Where no two documents have the same key, no key lies below a folder twice. -/
theorem nodup_below {pack : Pack} (distinct : pack.keys.Nodup) (folder : Text) :
    (pack.below folder).Nodup :=
  (nodup_under distinct folder).map (List.append_right_injective _)

/-- A folder that is not the root is listed as long as there is a document below it. The root is
    listed in any case. -/
theorem list_of_trimmed {pack : Pack} {folder : Text} (trimmed : Path.Trimmed folder) :
    pack.list folder =
      if isRoot folder = false ∧ pack.under folder = [] then .error (notFound folder)
      else .ok (Entry.listing ((pack.under folder).map Entry.ofRest)) := by
  have children : pack.files.filterMap (fun file => childOf? (opening folder) file.1) =
      (pack.under folder).map Entry.ofRest := by
    rw [under, keys, List.filterMap_map, List.map_filterMap]
    rfl
  rw [list, trimmed.eq, children]
  simp

/-- What is listed of a folder are the first names of what the keys below it go on with.

    Proof: an entry of the listing comes of something under the folder. If that has no slash, it is
    the name of a file as a whole; otherwise the name of a folder is what stands before its first
    slash. A name without slashes that is followed by one is that first part. -/
theorem mem_of_list {pack : Pack} {folder : Text} {entries : List Entry}
    (trimmed : Path.Trimmed folder) (listed : pack.list folder = .ok entries) (name : Text) :
    (name ∈ Entry.fileNames entries ↔ '/' ∉ name ∧ name ∈ pack.under folder) ∧
      (name ∈ Entry.folderNames entries ↔
        '/' ∉ name ∧ ∃ later, name ++ '/' :: later ∈ pack.under folder) := by
  rw [list_of_trimmed trimmed] at listed
  split at listed
  · cases listed
  · cases listed
    rw [Entry.mem_fileNames, Entry.mem_folderNames, Entry.mem_listing, Entry.mem_listing,
      List.mem_map, List.mem_map]
    have first : ∀ rest : Text, '/' ∉ rest ∨
        ∃ name later, rest = name ++ '/' :: later ∧ '/' ∉ name := by
      intro rest
      by_cases deeper : '/' ∈ rest
      · exact .inr (List.eq_append_cons_of_mem deeper)
      · exact .inl deeper
    refine ⟨⟨?_, ?_⟩, ⟨?_, ?_⟩⟩
    · rintro ⟨rest, member, leads⟩
      rcases first rest with slashless | ⟨found, later, rfl, slashless⟩
      · rw [Entry.ofRest_file slashless] at leads
        cases leads
        exact ⟨slashless, member⟩
      · rw [Entry.ofRest_folder slashless] at leads
        cases leads
    · rintro ⟨slashless, member⟩
      exact ⟨name, member, Entry.ofRest_file slashless⟩
    · rintro ⟨rest, member, leads⟩
      rcases first rest with slashless | ⟨found, later, rfl, slashless⟩
      · rw [Entry.ofRest_file slashless] at leads
        cases leads
      · rw [Entry.ofRest_folder slashless] at leads
        cases leads
        exact ⟨slashless, later, member⟩
    · rintro ⟨slashless, later, member⟩
      exact ⟨_, member, Entry.ofRest_folder slashless later⟩

/-- A folder in a folder begins with it, and is not the root. -/
theorem opening_child {folder name : Text} (deep : isRoot (opening folder ++ name) = false) :
    opening (opening folder ++ name) = opening folder ++ name ++ ['/'] := by
  rw [opening, deep]
  rfl

/-- What is under a folder are the names of the files in it, and what is under the folders in it
    behind their names.

    Proof: both sides have no element twice. On the right the names of files have no slash and all
    else has one; what is under one folder begins with its name, and no two folders have the same.
    So it is enough that both sides have the same elements, and `mem_of_list` tells the names: what
    is under the folder is a single name, or a name, a slash and what is under the folder of that
    name. -/
theorem under_perm {pack : Pack} (distinct : pack.keys.Nodup) {folder : Text}
    {entries : List Entry} (trimmed : Path.Trimmed folder)
    (listed : pack.list folder = .ok entries)
    (deep : ∀ name ∈ Entry.folderNames entries, isRoot (opening folder ++ name) = false) :
    (pack.under folder).Perm
      (Entry.fileNames entries ++ (Entry.folderNames entries).flatMap (fun name =>
        (pack.under (opening folder ++ name)).map (fun rest => name ++ '/' :: rest))) := by
  have names := mem_of_list trimmed listed
  have distinctNames : (Entry.fileNames entries).Nodup ∧ (Entry.folderNames entries).Nodup := by
    rw [list_of_trimmed trimmed] at listed
    split at listed
    · cases listed
    · cases listed
      exact Entry.nodup_names _
  have further : ∀ name ∈ Entry.folderNames entries, ∀ rest,
      rest ∈ pack.under (opening folder ++ name) ↔ name ++ '/' :: rest ∈ pack.under folder := by
    intro name member rest
    rw [mem_under, mem_under, opening_child (deep name member)]
    simp
  rw [List.perm_ext_iff_of_nodup (nodup_under distinct folder)]
  · intro rest
    rw [List.mem_append, List.mem_flatMap]
    constructor
    · intro member
      by_cases deeper : '/' ∈ rest
      · obtain ⟨name, later, rfl, slashless⟩ := List.eq_append_cons_of_mem deeper
        have isFolder : name ∈ Entry.folderNames entries :=
          (names name).2.mpr ⟨slashless, later, member⟩
        exact .inr ⟨name, isFolder, List.mem_map.mpr
          ⟨later, (further name isFolder later).mpr member, rfl⟩⟩
      · exact .inl ((names rest).1.mpr ⟨deeper, member⟩)
    · rintro (isFile | ⟨name, isFolder, inside⟩)
      · exact ((names rest).1.mp isFile).2
      · obtain ⟨later, member, rfl⟩ := List.mem_map.mp inside
        exact (further name isFolder later).mp member
  · rw [List.nodup_append, List.nodup_flatMap]
    refine ⟨distinctNames.1, ⟨?_, ?_⟩, ?_⟩
    · intro name _
      refine (nodup_under distinct _).map ?_
      intro first second same
      exact (List.cons_inj_right '/').mp (List.append_cancel_left same)
    · refine (List.nodup_iff_pairwise_ne.mp distinctNames.2).imp_of_mem ?_
      intro first second isFolder isFolderToo apart rest inFirst inSecond
      obtain ⟨later, _, rfl⟩ := List.mem_map.mp inFirst
      obtain ⟨other, _, same⟩ := List.mem_map.mp inSecond
      have leads := Entry.ofRest_folder ((names first).2.mp isFolder).1 later
      rw [← same, Entry.ofRest_folder ((names second).2.mp isFolderToo).1 other] at leads
      cases leads
      exact apart rfl
    · intro rest isFile other inside
      rintro rfl
      obtain ⟨name, _, deeper⟩ := List.mem_flatMap.mp inside
      obtain ⟨later, _, rfl⟩ := List.mem_map.mp deeper
      have slashless := ((names _).1.mp isFile).1
      simp at slashless

/-- The documents below a folder are those in it and those below the folders in it. This is
    `under_perm` with the folder put in front of everything. -/
theorem below_perm {pack : Pack} (distinct : pack.keys.Nodup) {folder : Text}
    {entries : List Entry} (trimmed : Path.Trimmed folder)
    (listed : pack.list folder = .ok entries)
    (deep : ∀ name ∈ Entry.folderNames entries, isRoot (opening folder ++ name) = false) :
    (pack.below folder).Perm
      ((Entry.fileNames entries).map (opening folder ++ ·) ++
        ((Entry.folderNames entries).map (opening folder ++ ·)).flatMap pack.below) := by
  have parts := (under_perm distinct trimmed listed deep).map (opening folder ++ ·)
  have deeper : ((Entry.folderNames entries).flatMap (fun name =>
      (pack.under (opening folder ++ name)).map (fun rest => name ++ '/' :: rest))).map
        (opening folder ++ ·) =
      ((Entry.folderNames entries).map (opening folder ++ ·)).flatMap pack.below := by
    rw [List.map_flatMap, List.flatMap_map]
    apply List.flatMap_congr
    intro name member
    rw [below, opening_child (deep name member), List.map_map]
    apply List.map_congr_left
    intro rest _
    simp
  rw [List.map_append, deeper] at parts
  exact parts

end Pack

end RoleWeave
