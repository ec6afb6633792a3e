import RoleWeave.Proofs.Storage.Coverage

/-!
# Walks that never end

Where the way to a document leads back to a folder that it has passed, a walk that comes to this
folder lists it again and again. It lists one folder after another, the folders in a folder before
what else is pending, so it never comes to what stands behind, and no listing on the way fails.
`Pack.Endless` are the folders below which a walk is lost, and `Endless.progress` finds the first of
them among the folders in one.

A walk of a pack therefore ends exactly where no way leads back (`walk_ends_iff_straight`), and then
with the files or because there is no such folder.
-/

namespace RoleWeave

/-- Where each element has one of two properties and some have the second, there is a first one of
    those, and all before it have the first. It is the one that a search for the second finds. -/
theorem exists_first {α : Type} {First Second : α → Prop} {elements : List α}
    (each : ∀ element ∈ elements, First element ∨ Second element)
    (some : ∃ element ∈ elements, Second element) :
    ∃ before element after, elements = before ++ element :: after ∧
      (∀ earlier ∈ before, First earlier) ∧ Second element := by
  classical
  have present : (elements.find? fun element => decide (Second element)).isSome = true := by
    obtain ⟨element, member, second⟩ := some
    exact List.find?_isSome.mpr ⟨element, member, decide_eq_true second⟩
  obtain ⟨element, found⟩ := Option.isSome_iff_exists.mp present
  obtain ⟨second, before, after, cut, none⟩ := List.find?_eq_some_iff_append.mp found
  refine ⟨before, element, after, cut, ?_, of_decide_eq_true second⟩
  intro earlier member
  have other : ¬ Second earlier := by simpa using none earlier member
  exact (each earlier (cut ▸ List.mem_append_left _ member)).resolve_right other

namespace Entry

/-- The folders of a listing stand in ascending order, as entries of one kind do. -/
theorem folderNames_ascending (entries : List Entry) :
    (folderNames (listing entries)).Pairwise (· < ·) := by
  rw [folderNames, List.pairwise_map]
  refine ((listing_ordered entries).filter _).imp_of_mem ?_
  rintro first second _ folded (before | ⟨_, _, file⟩)
  · exact before
  · rw [(List.mem_filter.mp folded).2] at file
    cases file

/-- A folder without a name stands before all others. They are in ascending order, and no text comes
    before the empty one. -/
theorem folderNames_of_nameless {entries : List Entry}
    (nameless : [] ∈ folderNames (listing entries)) :
    ∃ later, folderNames (listing entries) = [] :: later := by
  have ascending := folderNames_ascending entries
  cases names : folderNames (listing entries) with
  | nil =>
    rw [names] at nameless
    cases nameless
  | cons first later =>
    rw [names] at nameless ascending
    rcases List.mem_cons.mp nameless with rfl | member
    · exact ⟨later, rfl⟩
    · exact absurd ((List.pairwise_cons.mp ascending).1 [] member) (List.not_lt_nil first)

end Entry

namespace Pack

/-- Folders below which a walk is lost: the way to a document leads back, or there is a folder
    without a name, which is the folder around it once more. -/
inductive Endless (pack : Pack) : Text → Prop where
  | leads {folder key : Text} (trimmed : Path.Trimmed folder) (known : key ∈ pack.keys)
      (back : returns folder key = true) : Endless pack folder
  | caught {folder : Text} {entries : List Entry} (deep : isRoot folder = false)
      (listed : pack.list folder = .ok entries) (nameless : [] ∈ Entry.folderNames entries) :
      Endless pack folder

/-- To list a folder below which a walk is lost brings up another one, and before it only folders
    through which the walk comes. -/
def Progress (pack : Pack) (folder : Text) : Prop :=
  ∃ entries before next after, pack.list folder = .ok entries ∧
    (Entry.folderNames entries).map (opening folder ++ ·) = before ++ next :: after ∧
    (∀ other ∈ before, pack.Walkable other) ∧ pack.Endless next

/-- The entries of a folder are listed in order. -/
theorem listing_of_list {pack : Pack} {folder : Text} {entries : List Entry}
    (listed : pack.list folder = .ok entries) : ∃ children, entries = Entry.listing children := by
  unfold list at listed
  dsimp only at listed
  split at listed
  · cases listed
  · cases listed
    exact ⟨_, rfl⟩

/-- The folder without a name comes first, and has such a folder itself. It is the folder with one
    more slash at its end, and is listed as the folder is. -/
theorem progress_of_nameless {pack : Pack} {folder : Text} {entries : List Entry}
    (deep : isRoot folder = false) (listed : pack.list folder = .ok entries)
    (nameless : [] ∈ Entry.folderNames entries) : pack.Progress folder := by
  obtain ⟨children, rfl⟩ := listing_of_list listed
  obtain ⟨later, names⟩ := Entry.folderNames_of_nameless nameless
  have longer : opening folder ++ [] = folder ++ ['/'] := by simp [opening, deep]
  have again : pack.list (opening folder ++ []) = pack.list folder := by
    rw [longer]
    unfold list
    rw [Path.trimSlashes_snoc]
  have deeper : isRoot (opening folder ++ []) = false := by
    rw [longer]
    cases folder with
    | nil => cases deep
    | cons c rest => simp [isRoot, Path.here]
  refine ⟨_, [], _, later.map (opening folder ++ ·), listed, ?_, by simp,
    .caught deeper (again.trans listed) nameless⟩
  rw [names, List.map_cons, List.nil_append]

/-- A named folder in a folder is one through which a walk comes, or below which it is lost. It is
    trimmed and there is a key under it, so this depends on whether the way to some key leads
    back. -/
theorem walkable_or_endless {pack : Pack} {folder name : Text} {entries : List Entry}
    (trimmed : Path.Trimmed folder) (listed : pack.list folder = .ok entries)
    (member : name ∈ Entry.folderNames entries) (named : name ≠ []) :
    pack.Walkable (opening folder ++ name) ∨ pack.Endless (opening folder ++ name) := by
  obtain ⟨slashless, later, inside⟩ := (mem_of_list trimmed listed name).2.mp member
  have trimmedToo : Path.Trimmed (opening folder ++ name) := trimmed_named trimmed slashless named
  by_cases back : ∃ key ∈ pack.keys, returns (opening folder ++ name) key = true
  · obtain ⟨key, known, leadsBack⟩ := back
    exact .inr (.leads trimmedToo known leadsBack)
  · left
    refine ⟨trimmedToo, ?_, ?_⟩
    · intro deep
      refine List.ne_nil_of_mem (a := later) (mem_under.mpr ?_)
      rw [opening_child deep]
      simpa using mem_under.mp inside
    · intro key known
      apply Bool.eq_false_iff.mpr
      exact fun leadsBack => back ⟨key, known, leadsBack⟩

/-- If the way to a document leads back, then it does so from a folder in the folder, unless one of
    them has no name.

    Proof: there is a slash in what the key goes on with, since two in a row or one behind a dot
    lead back. So the key lies below the folder whose name stands before the first slash. That name
    is not empty by assumption. If it is a dot at the root, the folder is the root once more, from
    which the way leads back as before; if not, `returns_child` says that it does so from there. -/
theorem endless_child {pack : Pack} {folder key : Text} {entries : List Entry}
    (trimmed : Path.Trimmed folder) (known : key ∈ pack.keys) (back : returns folder key = true)
    (listed : pack.list folder = .ok entries) (named : [] ∉ Entry.folderNames entries) :
    ∃ name ∈ Entry.folderNames entries, pack.Endless (opening folder ++ name) := by
  obtain ⟨rest, rfl, leads⟩ := returns_iff.mp back
  have slash : '/' ∈ rest := by
    rcases leads with doubled | ⟨_, begins⟩
    · by_contra slashless
      have twice := (Text.holds_iff.mp doubled).sublist.count_le '/'
      simp [List.count_eq_zero.mpr slashless] at twice
    · exact begins.subset (by simp)
  obtain ⟨name, later, rfl, slashless⟩ := List.eq_append_cons_of_mem slash
  have member : name ∈ Entry.folderNames entries :=
    (mem_of_list trimmed listed name).2.mpr ⟨slashless, later, mem_under.mpr known⟩
  have nonempty : name ≠ [] := by
    rintro rfl
    exact named member
  have trimmedToo := trimmed_named trimmed slashless nonempty
  refine ⟨name, member, .leads trimmedToo known ?_⟩
  cases deep : isRoot (opening folder ++ name) with
  | false => rw [returns_child slashless nonempty deep, back]
  | true =>
    -- The folder is called by a dot at the root, so it is the root again.
    have root : isRoot folder = true := by
      by_contra other
      rw [isRoot_child nonempty (fun same => absurd same other)] at deep
      cases deep
    have bare : opening folder = [] := by simp [opening, root]
    have dot : name = Path.here := by
      by_contra other
      rw [isRoot_child nonempty (fun _ => other)] at deep
      cases deep
    rw [bare, List.nil_append, List.nil_append, dot]
    exact returns_iff.mpr ⟨Path.here ++ '/' :: later, rfl, .inr ⟨rfl, later, rfl⟩⟩

/-- To list a folder below which a walk is lost brings up another one.

    Proof: if a folder in it has no name, it is that one (`progress_of_nameless`). Otherwise each
    folder in it is one through which a walk comes or one below which it is lost
    (`walkable_or_endless`), and there is one of the second kind (`endless_child`); the first of
    these is the one. -/
theorem Endless.progress {pack : Pack} (tidy : ∀ key ∈ pack.keys, Path.Trimmed key)
    {folder : Text} (endless : pack.Endless folder) : pack.Progress folder := by
  cases endless with
  | caught deep listed nameless => exact progress_of_nameless deep listed nameless
  | @leads key trimmed known back =>
    obtain ⟨rest, same, _⟩ := returns_iff.mp back
    have there : pack.under folder ≠ [] :=
      List.ne_nil_of_mem (mem_under.mpr (same ▸ known))
    have listed := listed_of_there trimmed (fun _ => there)
    generalize Entry.listing ((pack.under folder).map Entry.ofRest) = entries at listed
    by_cases nameless : [] ∈ Entry.folderNames entries
    · refine progress_of_nameless ?_ listed nameless
      obtain ⟨_, later, inside⟩ := (mem_of_list trimmed listed []).2.mp nameless
      cases root : isRoot folder with
      | false => rfl
      | true =>
        have first := (tidy _ (mem_under.mp inside)).1
        simp [opening, root] at first
    · have each : ∀ other ∈ (Entry.folderNames entries).map (opening folder ++ ·),
          pack.Walkable other ∨ pack.Endless other := by
        rw [List.forall_mem_map]
        intro name member
        apply walkable_or_endless trimmed listed member
        rintro rfl
        exact nameless member
      have some : ∃ other ∈ (Entry.folderNames entries).map (opening folder ++ ·),
          pack.Endless other := by
        obtain ⟨name, member, lost⟩ := endless_child trimmed known back listed nameless
        exact ⟨_, List.mem_map_of_mem member, lost⟩
      obtain ⟨before, next, after, split, through, lost⟩ := exists_first each some
      exact ⟨entries, before, next, after, listed, split, through, lost⟩

/-- A walk is lost as soon as a folder below which it is lost comes up behind folders through which
    it comes.

    Proof: by induction on the listings that it may still make. A folder in front through which the
    walk comes gives way to the folders in it, through which it comes as well. If no such folder is
    in front, the one below which it is lost is listed, and brings up another behind folders through
    which the walk comes. -/
theorem walkWithin_of_endless {pack : Pack} (tidy : ∀ key ∈ pack.keys, Path.Trimmed key)
    (budget : Nat) {before : List Text} (through : ∀ other ∈ before, pack.Walkable other)
    {folder : Text} (endless : pack.Endless folder) (after files : List Text) :
    walkWithin pack.list budget (before ++ folder :: after) files = none := by
  induction budget generalizing before folder after files with
  | zero => cases before <;> rfl
  | succ budget ih =>
    cases before with
    | nil =>
      obtain ⟨entries, earlier, next, later, listed, split, walkable, lost⟩ := endless.progress tidy
      rw [List.nil_append, walkWithin_listed listed, split, List.append_assoc, List.cons_append]
      exact ih walkable lost _ _
    | cons first others =>
      obtain ⟨here, rest⟩ := List.forall_mem_cons.mp through
      have listed := listed_of_there here.trimmed here.there
      generalize Entry.listing ((pack.under first).map Entry.ofRest) = entries at listed
      have walkable : ∀ other ∈ (Entry.folderNames entries).map (opening first ++ ·) ++ others,
          pack.Walkable other := by
        rw [List.forall_mem_append, List.forall_mem_map]
        exact ⟨fun name member => (here.child listed name member).2, rest⟩
      rw [List.cons_append, walkWithin_listed listed, ← List.append_assoc]
      exact ih walkable endless _ _

/-- A walk below a folder from which the way to no document leads back comes to an end, with paths
    or because there is no such folder. -/
theorem walk_of_straight {pack : Pack} (distinct : pack.keys.Nodup) {folder : Text}
    (trimmed : Path.Trimmed folder) (straight : ∀ key ∈ pack.keys, returns folder key = false) :
    ∃ answer, walkWithin pack.list pack.folderBound [folder] [] = some answer ∧
      ((∃ paths, answer = .ok paths) ∨ answer = .error (notFound folder)) := by
  by_cases gone : isRoot folder = false ∧ pack.under folder = []
  · exact ⟨_, walk_of_missing trimmed gone.1 gone.2, .inr rfl⟩
  · have walkable : pack.Walkable folder :=
      ⟨trimmed, fun deep empty => gone ⟨deep, empty⟩, straight⟩
    obtain ⟨paths, walked, _⟩ := walk_of_walkable distinct walkable
    exact ⟨.ok paths, walked, .inl ⟨paths, rfl⟩⟩

end Pack

/-- A walk over these listings comes to an end with this answer, after some number of them. -/
def WalkEnds (list : Text → Except Fault (List Entry)) (dir : Text)
    (answer : Except Fault (List Text)) : Prop :=
  ∃ budget, walkWithin list budget [Path.trimSlashes dir] [] = some answer

/-- A walk comes to one end only. With more listings to make it ends as it did. -/
theorem WalkEnds.unique {list : Text → Except Fault (List Entry)} {dir : Text}
    {answer other : Except Fault (List Text)} (ends : WalkEnds list dir answer)
    (endsToo : WalkEnds list dir other) : answer = other := by
  obtain ⟨budget, ended⟩ := ends
  obtain ⟨more, endedToo⟩ := endsToo
  have same := (walkWithin_mono ended (Nat.le_max_left budget more)).symm.trans
    (walkWithin_mono endedToo (Nat.le_max_right budget more))
  exact Option.some.inj same

namespace Storage

/-- A walk through a pack ends exactly if the way to no document leads back to a folder. After the
    slashes at the ends of its path are gone, a document leads back if below the folder of the walk
    two slashes stand in a row, the one behind the folder included, or if the walk begins at the
    root and the path begins with a single dot. A walk that ends comes to paths, or fails because
    there is no such folder; of a walk that does not end, the folders are said to contain
    themselves.

    Proof: the folder is trimmed, and so are the keys of a pack that was filled. If the way to a
    document leads back, the walk is lost below the folder and comes to no end with any number of
    listings (`walkWithin_of_endless`). If not, it ends within its budget (`walk_of_straight`), and
    any end is that one. -/
theorem walk_ends_iff_straight {storage : Storage} {name root : Text} {files : List (Text × Text)}
    (filled : storage.pack name = Pack.filled root files) (dir : Text) :
    let folder := Path.trimSlashes dir
    let ends := WalkEnds (storage.pack name).list dir
    ((∃ answer, ends answer) ↔
      ∀ file ∈ files, Pack.returns folder (Path.trimSlashes file.1) = false) ∧
    (∀ answer, ends answer → storage.walk (.pack name) dir = answer ∧
      ((∃ paths, answer = .ok paths) ∨
        answer = .error (.io .missing ("not found: ".toList ++ folder)))) ∧
    ((¬ ∃ answer, ends answer) → storage.walk (.pack name) dir = .error endlessWalk) := by
  intro folder ends
  obtain ⟨distinct, known⟩ := Pack.keys_filled root files
  rw [← filled] at distinct known
  have trimmed : Path.Trimmed folder := Path.trimmed_trimSlashes dir
  have tidy : ∀ key ∈ (storage.pack name).keys, Path.Trimmed key := by
    intro key member
    obtain ⟨file, _, rfl⟩ := (known key).mp member
    exact Path.trimmed_trimSlashes file.1
  have walks : storage.walk (.pack name) dir =
      (walkWithin (storage.pack name).list (storage.pack name).folderBound [folder] []).getD
        (.error endlessWalk) := rfl
  have lost : ∀ file ∈ files, Pack.returns folder (Path.trimSlashes file.1) = true →
      ¬ ∃ answer, ends answer := by
    rintro file member back ⟨answer, budget, ended⟩
    have endless : (storage.pack name).Endless folder :=
      .leads trimmed ((known _).mpr ⟨file, member, rfl⟩) back
    have never := Pack.walkWithin_of_endless tidy budget (List.forall_mem_nil _) endless [] []
    rw [List.nil_append, ended] at never
    cases never
  have ended : (∀ file ∈ files, Pack.returns folder (Path.trimSlashes file.1) = false) →
      ∃ answer, walkWithin (storage.pack name).list (storage.pack name).folderBound [folder] [] =
        some answer ∧ ((∃ paths, answer = .ok paths) ∨ answer = .error (Pack.notFound folder)) := by
    intro straight
    apply Pack.walk_of_straight distinct trimmed
    intro key member
    obtain ⟨file, among, rfl⟩ := (known key).mp member
    exact straight file among
  have exact : (∃ answer, ends answer) ↔
      ∀ file ∈ files, Pack.returns folder (Path.trimSlashes file.1) = false := by
    constructor
    · intro some file member
      apply Bool.eq_false_iff.mpr
      exact fun back => lost file member back some
    · intro straight
      obtain ⟨answer, walked, _⟩ := ended straight
      exact ⟨answer, _, walked⟩
  refine ⟨exact, ?_, ?_⟩
  · intro answer found
    obtain ⟨other, walked, shaped⟩ := ended (exact.mp ⟨answer, found⟩)
    obtain rfl : answer = other := WalkEnds.unique found ⟨_, walked⟩
    rw [walks, walked]
    exact ⟨rfl, shaped⟩
  · intro never
    cases walked : walkWithin (storage.pack name).list (storage.pack name).folderBound [folder] [] with
    | none => rw [walks, walked, Option.getD_none]
    | some answer => exact absurd ⟨answer, _, walked⟩ never

/-- A pack into which documents were put at paths with slashes and dots to spare. -/
def untidy : Storage :=
  Storage.empty.setPack "files".toList (Pack.filled Pack.defaultRoot
    [("a/./b".toList, "1".toList), ("c//d".toList, "2".toList), ("//a/e/".toList, "3".toList)])

/-- Walks that do not come to the empty name end, the others do not. The dot in the first path
    stands behind a folder and leads back to nothing. -/
theorem untidy_walked :
    WalkEnds (untidy.pack "files".toList).list "a".toList
      (.ok ["a/./b".toList, "a/e".toList]) ∧
    WalkEnds (untidy.pack "files".toList).list "/d".toList
      (.error (.io .missing "not found: d".toList)) ∧
    (¬ ∃ answer, WalkEnds (untidy.pack "files".toList).list "c".toList answer) ∧
    untidy.walk (.pack "files".toList) [] = .error endlessWalk := by
  have filled : untidy.pack "files".toList = Pack.filled Pack.defaultRoot _ := rfl
  have around := walk_ends_iff_straight filled
  refine ⟨?_, ?_, ?_, ?_⟩
  · obtain ⟨exact, shape, _⟩ := around "a".toList
    obtain ⟨answer, ended⟩ := exact.mpr (by decide)
    rwa [← (shape answer ended).1] at ended
  · obtain ⟨exact, shape, _⟩ := around "/d".toList
    obtain ⟨answer, ended⟩ := exact.mpr (by decide)
    rwa [← (shape answer ended).1] at ended
  · obtain ⟨exact, _, _⟩ := around "c".toList
    rw [exact]
    decide
  · obtain ⟨exact, _, never⟩ := around []
    apply never
    rw [exact]
    decide

/-- A walk below a folder with an empty name in it never ends, however many listings it may make.
    The key of the only document has two slashes in a row. -/
theorem doubled_slash_never_ends :
    ¬ ∃ answer, WalkEnds
      (Pack.filled Pack.defaultRoot [("a//b".toList, "X".toList)]).list "a".toList answer := by
  rintro ⟨answer, budget, ended⟩
  have endless : (Pack.filled Pack.defaultRoot [("a//b".toList, "X".toList)]).Endless "a".toList :=
    .leads (Path.trimmed_name (by decide)) (List.mem_singleton.mpr rfl) (by decide)
  have tidy : ∀ key ∈ (Pack.filled Pack.defaultRoot [("a//b".toList, "X".toList)]).keys,
      Path.Trimmed key := by
    intro key known
    obtain ⟨content, member⟩ := Pack.isKey_iff.mpr known
    exact Pack.tidy_filled Pack.defaultRoot _ _ member
  have never := Pack.walkWithin_of_endless tidy budget (List.forall_mem_nil _) endless [] []
  have same : walkWithin (Pack.filled Pack.defaultRoot [("a//b".toList, "X".toList)]).list budget
      ["a".toList] [] = some answer := ended
  rw [List.nil_append, same] at never
  cases never

end Storage

end RoleWeave
