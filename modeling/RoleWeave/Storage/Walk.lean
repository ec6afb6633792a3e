import RoleWeave.Storage.Path

/-!
# Walking a store

A walk collects the paths of all files below a folder. It lists one folder after another, deepest
first and in the order of names, and puts the paths into ascending order at the end. The first
folder that cannot be listed ends it.

Nothing in the definition says that a walk comes to an end: a store may list a folder inside
itself. `walkWithin` is bounded by a number of listings, and answers `none` when that number is
used up before the walk is finished.
-/

namespace RoleWeave

/-- Insert a text into an ascending list, after those equal to it. -/
def insertSorted (text : Text) : List Text → List Text
  | [] => [text]
  | other :: rest => if text < other then text :: other :: rest else other :: insertSorted text rest

/-- Texts in ascending order, each as often as it is given. -/
def sorted (texts : List Text) : List Text :=
  texts.foldl (fun done text => insertSorted text done) []

/-- The path of an entry of a folder. -/
def Entry.path (folder : Text) (entry : Entry) : Text :=
  if folder.isEmpty || folder == Path.here then entry.name
  else folder ++ ['/'] ++ entry.name

/-- Collect the files below the pending folders, listing `budget` folders at most. -/
def walkWithin (list : Text → Except Fault (List Entry)) :
    (budget : Nat) → (pending files : List Text) → Option (Except Fault (List Text))
  | _, [], files => some (.ok (sorted files))
  | 0, _ :: _, _ => none
  | budget + 1, folder :: pending, files =>
      match list folder with
      | .error fault => some (.error fault)
      | .ok entries =>
          let folders := (entries.filter (fun entry => entry.isFolder)).map (Entry.path folder)
          let found := (entries.filter (fun entry => !entry.isFolder)).map (Entry.path folder)
          walkWithin list budget (folders ++ pending) (files ++ found)

/-- The answer to a walk that does not end. -/
def endlessWalk : Fault :=
  .other "the folders of this store contain themselves".toList

/-- Collect the files below a folder of a store with fewer than `budget` folders. -/
def walk (list : Text → Except Fault (List Entry)) (budget : Nat) (folder : Text) :
    Except Fault (List Text) :=
  (walkWithin list budget [Path.trimSlashes folder] []).getD (.error endlessWalk)

/-- A larger budget does not change a walk that has ended. By induction on the budget: both walks
    list the same folder, and go on with one listing less. -/
theorem walkWithin_mono {list : Text → Except Fault (List Entry)} {budget more : Nat}
    {pending files : List Text} {answer : Except Fault (List Text)}
    (ended : walkWithin list budget pending files = some answer) (enough : budget ≤ more) :
    walkWithin list more pending files = some answer := by
  induction budget generalizing more pending files with
  | zero =>
    cases pending with
    | nil => cases more <;> simpa [walkWithin] using ended
    | cons folder pending => simp [walkWithin] at ended
  | succ budget ih =>
    cases pending with
    | nil => cases more <;> simpa [walkWithin] using ended
    | cons folder pending =>
      cases more with
      | zero => omega
      | succ more =>
        simp only [walkWithin] at ended ⊢
        cases listed : list folder with
        | error fault => simpa [listed] using ended
        | ok entries =>
          simp only [listed] at ended ⊢
          exact ih ended (by omega)

end RoleWeave
