import RoleWeave.Storage.Disk
import RoleWeave.Storage.Pack
import RoleWeave.Storage.Walk

/-!
# Shelves

A shelf is what a protocol or a source reads from: a pack in memory, known by its name, or a folder
of the disk. The storage holds all packs and the disk; what is on a shelf is asked of it, so a
change is seen by everyone who reads from that shelf.
-/

namespace RoleWeave

/-- A place to read from. -/
inductive Shelf where
  | pack (name : Text)
  | folder (root : Text)
deriving DecidableEq, Repr, Inhabited

/-- Everything that can be read. -/
structure Storage where
  packs : List (Text × Pack)
  disk : Disk

namespace Storage

/-- A storage without packs and with an empty disk. -/
def empty : Storage := ⟨[], Disk.empty⟩

/-- The pack of this name. A name that was never used is an empty pack. -/
def pack (storage : Storage) (name : Text) : Pack :=
  (storage.packs.lookup name).getD (Pack.empty Pack.defaultRoot)

/-- Put a pack in the place of the one of the same name. -/
def setPack (storage : Storage) (name : Text) (pack : Pack) : Storage :=
  ⟨(name, pack) :: storage.packs.filter (fun other => other.1 != name), storage.disk⟩

/-- Read the document at a path of a shelf. -/
def read (storage : Storage) (shelf : Shelf) (path : Text) : Except Fault Text :=
  match shelf with
  | .pack name => (storage.pack name).read path
  | .folder root => storage.disk.read root path

/-- Whether there is anything at a path of a shelf. -/
def holds (storage : Storage) (shelf : Shelf) (path : Text) : Except Fault Bool :=
  match shelf with
  | .pack name => .ok ((storage.pack name).holds path)
  | .folder root => storage.disk.holds root path

/-- The entries of a folder of a shelf. -/
def list (storage : Storage) (shelf : Shelf) (path : Text) : Except Fault (List Entry) :=
  match shelf with
  | .pack name => (storage.pack name).list path
  | .folder root => storage.disk.list root path

/-- The paths of all files below a folder of a shelf, in ascending order. -/
def walk (storage : Storage) (shelf : Shelf) (folder : Text) : Except Fault (List Text) :=
  let budget :=
    match shelf with
    | .pack name => (storage.pack name).folderBound
    | .folder _ => storage.disk.folderBound
  RoleWeave.walk (storage.list shelf) budget folder

/-- The place of a path of a shelf, as it is shown. -/
def locate (storage : Storage) (shelf : Shelf) (path : Text) : Text :=
  match shelf with
  | .pack name => Path.locate (storage.pack name).root path
  | .folder root => Path.locate root path

end Storage

end RoleWeave
