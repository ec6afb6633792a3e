import RoleWeave.Storage.Path

/-!
# Disks

A disk is a tree of folders and files of bytes. A path is followed step by step from a starting
folder: an empty step or a single dot stays, two dots climb, and a name descends. Every step needs
a folder to start from, so a path that ends in a slash has to lead to a folder.

The failures and their wording are those of a system that limits names to 255 bytes and paths to
4095, and that does not allow the null character in either.
-/

namespace RoleWeave

/-- What can stand on a disk. -/
inductive Node where
  | folder
  | file (bytes : ByteArray)

/-- The folders and files that were made on a disk, by the names that lead to them. A folder also
    exists when anything was made below it. -/
structure Disk where
  nodes : List (List Text × Node)

namespace Disk

/-- A disk without anything on it. -/
def empty : Disk := ⟨[]⟩

/-- There is nothing at a path. -/
def noSuchFile : Fault := .io .missing "No such file or directory (os error 2)".toList

/-- A step of a path has to be made from something that is no folder. -/
def notFolder : Fault := .io .other "Not a directory (os error 20)".toList

/-- A folder cannot be read as a file. -/
def isFolder : Fault := .io .other "Is a directory (os error 21)".toList

/-- A name or a path is longer than the system allows. -/
def nameTooLong : Fault := .io .other "File name too long (os error 36)".toList

/-- A path holds the null character. -/
def nullInName : Fault := .io .other "file name contained an unexpected NUL byte".toList

/-- A file is not the UTF-8 form of a text. -/
def notText : Fault := .io .other "stream did not contain valid UTF-8".toList

/-- The steps of a path, from left to right. -/
def steps (path : Text) : List Text :=
  Text.split (· == '/') path

/-- Make a folder or a file at the place to which these names lead. -/
def put (disk : Disk) (place : List Text) (node : Node) : Disk :=
  ⟨(place, node) :: disk.nodes.filter (fun other => other.1 != place)⟩

/-- What stands at a place. -/
def node? (disk : Disk) (place : List Text) : Option Node :=
  match disk.nodes.find? (fun other => other.1 == place) with
  | some found => some found.2
  | none =>
      if place.isEmpty || disk.nodes.any (fun other => place.isPrefixOf other.1) then
        some .folder
      else none

/-- Make a folder where there is nothing. -/
def putFolder (disk : Disk) (place : List Text) : Disk :=
  if (disk.node? place).isSome then disk else disk.put place .folder

/-- Make a folder or a file at the end of a path that begins at a place. The folders on the way are
    made with it, those included from which the path climbs again. -/
def make (disk : Disk) (place : List Text) (node : Node) : (steps : List Text) → Disk
  | [] => disk.put place node
  | step :: later =>
      if !Path.moves step then make disk place node later
      else if step == Path.parent then make (disk.putFolder place) place.dropLast node later
      else make disk (place ++ [step]) node later

/-- Follow the steps of a path from a place. -/
def follow (disk : Disk) (place : List Text) : List Text → Except Fault (List Text × Node)
  | [] =>
      match disk.node? place with
      | some node => .ok (place, node)
      | none => .error noSuchFile
  | step :: later =>
      match disk.node? place with
      | none => .error noSuchFile
      | some (.file _) => .error notFolder
      | some .folder =>
          if !Path.moves step then follow disk place later
          else if step == Path.parent then follow disk place.dropLast later
          else if 255 < Text.byteSize step then .error nameTooLong
          else follow disk (place ++ [step]) later

/-- The path of something below a root, as the system is asked for it. -/
def below (root path : Text) : Text :=
  root ++ ['/'] ++ Text.trimStart (· == '/') path

/-- Find what stands at a path below a root. -/
def find (disk : Disk) (root path : Text) : Except Fault (List Text × Node) :=
  let whole := below root path
  if whole.contains (Char.ofNat 0) then .error nullInName
  else if 4095 < Text.byteSize whole then .error nameTooLong
  else disk.follow [] (steps whole)

/-- Read a file as text. -/
def read (disk : Disk) (root path : Text) : Except Fault Text := do
  match ← disk.find root path with
  | (_, .folder) => .error isFolder
  | (_, .file bytes) =>
      match String.fromUTF8? bytes with
      | some content => .ok content.toList
      | none => .error notText

/-- Whether there is anything at a path. Only the plain absence of it is an answer; any other
    failure to look is a failure. -/
def holds (disk : Disk) (root path : Text) : Except Fault Bool :=
  match disk.find root path with
  | .ok _ => .ok true
  | .error (.io .missing _) => .ok false
  | .error fault => .error fault

/-- The entry that something made on the disk contributes to the folder at a place. -/
def childOf? (place : List Text) (made : List Text × Node) : Option Entry :=
  if place.isPrefixOf made.1 then
    match made.1.drop place.length, made.2 with
    | [], _ => none
    | [name], .file _ => some ⟨name, false⟩
    | name :: _, _ => some ⟨name, true⟩
  else none

/-- The entries of a folder. -/
def list (disk : Disk) (root path : Text) : Except Fault (List Entry) := do
  match ← disk.find root path with
  | (_, .file _) => .error notFolder
  | (place, .folder) => .ok (Entry.listing (disk.nodes.filterMap (childOf? place)))

/-- More folders than there are on the disk. -/
def folderBound (disk : Disk) : Nat :=
  disk.nodes.foldl (fun bound made => bound + made.1.length + 1) 1

end Disk

end RoleWeave
