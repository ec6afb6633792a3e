import RoleWeave.Storage.Path

/-!
# Packs

A pack keeps documents in memory, each under a path. Slashes at the ends of a path do not count.
A folder exists because a document lies below it, so a path can be a document and a folder at once.
-/

namespace RoleWeave

/-- Documents in memory. No two of them have the same path. -/
structure Pack where
  root : Text
  files : List (Text × Text)
deriving DecidableEq, Repr

namespace Pack

/-- The root that a pack shows unless it is given another one. -/
def defaultRoot : Text := "memory:/".toList

/-- A pack without documents. -/
def empty (root : Text) : Pack := ⟨root, []⟩

/-- Put a document at a path, in place of the one that may be there. -/
def put (pack : Pack) (path content : Text) : Pack :=
  let key := Path.trimSlashes path
  ⟨pack.root, (key, content) :: pack.files.filter (fun file => file.1 != key)⟩

/-- The number of documents. -/
def size (pack : Pack) : Nat :=
  pack.files.length

/-- The failure of a store to find anything at a path. -/
def notFound (path : Text) : Fault :=
  .io .missing ("not found: ".toList ++ path)

/-- Whether a path without outer slashes is the root of a store. -/
def isRoot (path : Text) : Bool :=
  path.isEmpty || path == Path.here

/-- Read the document at a path. -/
def read (pack : Pack) (path : Text) : Except Fault Text :=
  let key := Path.trimSlashes path
  match pack.files.lookup key with
  | some content => .ok content
  | none => .error (notFound key)

/-- With what the paths of the documents in a folder begin. -/
def opening (folder : Text) : Text :=
  if isRoot folder then [] else folder ++ ['/']

/-- The entry that a document's path contributes to a folder, given what the paths of the documents
    in that folder begin with. -/
def childOf? (opening key : Text) : Option Entry :=
  (Text.after? opening key).map
    (fun rest => ⟨rest.takeWhile (· != '/'), rest.contains '/'⟩)

/-- The entries of a folder. -/
def list (pack : Pack) (path : Text) : Except Fault (List Entry) :=
  let key := Path.trimSlashes path
  let entries := pack.files.filterMap (fun file => childOf? (opening key) file.1)
  if !isRoot key && entries.isEmpty then .error (notFound key) else .ok (Entry.listing entries)

/-- Whether there is a document or a folder at a path. The root is always there. -/
def holds (pack : Pack) (path : Text) : Bool :=
  let key := Path.trimSlashes path
  isRoot key || pack.files.any
    (fun file => file.1 == key || (Text.after? (key ++ ['/']) file.1).isSome)

/-- More folders than a pack of well-formed paths can imply. -/
def folderBound (pack : Pack) : Nat :=
  pack.files.foldl (fun bound file => bound + file.1.length + 1) 1

end Pack

end RoleWeave
