import RoleWeave.Registry.Index
import RoleWeave.Storage.Shelf

/-!
# Sources

A source is asked for resources while the registry is filled. A call may stay pending for some
polls before it comes to its outcome, and it may come out differently each time. A source is
therefore a function from the storage and the number of the call to a delivery.

A folder of documents is a source of its own, since it describes itself: a file called `id.kind.md`
is the resource `kind://id`. Its name is its first heading and its description its first line of
prose, as far as the file can be read and has them.
-/

namespace RoleWeave

/-- How a call of a source goes: for how many polls it stays pending, and what comes of it. -/
structure Delivery where
  delay : Nat
  outcome : Except Fault (List Descriptor)

/-- Something that can be asked for resources. Calls are counted from one. -/
structure Source where
  name : Text
  deliver : Storage → (call : Nat) → Delivery

namespace Source

/-- A source that answers at once and always in the same way while the storage stays the same. -/
def prompt (name : Text) (discover : Storage → Except Fault (List Descriptor)) : Source :=
  ⟨name, fun storage _ => ⟨0, discover storage⟩⟩

/-- A fixed list of resources. -/
def listed (name : Text) (resources : List Descriptor) : Source :=
  prompt name (fun _ => .ok resources)

/-- A source whose first calls fail and whose every call stays pending for the same number of
    polls. -/
def wavering (name : Text) (resources : List Descriptor) (failures : Nat) (fault : Fault)
    (delay : Nat) : Source :=
  ⟨name, fun _ call => ⟨delay, if call ≤ failures then .error fault else .ok resources⟩⟩

end Source

namespace Scan

/-- Cut a text at the last character of this kind. -/
def cutLast (cut : Char) (text : Text) : Option (Text × Text) :=
  let last := (text.reverse.takeWhile (· != cut)).reverse
  if last.length < text.length then some (text.take (text.length - last.length - 1), last)
  else none

/-- Remove an ending. -/
def before? (ending text : Text) : Option Text :=
  (Text.after? ending.reverse text.reverse).map List.reverse

/-- The id and the kind of resource that a file is called after. -/
def resourceName? (file : Text) : Option (Text × Text) := do
  let stem ← before? ".md".toList file
  let (id, kind) ← cutLast '.' stem
  if id.isEmpty || kind.isEmpty || !kind.all Char.isAlpha then none else some (id, kind)

/-- How many characters of the first line of prose make the description. -/
def descriptionLength : Nat := 120

/-- Whether a trimmed line is neither empty nor begins like a tag or a reference. -/
def tells (line : Text) : Bool :=
  match line with
  | [] => false
  | c :: _ => c != '<' && c != '@'

/-- The text of a heading, if a trimmed line is one. -/
def heading? : Text → Option Text
  | '#' :: rest => some (Text.trim (Text.trimStart (· == '#') rest))
  | _ => none

/-- The first heading of a document and the beginning of its first line of prose. -/
def summary (content : Text) : Option Text × Option Text :=
  let telling := ((Text.lines content).map Text.trim).filter tells
  (telling.findSome? heading?,
    (telling.find? (fun line => (heading? line).isNone)).map (List.take descriptionLength))

/-- Describe the file at a path by its content. A file that cannot be read goes by its id. -/
def describe (location : Text) (shelf : Shelf) (storage : Storage) (path id kind : Text) :
    Descriptor :=
  let bare := Descriptor.plain kind id (Reference.plain location path).render
  match storage.read shelf path with
  | .error _ => bare
  | .ok content =>
      let (name, description) := summary content
      { bare with name := name.getD id, description := description.getD [] }

/-- The last segment of a path. -/
def fileName (path : Text) : Text :=
  (path.reverse.takeWhile (· != '/')).reverse

/-- The resources below a folder of a shelf, in the order of their paths. A folder that does not
    exist has none. -/
def discover (location : Text) (shelf : Shelf) (folder : Text) (storage : Storage) :
    Except Fault (List Descriptor) := do
  if ← storage.holds shelf folder then
    let paths ← storage.walk shelf folder
    .ok (paths.filterMap (fun path =>
      (resourceName? (fileName path)).map
        (fun named => describe location shelf storage path named.1 named.2)))
  else .ok []

/-- The source of a scanned folder. It goes by the name of its location protocol. -/
def source (location : Text) (shelf : Shelf) (folder : Text) : Source :=
  Source.prompt location (discover location shelf folder)

end Scan

end RoleWeave
