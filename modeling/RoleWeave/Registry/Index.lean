import RoleWeave.Reference.Basic
import RoleWeave.Text.NameSet

/-!
# The index of resources

A descriptor says that a resource exists: its key, how it is called and described, and the
reference under which its content is found. It also names the source that it came from.

The index holds one descriptor for every key. A later definition of a key takes the place of the
earlier one: the last definition wins and the first position is kept.
-/

namespace RoleWeave

/-- A known resource. -/
structure Descriptor where
  id : Text
  protocol : Text
  name : Text
  description : Text
  /-- Where the content is: a reference to a storage location, or a bare path. -/
  reference : Text
  source : Text
deriving DecidableEq, Repr, Inhabited

namespace Descriptor

/-- A descriptor of which only the essentials are known. It is called by its id. -/
def plain (protocol id reference : Text) : Descriptor :=
  ⟨id, protocol, id, [], reference, []⟩

/-- The identity of the described resource. -/
def key (descriptor : Descriptor) : Key :=
  ⟨descriptor.protocol, descriptor.id⟩

/-- Note the source of a descriptor, unless it names one itself. -/
def attributedTo (source : Text) (descriptor : Descriptor) : Descriptor :=
  if descriptor.source.isEmpty then { descriptor with source := source } else descriptor

end Descriptor

/-- Descriptors in the order in which their keys were first defined. -/
structure Index where
  entries : List Descriptor
deriving DecidableEq, Repr

/-- Put a descriptor in the place of the one with its key, or at the end. -/
def placeDescriptor (descriptor : Descriptor) : List Descriptor → List Descriptor
  | [] => [descriptor]
  | other :: rest =>
      if other.key = descriptor.key then descriptor :: rest
      else other :: placeDescriptor descriptor rest

namespace Index

/-- The index without descriptors. -/
def empty : Index := ⟨[]⟩

/-- Define a resource. -/
def insert (index : Index) (descriptor : Descriptor) : Index :=
  ⟨placeDescriptor descriptor index.entries⟩

/-- Define the resources that a source has delivered, one after another. -/
def deliver (index : Index) (source : Text) (found : List Descriptor) : Index :=
  found.foldl (fun index descriptor => index.insert (descriptor.attributedTo source)) index

/-- The number of resources. -/
def size (index : Index) : Nat :=
  index.entries.length

/-- The resources of a protocol, in the order of their first definitions. -/
def byProtocol (index : Index) (protocol : Text) : List Descriptor :=
  index.entries.filter (fun descriptor => descriptor.protocol == protocol)

/-- The resource with this key. -/
def find? (index : Index) (protocol id : Text) : Option Descriptor :=
  index.entries.find? (fun descriptor => descriptor.key == ⟨protocol, id⟩)

/-- Whether any resource has this protocol. -/
def hasProtocol (index : Index) (protocol : Text) : Bool :=
  index.entries.any (fun descriptor => descriptor.protocol == protocol)

/-- The protocols of all resources, in ascending order. -/
def protocols (index : Index) : NameSet :=
  NameSet.ofList (index.entries.map Descriptor.protocol)

end Index

end RoleWeave
