import RoleWeave.Markup.Nesting
import RoleWeave.Markup.Tag
import RoleWeave.Reference.Piece

/-!
# Documents and their blocks

A document is a text whose tags are nested. The contents of all elements with one known tag form a
single block, in the order of their opening marks and with an empty line between them. Elements with
other tags are opaque: they are listed with their contents and never interpreted.

A block is the text of a section together with its tag. A block that holds more than references,
blanks and list separators has prose, and is composed in place; a block that holds nothing else is
a list of references.
-/

namespace RoleWeave

/-- Whether a character does no more than separate the items of a list. -/
def isSeparator (c : Char) : Bool :=
  c ∈ [',', ';', '|', '*', '-', '•', '，', '；', '、']

/-- Whether a piece is more than a reference or what separates references. -/
def Piece.isProse : Piece → Bool
  | .prose c => !Text.isBlank c && !isSeparator c
  | .reference _ => false

/-- A section of a document. -/
structure Block where
  tag : Tag
  text : Text
deriving DecidableEq, Repr

namespace Block

/-- The references of a block with their places in its text. -/
def tokens (block : Block) : List Token :=
  RoleWeave.tokens block.text

/-- Whether a block holds anything but references, blanks and list separators. -/
def hasProse (block : Block) : Bool :=
  (pieces block.text).any Piece.isProse

end Block

/-- A text with its elements. -/
structure Document where
  raw : Text
  elements : List Element
deriving DecidableEq, Repr

/-- The content of an element of this text. -/
def Element.content (element : Element) (raw : Text) : Text :=
  Text.slice raw element.start element.stop

namespace Document

/-- Read a text as a document. -/
def parse (raw : Text) : Except Fault Document :=
  match RoleWeave.elements raw with
  | .ok elements => .ok ⟨raw, elements⟩
  | .error fault => .error (.parse (Text.byteOffset raw fault.position) fault.message)

/-- What is put between the contents of repeated elements. -/
def blankLine : Text := ['\n', '\n']

/-- The contents of the elements with a known tag, in order. -/
def contents (document : Document) (tag : Tag) : List Text :=
  (document.elements.filter (fun element => Tag.ofName? element.name == some tag)).map
    (fun element => element.content document.raw)

/-- The block of a known tag, if the document has an element with that tag. -/
def block? (document : Document) (tag : Tag) : Option Block :=
  match document.contents tag with
  | [] => none
  | parts => some ⟨tag, Text.join blankLine parts⟩

/-- All blocks, in the order of the vocabulary. -/
def blocks (document : Document) : List Block :=
  Tag.all.filterMap document.block?

/-- The names and contents of the elements with unknown tags, in order. -/
def foreignElements (document : Document) : List (Text × Text) :=
  (document.elements.filter (fun element => !isKnown element.name)).map
    (fun element => (element.name, element.content document.raw))

/-- Whether the document has any element. -/
def hasMarkup (document : Document) : Bool :=
  !document.elements.isEmpty

/-- The references of the whole text, whatever elements they stand in. -/
def tokens (document : Document) : List Token :=
  RoleWeave.tokens document.raw

end Document

end RoleWeave
