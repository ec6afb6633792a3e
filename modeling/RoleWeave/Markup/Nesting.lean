import RoleWeave.Markup.Mark
import RoleWeave.Markup.Tag

/-!
# Nesting

Marks are matched by a stack of open elements, the innermost first. Tags of the vocabulary have to
be nested: each one opened is closed, and closed before those around it. A tag outside the
vocabulary takes part only when a mark of its name closes somewhere later; otherwise its opening mark is
plain text. A closing mark without an open element is an error for a tag of the vocabulary and
plain text for any other.

The elements come out in the order of their opening marks. An element knows the positions between
which its content stands.
-/

namespace RoleWeave

/-- An element that is open. -/
structure OpenElement where
  name : Text
  /-- The position of its opening mark. -/
  opened : Nat
  /-- The position where its content begins. -/
  inner : Nat
deriving DecidableEq, Repr

/-- An element and the positions between which its content stands. -/
structure Element where
  name : Text
  start : Nat
  stop : Nat
deriving DecidableEq, Repr

/-- Why the marks of a text are not nested. Each cause carries the position of a mark. -/
inductive NestingFault where
  /-- A mark closes an element while another is open inside it. -/
  | crossing (position : Nat) (name inner : Text)
  /-- A mark of the vocabulary closes an element that is not open. -/
  | stray (position : Nat) (name : Text)
  /-- The innermost open element is never closed. -/
  | unterminated (position : Nat) (name : Text)
deriving DecidableEq, Repr

namespace NestingFault

/-- The position of the mark at fault. -/
def position : NestingFault → Nat
  | crossing position _ _ => position
  | stray position _ => position
  | unterminated position _ => position

/-- The wording of a nesting fault, without its position. -/
def message : NestingFault → Text
  | crossing _ name inner =>
      "</".toList ++ name ++ "> closes while <".toList ++ inner ++ "> is still open".toList
  | stray _ name => "unexpected closing tag </".toList ++ name ++ ">".toList
  | unterminated _ name => "unterminated tag <".toList ++ name ++ ">".toList

end NestingFault

/-- Whether a name is in the vocabulary. -/
def isKnown (name : Text) : Bool :=
  (Tag.ofName? name).isSome

/-- Whether one of these marks closes an element of this name. -/
def closesLater (name : Text) (later : List Mark) : Bool :=
  later.any (fun mark => mark.closing && mark.name == name)

/-- Put an element among others that are in the order of their contents' beginnings. -/
def insertElement (element : Element) : List Element → List Element
  | [] => [element]
  | other :: rest =>
      if element.start ≤ other.start then element :: other :: rest
      else other :: insertElement element rest

/-- Match the marks that are left against the open elements. -/
def nest : List OpenElement → List Mark → Except NestingFault (List Element)
  | [], [] => .ok []
  | top :: _, [] => .error (.unterminated top.opened top.name)
  | stack, mark :: later =>
      if mark.closing then
        match stack with
        | [] =>
            if isKnown mark.name then .error (.stray mark.start mark.name) else nest [] later
        | top :: below =>
            if top.name = mark.name then
              (nest below later).map (insertElement ⟨top.name, top.inner, mark.start⟩)
            else if below.any (fun outer => outer.name == mark.name) then
              .error (.crossing mark.start mark.name top.name)
            else if isKnown mark.name then .error (.stray mark.start mark.name)
            else nest (top :: below) later
      else if mark.selfClosing then
        (nest stack later).map (insertElement ⟨mark.name, mark.stop, mark.stop⟩)
      else if isKnown mark.name || closesLater mark.name later then
        nest (⟨mark.name, mark.start, mark.stop⟩ :: stack) later
      else nest stack later

/-- The elements of a text, in the order of their opening marks. -/
def elements (text : Text) : Except NestingFault (List Element) :=
  nest [] (marks text)

end RoleWeave
