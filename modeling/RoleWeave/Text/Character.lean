import RoleWeave.Text.Basic

/-!
# Blanks and digits

Texts are cut and trimmed at blanks, and numbered lists are told by their digits. Both are properties
of characters that Unicode 16 fixes, and both are wider than the ones of the basic Latin block.

A character is blank when it has the property `White_Space`: beside the four blanks that every format
knows these are the vertical tab, the form feed, the next-line control, the no-break space and the
spaces of other scripts, but not the zero-width space or the byte order mark. A character is a
decimal digit when its category is `Nd`, so numbered lists may be written with the digits of any
script.

A property with many characters is given as a table: a list of closed ranges of code points. The
tables of the library start after the basic Latin block; what uses them decides the characters of
that block by itself.
-/

namespace RoleWeave

/-- The Unicode property `White_Space`. -/
def Text.isBlank (c : Char) : Bool :=
  let n := c.toNat
  (9 ≤ n && n ≤ 13) || n == 0x20 || n == 0x85 || n == 0xa0 || n == 0x1680 ||
    (0x2000 ≤ n && n ≤ 0x200a) || n == 0x2028 || n == 0x2029 || n == 0x202f ||
    n == 0x205f || n == 0x3000

/-- A text without the blanks at both ends. -/
def Text.trim (text : Text) : Text :=
  Text.trimBoth Text.isBlank text

/-- The maximal runs of characters that are not blank. -/
def Text.words (text : Text) : List Text :=
  Text.wordsBy Text.isBlank text

/-- Every character that the core library counts as white space is blank. -/
theorem Text.isBlank_of_isWhitespace (c : Char) (white : c.isWhitespace = true) :
    Text.isBlank c = true := by
  simp only [Char.isWhitespace, Bool.or_eq_true, decide_eq_true_eq] at white
  rcases white with ((rfl | rfl) | rfl) | rfl <;> decide

namespace Text

/-- Closed ranges of code points, in increasing order. -/
abbrev Ranges := List (Nat × Nat)

/-- Whether a character lies in one of the ranges. -/
def Ranges.has (ranges : Ranges) (c : Char) : Bool :=
  ranges.any (fun range => range.1 ≤ c.toNat && c.toNat ≤ range.2)

/-- The decimal digits beyond the basic Latin block. -/
def digitRanges : Ranges :=
  [(0x660, 0x669), (0x6f0, 0x6f9), (0x7c0, 0x7c9), (0x966, 0x96f), (0x9e6, 0x9ef),
   (0xa66, 0xa6f), (0xae6, 0xaef), (0xb66, 0xb6f), (0xbe6, 0xbef), (0xc66, 0xc6f),
   (0xce6, 0xcef), (0xd66, 0xd6f), (0xde6, 0xdef), (0xe50, 0xe59), (0xed0, 0xed9),
   (0xf20, 0xf29), (0x1040, 0x1049), (0x1090, 0x1099), (0x17e0, 0x17e9), (0x1810, 0x1819),
   (0x1946, 0x194f), (0x19d0, 0x19d9), (0x1a80, 0x1a89), (0x1a90, 0x1a99), (0x1b50, 0x1b59),
   (0x1bb0, 0x1bb9), (0x1c40, 0x1c49), (0x1c50, 0x1c59), (0xa620, 0xa629), (0xa8d0, 0xa8d9),
   (0xa900, 0xa909), (0xa9d0, 0xa9d9), (0xa9f0, 0xa9f9), (0xaa50, 0xaa59), (0xabf0, 0xabf9),
   (0xff10, 0xff19), (0x104a0, 0x104a9), (0x10d30, 0x10d39), (0x10d40, 0x10d49),
   (0x11066, 0x1106f), (0x110f0, 0x110f9), (0x11136, 0x1113f), (0x111d0, 0x111d9),
   (0x112f0, 0x112f9), (0x11450, 0x11459), (0x114d0, 0x114d9), (0x11650, 0x11659),
   (0x116c0, 0x116c9), (0x116d0, 0x116e3), (0x11730, 0x11739), (0x118e0, 0x118e9),
   (0x11950, 0x11959), (0x11bf0, 0x11bf9), (0x11c50, 0x11c59), (0x11d50, 0x11d59),
   (0x11da0, 0x11da9), (0x11f50, 0x11f59), (0x16130, 0x16139),
   (0x16a60, 0x16a69), (0x16ac0, 0x16ac9), (0x16b50, 0x16b59), (0x16d70, 0x16d79),
   (0x1ccf0, 0x1ccf9), (0x1d7ce, 0x1d7ff), (0x1e140, 0x1e149), (0x1e2f0, 0x1e2f9),
   (0x1e4f0, 0x1e4f9), (0x1e5f1, 0x1e5fa), (0x1e950, 0x1e959), (0x1fbf0, 0x1fbf9)]

/-- The category `Nd` of Unicode 16. -/
def isDigit (c : Char) : Bool :=
  if c.toNat < 0x80 then c.isDigit else digitRanges.has c

end Text

end RoleWeave
