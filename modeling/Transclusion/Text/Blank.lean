/-!
# Blank characters

The blank characters of Unicode (the `White_Space` property) and trimming by
them. Header values, attribute values and configuration text are all trimmed
with this class, so a no-break space or an ideographic space counts as blank
exactly like an ASCII space.
-/

namespace Transclusion.Text

/-- A character is blank when it has the Unicode `White_Space` property: the
ASCII controls tab to carriage return, space, next line, no-break space, Ogham
space mark, the typographic spaces U+2000 to U+200A, the line and paragraph
separators, the narrow no-break space, the medium mathematical space and the
ideographic space. -/
def isBlank (c : Char) : Bool :=
  let n := c.toNat
  (0x09 ≤ n && n ≤ 0x0D) || n == 0x20 || n == 0x85 || n == 0xA0 || n == 0x1680 ||
    (0x2000 ≤ n && n ≤ 0x200A) || n == 0x2028 || n == 0x2029 || n == 0x202F ||
    n == 0x205F || n == 0x3000

/-- The ASCII blanks that markup and protocol grammars use: space, tab, line
feed, form feed and carriage return. -/
def isAsciiBlank (c : Char) : Bool :=
  c == ' ' || c == '\t' || c == '\n' || c == '\x0c' || c == '\r'

def trimBlankList (cs : List Char) : List Char :=
  ((cs.dropWhile isBlank).reverse.dropWhile isBlank).reverse

def trimBlank (s : String) : String :=
  String.ofList (trimBlankList s.toList)

/-- Drops from both ends every character that belongs to `set`. -/
def trimChars (set : List Char) (s : String) : String :=
  let keep := fun c => set.contains c
  String.ofList (((s.toList.dropWhile keep).reverse.dropWhile keep).reverse)

/-- Drops trailing characters that belong to `set`. -/
def trimRightChars (set : List Char) (s : String) : String :=
  let keep := fun c => set.contains c
  String.ofList ((s.toList.reverse.dropWhile keep).reverse)

/-- A string is blank when trimming leaves nothing. -/
def IsBlankText (s : String) : Prop := trimBlank s = ""

theorem trimBlankList_nil : trimBlankList [] = [] := rfl

theorem isBlank_space : isBlank ' ' = true := rfl

end Transclusion.Text
