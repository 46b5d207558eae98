/-!
# Characters of markup

Markup distinguishes four classes of characters: the space characters that separate its parts, the
characters that may occur at all, and those that may start or continue a name.

## Main definitions

* `isSpace`, `isAllowed`, `isNameStart`, `isNamePart` — the four classes.
-/

namespace DebugTypes.Markup

/-- The characters that separate the parts of a tag. -/
def isSpace (c : Char) : Bool := c == ' ' || c == '\t' || c == '\n' || c == '\r'

/-- The characters that may occur in text, values, comments and instructions: no controls but the
spaces, and neither of the last two code points of the basic plane. -/
def isAllowed (c : Char) : Bool :=
  if c.toNat < 0x20 then isSpace c else c.toNat != 0xFFFE && c.toNat != 0xFFFF

/-- The characters that a name may start with. -/
def isNameStart (c : Char) : Bool :=
  let n := c.toNat
  let within (low high : Nat) : Bool := low ≤ n && n ≤ high
  c.isAlpha || c == ':' || c == '_' ||
    within 0xC0 0xD6 || within 0xD8 0xF6 || within 0xF8 0x2FF || within 0x370 0x37D ||
    within 0x37F 0x1FFF || within 0x200C 0x200D || within 0x2070 0x218F || within 0x2C00 0x2FEF ||
    within 0x3001 0xD7FF || within 0xF900 0xFDCF || within 0xFDF0 0xFFFD ||
    within 0x10000 0xEFFFF

/-- The characters that a name may go on with. -/
def isNamePart (c : Char) : Bool :=
  let n := c.toNat
  isNameStart c || c.isDigit || c == '-' || c == '.' || n == 0xB7 ||
    (0x300 ≤ n && n ≤ 0x36F) || n == 0x203F || n == 0x2040

end DebugTypes.Markup
