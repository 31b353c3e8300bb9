import Formulary.Text

namespace Formulary.Text

/-! # Blank code points

White space in the sense of the character tables.  A text of white space only
names nothing.
-/

/-- White space, line separators and the four ASCII separators included. -/
def isBlank (point : CodePoint) : Bool :=
  let value := point.value
  (0x09 ≤ value && value ≤ 0x0D) || (0x1C ≤ value && value ≤ 0x20) || value = 0x85 ||
    value = 0xA0 || value = 0x1680 || (0x2000 ≤ value && value ≤ 0x200A) || value = 0x2028 ||
    value = 0x2029 || value = 0x202F || value = 0x205F || value = 0x3000

def isAllBlank (text : Text) : Bool :=
  text.all isBlank

end Formulary.Text
