/-
Letters and numerals taken together.
-/

import RubyTree.Text.Letter
import RubyTree.Text.Numeral

namespace RubyTree.Text

/-- Whether a character is a letter or a numeral. -/
def isAlphanumeric (c : Char) : Bool :=
  Letter.isLetter c || Numeral.isNumeral c

end RubyTree.Text
