import Introspection.Text.Unicode

set_option autoImplicit false

namespace Introspection

open Text

def isSeparator (c : Char) : Bool := c == '-' || c == '_'

/-- The flag `afterSmall` tells whether the last character was a small letter or a digit, so that a capital
    would begin a new word. -/
def snakeChars : (afterSmall : Bool) → List Char → List Char
  | _, [] => []
  | afterSmall, c :: cs =>
    if isSeparator c then '_' :: snakeChars false cs
    else if isCapital c then
      (if afterSmall then ['_', c.toLower] else [c.toLower]) ++ snakeChars false cs
    else c :: snakeChars (isSmall c || c.isDigit) cs

def pascalChars : (atStart : Bool) → List Char → List Char
  | _, [] => []
  | atStart, c :: cs =>
    if isSeparator c then pascalChars true cs
    else (if atStart then c.toUpper else c) :: pascalChars false cs

/-- Every separator becomes an underscore, and one more goes before a capital after a small letter or digit. -/
def snakeCase (s : String) : String := String.ofList (snakeChars false s.toList)

/-- Separators vanish and the character after one is capitalised, as is the first. -/
def pascalCase (s : String) : String := String.ofList (pascalChars true s.toList)

end Introspection
