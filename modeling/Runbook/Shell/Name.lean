/-!
# Characters and names in scripts

Which characters part the words of a script and of its expressions, and which texts can be the
names of variables.
-/

set_option autoImplicit false

namespace Runbook.Shell

/-- Whether a character parts words on a line. -/
def isBlank (c : Char) : Bool := c = ' ' || c = '\t'

/-- Whether a character parts words, on a line or between lines. -/
def isSpace (c : Char) : Bool := isBlank c || c = '\n'

/-- Whether a name may start with a character. -/
def isNameStart (c : Char) : Bool := c.isAlpha || c = '_'

/-- Whether a name may go on with a character. -/
def isNameChar (c : Char) : Bool := c.isAlphanum || c = '_'

/-- Whether a text can be the name of a variable. -/
def isName (text : String) : Bool :=
  match text.toList with
  | [] => false
  | c :: rest => isNameStart c && rest.all isNameChar

/-- A text without the blanks around it. -/
def trimSpaces (text : List Char) : List Char :=
  ((text.dropWhile isSpace).reverse.dropWhile isSpace).reverse

end Runbook.Shell
