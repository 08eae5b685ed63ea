import Understudy.Regex.Parser
import Understudy.Text.Cut

/-!
# Wildcards

In a wildcard pattern a star stands for any run of characters, a question mark for any one character, and every other
character for itself. The whole text has to fit. `Wildcard.expression` says this as the text of a regular expression.
-/

namespace Understudy

namespace Wildcard

/-- All characters are quoted, and then the stars and question marks among them are replaced, one after the other. -/
def expression (pattern : String) : String :=
  let runs := Text.replaceEach ['\\', '*'] ['.', '*'] (pattern.toList.flatMap Regex.quoted)
  String.ofList (['^'] ++ Text.replaceEach ['\\', '?'] ['.'] runs ++ ['$'])

end Wildcard

end Understudy
