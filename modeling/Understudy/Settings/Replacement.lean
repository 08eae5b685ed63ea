import Understudy.Form.Basic
import Understudy.Regex.Parser
import Understudy.Regex.Replacement

/-!
# Replacing texts in paths
-/

namespace Understudy

namespace Form.Replace

def expression (old : String) : String := "(?i)" ++ String.ofList (old.toList.flatMap Regex.quoted)

/--
Every leftmost occurrence of the old value becomes the new one. Without regard to case an old value that is too long for
a regular expression is not replaced.
-/
def apply (r : Form.Replace) (input : String) : String :=
  if r.oldValue.isEmpty then input
  else if r.ignoreCase then
    match Regex.parse? false false (expression r.oldValue) with
    | some re => String.ofList (re.replaceAll r.newValue.toList input.toList)
    | none => input
  else String.ofList (Text.replaceEach r.oldValue.toList r.newValue.toList input.toList)

end Form.Replace

end Understudy
