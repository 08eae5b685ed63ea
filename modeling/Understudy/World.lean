import Understudy.Files.Basic
import Understudy.Guid
import Understudy.Time.Instant

/-!
# Around a server
-/

namespace Understudy

/-- What a server finds around it: the time, new GUIDs and files. -/
structure World where
  now : Instant
  guids : GuidSource
  files : FileStore

namespace World

def newGuid (w : World) : Guid × World :=
  let (guid, guids) := w.guids.next
  (guid, { w with guids })

end World

end Understudy
