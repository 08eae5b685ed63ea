import Understudy.Files.Mappings
import Understudy.Mapping.Form
import Understudy.Recording.Synthesis
import Understudy.Registry.Resolution
import Understudy.World

/-!
# Recording

`Registry.record` keeps an exchange with a backend as a mapping: in the registry, in a file, or both. It keeps nothing
when the settings do not ask for it, or when a mapping that was recorded before answers the request perfectly.
-/

namespace Understudy

def ProxySettings.wants (s : ProxySettings) (method : String) (status : Nat) : Bool :=
  s.records && s.statusFilter.allows status && s.recordsMethod method

namespace Registry

/-- A recorded mapping answers the request perfectly. -/
def hasRecorded (registry : Registry) (scenarios : ScenarioStore) (r : Request) : Bool :=
  let found : Resolution Score :=
    registry.resolveAmong (fun m => m.origin == .recorded) r scenarios false
  found.matched.any (·.result.isPerfect)

/-- The files after a mapping was written; a failure leaves them as they are. -/
def saved (files : FileStore) (directory : String) (m : Mapping) : FileStore :=
  match m.toForm.save files directory with
  | .ok (_, files) => files
  | .error _ => files

/-- Keeps an exchange. The mapping is given when the registry has it now. -/
def record (registry : Registry) (scenarios : ScenarioStore) (s : ProxySettings) (proxy : Mapping)
    (directory : String) (w : World) (r : Request) (m : Response.Message) :
    Except Error (Option Mapping × Registry × World) := do
  if !s.wants r.method m.status || registry.hasRecorded scenarios r then
    return (none, registry, w)
  let (guid, w) := w.newGuid
  let made ← Mapping.ofExchange s proxy r m guid w.now
  let w := if s.saveMappingToFile then { w with files := saved w.files directory made } else w
  if s.saveMapping then
    pure (some { made with updatedAt := w.now }, registry.register made w.now, w)
  else pure (none, registry, w)

end Registry

end Understudy
