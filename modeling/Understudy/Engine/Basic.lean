import Understudy.Forward.Client
import Understudy.Log.Basic
import Understudy.Mapping.Form
import Understudy.Settings.Server
import Understudy.World

/-!
# The state of a server

An `Engine` holds the mappings, scenarios, the request log and the clients of one server. The operations here are those
that the program and the administrative interface share; they leave administrative mappings alone.
-/

namespace Understudy

structure Engine where
  settings : ServerSettings
  registry : Registry
  scenarios : ScenarioStore
  log : RequestLog
  clients : ClientPool

namespace Engine

def bare (settings : ServerSettings) : Engine :=
  { settings
    registry := .empty
    scenarios := .empty
    log := .empty settings.maxRequestLogCount (settings.logExpiration?.map fun h => .ofHours h)
    clients := .empty }

def register (e : Engine) (m : Mapping) (now : Instant) : Engine :=
  { e with registry := e.registry.register m now }

/-- The mappings of forms; those without a GUID get new ones. -/
def compileForms (w : World) : List Form.Mapping → Except Error (List Mapping × World)
  | [] => pure ([], w)
  | form :: forms => do
    let (guid, w) := w.newGuid
    let m ← Mapping.ofForm form guid w.now
    let (ms, w) ← compileForms w forms
    pure (m :: ms, w)

/-- Registers all forms, or none when one of them is wrong. -/
def registerForms (e : Engine) (w : World) (forms : List Form.Mapping) :
    Except Error (List Mapping × Engine × World) := do
  let (ms, w) ← compileForms w forms
  pure (ms, { e with registry := e.registry.registerAll ms w.now }, w)

/-- The mapping of a GUID, unless it is administrative. -/
def mapping? (e : Engine) (guid : Guid) : Option Mapping :=
  (e.registry.get? guid).filter (!·.isAdmin)

/-- Removes a mapping that is not administrative. -/
def unregister (e : Engine) (guid : Guid) : Except Error (Mapping × Engine) :=
  match e.mapping? guid with
  | some _ => (e.registry.unregister guid).map fun (m, registry) => (m, { e with registry })
  | none => throw (.notFound guid)

def mappings (e : Engine) : List Mapping := e.registry.mappings.filter (!·.isAdmin)

/-- Removes the mappings that are not permanent; says how many. -/
def deleteMappings (e : Engine) : Nat × Engine :=
  let (count, registry) := e.registry.reset
  (count, { e with registry })

/-- Removes the mappings that are not permanent, all scenarios and the request log. -/
def reset (e : Engine) : Engine :=
  { e with registry := e.registry.reset.2, scenarios := e.scenarios.reset, log := e.log.clear }

def freshLog (e : Engine) (now : Instant) : Engine := { e with log := e.log.expire now }

def resolve (e : Engine) (r : Request) : Resolution Score :=
  e.registry.resolve r e.scenarios e.settings.allowPartialMapping

end Engine

structure Handled where
  response : Response.Message
  engine : Engine
  world : World

end Understudy
