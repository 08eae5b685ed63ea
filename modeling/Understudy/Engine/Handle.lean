import Understudy.Engine.Admin
import Understudy.Forward.Relay
import Understudy.Recording.Basic

/-!
# Answering requests

`Engine.start` makes the state that settings ask for. `Engine.handle` chooses the mapping for a request, lets it answer,
takes the step of its scenario and logs the exchange; administrative exchanges are not logged.
-/

namespace Understudy

namespace Engine

/-- The mapping that forwards whatever no other mapping answers. -/
def catchAll (s : ProxySettings) (guid : Guid) (now : Instant) : Except Error Mapping :=
  let draft : Mapping.Draft :=
    { Mapping.Draft.blank with
      title := some "Proxy catch-all"
      description := some s!"Forwards unmatched requests to {s.url}"
      priority := Mapping.proxyPriority
      provider := some (.proxy s)
      origin := .proxy }
  draft.build guid now

def installProxy (e : Engine) (w : World) : Except Error (Engine × World) :=
  match e.settings.proxy with
  | some s => do
    let (guid, w) := w.newGuid
    let m ← catchAll s guid w.now
    pure (e.register m w.now, w)
  | none => pure (e, w)

/-- Registers the mappings of the mapping files; a directory that is not there has none. -/
def loadStatic (e : Engine) (w : World) : Except Error (Engine × World) :=
  let directory := e.settings.mappingsDirectory
  if w.files.isDirectory (FilePath.ofText directory) then do
    let forms ← w.files.loadMappings directory
    let (_, e, w) ← e.registerForms w forms
    pure (e, w)
  else pure (e, w)

def start (settings : ServerSettings) (w : World) : Except Error (Engine × World) := do
  let (e, w) ← if settings.startAdminInterface then (bare settings).installAdmin w AdminAction.all
    else pure (bare settings, w)
  let (e, w) ← e.installProxy w
  if settings.readStaticMappings then e.loadStatic w else pure (e, w)

/-- Keeps an exchange with a backend; nothing happens when that fails. -/
def keep (e : Engine) (w : World) (s : ProxySettings) (m : Mapping) (r : Request)
    (response : Response.Message) : Engine × World :=
  match e.registry.record e.scenarios s m e.settings.mappingsDirectory w r response with
  | .ok (_, registry, w) => ({ e with registry }, w)
  | .error _ => (e, w)

def forward (e : Engine) (w : World) (backend : Outbound → Reply) (s : ProxySettings) (m : Mapping)
    (r : Request) : Handled :=
  let (outcome, clients) := e.clients.forward s backend r
  let e := { e with clients }
  match outcome with
  | .ok response =>
    let (engine, world) := e.keep w s m r response
    { response, engine, world }
  | .error response => { response, engine := e, world := w }

def respond (e : Engine) (w : World) (backend : Outbound → Reply) (m : Mapping) (r : Request) :
    Handled :=
  match m.provider with
  | .fixed d => { response := d.message, engine := e, world := w }
  | .computed f => { response := f r, engine := e, world := w }
  | .admin action => e.act w r action
  | .proxy s => e.forward w backend s m r

def advance (e : Engine) (m : Mapping) : Engine :=
  match m.step? with
  | some step => { e with scenarios := (e.scenarios.advance step).2 }
  | none => e

/-- The answer when no mapping matches; it names a partial match. -/
def unmatched (resolution : Resolution Score) : Response.Message :=
  let partialMember : List (String × Json) :=
    match resolution.partial_ with
    | some c =>
      [("PartialMapping", .ofMembers [("Guid", guidJson c.mapping.guid),
        ("Title", .ofOption .string c.mapping.title), ("Score", .ofBinary64 c.result.average)])]
    | none => []
  .ofJson 404 (.ofMembers (("Status", .string "No matching mapping found") :: partialMember))

def logExchange (e : Engine) (w : World) (r : Request) (response : Response.Message)
    (resolution : Resolution Score) : Engine × World :=
  let (guid, w) := w.newGuid
  ({ e with log := e.log.append { guid, request := r, response, resolution } w.now }, w)

def handle (e : Engine) (w : World) (backend : Outbound → Reply) (r : Request) : Handled :=
  let resolution := e.resolve r
  let (h, isAdmin) : Handled × Bool := match resolution.matched with
    | some c =>
      let h := e.respond w backend c.mapping r
      ({ h with engine := h.engine.advance c.mapping }, c.mapping.isAdmin)
    | none => ({ response := unmatched resolution, engine := e, world := w }, false)
  if isAdmin then h
  else
    let (engine, world) := h.engine.logExchange h.world r h.response resolution
    { h with engine, world }

end Engine

end Understudy
