import Understudy.Engine.Basic
import Understudy.Form.Printing
import Understudy.Form.Reading

/-!
# The administrative interface

Each administrative action is a mapping of its own: a method, a path and what the action does. Mappings are read and
written in their written form; a request that is wrong changes nothing.
-/

namespace Understudy

namespace AdminAction

def all : List AdminAction :=
  [.listMappings, .addMappings, .deleteMappings, .getMapping, .putMapping, .deleteMapping, .reset,
    .listScenarios, .listRequests, .deleteRequests, .settings]

def title : AdminAction → String
  | .listMappings => "admin: list mappings"
  | .addMappings => "admin: add mappings"
  | .deleteMappings => "admin: delete mappings"
  | .getMapping => "admin: get mapping"
  | .putMapping => "admin: put mapping"
  | .deleteMapping => "admin: delete mapping"
  | .reset => "admin: reset"
  | .listScenarios => "admin: list scenarios"
  | .listRequests => "admin: list requests"
  | .deleteRequests => "admin: delete requests"
  | .settings => "admin: settings"

def method : AdminAction → String
  | .addMappings | .reset => "POST"
  | .putMapping => "PUT"
  | .deleteMappings | .deleteMapping | .deleteRequests => "DELETE"
  | _ => "GET"

/-- The paths of single mappings: a GUID in groups stands at the end. -/
def guidPath : String :=
  let digits (n : String) : String := "[0-9a-fA-F]\x7b" ++ n ++ "\x7d"
  "^/__admin/mappings/" ++ Text.join "-" (["8", "4", "4", "4", "12"].map digits) ++ "$"

def pathMatcher : AdminAction → Except Error Matcher
  | .getMapping | .putMapping | .deleteMapping => Matcher.regex guidPath
  | .listMappings | .addMappings | .deleteMappings => pure (.exact "/__admin/mappings")
  | .reset => pure (.exact "/__admin/mappings/reset")
  | .listScenarios => pure (.exact "/__admin/scenarios")
  | .listRequests | .deleteRequests => pure (.exact "/__admin/requests")
  | .settings => pure (.exact "/__admin/settings")

def mapping (action : AdminAction) (guid : Guid) (now : Instant) : Except Error Mapping := do
  let path ← action.pathMatcher
  let draft : Mapping.Draft :=
    { Mapping.Draft.blank with
      title := some action.title
      priority := Mapping.adminPriority
      dimensions := [.ofMethods [action.method], .path (.single path)]
      provider := some (.admin action)
      origin := .admin }
  draft.build guid now

end AdminAction

namespace Engine

def installAdmin (e : Engine) (w : World) : List AdminAction → Except Error (Engine × World)
  | [] => pure (e, w)
  | action :: actions => do
    let (guid, w) := w.newGuid
    let m ← action.mapping guid w.now
    installAdmin (e.register m w.now) w actions

def guidOf? (r : Request) : Option Guid := r.segments.getLast?.bind Guid.parse?

def badRequest (error : Error) : Response.Message := .ofText 400 error.message

def unknownMapping (guid : Guid) : Response.Message := .ofText 404 s!"Mapping {guid} not found"

def noGuid : Response.Message := .ofText 400 "Invalid mapping guid"

def guidJson (guid : Guid) : Json := .string guid.text

def added (ms : List Mapping) : Response.Message :=
  .ofJson 201 (match ms with
    | [m] => .ofMembers [("Status", .string "Mapping added"), ("Guid", guidJson m.guid)]
    | ms => .ofMembers [("Status", .string "Mappings added"),
        ("Guids", .array (ms.map fun m => guidJson m.guid))])

def told (status name : String) (value : Json) : Response.Message :=
  .ofJson 200 (.ofMembers [("Status", .string status), (name, value)])

def addMappings (e : Engine) (w : World) (r : Request) : Handled :=
  match (Form.readMappings (r.bodyText?.getD "")).bind (e.registerForms w) with
  | .ok (ms, engine, world) => { response := added ms, engine, world }
  | .error f => { response := badRequest f, engine := e, world := w }

def putMapping (e : Engine) (w : World) (r : Request) (guid : Guid) : Handled :=
  match (Form.Mapping.ofText (r.bodyText?.getD "")).bind fun form =>
      e.registerForms w [{ form with guid := some guid }] with
  | .ok (_, engine, world) =>
    { response := told "Mapping added or updated" "Guid" (guidJson guid), engine, world }
  | .error f => { response := badRequest f, engine := e, world := w }

def deleteMapping (e : Engine) (w : World) (guid : Guid) : Handled :=
  match e.unregister guid with
  | .ok (_, engine) =>
    { response := told "Mapping removed" "Guid" (guidJson guid), engine, world := w }
  | .error _ => { response := unknownMapping guid, engine := e, world := w }

def act (e : Engine) (w : World) (r : Request) (action : AdminAction) : Handled :=
  let unchanged (response : Response.Message) : Handled := { response, engine := e, world := w }
  let withGuid (f : Guid → Handled) : Handled :=
    match guidOf? r with
    | some guid => f guid
    | none => unchanged noGuid
  match action with
  | .listMappings => unchanged (.ofJson 200 (.array (e.mappings.map fun m => m.toForm.toJson)))
  | .addMappings => e.addMappings w r
  | .deleteMappings =>
    let (count, engine) := e.deleteMappings
    { response := told "Mappings deleted" "Count" (.ofNat count), engine, world := w }
  | .getMapping => withGuid fun guid =>
    unchanged (match e.mapping? guid with
      | some m => .ofJson 200 m.toForm.toJson
      | none => unknownMapping guid)
  | .putMapping => withGuid (e.putMapping w r)
  | .deleteMapping => withGuid (e.deleteMapping w)
  | .reset => { response := .ofText 200 "Mappings reset", engine := e.reset, world := w }
  | .listScenarios => unchanged (.ofJson 200 (.array (e.scenarios.list.map Scenario.toJson)))
  | .listRequests =>
    let e := e.freshLog w.now
    { response := .ofJson 200 (.array (e.log.entries.map LogEntry.toJson)), engine := e, world := w }
  | .deleteRequests =>
    { response := .ofText 200 "Requests deleted", engine := { e with log := e.log.clear }, world := w }
  | .settings => unchanged (.ofJson 200 e.settings.toJson)

end Engine

end Understudy
