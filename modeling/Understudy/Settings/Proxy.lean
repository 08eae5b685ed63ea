import Understudy.Settings.StatusFilter
import Understudy.Settings.Replacement
import Understudy.Record.Reader
import Understudy.Url.Parser

/-!
# Settings for forwarding and recording

`ProxySettings` says where requests are forwarded to, what is left out on the way, and which exchanges become mappings.
-/

namespace Understudy

structure WebProxySettings where
  address : String
  userName : Option String
  password : Option String
  deriving DecidableEq, Inhabited

namespace WebProxySettings

def validate (w : WebProxySettings) : Except SettingsFault Unit := do
  match Url.parse w.address with
  | .error f => throw (.webProxyAddress w.address f)
  | .ok _ => if w.password.isSome && w.userName.isNone then throw .passwordAlone else pure ()

variable {τ : Type} [Tree τ]

def fields : List (Field τ WebProxySettings) :=
  [.needed "address" Reader.string fun a w => { w with address := a },
    .maybe "userName" Reader.string fun a w => { w with userName := a },
    .maybe "password" Reader.string fun a w => { w with password := a }]

def read : Reader τ WebProxySettings := Field.record fields ⟨"", none, none⟩

def toJson (w : WebProxySettings) : Json :=
  .object ([("address", .string w.address)]
    ++ Json.optional "userName" .string w.userName
    ++ Json.optional "password" .string w.password)

end WebProxySettings

structure ProxySettings where
  url : String
  saveMapping : Bool
  saveMappingToFile : Bool
  statusPattern : String
  excludedHeaders : List String
  excludedCookies : List String
  excludedParams : List String
  replace : Option Form.Replace
  allowedMethods : List String
  excludedMethods : List String
  useDefinedRequestMatchers : Bool
  webProxy : Option WebProxySettings
  timeoutMs : Nat
  deriving DecidableEq, Inhabited

namespace ProxySettings

/-- Forwarding to a URL and nothing else. -/
def forUrl (url : String) : ProxySettings :=
  { url, saveMapping := false, saveMappingToFile := false, statusPattern := "*"
    excludedHeaders := [], excludedCookies := [], excludedParams := [], replace := none
    allowedMethods := [], excludedMethods := [], useDefinedRequestMatchers := false
    webProxy := none, timeoutMs := 30000 }

def validate (s : ProxySettings) : Except SettingsFault Unit := do
  match Url.parse s.url with
  | .error f => throw (.proxyUrl s.url f)
  | .ok u =>
    if u.scheme != "http" && u.scheme != "https" then throw (.proxyScheme u.scheme)
    let _ ← StatusFilter.parse s.statusPattern
    if s.timeoutMs = 0 then throw .noTimeout
    match s.webProxy with
    | some w => w.validate
    | none => pure ()

def records (s : ProxySettings) : Bool := s.saveMapping || s.saveMappingToFile

def recordsMethod (s : ProxySettings) (method : String) : Bool :=
  !Text.listsName s.excludedMethods method &&
    (s.allowedMethods.isEmpty || Text.listsName s.allowedMethods method)

/-- Which status codes are recorded: none when the pattern cannot be read. -/
def statusFilter (s : ProxySettings) : StatusFilter :=
  match StatusFilter.parse s.statusPattern with
  | .ok f => f
  | .error _ => .ranges []

def excludesHeader (s : ProxySettings) (name : String) : Bool := Text.listsName s.excludedHeaders name

def excludesCookie (s : ProxySettings) (name : String) : Bool := Text.listsName s.excludedCookies name

def excludesParam (s : ProxySettings) (name : String) : Bool := Text.listsName s.excludedParams name

variable {τ : Type} [Tree τ]

def replaceFields : List (Field τ Form.Replace) :=
  [.needed "oldValue" Reader.string fun a r => { r with oldValue := a },
    .needed "newValue" Reader.string fun a r => { r with newValue := a },
    .defaulted "ignoreCase" Reader.bool fun a r => { r with ignoreCase := a }]

def fields : List (Field τ ProxySettings) :=
  let texts : Reader τ (List String) := Reader.list Reader.string
  [.needed "url" Reader.string fun a s => { s with url := a },
    .defaulted "saveMapping" Reader.bool fun a s => { s with saveMapping := a },
    .defaulted "saveMappingToFile" Reader.bool fun a s => { s with saveMappingToFile := a },
    .defaulted "saveMappingForStatusCodePattern" Reader.string fun a s =>
      { s with statusPattern := a },
    .defaulted "excludedHeaders" texts fun a s => { s with excludedHeaders := a },
    .defaulted "excludedCookies" texts fun a s => { s with excludedCookies := a },
    .defaulted "excludedParams" texts fun a s => { s with excludedParams := a },
    .maybe "replaceSettings" (Field.record replaceFields ⟨"", "", false⟩) fun a s =>
      { s with replace := a },
    .defaulted "allowedMethods" texts fun a s => { s with allowedMethods := a },
    .defaulted "excludedMethods" texts fun a s => { s with excludedMethods := a },
    .defaulted "useDefinedRequestMatchers" Reader.bool fun a s =>
      { s with useDefinedRequestMatchers := a },
    .maybe "webProxySettings" WebProxySettings.read fun a s => { s with webProxy := a },
    .defaulted "timeoutMs" (Reader.nat 0xFFFFFFFFFFFFFFFF) fun a s => { s with timeoutMs := a }]

def read : Reader τ ProxySettings := Field.record fields (forUrl "")

def filled (name : String) (texts : List String) : List (String × Json) :=
  if texts.isEmpty then [] else [(name, .ofStrings texts)]

def toJson (s : ProxySettings) : Json :=
  let replace (r : Form.Replace) : Json :=
    .object [("oldValue", .string r.oldValue), ("newValue", .string r.newValue),
      ("ignoreCase", .bool r.ignoreCase)]
  .object ([("url", .string s.url), ("saveMapping", .bool s.saveMapping),
      ("saveMappingToFile", .bool s.saveMappingToFile),
      ("saveMappingForStatusCodePattern", .string s.statusPattern)]
    ++ filled "excludedHeaders" s.excludedHeaders
    ++ filled "excludedCookies" s.excludedCookies
    ++ filled "excludedParams" s.excludedParams
    ++ Json.optional "replaceSettings" replace s.replace
    ++ filled "allowedMethods" s.allowedMethods
    ++ filled "excludedMethods" s.excludedMethods
    ++ [("useDefinedRequestMatchers", .bool s.useDefinedRequestMatchers)]
    ++ Json.optional "webProxySettings" WebProxySettings.toJson s.webProxy
    ++ [("timeoutMs", .ofNat s.timeoutMs)])

end ProxySettings

end Understudy
