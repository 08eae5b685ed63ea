import Understudy.Settings.Proxy
import Understudy.Text.Blank

/-!
# Settings of a server
-/

namespace Understudy

structure ServerSettings where
  /-- zero for any port that is free -/
  port : Nat
  host : String
  startAdminInterface : Bool
  /-- the best mapping that does not match is told -/
  allowPartialMapping : Bool
  /-- how many entries the request log keeps -/
  maxRequestLogCount : Option Nat
  /-- how many hours the request log keeps an entry -/
  requestLogExpirationHours : Option Nat
  readStaticMappings : Bool
  mappingsDirectory : String
  proxy : Option ProxySettings
  deriving DecidableEq

namespace ServerSettings

def standard : ServerSettings :=
  { port := 9091, host := "0.0.0.0", startAdminInterface := true, allowPartialMapping := false
    maxRequestLogCount := some 1000, requestLogExpirationHours := none, readStaticMappings := false
    mappingsDirectory := "__admin/mappings", proxy := none }

instance : Inhabited ServerSettings := ⟨standard⟩

def validate (s : ServerSettings) : Except SettingsFault Unit := do
  if Text.isAllBlank s.host then throw .emptyHost
  if s.maxRequestLogCount = some 0 then throw .noLogCapacity
  match s.requestLogExpirationHours with
  | some hours => if longestExpiration < hours then throw (.logExpiration hours)
  | none => pure ()
  match s.proxy with
  | some p => p.validate
  | none => pure ()

/-- The hours that the request log keeps an entry, when a span of time can be so long. -/
def logExpiration? (s : ServerSettings) : Option Nat :=
  s.requestLogExpirationHours.filter (· ≤ 0x7FFFFFFFFFFFFFFF / 3600000)

variable {τ : Type} [Tree τ]

def fields : List (Field τ ServerSettings) :=
  [.defaulted "port" (Reader.nat 65535) fun a s => { s with port := a },
    .defaulted "host" Reader.string fun a s => { s with host := a },
    .defaulted "startAdminInterface" Reader.bool fun a s => { s with startAdminInterface := a },
    .defaulted "allowPartialMapping" Reader.bool fun a s => { s with allowPartialMapping := a },
    .maybe "maxRequestLogCount" (Reader.nat 0xFFFFFFFFFFFFFFFF) fun a s =>
      { s with maxRequestLogCount := a },
    .maybe "requestLogExpirationDuration" (Reader.nat 0xFFFFFFFFFFFFFFFF) fun a s =>
      { s with requestLogExpirationHours := a },
    .defaulted "readStaticMappings" Reader.bool fun a s => { s with readStaticMappings := a },
    .defaulted "mappingsDirectory" Reader.string fun a s => { s with mappingsDirectory := a },
    .maybe "proxyAndRecordSettings" ProxySettings.read fun a s => { s with proxy := a }]

def read : Reader τ ServerSettings := Field.record fields standard

def toJson (s : ServerSettings) : Json :=
  .object ([("port", .ofNat s.port), ("host", .string s.host),
      ("startAdminInterface", .bool s.startAdminInterface),
      ("allowPartialMapping", .bool s.allowPartialMapping)]
    ++ Json.optional "maxRequestLogCount" Json.ofNat s.maxRequestLogCount
    ++ Json.optional "requestLogExpirationDuration" Json.ofNat s.requestLogExpirationHours
    ++ [("readStaticMappings", .bool s.readStaticMappings),
      ("mappingsDirectory", .string s.mappingsDirectory)]
    ++ Json.optional "proxyAndRecordSettings" ProxySettings.toJson s.proxy)

end ServerSettings

end Understudy
