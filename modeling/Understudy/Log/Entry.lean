import Understudy.Bytes.Base64
import Understudy.Registry.Resolution

/-!
# Entries of the request log

A `LogEntry` keeps a request with its response and the mapping that was chosen for it. `LogEntry.toJson` shows it.
-/

namespace Understudy

structure LogEntry where
  guid : Guid
  request : Request
  response : Response.Message
  resolution : Resolution Score

namespace LogEntry

/-- A body as text, or in base sixty-four where it is none. -/
def bodyMembers (body : Bytes) : List (String × Json) :=
  if body.isEmpty then []
  else match Bytes.text? body with
    | some s => [("Body", .string s)]
    | none => [("BodyAsBytes", .string (Base64.encode body))]

def requestJson (r : Request) : Json :=
  .object ([("Method", .string r.method), ("Url", .string r.url.text), ("Path", .string r.path)]
    ++ Json.optional "ClientIP" (fun ip => .string ip.text) r.clientIp
    ++ [("Headers", r.headers.toJson)]
    ++ bodyMembers r.body
    ++ [("Timestamp", .string r.at_.text)])

def headersJson (m : Response.Message) : Json :=
  let pairs := m.headers ++ m.binaryHeaders.map fun (n, v) => (n, Bytes.latinText v)
  .array (pairs.map fun (n, v) => .ofStrings [n, v])

def responseJson (m : Response.Message) : Json :=
  .object ([("StatusCode", .ofNat m.status), ("Headers", headersJson m)] ++ bodyMembers m.body)

def mapping? (e : LogEntry) : Option Mapping := e.resolution.matched.map (·.mapping)

def toJson (e : LogEntry) : Json :=
  let guid (c : Candidate Score) : Json := .string c.mapping.guid.text
  let summary (c : Candidate Score) : Json := c.result.summary
  .object ([("Guid", .string e.guid.text), ("Request", requestJson e.request),
      ("Response", responseJson e.response)]
    ++ Json.optional "MappingGuid" guid e.resolution.matched
    ++ Json.optional "MappingTitle" .string (e.mapping?.bind (·.title))
    ++ Json.optional "RequestMatchResult" summary e.resolution.matched
    ++ Json.optional "PartialMappingGuid" guid e.resolution.partial_
    ++ Json.optional "PartialMatchResult" summary e.resolution.partial_)

end LogEntry

end Understudy
