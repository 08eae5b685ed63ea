import Understudy.Files.Mappings
import Understudy.Settings.Server
import Understudy.Yaml.Parser

/-!
# Settings files

`ServerSettings.ofFile` reads settings from a file: JSON when the name of the file says so, and YAML otherwise. What can
be wrong on the way to settings is a `SettingsError`.
-/

namespace Understudy

inductive SettingsError where
  | fault (fault : SettingsFault)
  /-- the text is no settings -/
  | unreadable
  /-- the file cannot be read -/
  | noFile (path : String)
  /-- what is wrong with the file that was asked for -/
  | inFile (path : String) (error : SettingsError)
  /-- mappings are to be recorded, but nothing is forwarded -/
  | nothingForwarded
  /-- the server cannot be set up -/
  | engine (error : Error)
  /-- nobody can connect at this host and port -/
  | address (host : String) (port : Nat)

namespace SettingsError

/-- Stands for what the reader of a format would say. -/
def parseReason : String := "<parse>"

/-- Stands for what the file system or the network would say. -/
def systemReason : String := "<io>"

def message : SettingsError → String
  | .fault f => f.message
  | .unreadable => parseReason
  | .noFile path => s!"Failed to read settings file {path}: {systemReason}"
  | .inFile path e => s!"Failed to load settings from {path}: {e.message}"
  | .nothingForwarded => "--save-mapping and --save-mapping-to-file require --proxy-url"
  | .engine e => s!"Failed to initialise mock engine: {e.message}"
  | .address host port => s!"Failed to bind {host}:{port}: {systemReason}"

end SettingsError

namespace ServerSettings

def checked (s : ServerSettings) : Except SettingsError ServerSettings :=
  match s.validate with
  | .ok _ => pure s
  | .error f => throw (.fault f)

def ofJsonText? (text : String) : Option ServerSettings :=
  let doc := Json.Document.ofText text
  match read Json.maxDepth doc.value with
  | .ok s => if doc.closed then some s else none
  | .error _ => none

def ofYamlText? (text : String) : Option ServerSettings := do
  let doc ← Yaml.Node.parse? text
  (read Json.maxDepth doc).toOption

def ofText (json : Bool) (text : String) : Except SettingsError ServerSettings :=
  match if json then ofJsonText? text else ofYamlText? text with
  | some s => s.checked
  | none => throw .unreadable

def fileName (path : String) : String := (FilePath.ofText path).getLast?.getD ""

def ofFile (files : FileStore) (path : String) : Except SettingsError ServerSettings :=
  match (files.read? (FilePath.ofText path)).bind Bytes.text? with
  | some text => ofText (isJsonFile (fileName path)) text
  | none => throw (.noFile path)

end ServerSettings

end Understudy
