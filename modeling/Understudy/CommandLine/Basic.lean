import Understudy.Number.Numeral

/-!
# The command line

The options of the program, what a command line says with them, and what can be wrong with it. The environment may give
the values of some options.
-/

namespace Understudy

namespace CommandLine

inductive Opt where
  | config
  | port
  | host
  | proxyUrl
  | saveMapping
  | saveMappingToFile
  | allowPartialMapping
  | noAdmin
  | mappingsDir
  | readStaticMappings
  | logFormat
  | help
  | version
  deriving DecidableEq

namespace Opt

def all : List Opt :=
  [.config, .port, .host, .proxyUrl, .saveMapping, .saveMappingToFile, .allowPartialMapping,
    .noAdmin, .mappingsDir, .readStaticMappings, .logFormat, .help, .version]

def name : Opt → String
  | .config => "config"
  | .port => "port"
  | .host => "host"
  | .proxyUrl => "proxy-url"
  | .saveMapping => "save-mapping"
  | .saveMappingToFile => "save-mapping-to-file"
  | .allowPartialMapping => "allow-partial-mapping"
  | .noAdmin => "no-admin"
  | .mappingsDir => "mappings-dir"
  | .readStaticMappings => "read-static-mappings"
  | .logFormat => "log-format"
  | .help => "help"
  | .version => "version"

def letter? : Opt → Option Char
  | .config => some 'c'
  | .port => some 'p'
  | .help => some 'h'
  | .version => some 'V'
  | _ => none

/-- The variable of the environment that gives the value. -/
def environmentName? : Opt → Option String
  | .config => some "DECOY_CONFIG"
  | .port => some "DECOY_PORT"
  | .host => some "DECOY_HOST"
  | .proxyUrl => some "DECOY_PROXY_URL"
  | .mappingsDir => some "DECOY_MAPPINGS_DIR"
  | _ => none

def isValued : Opt → Bool
  | .config | .port | .host | .proxyUrl | .mappingsDir | .logFormat => true
  | _ => false

def ofName? (name : String) : Option Opt := all.find? (·.name == name)

def ofLetter? (c : Char) : Option Opt := all.find? (·.letter? == some c)

end Opt

inductive Fault where
  /-- help was asked for -/
  | help
  | version
  | unknown
  /-- there is no value, or an empty one that stands for a path -/
  | noValue
  | badValue
  /-- an option without a value has one -/
  | extraValue
  | repeated
  deriving DecidableEq

def Fault.name : Fault → String
  | .help => "DisplayHelp"
  | .version => "DisplayVersion"
  | .unknown => "UnknownArgument"
  | .noValue => "InvalidValue"
  | .badValue => "ValueValidation"
  | .extraValue => "TooManyValues"
  | .repeated => "ArgumentConflict"

/-- A port number: digits with or without a sign. -/
def portOf? (s : String) : Option Nat :=
  let digits (cs : List Char) : Option Nat :=
    if !cs.isEmpty && cs.all Char.isDigit then some (Numeral.ofDigits 0 cs) else none
  match s.toList with
  | '-' :: cs => (digits cs).filter (· = 0)
  | '+' :: cs => (digits cs).filter (· ≤ 65535)
  | cs => (digits cs).filter (· ≤ 65535)

def Opt.check (o : Opt) (value : String) : Except Fault Unit :=
  match o with
  | .config | .mappingsDir => if value.isEmpty then throw .noValue else pure ()
  | .port => if (portOf? value).isSome then pure () else throw .badValue
  | _ => pure ()

abbrev Given := List (Opt × String)

namespace Given

def has (g : Given) (o : Opt) : Bool := g.any (·.1 == o)

def value? (g : Given) (o : Opt) : Option String := (g.find? (·.1 == o)).map Prod.snd

end Given

end CommandLine

end Understudy
