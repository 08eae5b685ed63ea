import Understudy.Matching.Dimension
import Understudy.Response.Wire
import Understudy.Settings.Proxy
import Understudy.Scenario.Basic

/-!
# Mappings

A `Mapping` pairs the dimensions that a request has to match with a provider of responses. `Mapping.score` scores a
request in each dimension, and in a last one when the mapping belongs to a scenario. A `Draft` is checked once, by
`Draft.build`.
-/

namespace Understudy

inductive Origin where
  /-- a user registered it -/
  | configured
  /-- it is part of the administrative interface -/
  | admin
  /-- it forwards all that nothing else answers -/
  | proxy
  /-- it was made from an exchange -/
  | recorded
  deriving DecidableEq, Inhabited

def Origin.name : Origin → String
  | .configured => "Configured"
  | .admin => "Admin"
  | .proxy => "Proxy"
  | .recorded => "Recorded"

inductive AdminAction where
  | listMappings
  | addMappings
  | deleteMappings
  | getMapping
  | putMapping
  | deleteMapping
  | reset
  | listScenarios
  | listRequests
  | deleteRequests
  | settings
  deriving DecidableEq

inductive Provider where
  | fixed (definition : Response.Definition)
  | computed (respond : Request → Response.Message)
  | admin (action : AdminAction)
  | proxy (settings : ProxySettings)

/-- The name of a way to make responses; administrative ones are computed. -/
def Provider.name : Provider → String
  | .fixed _ => "Static"
  | .computed _ => "Callback"
  | .admin _ => "Callback"
  | .proxy _ => "Proxy"

structure Mapping where
  guid : Guid
  title : Option String
  description : Option String
  /-- of equal scores the lower one counts -/
  priority : Int
  dimensions : List Dimension
  provider : Provider
  scenario : Option String
  whenStateIs : Option String
  setStateTo : Option String
  timesInSameState : Option Nat
  origin : Origin
  updatedAt : Instant

namespace Mapping

/-- Outranks every other priority. -/
def adminPriority : Int := -0x80000000

/-- Is outranked by every other priority. -/
def proxyPriority : Int := 0x7FFFFFFF

/-- Below the mappings of users and above the proxy. -/
def recordedPriority : Int := 0x7FFFFFFE

/-- The mapping can answer before its scenario has any state. -/
def isStartState (m : Mapping) : Bool :=
  m.scenario.isNone || (m.setStateTo.isSome && m.whenStateIs.isNone)

def isPermanent (m : Mapping) : Bool := m.origin == .admin || m.origin == .proxy

def isAdmin (m : Mapping) : Bool := m.origin == .admin

def isProxy (m : Mapping) : Bool :=
  match m.provider with
  | .proxy _ => true
  | _ => false

def step? (m : Mapping) : Option ScenarioStep :=
  m.scenario.map fun scenario =>
    { scenario
      whenStateIs := m.whenStateIs
      setStateTo := m.setStateTo
      timesInSameState := m.timesInSameState }

def displayName (m : Mapping) : String := m.title.getD m.guid.text

section

variable {α : Type} [Scale α]

def matchDimensions (r : Request) (dimensions : List Dimension) : MatchResult α :=
  ⟨dimensions.map fun d => ⟨d.label, d.score r⟩⟩

/-- The scores of a request in all dimensions and, in a scenario, of its state. -/
def score (m : Mapping) (r : Request) (scenarios : ScenarioStore) : MatchResult α :=
  let result := matchDimensions r m.dimensions
  match m.step? with
  | some step => result.add "Scenario" (scenarios.score step)
  | none => result

end

/-- What a mapping is to be; some of it may be left open. -/
structure Draft where
  guid : Option Guid
  title : Option String
  description : Option String
  priority : Int
  dimensions : List Dimension
  provider : Option Provider
  scenario : Option String
  whenStateIs : Option String
  setStateTo : Option String
  timesInSameState : Option Nat
  origin : Origin

def Draft.blank : Draft :=
  { guid := none, title := none, description := none, priority := 0, dimensions := []
    provider := none, scenario := none, whenStateIs := none, setStateTo := none
    timesInSameState := none, origin := .configured }

def checkProvider : Provider → Except MappingFault Unit
  | .proxy settings => settings.validate.mapError .settings
  | .fixed definition =>
    if Response.isLegalStatus definition.status then pure () else throw (.status definition.status)
  | _ => pure ()

def Draft.check (d : Draft) : Except MappingFault Unit := do
  if d.scenario.isNone
      && (d.whenStateIs.isSome || d.setStateTo.isSome || d.timesInSameState.isSome) then
    throw .stateWithoutScenario
  if d.scenario.any Text.isAllBlank then throw .emptyScenario
  if d.timesInSameState = some 0 then throw .noTimes
  match d.provider with
  | some p => checkProvider p
  | none => pure ()

/-- The mapping of a draft; without a response it answers 200 with an empty body. -/
def Draft.build (d : Draft) (fresh : Guid) (now : Instant) : Except Error Mapping := do
  d.check.mapError .mapping
  pure
    { guid := d.guid.getD fresh
      title := d.title
      description := d.description
      priority := d.priority
      dimensions := d.dimensions
      provider := d.provider.getD (.fixed (.ofStatus 200))
      scenario := d.scenario
      whenStateIs := d.whenStateIs
      setStateTo := d.setStateTo
      timesInSameState := d.timesInSameState
      origin := d.origin
      updatedAt := now }

end Mapping

end Understudy
