import Understudy.Mapping.Basic
import Understudy.Matching.Form
import Understudy.Response.Form

/-!
# Mappings from their written form

`Mapping.ofForm` compiles a written form, and any part of it that is wrong refuses the whole; `Mapping.toForm` writes a
mapping, except for what has no written form: predicates and computed responses.
-/

namespace Understudy

namespace Mapping

/-- The provider of a form: a proxy when there is a URL for one, and a fixed response otherwise. -/
def providerOfForm (form : Form.Response) : Except Error Provider :=
  match form.proxyUrl with
  | some url =>
    pure (.proxy { ProxySettings.forUrl url with replace := form.proxyUrlReplaceSettings })
  | none => (Response.Definition.ofForm form).map .fixed

def providerToForm : Provider → Form.Response
  | .fixed d => d.toForm
  | .proxy s =>
    { Form.Response.empty with proxyUrl := some s.url, proxyUrlReplaceSettings := s.replace }
  | _ => .empty

/-- The mapping of a form; a GUID that is not given is the fresh one. -/
def ofForm (form : Form.Mapping) (fresh : Guid) (now : Instant) : Except Error Mapping := do
  let dimensions ← Dimension.ofForm form.request
  let provider ← providerOfForm form.response
  let draft : Draft :=
    { guid := form.guid
      title := form.title
      description := form.description
      priority := form.priority.getD 0
      dimensions
      provider := some provider
      scenario := form.scenario
      whenStateIs := form.whenStateIs
      setStateTo := form.setStateTo
      timesInSameState := form.timesInSameState
      origin := .configured }
  draft.build fresh now

def toForm (m : Mapping) : Form.Mapping :=
  { guid := some m.guid
    title := m.title
    description := m.description
    priority := some m.priority
    scenario := m.scenario
    whenStateIs := m.whenStateIs
    setStateTo := m.setStateTo
    timesInSameState := m.timesInSameState
    request := Dimension.toForm m.dimensions
    response := providerToForm m.provider
    updatedAt := some m.updatedAt }

end Mapping

end Understudy
