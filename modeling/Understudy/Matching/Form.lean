import Understudy.Matching.Dimension
import Understudy.Matcher.Compile

/-!
# Dimensions from their written form

`Dimension.ofForm` reads the dimensions of a mapping in a fixed order: address, methods, path, URL, headers, cookies,
parameters and body. `Dimension.toForm` writes them; predicates have no written form.
-/

namespace Understudy

/-- A wildcard pattern or matchers; there has to be at least one. -/
def MatcherSet.ofForm (form : Form.Value) : Except Error MatcherSet :=
  match form with
  | .pattern s => (Matcher.wildcard s).map .single
  | .matchers block =>
    if block.matchers.isEmpty then throw (.mapping .noMatchers)
    else do
      let matchers ← block.matchers.mapM Matcher.ofForm
      let fold ← Fold.ofForm block.matchOperator
      pure { matchers, fold }

def MatcherSet.toForm (set : MatcherSet) : Form.Value :=
  .matchers { matchers := set.matchers.map Matcher.toForm, matchOperator := set.fold.toForm }

def MatcherSet.ofBody (form : Form.Body) : Except Error MatcherSet := do
  let first ← form.matcher.toList.mapM Matcher.ofForm
  let more ← (form.matchers.getD []).mapM Matcher.ofForm
  if first.isEmpty && more.isEmpty then throw (.mapping .noBodyMatcher)
  let fold ← Fold.ofForm form.matchOperator
  pure { matchers := first ++ more, fold }

def MatcherSet.toBody (set : MatcherSet) : Form.Body :=
  match set.matchers with
  | [m] => { matcher := some m.toForm, matchers := none, matchOperator := none }
  | ms =>
    { matcher := none, matchers := some (ms.map Matcher.toForm), matchOperator := set.fold.toForm }

/-- A matcher for a name; headers never regard the case of names. -/
def KeyedMatcher.ofForm (isHeader : Bool) (form : Form.Keyed) : Except Error KeyedMatcher := do
  if Text.isAllBlank form.name then throw (.mapping .noName)
  let matchers ← (form.matchers.getD []).mapM Matcher.ofForm
  let fold ← Fold.ofForm form.matchOperator
  pure
    { name := form.name
      matchers
      ignoreCase := isHeader || form.ignoreCase.getD false
      behaviour := .ofReject (form.rejectOnMatch.getD false)
      fold }

def KeyedMatcher.toForm (k : KeyedMatcher) : Form.Keyed :=
  { name := k.name
    matchers := if k.matchers.isEmpty then none else some (k.matchers.map Matcher.toForm)
    ignoreCase := Matcher.ifTrue k.ignoreCase
    rejectOnMatch := Matcher.ifTrue k.behaviour.isReject
    matchOperator := k.fold.toForm }

namespace Dimension

def part {α : Type} (make : MatcherSet → Dimension) (read : α → Except Error MatcherSet)
    (form : Option α) : Except Error (List Dimension) :=
  form.toList.mapM fun a => (read a).map make

def parts (make : KeyedMatcher → Dimension) (isHeader : Bool) (forms : Option (List Form.Keyed)) :
    Except Error (List Dimension) :=
  (forms.getD []).mapM fun k => (KeyedMatcher.ofForm isHeader k).map make

def ofForm (form : Form.Request) : Except Error (List Dimension) := do
  let ip ← part .clientIp MatcherSet.ofForm form.clientIp
  let methods := (form.methods.filter (!·.isEmpty)).toList.map ofMethods
  let path ← part .path MatcherSet.ofForm form.path
  let url ← part .url MatcherSet.ofForm form.url
  let headers ← parts .header true form.headers
  let cookies ← parts .cookie false form.cookies
  let params ← parts .param false form.params
  let body ← part .body MatcherSet.ofBody form.body
  pure (ip ++ methods ++ path ++ url ++ headers ++ cookies ++ params ++ body)

def pushKeyed (k : KeyedMatcher) (forms : Option (List Form.Keyed)) : Option (List Form.Keyed) :=
  some (forms.getD [] ++ [k.toForm])

def write (form : Form.Request) : Dimension → Form.Request
  | .methods names => { form with methods := some names }
  | .path set => { form with path := some set.toForm }
  | .url set => { form with url := some set.toForm }
  | .clientIp set => { form with clientIp := some set.toForm }
  | .header k => { form with headers := pushKeyed k form.headers }
  | .cookie k => { form with cookies := pushKeyed k form.cookies }
  | .param k => { form with params := pushKeyed k form.params }
  | .body set => { form with body := some set.toBody }
  | .predicate .. => form

def toForm (dimensions : List Dimension) : Form.Request := dimensions.foldl write .empty

end Dimension

end Understudy
