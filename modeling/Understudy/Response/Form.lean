import Understudy.Response.Basic
import Understudy.Form.Basic
import Understudy.Form.Reading
import Understudy.Bytes.Base64

/-!
# Responses from their written form

A written response has at most one body: a text, a JSON value, or bytes in base 64.
-/

namespace Understudy

namespace Response

def Body.ofForm (form : Form.Response) : Except Error Body :=
  match form.body, form.bodyAsJson, form.bodyAsBytes with
  | none, none, none => pure .empty
  | some s, none, none => pure (.text s)
  | none, some v, none => pure (.json v)
  | none, none, some encoded =>
    match Base64.decode? encoded with
    | some b => pure (.bytes b)
    | none => throw (.mapping .bodyEncoding)
  | _, _, _ => throw (.mapping .manyBodies)

def headersOfForm (form : Form.Response) : List (String × String) :=
  (form.headers.getD []).flatMap fun (n, v) => v.values.map (n, ·)

/-- The response of a form; without a status code it is 200. -/
def Definition.ofForm (form : Form.Response) : Except Error Definition := do
  let body ← Body.ofForm form
  let start := { Definition.ofStatus (form.statusCode.getD 200) with body, delay := form.delay }
  pure (start.withHeaders (headersOfForm form))

def Definition.toForm (d : Definition) : Form.Response :=
  let headers := Ascending.sort (d.headers.map fun (n, vs) => (n, .ofValues vs))
  let form : Form.Response :=
    { Form.Response.empty with
      statusCode := some d.status
      headers := if headers.isEmpty then none else some headers
      delay := d.delay }
  match d.body with
  | .empty => form
  | .text s => { form with body := some s }
  | .json v => { form with bodyAsJson := some v }
  | .bytes b => { form with bodyAsBytes := some (Base64.encode b) }

end Response

end Understudy
