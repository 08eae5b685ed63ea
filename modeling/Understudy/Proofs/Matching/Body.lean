import Understudy.Proofs.Request.Assembled
import Understudy.Proofs.Score.Perfect

/-!
# Bodies that are matched with themselves

A matcher for the exact body sees the body in its representation. Text and bytes are given back as they came, so that
the body is accepted. A body that was read as JSON is seen as the value: as bytes it is the compact text of the value,
in which spacing, the order of members and the spelling of numbers are gone, and as text it is that too, or the content
of a string. Such a body is accepted by itself exactly when this is how it was written.
-/

namespace Understudy

open Scale

namespace Request

variable {r : Request}

theorem bodyJson?_eq_some {v : Json} : r.bodyJson? = some v ↔ r.content = some (.json v) := by
  unfold bodyJson?
  split <;> simp_all

theorem bodyAttribute_of_json {v : Json} (hv : r.bodyJson? = some v) : r.bodyAttribute = .json v := by
  rw [bodyAttribute, bodyJson?_eq_some.1 hv]

theorem views_of_bodyJson?_eq_none (h : r.Assembled) (hne : r.body.isEmpty = false)
    (hjson : r.bodyJson? = none) :
    r.bodyAttribute.bytes? = some r.body ∧ r.bodyAttribute.text? = Bytes.text? r.body := by
  unfold bodyAttribute
  cases hcontent : r.content with
  | none =>
      rw [h.content_eq_none, hne] at hcontent
      exact absurd hcontent Bool.false_ne_true
  | some c =>
      cases c with
      | json v =>
          rw [bodyJson?_eq_some.2 hcontent] at hjson
          exact absurd hjson (Option.some_ne_none v)
      | text s =>
          have hs : Bytes.text? r.body = some s := h.reads hcontent
          exact ⟨congrArg some (Bytes.text?_eq_some.1 hs).symm, hs.symm⟩
      | bytes => exact ⟨rfl, rfl⟩

/-- The bytes that are seen are those that came, unless a JSON value was read that is written otherwise. -/
theorem bytes?_bodyAttribute (h : r.Assembled) (hne : r.body.isEmpty = false) :
    r.bodyAttribute.bytes? = some r.body ↔
      ∀ v ∈ r.bodyJson?, Bytes.ofText v.compact = r.body := by
  cases hjson : r.bodyJson? with
  | none => simp [(views_of_bodyJson?_eq_none h hne hjson).1]
  | some v => simp [bodyAttribute_of_json hjson, Attribute.bytes?]

/-- The text that is seen is the one that came, unless a JSON value was read that is seen as another. -/
theorem text?_bodyAttribute (h : r.Assembled) (hne : r.body.isEmpty = false) {s : String}
    (hs : Bytes.text? r.body = some s) :
    r.bodyAttribute.text? = some s ↔ ∀ v ∈ r.bodyJson?, (Attribute.json v).text? = some s := by
  cases hjson : r.bodyJson? with
  | none => simp [(views_of_bodyJson?_eq_none h hne hjson).2, hs]
  | some v => simp [bodyAttribute_of_json hjson]

def posted (contentType body : String) : Request :=
  .ofUrl "POST"
    { scheme := "http", user := "", password := none, host := some (.domain "h"), port := none
      path := "/", query := none, fragment := none }
    [("Content-Type", Bytes.ofText contentType)] (Bytes.ofText body) none default

theorem assembled_posted (contentType body : String) : (posted contentType body).Assembled :=
  assembled_ofUrl "http://h/" (by decide +kernel) _ _ _ _ _

end Request

namespace Dimension

variable {α : Type} [Scale α] [Scale.Lawful α]

/--
Matching a body that is not empty with its own bytes, and with its own text when it is one: the score is perfect for
every body that was not read as JSON, and for one that was, exactly when the value is seen as the body was written.
-/
theorem score_own_body (fold : Fold) {r : Request} (h : r.Assembled) (hne : r.body.isEmpty = false) :
    ((body ⟨[.exactBytes r.body], fold⟩).score r = (one : α) ↔
        ∀ v ∈ r.bodyJson?, Bytes.ofText v.compact = r.body) ∧
      ∀ s, Bytes.text? r.body = some s →
        ((body ⟨[.exact s], fold⟩).score r = (one : α) ↔
          ∀ v ∈ r.bodyJson?, (Attribute.json v).text? = some s) := by
  constructor
  · rw [score_body_single, Matcher.score_exactBytes, ofBool_eq_one, beq_iff_eq]
    exact Request.bytes?_bodyAttribute h hne
  · intro s hs
    rw [score_body_single, Matcher.score_exact, ofBool_eq_one, beq_iff_eq]
    exact Request.text?_bodyAttribute h hne hs

/-- A compact object with its members in order is read as JSON and accepted by itself, as bytes and as text. -/
theorem compactObject_accepts_itself :
    (Request.posted "application/json" "\x7b\"a\":1\x7d").bodyJson?.isSome = true ∧
      (body ⟨[.exactBytes (Bytes.ofText "\x7b\"a\":1\x7d")], .or⟩).score
        (Request.posted "application/json" "\x7b\"a\":1\x7d") = (one : Score) ∧
      (body ⟨[.exact "\x7b\"a\":1\x7d"], .or⟩).score
        (Request.posted "application/json" "\x7b\"a\":1\x7d") = (one : Score) := by
  obtain ⟨hbytes, htext⟩ := score_own_body (α := Score) .or
    (Request.assembled_posted "application/json" "\x7b\"a\":1\x7d") (by decide +kernel)
  exact ⟨by decide +kernel, hbytes.2 (by decide +kernel),
    (htext _ (Bytes.text?_ofText "\x7b\"a\":1\x7d")).2 (by decide +kernel)⟩

/-- A space behind the colon is gone when the object has been read: neither its bytes nor its text accept it. -/
theorem spacedObject_rejects_itself :
    ∃ r : Request, r.Assembled ∧ r.body.isEmpty = false ∧
      Bytes.text? r.body = some "\x7b\"a\": 1\x7d" ∧
      (body (.single (.exactBytes r.body))).score r ≠ (one : Score) ∧
      (body (.single (.exact "\x7b\"a\": 1\x7d"))).score r ≠ (one : Score) :=
  ⟨Request.posted "application/json" "\x7b\"a\": 1\x7d", Request.assembled_posted _ _,
    by decide +kernel, Bytes.text?_ofText "\x7b\"a\": 1\x7d", by decide +kernel, by decide +kernel⟩

end Dimension

end Understudy
