import Understudy.Proofs.Json.Free
import Understudy.Proofs.Request.MultiMap
import Understudy.Proofs.Matching.Form

/-!
# Requests as they are assembled

Every request that comes in is assembled from a method, a URL, headers and a body, and its parts fit together: the
method is in capitals, headers and query hold the values that came under each name, cookies stand in ascending order
with names that are not blank, and the content is a reading of the body.
-/

namespace Understudy

instance : LawfulBEq Bytes where
  eq_of_beq h := ByteArray.ext (beq_iff_eq.1 (show _ == _ from h))
  rfl := beq_self_eq_true (α := Array UInt8) _

namespace Bytes

theorem text?_eq_some {b : Bytes} {s : String} : text? b = some s ↔ b = ofText s := by
  unfold text? String.fromUTF8?
  split
  · rename_i hvalid
    rw [Option.some_inj]
    constructor
    · rintro rfl
      rfl
    · rintro rfl
      rfl
  · rename_i hinvalid
    refine ⟨fun h => absurd h (by simp), ?_⟩
    rintro rfl
    exact absurd s.isValidUTF8 hinvalid

@[simp] theorem text?_ofText (s : String) : text? (ofText s) = some s := text?_eq_some.2 rfl

theorem eq_empty {b : Bytes} (h : b.isEmpty = true) : b = empty :=
  ByteArray.size_eq_zero_iff.1 (beq_iff_eq.1 h)

end Bytes

def Content.Reads (body : Bytes) : Content → Prop
  | .text s => Bytes.text? body = some s
  | .json v => ∃ s, Bytes.text? body = some s ∧ Json.parse? s = some v
  | .bytes => Bytes.text? body = none

theorem Content.detect_eq_none {contentType : Option String} {body : Bytes} :
    detect contentType body = none ↔ body.isEmpty = true := by
  unfold detect
  constructor
  · intro h
    by_contra hne
    rw [if_neg hne] at h
    split at h
    · exact absurd h (by simp)
    · simp only at h
      split at h <;> exact absurd h (by simp)
  · exact fun h => if_pos h

theorem Content.reads_of_detect {contentType : Option String} {body : Bytes} {c : Content}
    (h : detect contentType body = some c) : c.Reads body := by
  unfold detect at h
  split at h
  · exact absurd h (by simp)
  · split at h
    · rename_i hbytes
      obtain rfl := Option.some.inj h
      exact hbytes
    · rename_i s htext
      simp only at h
      split at h
      · rename_i v hread
        obtain rfl := Option.some.inj h
        exact ⟨s, htext, (Option.ite_none_right_eq_some.1 hread).2⟩
      · obtain rfl := Option.some.inj h
        exact htext

namespace Request

/-- The headers as they came, each value as text. -/
def headerPairs (r : Request) : List (String × String) :=
  r.rawHeaders.map fun h => (h.1, Bytes.latinText h.2)

theorem assemble_eq_ok {method text : String} {headers : List (String × Bytes)} {body : Bytes}
    {clientIp : Option Address} {at_ : Instant} {r : Request} :
    assemble method text headers body clientIp at_ = .ok r ↔
      ∃ url, Url.parse text = .ok url ∧ ofUrl method url headers body clientIp at_ = r := by
  unfold assemble
  cases Url.parse text with
  | ok url => simp [pure, Except.pure]
  | error f => simp [throw, throwThe, MonadExceptOf.throw]

def Assembled (r : Request) : Prop :=
  ∃ method url headers body clientIp at_, assemble method url headers body clientIp at_ = .ok r

theorem assembled_ofUrl (text : String) {url : Url} (h : Url.parse text = .ok url) (method : String)
    (headers : List (String × Bytes)) (body : Bytes) (clientIp : Option Address) (at_ : Instant) :
    (ofUrl method url headers body clientIp at_).Assembled :=
  ⟨method, text, headers, body, clientIp, at_, assemble_eq_ok.2 ⟨url, h, rfl⟩⟩

namespace Assembled

variable {r : Request}

theorem exists_ofUrl (h : r.Assembled) :
    ∃ method url headers body clientIp at_, r = ofUrl method url headers body clientIp at_ := by
  obtain ⟨method, text, headers, body, clientIp, at_, h⟩ := h
  obtain ⟨url, -, rfl⟩ := assemble_eq_ok.1 h
  exact ⟨method, url, headers, body, clientIp, at_, rfl⟩

theorem parse_url (h : r.Assembled) : ∃ text, Url.parse text = .ok r.url := by
  obtain ⟨method, text, headers, body, clientIp, at_, h⟩ := h
  obtain ⟨url, hurl, rfl⟩ := assemble_eq_ok.1 h
  exact ⟨text, hurl⟩

theorem upper_method (h : r.Assembled) : Text.upper r.method = r.method := by
  obtain ⟨method, url, headers, body, clientIp, at_, rfl⟩ := h.exists_ofUrl
  exact Text.upper_upper method

theorem headers_eq (h : r.Assembled) : r.headers = .ofPairs true r.headerPairs := by
  obtain ⟨method, url, headers, body, clientIp, at_, rfl⟩ := h.exists_ofUrl
  rfl

theorem query_eq (h : r.Assembled) : r.query = .ofPairs false r.url.queryPairs := by
  obtain ⟨method, url, headers, body, clientIp, at_, rfl⟩ := h.exists_ofUrl
  rfl

theorem content_eq (h : r.Assembled) :
    r.content = Content.detect (r.headers.get? "content-type") r.body := by
  obtain ⟨method, url, headers, body, clientIp, at_, rfl⟩ := h.exists_ofUrl
  rfl

theorem content_eq_none (h : r.Assembled) : r.content = none ↔ r.body.isEmpty = true := by
  rw [h.content_eq]
  exact Content.detect_eq_none

theorem reads (h : r.Assembled) {c : Content} (hc : r.content = some c) : c.Reads r.body := by
  rw [h.content_eq] at hc
  exact Content.reads_of_detect hc

theorem cookies_ascending (h : r.Assembled) : Ascending r.cookies := by
  obtain ⟨method, url, headers, body, clientIp, at_, rfl⟩ := h.exists_ofUrl
  simp only [ofUrl, cookiesOf]
  exact Ascending.sort_ascending _

end Assembled

end Request

end Understudy
