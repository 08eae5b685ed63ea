import Understudy.Forward.Outbound
import Understudy.Proofs.Error.Traversal

/-!
# Requests that can be sent

A request goes out when its target is a URL that HTTP reaches and its method and all its headers are legal. `Unsendable`
lists what can be missing.
-/

namespace Understudy

open Traversal

theorem ProxySettings.target_eq_ok {s : ProxySettings} {url target : Url} :
    s.target url = .ok target ↔ Url.parse (s.targetText url) = .ok target := by
  unfold ProxySettings.target
  exact mapError_eq_ok

namespace Outbound

variable {s : ProxySettings} {client : Client} {r : Request} {out : Outbound}

/-- The headers that go out for a request, those of its credentials apart. -/
def carried (s : ProxySettings) (r : Request) : List (String × Bytes) :=
  passing s r ++ cookieHeader s r

def toTarget (s : ProxySettings) (client : Client) (r : Request) (target : Url) : Outbound :=
  { method := r.method
    url := withoutCredentials target
    headers := credentialHeader target ++ carried s r
    body := r.body
    via := client.via }

/-- What is needed of a request for it to be sent to a target. -/
structure Sendable (s : ProxySettings) (r : Request) (target : Url) : Prop where
  parses : Url.parse (s.targetText r.url) = .ok target
  method : Response.isToken r.method = true
  host : target.host.isSome = true
  headers : ∀ h ∈ carried s r, Response.isToken h.1 = true ∧ Response.isLegalValue h.2 = true
  reachable : isReachable (withoutCredentials target) = true

/-- What goes out for a request, when it can be sent. -/
theorem ofRequest_eq_ok : ofRequest s client r = .ok out ↔
    ∃ target, Sendable s r target ∧ toTarget s client r target = out := by
  have hmethod : checkMethod r.method = .ok () ↔ Response.isToken r.method = true := by
    unfold checkMethod
    split
    · rename_i h
      exact ⟨fun _ => h, fun _ => rfl⟩
    · rename_i h
      exact ⟨fun hok => absurd hok throw_ne_ok, fun htoken => absurd htoken h⟩
  unfold ofRequest
  rw [bind_eq_ok]
  refine exists_congr fun target => ?_
  simp only [bind_eq_ok, ProxySettings.target_eq_ok, check_eq_ok, pure_eq_ok, hmethod,
    Bool.not_eq_true', Bool.not_eq_false, Option.isNone_iff_eq_none, List.all_eq_true,
    Bool.and_eq_true]
  constructor
  · rintro ⟨hparses, ⟨⟩, htoken, hhost, hheaders, hreachable, rfl⟩
    exact ⟨⟨hparses, htoken, Option.isSome_iff_ne_none.2 hhost, hheaders, hreachable⟩, rfl⟩
  · rintro ⟨h, rfl⟩
    exact ⟨h.parses, (), h.method, Option.isSome_iff_ne_none.1 h.host, h.headers, h.reachable, rfl⟩

/-- The ways in which a request cannot be sent. -/
inductive Unsendable (s : ProxySettings) (r : Request) : Prop where
  /-- the target is no URL -/
  | target (f : Url.Fault) (h : Url.parse (s.targetText r.url) = .error f)
  | method (h : Response.isToken r.method = false)
  /-- a header, or the cookies together, that HTTP does not allow -/
  | header (header : String × Bytes) (hmem : header ∈ carried s r)
      (h : Response.isToken header.1 = false ∨ Response.isLegalValue header.2 = false)
  /-- HTTP does not reach the target -/
  | unreachable (target : Url) (hparses : Url.parse (s.targetText r.url) = .ok target)
      (h : target.host = none ∨ isReachable (withoutCredentials target) = false)

theorem unsendable_iff : Unsendable s r ↔ ∀ target, ¬ Sendable s r target := by
  constructor
  · rintro hunsendable target hsendable
    cases hunsendable with
    | target f h =>
        rw [hsendable.parses] at h
        exact absurd h (by simp)
    | method h =>
        rw [hsendable.method] at h
        exact absurd h (by simp)
    | header header hmem h =>
        obtain ⟨hname, hvalue⟩ := hsendable.headers header hmem
        rw [hname, hvalue] at h
        exact absurd h (by simp)
    | unreachable other hparses h =>
        rw [hsendable.parses, Except.ok.injEq] at hparses
        rw [← hparses, hsendable.reachable] at h
        exact Option.isSome_iff_ne_none.1 hsendable.host (h.resolve_right (by simp))
  · intro hnot
    cases hparses : Url.parse (s.targetText r.url) with
    | error f => exact .target f hparses
    | ok target =>
        by_contra hsendable
        refine hnot target ⟨hparses, ?_, ?_, fun header hmem => ⟨?_, ?_⟩, ?_⟩
        · rw [← Bool.not_eq_false]
          exact fun h => hsendable (.method h)
        · rw [Option.isSome_iff_ne_none]
          exact fun h => hsendable (.unreachable target hparses (Or.inl h))
        · rw [← Bool.not_eq_false]
          exact fun h => hsendable (.header header hmem (Or.inl h))
        · rw [← Bool.not_eq_false]
          exact fun h => hsendable (.header header hmem (Or.inr h))
        · rw [← Bool.not_eq_false]
          exact fun h => hsendable (.unreachable target hparses (Or.inr h))

/-- Nothing goes out in these ways, and in no other. -/
theorem exists_error_ofRequest :
    (∃ f, ofRequest s client r = .error f) ↔ Unsendable s r := by
  rw [exists_error_iff, unsendable_iff]
  constructor
  · exact fun h target hsendable => h _ (ofRequest_eq_ok.2 ⟨target, hsendable, rfl⟩)
  · intro h out hout
    obtain ⟨target, hsendable, -⟩ := ofRequest_eq_ok.1 hout
    exact h target hsendable

end Outbound

end Understudy
