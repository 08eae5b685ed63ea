import Understudy.Proofs.Engine.Effects
import Understudy.Proofs.Forward.Pool
import Understudy.Proofs.Forward.Relay
import Understudy.Proofs.Json.Texts

/-!
# Calls to a backend that fail

`ClientPool.Fails` lists the ways in which a call fails: before anything is sent, while a reply is awaited, and when the
body of a reply breaks off. In each of them the answer says what went wrong, nothing is recorded, and the exchange is
logged like any other.
-/

namespace Understudy

open Traversal

namespace Reply

variable {s : ProxySettings} {r : Request} {out : Outbound} {m : Response.Message}

/-- The ways in which a reply to a method is no whole response. -/
inductive Broken (method : String) : Reply → Prop where
  | none : Broken method .none
  | late : Broken method .late
  /-- the body breaks off, and one was to come -/
  | cut (status : Nat) (headers : List (String × Bytes)) (h : endsAtHead method status = false) :
      Broken method (.cut status headers)

/-- A reply is relayed unless it is broken, or the URL of the settings is none. -/
theorem exists_error_relay {reply : Reply} :
    (∃ f, reply.relay s r out = .error f) ↔
      Broken out.method reply ∨ ∃ f, Url.parse s.url = .error f := by
  have hparsed : (∀ backend, Url.parse s.url ≠ .ok backend) ↔ ∃ f, Url.parse s.url = .error f :=
    exists_error_iff.symm
  rw [exists_error_iff, ← hparsed]
  cases reply with
  | none => exact iff_of_true (fun m => throw_ne_ok) (Or.inl .none)
  | late => exact iff_of_true (fun m => throw_ne_ok) (Or.inl .late)
  | full status headers body =>
      simp only [Ne, relay_full_eq_ok]
      constructor
      · exact fun h => Or.inr fun backend hbackend => h _ ⟨backend, hbackend, rfl⟩
      · rintro (hbroken | hnone) m ⟨backend, hbackend, -⟩
        · exact nomatch hbroken
        · exact hnone backend hbackend
  | cut status headers =>
      simp only [Ne, relay_cut_eq_ok]
      constructor
      · intro h
        cases hhead : endsAtHead out.method status with
        | false => exact Or.inl (.cut status headers hhead)
        | true => exact Or.inr fun backend hbackend => h _ ⟨hhead, backend, hbackend, rfl⟩
      · rintro (hbroken | hnone) m ⟨hhead, backend, hbackend, -⟩
        · cases hbroken with
          | cut _ _ h =>
              rw [hhead] at h
              exact absurd h (by simp)
        · exact hnone backend hbackend

end Reply

namespace Error

theorem message_ne_empty (f : Error) : f.message ≠ "" := by
  have hfront {a b : String} (h : a ++ b = "") : a = "" := (String.append_eq_empty_iff.1 h).1
  intro h
  cases f with
  | mapping f => exact absurd (hfront h) (by decide)
  | pattern matcher pattern f =>
      have h : "Invalid pattern '" ++ pattern ++ "' for " ++ matcher ++ ": " ++ f.message = "" := h
      exact absurd (hfront (hfront (hfront (hfront (hfront h))))) (by decide)
  | request f => exact absurd (hfront h) (by decide)
  | notFound guid =>
      have h : "Mapping " ++ guid.text ++ " not found" = "" := h
      exact absurd (hfront (hfront h)) (by decide)
  | backend f => exact absurd (hfront h) (by decide)
  | timeout milliseconds =>
      have h : "Upstream did not respond within " ++ toString milliseconds ++ " ms" = "" := h
      exact absurd (hfront (hfront h)) (by decide)
  | file => exact absurd (hfront h) (by decide)
  | json f => exact absurd (hfront h) (by decide)
  | configuration => exact absurd (hfront h) (by decide)
  | inFile path f =>
      have h : "Malformed mapping: " ++ path ++ ": " ++ f.message = "" := h
      exact absurd (hfront (hfront (hfront h))) (by decide)

theorem body_response (f : Error) :
    ∃ text, f.response.body = Bytes.ofText text ∧
      Json.parse? text = some (.object [("error", .string f.message)]) := by
  have hlegible : Json.Legible Json.maxDepth (.object [("error", .string f.message)]) :=
    .object (List.forall_mem_singleton.2 (.string f.message))
  exact ⟨_, rfl, Json.parse?_pretty hlegible⟩

end Error

/-- A call through a client fails when nothing can be sent, or no whole response is given to what was sent. -/
theorem ProxySettings.exists_error_forward {s : ProxySettings} {client : Client}
    {backend : Outbound → Reply} {r : Request} :
    (∃ f, s.forward client backend r = .error f) ↔
      Outbound.Unsendable s r ∨
        (∃ out, Outbound.ofRequest s client r = .ok out ∧ (backend out).Broken out.method) ∨
        ∃ f, Url.parse s.url = .error f := by
  unfold forward
  cases hsent : Outbound.ofRequest s client r with
  | error f =>
      exact iff_of_true ⟨f, rfl⟩ (Or.inl (Outbound.exists_error_ofRequest.1 ⟨f, hsent⟩))
  | ok out =>
      have hsendable : ¬ Outbound.Unsendable s r := by
        intro h
        have herror : ∃ f, Outbound.ofRequest s client r = .error f :=
          Outbound.exists_error_ofRequest.2 h
        rw [hsent] at herror
        exact nomatch herror
      rw [bind_of_eq_ok rfl, Reply.exists_error_relay, or_iff_right hsendable]
      simp only [Except.ok.injEq, exists_eq_left']

namespace ClientPool

variable {pool : ClientPool} {s : ProxySettings} {backend : Outbound → Reply} {r : Request}

/-- The ways in which a call to a backend fails. -/
inductive Fails (pool : ClientPool) (s : ProxySettings) (backend : Outbound → Reply)
    (r : Request) : Prop where
  /-- no client can be built for the web proxy, and there is none yet -/
  | client (via : WebProxySettings) (hvia : s.webProxy = some via)
      (hnew : pool.get? (keyOf s.webProxy) = none) (h : Client.isAddress via.address = false)
  /-- the request cannot be sent -/
  | unsendable (h : Outbound.Unsendable s r)
  /-- the backend gives no whole response to what was sent -/
  | broken (client : Client) (after : ClientPool) (out : Outbound)
      (htake : pool.take s.webProxy = .ok (client, after))
      (hsent : Outbound.ofRequest s client r = .ok out) (h : (backend out).Broken out.method)
  /-- the URL of the settings is none -/
  | settings (f : Url.Fault) (h : Url.parse s.url = .error f)

theorem exists_error_take : (∃ f, pool.take s.webProxy = .error f) ↔
    pool.get? (keyOf s.webProxy) = none ∧
      ∃ via, s.webProxy = some via ∧ Client.isAddress via.address = false := by
  have hunusable : (keyOf s.webProxy).isUsable = false ↔
      ∃ via, s.webProxy = some via ∧ Client.isAddress via.address = false := by
    cases s.webProxy with
    | none => simp [keyOf, Key.isUsable]
    | some via => simp [keyOf, Key.isUsable]
  rw [take_eq, ← hunusable]
  cases pool.get? (keyOf s.webProxy) with
  | some client => simp
  | none => cases (keyOf s.webProxy).isUsable with
    | true => simp
    | false => simp

/-- A call fails in these ways, and in no other. -/
theorem fails_iff : pool.Fails s backend r ↔
    ∃ f : Error, (pool.forward s backend r).1 = .error f.response := by
  unfold forward
  cases htake : pool.take s.webProxy with
  | error f =>
      obtain ⟨hnew, via, hvia, haddress⟩ := exists_error_take.1 ⟨f, htake⟩
      exact iff_of_true (.client via hvia hnew haddress) ⟨f, rfl⟩
  | ok taken =>
      obtain ⟨client, after⟩ := taken
      simp only [exists_mapError_eq_error, ProxySettings.exists_error_forward]
      constructor
      · intro h
        cases h with
        | client via hvia hnew haddress =>
            obtain ⟨f, hf⟩ := exists_error_take.2 ⟨hnew, via, hvia, haddress⟩
            rw [htake] at hf
            exact nomatch hf
        | unsendable h => exact Or.inl h
        | broken client' after' out htake' hsent h =>
            rw [htake, Except.ok.injEq, Prod.mk.injEq] at htake'
            obtain ⟨rfl, -⟩ := htake'
            exact Or.inr (Or.inl ⟨out, hsent, h⟩)
        | settings f h => exact Or.inr (Or.inr ⟨f, h⟩)
      · rintro (h | ⟨out, hsent, h⟩ | ⟨f, h⟩)
        · exact .unsendable h
        · exact .broken client after out htake hsent h
        · exact .settings f h

end ClientPool

namespace Engine

variable {e : Engine} {w : World} {backend : Outbound → Reply} {r : Request}
variable {c : Candidate Score} {s : ProxySettings}

/-- What is there after a call that failed. -/
structure CallFailed (e : Engine) (w : World) (r : Request) (m : Mapping) (h : Handled) :
    Prop where
  status : h.response.status = 500
  marked : h.response.header? Forward.failureHeader = some "true"
  /-- the body is a JSON object with a message -/
  told : ∃ text message, h.response.body = Bytes.ofText text ∧
    Json.parse? text = some (.object [("error", .string message)]) ∧ message ≠ ""
  registry : h.engine.registry = e.registry
  files : h.world.files = w.files
  /-- one entry comes behind those of the log, for the mapping that forwards -/
  logged : ∃ entry, e.log.Gains entry h.world.now h.engine.log ∧ entry.request = r ∧
    entry.response.status = 500 ∧ entry.mapping?.map (·.guid) = some m.guid

theorem forward_of_fails (h : e.clients.Fails s backend r) (w : World) (m : Mapping) :
    ∃ (f : Error) (clients : ClientPool), e.forward w backend s m r =
      { response := f.response, engine := { e with clients }, world := w } := by
  obtain ⟨f, hf⟩ := ClientPool.fails_iff.1 h
  unfold forward
  simp only [hf]
  exact ⟨f, _, rfl⟩

/--
A request for which forwarding fails, in whichever way, is answered with a marked 500 that tells the error. No mapping
is recorded and no file is written, whatever the settings are, and the exchange is logged once.
-/
theorem handle_of_fails (h : e.Sound) (hmatched : (e.resolve r).matched = some c)
    (hproxy : c.mapping.provider = .proxy s) (hfails : e.clients.Fails s backend r) (w : World) :
    e.CallFailed w r c.mapping (e.handle w backend r) := by
  obtain ⟨f, clients, hforward⟩ := forward_of_fails hfails w c.mapping
  have hrespond : e.respond w backend c.mapping r =
      { response := f.response, engine := { e with clients }, world := w } := by
    rw [respond, hproxy]
    exact hforward
  have hadmin : e.administers r = false := by
    rw [administers_of_matched hmatched]
    exact (h.genuine_of_matched hmatched).isAdmin_of_proxy hproxy
  obtain ⟨hresponse, hregistry, -, hfiles⟩ := e.handle_answered w backend r
  rw [answered_of_matched hmatched, hrespond] at hresponse hregistry hfiles
  obtain ⟨entry, hlog, hrequest, hentry, hguid⟩ := exists_logged h hadmin w backend
  have hstatus : (e.handle w backend r).response.status = 500 := by
    rw [hresponse]
    rfl
  obtain ⟨text, hbody, htext⟩ := f.body_response
  refine ⟨hstatus, ?_, ⟨text, f.message, ?_, htext, f.message_ne_empty⟩, ?_, hfiles,
    entry, hlog, hrequest, ?_, ?_⟩
  · rw [hresponse]
    rfl
  · rw [hresponse]
    exact hbody
  · rw [hregistry]
    exact advance_registry _ c.mapping
  · rw [hentry, hstatus]
  · rw [hguid, hmatched]
    rfl

def keepingAll : ProxySettings :=
  { ProxySettings.forUrl "http://upstream" with saveMapping := true, saveMappingToFile := true }

def passesWith (s : ProxySettings) : Provider → Bool
  | .proxy t => t == s
  | _ => false

theorem eq_proxy_of_passesWith {p : Provider} (h : passesWith s p = true) : p = .proxy s := by
  cases p with
  | proxy t => rw [beq_iff_eq.1 h]
  | fixed | computed | admin => exact absurd h Bool.false_ne_true

def brokenReply : Reply := .cut 200 [("Content-Type", Bytes.ofText "text/plain")]

/-- Nothing is recorded when the body of a reply breaks off, and the exchange is logged. -/
theorem countRequest_breaks_off :
    ∃ e w c h, start { ServerSettings.standard with proxy := some keepingAll } emptyWorld = .ok (e, w) ∧
      (e.resolve countRequest).matched = some c ∧ c.mapping.provider = .proxy keepingAll ∧
      h = e.handle w (fun _ => brokenReply) countRequest ∧
      (∃ entry, h.engine.log.entries = [entry] ∧ entry.request = countRequest ∧
        entry.response.status = 500) ∧
      e.CallFailed w countRequest c.mapping h := by
  have hcheck : (start { ServerSettings.standard with proxy := some keepingAll }
      emptyWorld).toOption.any (fun x => x.1.clients.clients.isEmpty && x.1.hasBlankLog &&
        (x.1.resolve countRequest).matched.any fun c => passesWith keepingAll c.mapping.provider) =
          true := by decide +kernel
  obtain ⟨⟨e, w⟩, hstart, hcheck⟩ := (Option.any_eq_true _ _).1 hcheck
  simp only [Bool.and_eq_true, List.isEmpty_iff] at hcheck
  obtain ⟨⟨hclients, hblank⟩, hcheck⟩ := hcheck
  obtain ⟨c, hmatched, hprovider⟩ := (Option.any_eq_true _ _).1 hcheck
  have hproxy : c.mapping.provider = .proxy keepingAll := eq_proxy_of_passesWith hprovider
  have hempty : e.clients = .empty := congrArg ClientPool.mk hclients
  have hsent : (Outbound.ofRequest keepingAll ⟨none⟩ countRequest).toOption.any
      (fun out => out.method == "GET") = true := by decide +kernel
  obtain ⟨out, hout, hmethod⟩ := (Option.any_eq_true _ _).1 hsent
  have hhead : Reply.endsAtHead out.method 200 = false := by
    rw [beq_iff_eq.1 hmethod]
    decide
  have hfails : e.clients.Fails keepingAll (fun _ => brokenReply) countRequest := by
    rw [hempty]
    exact .broken ⟨none⟩ _ out rfl (toOption_eq_some.1 hout) (.cut _ _ hhead)
  have hstart := toOption_eq_some.1 hstart
  have hfailed := handle_of_fails (sound_start hstart) hmatched hproxy hfails w
  obtain ⟨entry, hgains, hrequest, hstatus, -⟩ := hfailed.logged
  exact ⟨e, w, c, _, hstart, hmatched, hproxy, rfl,
    ⟨entry, entries_of_hasBlankLog hblank hgains, hrequest, hstatus⟩, hfailed⟩

end Engine

end Understudy
