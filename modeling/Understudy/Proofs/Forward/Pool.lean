import Mathlib.Data.List.Induction
import Understudy.Forward.Relay
import Understudy.Proofs.Forward.Outbound

/-!
# Clients that are used again

A pool keeps the client that was built first for an address of a web proxy and a name of its user. `get?_run` says which
one that is after a run of calls, and `SentVia` what this means for a request that goes out: it takes the way of the
first settings with its address and user name, and so their password.
-/

namespace Understudy

open Traversal

def WebProxySettings.credentials? (w : WebProxySettings) : Option (String × String) :=
  w.userName.map fun user => (user, w.password.getD "")

namespace ClientPool

structure Call where
  settings : ProxySettings
  backend : Outbound → Reply
  request : Request

def Call.via (c : Call) : Option WebProxySettings := c.settings.webProxy

def step (pool : ClientPool) (c : Call) : ClientPool :=
  (pool.forward c.settings c.backend c.request).2

def run (calls : List Call) : ClientPool := calls.foldl step empty

def sent? (pool : ClientPool) (c : Call) : Option Outbound :=
  (pool.take c.via).toOption.bind fun (client, _) =>
    (Outbound.ofRequest c.settings client c.request).toOption

def Key.isUsable (key : Key) : Bool := key.all fun (address, _) => Client.isAddress address

variable {pool after : ClientPool} {via : Option WebProxySettings} {client : Client} {key : Key}
variable {before calls : List Call} {c : Call} {out : Outbound}

theorem build_eq (via : Option WebProxySettings) :
    Client.build via = if (keyOf via).isUsable then .ok ⟨via⟩ else .error .configuration := by
  cases via with
  | none => rfl
  | some w => rfl

theorem take_eq (pool : ClientPool) (via : Option WebProxySettings) :
    pool.take via = match pool.get? (keyOf via), (keyOf via).isUsable with
      | some client, _ => .ok (client, pool)
      | none, true => .ok (⟨via⟩, ⟨pool.clients ++ [(keyOf via, ⟨via⟩)]⟩)
      | none, false => .error .configuration := by
  unfold take
  rw [build_eq]
  cases pool.get? (keyOf via) with
  | some client => rfl
  | none => cases (keyOf via).isUsable with
    | true => rfl
    | false => rfl

theorem get?_append (key key' : Key) (client : Client) :
    get? ⟨pool.clients ++ [(key', client)]⟩ key =
      (pool.get? key).or (if key' = key then some client else none) := by
  rw [get?, List.find?_append, Option.map_or, ← get?, List.find?_singleton]
  by_cases hkey : key' = key
  · simp [hkey]
  · simp [hkey]

/-- A call adds a client for its key, when none is there and one can be built. -/
theorem get?_step (pool : ClientPool) (c : Call) (key : Key) :
    (pool.step c).get? key = (pool.get? key).or
      (if keyOf c.via = key ∧ key.isUsable = true then some ⟨c.via⟩ else none) := by
  have htake := take_eq pool c.via
  unfold step forward
  rw [← Call.via]
  cases hclient : pool.get? (keyOf c.via) with
  | some client =>
      simp only [hclient] at htake
      simp only [htake]
      by_cases hkey : keyOf c.via = key
      · rw [← hkey, hclient, Option.some_or]
      · rw [if_neg fun h => hkey h.1, Option.or_none]
  | none =>
      cases husable : (keyOf c.via).isUsable with
      | true =>
          simp only [hclient, husable] at htake
          simp only [htake, get?_append]
          by_cases hkey : keyOf c.via = key
          · rw [if_pos hkey, if_pos ⟨hkey, hkey ▸ husable⟩]
          · rw [if_neg hkey, if_neg fun h => hkey h.1]
      | false =>
          simp only [hclient, husable] at htake
          simp only [htake]
          rw [if_neg, Option.or_none]
          rintro ⟨rfl, h⟩
          exact Bool.false_ne_true (husable.symm.trans h)

/-- The client for a key is the one for the first settings with this key. -/
theorem get?_run (calls : List Call) (key : Key) :
    (run calls).get? key =
      if key.isUsable then ((calls.map Call.via).find? (keyOf · == key)).map Client.mk else none := by
  induction calls using List.reverseRecOn with
  | nil => exact (ite_self none).symm
  | append_singleton calls c ih =>
      have hrun : run (calls ++ [c]) = (run calls).step c := List.foldl_concat ..
      rw [hrun, get?_step, ih, List.map_append, List.find?_append, Option.map_or, List.map_singleton,
        List.find?_singleton]
      -- where no client can be built, none was kept for earlier settings either
      cases key.isUsable with
      | true => by_cases hkey : keyOf c.via = key <;> simp [hkey]
      | false => simp

theorem via_of_take_run (h : (run before).take via = .ok (client, after)) :
    (before.map Call.via ++ [via]).find? (keyOf · == keyOf via) = some client.via := by
  rw [take_eq, get?_run] at h
  rw [List.find?_append]
  cases husable : (keyOf via).isUsable with
  | true =>
      rw [husable, if_pos rfl] at h
      cases hfirst : (before.map Call.via).find? (keyOf · == keyOf via) with
      | some first =>
          rw [hfirst] at h
          cases h
          rfl
      | none =>
          rw [hfirst] at h
          cases h
          simp
  | false =>
      rw [husable] at h
      exact nomatch h

theorem sent?_eq_some : pool.sent? c = some out ↔ ∃ client after,
    pool.take c.via = .ok (client, after) ∧
      Outbound.ofRequest c.settings client c.request = .ok out := by
  simp [sent?, Option.bind_eq_some_iff, toOption_eq_some]

theorem forward_of_sent? (h : pool.sent? c = some out) :
    (pool.forward c.settings c.backend c.request).1 =
      ((c.backend out).relay c.settings c.request out).mapError Error.response := by
  obtain ⟨client, after, htake, hsent⟩ := sent?_eq_some.1 h
  unfold forward
  rw [← Call.via, htake]
  simp only
  rw [ProxySettings.forward, bind_of_eq_ok hsent]

/-- The way that is taken for a call, of those of its own settings and of the settings of the calls before. -/
structure SentVia (before : List Call) (c : Call) (via : Option WebProxySettings) : Prop where
  address : via.map (·.address) = c.via.map (·.address)
  user : via.bind (·.userName) = c.via.bind (·.userName)
  /-- it is the way of the first settings with this address and user -/
  first : (before.map Call.via ++ [c.via]).find? (keyOf · == keyOf c.via) = some via
  /-- the password is its own when all these settings have the same one -/
  credentials : (∀ d ∈ before, keyOf d.via = keyOf c.via →
    d.via.bind (·.credentials?) = c.via.bind (·.credentials?)) →
      via.bind (·.credentials?) = c.via.bind (·.credentials?)

theorem map_address_eq (via : Option WebProxySettings) :
    via.map (·.address) = (keyOf via).map Prod.fst := by
  cases via with
  | none => rfl
  | some w => rfl

theorem bind_userName_eq (via : Option WebProxySettings) :
    via.bind (·.userName) = (keyOf via).bind Prod.snd := by
  cases via with
  | none => rfl
  | some w => rfl

theorem sentVia_of_find?
    (h : (before.map Call.via ++ [c.via]).find? (keyOf · == keyOf c.via) = some via) :
    SentVia before c via := by
  have hkey : keyOf via = keyOf c.via := by simpa using List.find?_some h
  refine ⟨?_, ?_, h, fun hsame => ?_⟩
  · rw [map_address_eq, map_address_eq, hkey]
  · rw [bind_userName_eq, bind_userName_eq, hkey]
  · rcases List.mem_append.1 (List.mem_of_find?_eq_some h) with hbefore | hown
    · obtain ⟨d, hd, rfl⟩ := List.mem_map.1 hbefore
      exact hsame d hd hkey
    · rw [List.mem_singleton.1 hown]

/-- A request goes out as the first settings with the address and the user of its own say. -/
theorem run_sentVia (hsent : (run before).sent? c = some out) :
    ((run before).forward c.settings c.backend c.request).1 =
        ((c.backend out).relay c.settings c.request out).mapError Error.response ∧
      SentVia before c out.via := by
  refine ⟨forward_of_sent? hsent, ?_⟩
  obtain ⟨client, after, htake, hout⟩ := sent?_eq_some.1 hsent
  obtain ⟨target, -, rfl⟩ := Outbound.ofRequest_eq_ok.1 hout
  exact sentVia_of_find? (via_of_take_run htake)

def callAs (password : String) : Call where
  settings :=
    { ProxySettings.forUrl "http://backend" with
      webProxy := some ⟨"http://proxy", some "u", some password⟩ }
  backend := fun _ => .full 200 [] .empty
  request := { (default : Request) with method := "GET" }

theorem callAs_sentVia :
    ∃ out, (run [callAs "one"]).sent? (callAs "one") = some out ∧
      ((run [callAs "one"]).forward (callAs "one").settings (callAs "one").backend
          (callAs "one").request).1 =
        (((callAs "one").backend out).relay (callAs "one").settings (callAs "one").request
          out).mapError Error.response ∧
      SentVia [callAs "one"] (callAs "one") out.via := by
  have hsome : ((run [callAs "one"]).sent? (callAs "one")).isSome = true := by decide +kernel
  obtain ⟨out, hout⟩ := Option.isSome_iff_exists.1 hsome
  exact ⟨out, hout, run_sentVia hout⟩

/-- A password that was changed is not the one that goes out. -/
theorem callAs_keeps_first_password :
    ∃ out, (run [callAs "one"]).sent? (callAs "two") = some out ∧
      out.via.bind (·.credentials?) = some ("u", "one") ∧
      (callAs "two").via.bind (·.credentials?) = some ("u", "two") := by
  have hvia : ((run [callAs "one"]).sent? (callAs "two")).map (·.via) = some (callAs "one").via := by
    decide +kernel
  obtain ⟨out, hout, hvia⟩ := Option.map_eq_some_iff.1 hvia
  exact ⟨out, hout, by rw [hvia]; rfl, rfl⟩

end ClientPool

end Understudy
