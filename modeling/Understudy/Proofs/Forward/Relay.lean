import Understudy.Forward.Relay
import Understudy.Proofs.Forward.Outbound
import Understudy.Proofs.Request.Assembled
import Understudy.Proofs.Response.Wire
import Understudy.Proofs.Url.Shown

/-!
# Replies that are relayed

The headers of a reply are put in order, those of the connection are left out and locations are rewritten; texts and
bytes are kept apart on the way. What goes out in the end has the headers of `relayed` in some order, all of them legal,
so that the message is never replaced by a failure.
-/

namespace Understudy

open Traversal

namespace Reply

variable {s : ProxySettings} {r : Request} {out : Outbound} {m : Response.Message}
variable {status : Nat} {headers : List (String × Bytes)} {body : Bytes}

/-- A reply to this method with this status has no body. -/
def endsAtHead (method : String) (status : Nat) : Bool := method == "HEAD" || isBodiless status

/-- A whole reply is relayed with its body, where it has one. -/
theorem relay_full_eq_ok : (full status headers body).relay s r out = .ok m ↔
    ∃ backend, Url.parse s.url = .ok backend ∧
      m = if endsAtHead out.method status then head backend r.origin status headers
        else { head backend r.origin status headers with body } := by
  unfold relay endsAtHead
  simp only [bind_eq_ok, mapError_eq_ok]
  refine exists_congr fun backend => and_congr_right fun _ => ?_
  split <;> rw [pure_eq_ok, eq_comm]

/-- A reply whose body breaks off is relayed when it has none. -/
theorem relay_cut_eq_ok : (cut status headers).relay s r out = .ok m ↔
    endsAtHead out.method status = true ∧ ∃ backend, Url.parse s.url = .ok backend ∧
      m = head backend r.origin status headers := by
  unfold relay endsAtHead
  simp only [bind_eq_ok, mapError_eq_ok]
  rw [← exists_and_left]
  refine exists_congr fun backend => ?_
  rw [and_left_comm]
  refine and_congr_right fun _ => ?_
  split
  · rename_i h
    rw [pure_eq_ok, eq_comm]
    exact ⟨fun heq => ⟨h, heq⟩, fun heq => heq.2⟩
  · rename_i h
    exact ⟨fun hok => absurd hok throw_ne_ok, fun hok => absurd hok.1 h⟩

def passesBack (name : String) : Bool :=
  !(Forward.isHopByHop name || Text.sameName name "content-length")

def relayedValue (backend : Url) (own : String) (h : String × Bytes) : Bytes :=
  match if Text.sameName h.1 "location" then Bytes.plainText? h.2 else Option.none with
  | some location => Bytes.ofText (backend.relocated own location)
  | Option.none => h.2

def relayed (backend : Url) (own : String) (headers : List (String × Bytes)) :
    List (String × Bytes) :=
  (headers.filter (passesBack ·.1)).map fun h => (Text.lower h.1, relayedValue backend own h)

variable {backend : Url} {own : String} {name : String} {value : Bytes}

theorem passesBack_congr {a b : String} (h : Text.sameName a b = true) :
    passesBack a = passesBack b := by
  have hlower : Text.lower a = Text.lower b := Text.sameName_iff.1 h
  simp only [passesBack, Forward.isHopByHop, Text.listsName_congr h, Text.sameName, hlower]

theorem passesBack_lower (name : String) : passesBack (Text.lower name) = passesBack name :=
  passesBack_congr (by simp)

theorem relayedValue_lower (name : String) (value : Bytes) :
    relayedValue backend own (Text.lower name, value) = relayedValue backend own (name, value) := by
  simp only [relayedValue, Text.sameName_lower_left]

theorem allHeaders_withHeader (m : Response.Message) (name value : String) :
    (m.withHeader name value).allHeaders.Perm (m.allHeaders ++ [(name, Bytes.ofText value)]) := by
  simp only [Response.Message.allHeaders, Response.Message.withHeader, List.map_append,
    List.map_cons, List.map_nil, List.append_assoc]
  exact List.Perm.append_left _ List.perm_append_comm

theorem allHeaders_pushBytes (m : Response.Message) (name : String) (value : Bytes) :
    (m.pushBytes name value).allHeaders.Perm (m.allHeaders ++ [(name, value)]) := by
  unfold Response.Message.pushBytes
  split
  · rename_i text htext
    rw [Bytes.text?_eq_some.1 htext]
    exact allHeaders_withHeader m name text
  · simp only [Response.Message.allHeaders, List.append_assoc]
    exact .refl _

theorem allHeaders_addHeader (m : Response.Message) (name : String) (value : Bytes) :
    (addHeader backend own m name value).allHeaders.Perm
      (m.allHeaders ++ if passesBack name then [(name, relayedValue backend own (name, value))]
        else []) := by
  unfold addHeader passesBack relayedValue
  cases Forward.isHopByHop name || Text.sameName name "content-length" with
  | true => simp
  | false =>
      simp only [Bool.false_eq_true, if_false, Bool.not_false, if_true]
      cases if Text.sameName name "location" then Bytes.plainText? value else Option.none with
      | some location => exact allHeaders_withHeader m name _
      | none => exact allHeaders_pushBytes m name value

theorem status_addHeader (m : Response.Message) (name : String) (value : Bytes) :
    (addHeader backend own m name value).status = m.status ∧
      (addHeader backend own m name value).body = m.body := by
  unfold addHeader Response.Message.pushBytes
  split
  · exact ⟨rfl, rfl⟩
  · split
    · exact ⟨rfl, rfl⟩
    · split <;> exact ⟨rfl, rfl⟩

theorem status_foldl (hs : List (String × Bytes)) (m : Response.Message) :
    (hs.foldl (fun m h => addHeader backend own m h.1 h.2) m).status = m.status ∧
      (hs.foldl (fun m h => addHeader backend own m h.1 h.2) m).body = m.body := by
  induction hs generalizing m with
  | nil => exact ⟨rfl, rfl⟩
  | cons h hs ih =>
      obtain ⟨hstatus, hbody⟩ := ih (addHeader backend own m h.1 h.2)
      exact ⟨hstatus.trans (status_addHeader m h.1 h.2).1,
        hbody.trans (status_addHeader m h.1 h.2).2⟩

theorem status_head (backend : Url) (own : String) (status : Nat)
    (headers : List (String × Bytes)) :
    (head backend own status headers).status = status ∧
      (head backend own status headers).body = Bytes.empty :=
  status_foldl (arrange headers) (.ofStatus status)

theorem allHeaders_foldl (hs : List (String × Bytes)) (m : Response.Message) :
    (hs.foldl (fun m h => addHeader backend own m h.1 h.2) m).allHeaders.Perm
      (m.allHeaders ++ (hs.filter (passesBack ·.1)).map fun h => (h.1, relayedValue backend own h)) := by
  induction hs generalizing m with
  | nil => simp
  | cons h hs ih =>
      rw [List.foldl_cons]
      refine (ih _).trans (((allHeaders_addHeader m h.1 h.2).append_right _).trans ?_)
      rw [List.append_assoc]
      refine List.Perm.append_left _ (List.Perm.of_eq ?_)
      cases hpass : passesBack h.1 <;> simp [hpass]

def spread (groups : List (String × List Bytes)) : List (String × Bytes) :=
  groups.flatMap fun g => g.2.map (g.1, ·)

theorem perm_group (name : String) (value : Bytes) (groups : List (String × List Bytes)) :
    (spread (group name value groups)).Perm (spread groups ++ [(name, value)]) := by
  induction groups with
  | nil => exact .refl _
  | cons g groups ih =>
      rw [group]
      split
      · rename_i hname
        rw [← beq_iff_eq.1 hname]
        simp only [spread, List.flatMap_cons, List.map_append, List.map_cons, List.map_nil,
          List.append_assoc]
        exact List.Perm.append_left _ List.perm_append_comm
      · simp only [spread, List.flatMap_cons, List.append_assoc]
        exact List.Perm.append_left _ ih

theorem perm_foldl_group (hs : List (String × Bytes)) (groups : List (String × List Bytes)) :
    (spread (hs.foldl (fun gs h => group (Text.lower h.1) h.2 gs) groups)).Perm
      (spread groups ++ hs.map fun h => (Text.lower h.1, h.2)) := by
  induction hs generalizing groups with
  | nil => simp
  | cons h hs ih =>
      rw [List.foldl_cons]
      refine (ih _).trans (((perm_group _ _ groups).append_right _).trans ?_)
      rw [List.append_assoc]
      exact .refl _

/-- Putting headers in order loses none of them. -/
theorem perm_arrange (headers : List (String × Bytes)) :
    (arrange headers).Perm (headers.map fun h => (Text.lower h.1, h.2)) :=
  perm_foldl_group headers []

theorem allHeaders_head :
    (head backend own status headers).allHeaders.Perm (relayed backend own headers) := by
  refine (allHeaders_foldl (arrange headers) (.ofStatus status)).trans ?_
  have hfilter : ((fun h : String × Bytes => passesBack h.1) ∘
      fun h : String × Bytes => (Text.lower h.1, h.2)) = fun h => passesBack h.1 := by
    funext h
    simp only [Function.comp_apply, passesBack_lower]
  have hmap : ((fun h : String × Bytes => (h.1, relayedValue backend own h)) ∘
      fun h : String × Bytes => (Text.lower h.1, h.2)) =
        fun h => (Text.lower h.1, relayedValue backend own h) := by
    funext h
    simp only [Function.comp_apply, relayedValue_lower]
  have hall := ((perm_arrange headers).filter (passesBack ·.1)).map
    fun h => (h.1, relayedValue backend own h)
  rw [List.filter_map, List.map_map, hfilter, hmap] at hall
  exact hall

/-- A location that is rewritten is put together from parts that can stand in a header. -/
theorem isLegalValue_relayedValue (hown : Url.Shown own.toList) {h : String × Bytes}
    (hlegal : Response.isLegalValue h.2 = true) :
    Response.isLegalValue (relayedValue backend own h) = true := by
  unfold relayedValue
  split
  · rename_i location hlocation
    have hsame : h.2 = Bytes.ofText location := by
      split at hlocation
      · unfold Bytes.plainText? at hlocation
        split at hlocation
        · exact Bytes.text?_eq_some.1 hlocation
        · exact nomatch hlocation
      · exact nomatch hlocation
    unfold Url.relocated
    split
    · rename_i u hu
      split
      · exact Response.isLegalValue_ofText ((Url.clean_of_parse hu).shown_behind hown)
      · rw [← hsame]
        exact hlegal
    · rw [← hsame]
      exact hlegal
  · exact hlegal

/-- The values of a header, under all spellings of its name. -/
def valuesOf (name : String) (headers : List (String × Bytes)) : List Bytes :=
  (headers.filter fun h => Text.sameName h.1 name).map Prod.snd

theorem perm_valuesOf {hs hs' : List (String × Bytes)} (h : hs.Perm hs') (name : String) :
    (valuesOf name hs).Perm (valuesOf name hs') :=
  (h.filter _).map _

theorem valuesOf_lower (name : String) (hs : List (String × Bytes)) :
    valuesOf name (hs.map fun h => (Text.lower h.1, h.2)) = valuesOf name hs := by
  have hname : ((fun h : String × Bytes => Text.sameName h.1 name) ∘
      fun h : String × Bytes => (Text.lower h.1, h.2)) = fun h => Text.sameName h.1 name := by
    funext h
    simp only [Function.comp_apply, Text.sameName_lower_left]
  rw [valuesOf, List.filter_map, List.map_map, hname]
  rfl

/-- A header that passes goes on with all its values. -/
theorem valuesOf_relayed (h : passesBack name = true) :
    valuesOf name (relayed backend own headers) =
      (headers.filter fun h => Text.sameName h.1 name).map (relayedValue backend own) := by
  have hboth : ∀ h ∈ headers, (((fun h : String × Bytes => Text.sameName h.1 name) ∘
      fun h : String × Bytes => (Text.lower h.1, relayedValue backend own h)) h && passesBack h.1) =
        Text.sameName h.1 name := by
    intro d _
    rw [Function.comp_apply, Text.sameName_lower_left]
    cases hname : Text.sameName d.1 name with
    | false => rfl
    | true => rw [passesBack_congr hname, h, Bool.and_self]
  rw [valuesOf, relayed, List.filter_map, List.filter_filter, List.filter_congr hboth, List.map_map]
  rfl

theorem valuesOf_relayed_eq_nil (h : passesBack name = false) :
    valuesOf name (relayed backend own headers) = [] := by
  rw [valuesOf, List.map_eq_nil_iff, List.filter_eq_nil_iff]
  intro h' hh' hname
  obtain ⟨d, hd, rfl⟩ := List.mem_map.1 hh'
  rw [Text.sameName_lower_left] at hname
  have hpass : passesBack d.1 = true := (List.mem_filter.1 hd).2
  rw [passesBack_congr hname, h] at hpass
  exact nomatch hpass

theorem relayedValue_of_ne {h : String × Bytes} (hname : Text.sameName h.1 "location" = false) :
    relayedValue backend own h = h.2 := by
  simp [relayedValue, hname]

/-- A reply that HTTP allows for a method. -/
structure IsLegal (method : String) (status : Nat) (headers : List (String × Bytes))
    (body : Bytes) : Prop where
  status_legal : Response.isLegalStatus status = true
  headers_legal : ∀ h ∈ headers, Response.isToken h.1 = true ∧ Response.isLegalValue h.2 = true
  body_eq : endsAtHead method status = true → body = Bytes.empty

/-- A message goes out as the reply that it was made of. -/
structure Verbatim (status : Nat) (headers : List (String × Bytes)) (body : Bytes)
    (m : Response.Message) : Prop where
  /-- no failure goes out in place of the message -/
  wire_eq : m.wire =
    { status, headers := m.allHeaders.map fun h => (Text.lower h.1, h.2), body }
  values : ∀ name, passesBack name = true → Text.sameName name "location" = false →
    (valuesOf name m.wire.headers).Perm (valuesOf name headers)
  others : ∀ name, passesBack name = false → valuesOf name m.wire.headers = []
  locations : (valuesOf "location" m.wire.headers).length = (valuesOf "location" headers).length

theorem legal_relayed (hown : Url.Shown own.toList)
    (hlegal : ∀ h ∈ headers, Response.isToken h.1 = true ∧ Response.isLegalValue h.2 = true) :
    ∀ h ∈ relayed backend own headers,
      Response.isToken h.1 = true ∧ Response.isLegalValue h.2 = true := by
  intro h hh
  obtain ⟨d, hd, rfl⟩ := List.mem_map.1 hh
  obtain ⟨hname, hvalue⟩ := hlegal d (List.mem_of_mem_filter hd)
  exact ⟨Response.isToken_lower hname, isLegalValue_relayedValue hown hvalue⟩

/-- A message with the headers that go on goes out as the reply. -/
theorem verbatim_of_perm (backend : Url) (hown : Url.Shown own.toList)
    (hstatus : Response.isLegalStatus status = true)
    (hlegal : ∀ h ∈ headers, Response.isToken h.1 = true ∧ Response.isLegalValue h.2 = true)
    (hm : m.status = status ∧ m.body = body)
    (hperm : m.allHeaders.Perm (relayed backend own headers)) :
    Verbatim status headers body m := by
  obtain ⟨rfl, rfl⟩ := hm
  have hwire := Response.Message.wire_of_legal hstatus
    fun h hh => legal_relayed hown hlegal h (hperm.mem_iff.1 hh)
  have hvalues (name : String) :
      (valuesOf name m.wire.headers).Perm (valuesOf name (relayed backend own headers)) := by
    rw [hwire, valuesOf_lower]
    exact perm_valuesOf hperm name
  refine ⟨hwire, fun name hpass hname => ?_, fun name hpass => ?_, ?_⟩
  · refine (hvalues name).trans (.of_eq ?_)
    rw [valuesOf_relayed hpass, valuesOf]
    refine List.map_congr_left fun h hh => relayedValue_of_ne ?_
    rw [Text.sameName, Text.sameName_iff.1 (List.mem_filter.1 hh).2]
    exact hname
  · refine List.Perm.eq_nil ?_
    rw [← valuesOf_relayed_eq_nil hpass]
    exact hvalues name
  · rw [(hvalues "location").length_eq, valuesOf_relayed (by decide +kernel), valuesOf,
      List.length_map, List.length_map]

end Reply

namespace ProxySettings

variable {s : ProxySettings} {client : Client} {backend : Outbound → Reply} {r : Request}
variable {out : Outbound} {status : Nat} {headers : List (String × Bytes)} {body : Bytes}

theorem exists_parse_of_validate (h : s.validate = .ok ()) : ∃ u, Url.parse s.url = .ok u := by
  unfold validate at h
  split at h
  · exact absurd h throw_ne_ok
  · exact ⟨_, ‹_›⟩

/-- A whole reply goes back to the client as it came, but for its locations and the headers of the connection. -/
theorem forward_verbatim (hvalid : s.validate = .ok ()) (hr : r.Assembled)
    (hsent : Outbound.ofRequest s client r = .ok out)
    (hreply : backend out = .full status headers body)
    (hlegal : Reply.IsLegal out.method status headers body) :
    ∃ m, s.forward client backend r = .ok m ∧ Reply.Verbatim status headers body m := by
  obtain ⟨u, hu⟩ := exists_parse_of_validate hvalid
  obtain ⟨text, htext⟩ := hr.parse_url
  have hown : Url.Shown r.origin.toList := Url.shown_originText htext
  have hforward : s.forward client backend r = .ok (if Reply.endsAtHead out.method status
      then Reply.head u r.origin status headers
      else { Reply.head u r.origin status headers with body }) := by
    rw [forward, bind_of_eq_ok hsent, hreply]
    exact Reply.relay_full_eq_ok.2 ⟨u, hu, rfl⟩
  obtain ⟨hstatus, hbody⟩ := Reply.status_head u r.origin status headers
  refine ⟨_, hforward, Reply.verbatim_of_perm u hown hlegal.status_legal hlegal.headers_legal ?_ ?_⟩
  · split
    · rename_i hend
      exact ⟨hstatus, hbody.trans (hlegal.body_eq hend).symm⟩
    · exact ⟨hstatus, rfl⟩
  · split <;> exact Reply.allHeaders_head

/-- Headers under two spellings of a name, with a value that is no text, and with a location on the backend. -/
def movedHeaders : List (String × Bytes) :=
  [("X-Legacy", ⟨#[0x63, 0x61, 0x66, 0xE9]⟩), ("Connection", Bytes.ofText "close"),
    ("Location", Bytes.ofText "http://upstream/next?step=2"), ("x-legacy", Bytes.ofText "Grüße")]

def movedBackend (_ : Outbound) : Reply := .full 302 movedHeaders ⟨#[0xFF, 0x00]⟩

theorem moved_verbatim :
    ∃ r m, Request.assemble "GET" "http://mock.local:9091/start" [] .empty none default = .ok r ∧
      (forUrl "http://upstream").forward ⟨none⟩ movedBackend r = .ok m ∧
      Reply.Verbatim 302 movedHeaders ⟨#[0xFF, 0x00]⟩ m := by
  have hcheck : (Request.assemble "GET" "http://mock.local:9091/start" [] .empty none
      default).toOption.any (fun r =>
        (Outbound.ofRequest (forUrl "http://upstream") ⟨none⟩ r).toOption.any (·.method == "GET")) =
          true := by decide +kernel
  obtain ⟨r, hr, hcheck⟩ := (Option.any_eq_true _ _).1 hcheck
  obtain ⟨out, hout, hmethod⟩ := (Option.any_eq_true _ _).1 hcheck
  have hr := toOption_eq_some.1 hr
  have hvalid : (forUrl "http://upstream").validate.toOption = some () := by decide +kernel
  have hreply : movedBackend out = .full 302 movedHeaders ⟨#[0xFF, 0x00]⟩ := rfl
  have hlegal : Reply.IsLegal out.method 302 movedHeaders ⟨#[0xFF, 0x00]⟩ := by
    refine ⟨by decide, by decide +kernel, fun hend => ?_⟩
    rw [beq_iff_eq.1 hmethod] at hend
    exact absurd hend (by decide)
  obtain ⟨m, hm, hverbatim⟩ := forward_verbatim (toOption_eq_some.1 hvalid)
    ⟨_, _, _, _, _, _, hr⟩ (toOption_eq_some.1 hout) hreply hlegal
  exact ⟨r, m, hr, hm, hverbatim⟩

end ProxySettings

end Understudy
