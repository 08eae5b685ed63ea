import Understudy.Proofs.Forward.Relay
import Understudy.Proofs.Url.Origin

/-!
# Where locations lead

A location on the backend is put behind the own origin, where it no longer leads to the backend: the text of an origin is
read as this origin. What still leads there is told by `Escapes`: a location that is no ASCII is not rewritten at all,
and one inside a `blob` is put behind the own origin without a slash between them.
-/

namespace Understudy

open Traversal

namespace Url

/-- A location is read as a URL of the origin of another. -/
def LeadsTo (backend : Url) (location : String) : Prop :=
  ∃ u, parse location = .ok u ∧ u.sameOrigin backend = true

variable {backend own : Url} {s location : String}

theorem sameOrigin_eq_true {u v : Url} :
    u.sameOrigin v = true ↔ ∃ o, u.origin? = some o ∧ v.origin? = some o := by
  rw [sameOrigin, Bool.and_eq_true, beq_iff_eq, Option.isSome_iff_exists]
  constructor
  · rintro ⟨⟨o, ho⟩, hsame⟩
    exact ⟨o, ho, hsame ▸ ho⟩
  · rintro ⟨o, hu, hv⟩
    exact ⟨⟨o, hu⟩, hu.trans hv.symm⟩

/-- A location that is rewritten leads to the own origin, unless it is inside a `blob`. -/
theorem exists_blob_of_leadsTo (hown : parse s = .ok own) (hother : own.origin? ≠ backend.origin?)
    (hleads : LeadsTo backend (backend.relocated own.originText location)) :
    ∃ u, parse location = .ok u ∧ u.scheme = "blob" ∧ u.sameOrigin backend = true ∧
      backend.relocated own.originText location = u.behind own.originText := by
  obtain ⟨v, hv, hsame⟩ := hleads
  unfold relocated at hv ⊢
  split at hv
  · rename_i u hu
    split at hv
    · rename_i hbackend
      rw [if_pos hbackend]
      refine ⟨u, hu, ?_, hbackend, rfl⟩
      by_contra hblob
      obtain ⟨o, ho, -⟩ := sameOrigin_eq_true.1 hbackend
      rw [origin?_of_ne_blob hblob] at ho
      have hpath := exists_path_of_parse hu (isSome_of_ownOrigin? ho)
      obtain ⟨o', hv', hbackend'⟩ := sameOrigin_eq_true.1 hsame
      rw [origin?_of_parse_behind hown hpath hv] at hv'
      exact hother (hv'.trans hbackend'.symm)
    · rename_i hbackend
      rw [hu, Except.ok.injEq] at hv
      exact absurd (hv ▸ hsame) hbackend
  · rename_i hfault
    rw [hfault] at hv
    exact nomatch hv

end Url

namespace Response.Message

/-- The texts of a header, under all spellings of its name. -/
def texts (m : Message) (name : String) : List String :=
  (m.headers.filter fun h => Text.sameName h.1 name).map Prod.snd

theorem mem_texts_withHeader {m : Message} {name n value text : String} :
    text ∈ (m.withHeader n value).texts name ↔
      text ∈ m.texts name ∨ Text.sameName n name = true ∧ value = text := by
  simp only [texts, withHeader, List.filter_append, List.map_append, List.mem_append]
  refine or_congr_right ?_
  cases h : Text.sameName n name with
  | false => simp [h]
  | true => simp [h, eq_comm]

end Response.Message

namespace Reply

variable {backend : Url} {own location : String} {status : Nat} {headers : List (String × Bytes)}

theorem mem_texts_addHeader {m : Response.Message} {name n : String} {value : Bytes}
    (hname : passesBack name = true) :
    location ∈ (addHeader backend own m n value).texts name ↔
      location ∈ m.texts name ∨
        Text.sameName n name = true ∧ Bytes.text? (relayedValue backend own (n, value)) = some location := by
  unfold addHeader relayedValue
  cases hpass : Forward.isHopByHop n || Text.sameName n "content-length" with
  | true =>
      refine (or_iff_left fun h => ?_).symm
      rw [← passesBack_congr h.1, passesBack, hpass] at hname
      exact Bool.false_ne_true hname
  | false =>
      simp only [Bool.false_eq_true, if_false]
      cases if Text.sameName n "location" then Bytes.plainText? value else Option.none with
      | some text =>
          simp only [Response.Message.mem_texts_withHeader, Bytes.text?_ofText, Option.some_inj]
      | none =>
          unfold Response.Message.pushBytes
          cases Bytes.text? value with
          | some text => simp only [Response.Message.mem_texts_withHeader, Option.some_inj]
          | none => exact (or_iff_left fun h => Option.some_ne_none _ h.2.symm).symm

theorem mem_texts_foldl {name : String} (hname : passesBack name = true)
    (hs : List (String × Bytes)) (m : Response.Message) :
    location ∈ (hs.foldl (fun m h => addHeader backend own m h.1 h.2) m).texts name ↔
      location ∈ m.texts name ∨ ∃ h ∈ hs, Text.sameName h.1 name = true ∧
        Bytes.text? (relayedValue backend own h) = some location := by
  induction hs generalizing m with
  | nil => simp
  | cons h hs ih =>
      rw [List.foldl_cons, ih, mem_texts_addHeader hname, or_assoc]
      simp only [List.mem_cons, exists_eq_or_imp]

theorem mem_texts_head {name : String} (hname : passesBack name = true) :
    location ∈ (head backend own status headers).texts name ↔
      ∃ h ∈ headers, Text.sameName h.1 name = true ∧
        Bytes.text? (relayedValue backend own h) = some location := by
  have hnone : location ∉ (Response.Message.ofStatus status).texts name := List.not_mem_nil
  refine (mem_texts_foldl hname (arrange headers) (.ofStatus status)).trans ?_
  rw [or_iff_right hnone]
  simp only [(perm_arrange headers).mem_iff, List.mem_map]
  constructor
  · rintro ⟨-, ⟨h, hh, rfl⟩, hsame, htext⟩
    rw [Text.sameName_lower_left] at hsame
    rw [relayedValue_lower] at htext
    exact ⟨h, hh, hsame, htext⟩
  · rintro ⟨h, hh, hsame, htext⟩
    refine ⟨_, ⟨h, hh, rfl⟩, ?_, ?_⟩
    · rw [Text.sameName_lower_left]
      exact hsame
    · rw [relayedValue_lower]
      exact htext

/--
A location that is passed on for a value: one that is no ASCII goes on as it came, and one inside a `blob` is put
behind the own origin with a path that does not start with a slash.
-/
def Escapes (backend : Url) (own : String) (value : Bytes) (location : String) : Prop :=
  Bytes.plainText? value = Option.none ∧ Bytes.text? value = some location ∨
    ∃ text u, Bytes.plainText? value = some text ∧ Url.parse text = .ok u ∧ u.scheme = "blob" ∧
      u.sameOrigin backend = true ∧ location = u.behind own

/-- What leads to the backend of the locations that go on has escaped. -/
theorem escapes_iff {s : String} {own backend : Url} (hown : Url.parse s = .ok own)
    (hother : own.origin? ≠ backend.origin?) {h : String × Bytes}
    (hname : Text.sameName h.1 "location" = true) (hleads : Url.LeadsTo backend location) :
    Bytes.text? (relayedValue backend own.originText h) = some location ↔
      Escapes backend own.originText h.2 location := by
  unfold relayedValue Escapes
  rw [if_pos hname]
  cases hplain : Bytes.plainText? h.2 with
  | none => simp
  | some text =>
      simp only [Bytes.text?_ofText, Option.some_inj, reduceCtorEq, false_and, false_or]
      constructor
      · rintro rfl
        obtain ⟨u, hu, hblob, hsame, heq⟩ := Url.exists_blob_of_leadsTo hown hother hleads
        exact ⟨text, u, rfl, hu, hblob, hsame, heq⟩
      · rintro ⟨text', u, rfl, hu, -, hsame, rfl⟩
        rw [Url.relocated, hu]
        exact if_pos hsame

end Reply

namespace ProxySettings

variable {s : ProxySettings} {client : Client} {backend : Outbound → Reply} {r : Request}
variable {out : Outbound} {status : Nat} {headers : List (String × Bytes)} {body : Bytes} {u : Url}

/--
Of the locations in the response to a request from elsewhere, those lead back to the backend that have escaped being
rewritten, and no others.
-/
theorem forward_leadsTo_iff (hr : r.Assembled) (hu : Url.parse s.url = .ok u)
    (hother : r.url.origin? ≠ u.origin?) (hsent : Outbound.ofRequest s client r = .ok out)
    (hreply : backend out = .full status headers body) :
    ∃ m, s.forward client backend r = .ok m ∧ ∀ location,
      (location ∈ m.texts "location" ∧ u.LeadsTo location) ↔
        (∃ h ∈ headers, Text.sameName h.1 "location" = true ∧
          Reply.Escapes u r.origin h.2 location) ∧ u.LeadsTo location := by
  obtain ⟨text, htext⟩ := hr.parse_url
  have hforward : s.forward client backend r = .ok (if Reply.endsAtHead out.method status
      then Reply.head u r.origin status headers
      else { Reply.head u r.origin status headers with body }) := by
    rw [forward, bind_of_eq_ok hsent, hreply]
    exact Reply.relay_full_eq_ok.2 ⟨u, hu, rfl⟩
  refine ⟨_, hforward, fun location => and_congr_left fun hleads => ?_⟩
  have hhead : location ∈ (Reply.head u r.origin status headers).texts "location" ↔
      ∃ h ∈ headers, Text.sameName h.1 "location" = true ∧
        Reply.Escapes u r.origin h.2 location := by
    rw [Reply.mem_texts_head (by decide +kernel)]
    refine exists_congr fun h => and_congr_right fun _ => and_congr_right fun hname => ?_
    exact Reply.escapes_iff htext hother hname hleads
  split
  · exact hhead
  · exact hhead

def wanderingHeaders : List (String × Bytes) :=
  [("Location", Bytes.ofText "HTTP://Upstream:80/next?step=2#top"), ("location", Bytes.ofText "/here"),
    ("Location", Bytes.ofText "http://elsewhere/"), ("LOCATION", ⟨#[0x63, 0x61, 0x66, 0xE9]⟩)]

def wanderingBackend (_ : Outbound) : Reply := .full 302 wanderingHeaders .empty

theorem wanderingHeaders_lead_away :
    ∃ r m u, Request.assemble "GET" "http://mock.local:9091/start" [] .empty none default = .ok r ∧
      Url.parse (forUrl "http://upstream/base").url = .ok u ∧ r.url.origin? ≠ u.origin? ∧
      (forUrl "http://upstream/base").forward ⟨none⟩ wanderingBackend r = .ok m ∧
      ∀ location ∈ m.texts "location", ¬ u.LeadsTo location := by
  have hcheck : (Url.parse (forUrl "http://upstream/base").url).toOption.any (fun u =>
      (Request.assemble "GET" "http://mock.local:9091/start" [] .empty none default).toOption.any
        fun r => decide (r.url.origin? ≠ u.origin?) &&
          (Outbound.ofRequest (forUrl "http://upstream/base") ⟨none⟩ r).toOption.isSome) = true := by
    decide +kernel
  have hplain : ∀ h ∈ wanderingHeaders,
      (Bytes.plainText? h.2 = none → Bytes.text? h.2 = none) ∧
        ∀ text ∈ Bytes.plainText? h.2, ∀ u ∈ (Url.parse text).toOption, u.scheme ≠ "blob" := by
    decide +kernel
  obtain ⟨u, hu, hcheck⟩ := (Option.any_eq_true _ _).1 hcheck
  obtain ⟨r, hr, hcheck⟩ := (Option.any_eq_true _ _).1 hcheck
  rw [Bool.and_eq_true] at hcheck
  obtain ⟨out, hout⟩ := Option.isSome_iff_exists.1 hcheck.2
  have hu := toOption_eq_some.1 hu
  have hr := toOption_eq_some.1 hr
  have hother : r.url.origin? ≠ u.origin? := of_decide_eq_true hcheck.1
  have hreply : wanderingBackend out = .full 302 wanderingHeaders .empty := rfl
  obtain ⟨m, hm, hleads⟩ := forward_leadsTo_iff ⟨_, _, _, _, _, _, hr⟩ hu hother
    (toOption_eq_some.1 hout) hreply
  refine ⟨r, m, u, hr, hu, hother, hm, fun location hmem hback => ?_⟩
  obtain ⟨⟨h, hh, -, hescapes⟩, -⟩ := (hleads location).1 ⟨hmem, hback⟩
  obtain ⟨htext, hblob⟩ := hplain h hh
  rcases hescapes with ⟨hother, hsome⟩ | ⟨text, v, hsome, hv, hscheme, -, -⟩
  · rw [htext hother] at hsome
    exact nomatch hsome
  · exact hblob text hsome v (toOption_eq_some.2 hv) hscheme

def strayHeaders : List (String × Bytes) :=
  [("Location", Bytes.ofText "http://mockhttp/é"), ("Location", Bytes.ofText "blob:http://mockhttp/x")]

def strayBackend (_ : Outbound) : Reply := .full 302 strayHeaders .empty

/-- A location that is no ASCII is not rewritten, and one inside a `blob` is rewritten to lead to the backend again. -/
theorem strayHeaders_lead_back :
    ∃ r m u, Request.assemble "GET" "http://mock/start" [] .empty none default = .ok r ∧
      (forUrl "http://mockhttp").validate = .ok () ∧
      Url.parse (forUrl "http://mockhttp").url = .ok u ∧ r.url.origin? ≠ u.origin? ∧
      (forUrl "http://mockhttp").forward ⟨none⟩ strayBackend r = .ok m ∧
      ∀ location ∈ ["http://mockhttp/é", "http://mockhttp://mockhttp/x"],
        location ∈ m.texts "location" ∧ u.LeadsTo location := by
  have hcheck : (Url.parse (forUrl "http://mockhttp").url).toOption.any (fun u =>
      (Request.assemble "GET" "http://mock/start" [] .empty none default).toOption.any fun r =>
        decide (r.url.origin? ≠ u.origin?) &&
          ((forUrl "http://mockhttp").forward ⟨none⟩ strayBackend r).toOption.any fun m =>
            ["http://mockhttp/é", "http://mockhttp://mockhttp/x"].all fun location =>
              (m.texts "location").contains location &&
                (Url.parse location).toOption.any (·.sameOrigin u)) = true := by
    decide +kernel
  have hvalid : (forUrl "http://mockhttp").validate.toOption = some () := by decide +kernel
  obtain ⟨u, hu, hcheck⟩ := (Option.any_eq_true _ _).1 hcheck
  obtain ⟨r, hr, hcheck⟩ := (Option.any_eq_true _ _).1 hcheck
  rw [Bool.and_eq_true] at hcheck
  obtain ⟨m, hm, hback⟩ := (Option.any_eq_true _ _).1 hcheck.2
  refine ⟨r, m, u, toOption_eq_some.1 hr, toOption_eq_some.1 hvalid, toOption_eq_some.1 hu,
    of_decide_eq_true hcheck.1, toOption_eq_some.1 hm, fun location hmem => ?_⟩
  have hleads := List.all_eq_true.1 hback location hmem
  rw [Bool.and_eq_true] at hleads
  obtain ⟨v, hv, hsame⟩ := (Option.any_eq_true _ _).1 hleads.2
  exact ⟨List.contains_iff_mem.1 hleads.1, v, toOption_eq_some.1 hv, hsame⟩

end ProxySettings

end Understudy
