import Understudy.Proofs.Forward.Relay
import Understudy.Proofs.Request.Cookies

/-!
# What goes on to a backend

Headers go on as they came, and the cookies as one header that is written anew. Every value of a header that may go on
arrives there, in order and with no other between them, and the cookie header is read as the cookies that may go on.
Names that are left out are not there, with one exception: a cookie header that is to be left out goes on all the same,
as long as there is a cookie in it (`Filtered.excluded_iff`).
-/

namespace Understudy

open Traversal

namespace Reply

variable {name : String} {a b : List (String × Bytes)}

theorem valuesOf_append (name : String) (a b : List (String × Bytes)) :
    valuesOf name (a ++ b) = valuesOf name a ++ valuesOf name b := by
  rw [valuesOf, List.filter_append, List.map_append, valuesOf, valuesOf]

theorem valuesOf_eq_nil (h : ∀ d ∈ a, Text.sameName d.1 name = false) : valuesOf name a = [] := by
  rw [valuesOf, List.map_eq_nil_iff, List.filter_eq_nil_iff]
  intro d hd hname
  rw [h d hd] at hname
  exact Bool.false_ne_true hname

end Reply

namespace Outbound

variable {s : ProxySettings} {client : Client} {r : Request} {out : Outbound} {target : Url}

def keptCookies (s : ProxySettings) (r : Request) : List (String × String) :=
  r.cookies.filter (!s.excludesCookie ·.1)

theorem cookieHeader_eq (s : ProxySettings) (r : Request) :
    cookieHeader s r =
      if keptCookies s r = [] then []
      else [("cookie", Bytes.ofText (Text.join "; " ((keptCookies s r).map Request.cookieText)))] := by
  have hpairs : ((r.cookies.filter fun c => !s.excludesCookie c.1).map fun c => c.1 ++ "=" ++ c.2) =
      (keptCookies s r).map Request.cookieText := rfl
  simp only [cookieHeader, hpairs, List.isEmpty_iff, List.map_eq_nil_iff]

theorem passes_iff {name : String} : passes s name = true ↔
    Forward.isTransport name = false ∧ Text.sameName name "cookie" = false ∧
      s.excludesHeader name = false := by
  simp only [passes, Bool.and_eq_true, Bool.not_eq_true', and_assoc]

theorem passes_congr {a b : String} (h : Text.sameName a b = true) : passes s a = passes s b := by
  have hlower : Text.lower a = Text.lower b := Text.sameName_iff.1 h
  simp only [passes, Forward.isTransport, Forward.isHopByHop, ProxySettings.excludesHeader,
    Text.listsName_congr h, Text.sameName, hlower]

/-- A header goes on as it came, or is the one of the cookies. -/
theorem mem_carried {h : String × Bytes} (hmem : h ∈ carried s r) :
    h ∈ r.rawHeaders ∧ passes s h.1 = true ∧ Response.isLegalValue h.2 = true ∨
      h = ("cookie", Bytes.ofText (Text.join "; " ((keptCookies s r).map Request.cookieText))) ∧
        keptCookies s r ≠ [] := by
  rcases List.mem_append.1 hmem with h | h
  · obtain ⟨hraw, hpasses⟩ := List.mem_filter.1 h
    rw [Bool.and_eq_true] at hpasses
    exact Or.inl ⟨hraw, hpasses⟩
  · rw [cookieHeader_eq] at h
    split at h
    · exact absurd h List.not_mem_nil
    · rename_i hne
      exact Or.inr ⟨List.mem_singleton.1 h, hne⟩

theorem cookies_mem_carried (h : keptCookies s r ≠ []) :
    ("cookie", Bytes.ofText (Text.join "; " ((keptCookies s r).map Request.cookieText))) ∈
      carried s r := by
  refine List.mem_append_right _ ?_
  rw [cookieHeader_eq, if_neg h]
  exact List.mem_singleton_self _

theorem isCookie_kept (hr : r.Assembled) : ∀ c ∈ keptCookies s r, Request.IsCookie c :=
  fun c hc => hr.isCookie c (List.mem_of_mem_filter hc)

theorem keptCookies_eq_nil :
    keptCookies s r = [] ↔ ∀ c ∈ r.cookies, s.excludesCookie c.1 = true := by
  simp only [keptCookies, List.filter_eq_nil_iff, Bool.not_eq_true', Bool.not_eq_false]

/-- Every part of the cookie header is a cookie that goes on. -/
theorem parts_of_cookies (hr : r.Assembled) (hne : keptCookies s r ≠ []) :
    ∀ part ∈ Text.split ';' (Text.join "; " ((keptCookies s r).map Request.cookieText)),
      ∃ c, Request.cookieOf? part = some c ∧ s.excludesCookie c.1 = false := by
  intro part hpart
  have hmem := List.mem_map_of_mem (f := Request.cookieOf?) hpart
  rw [Request.map_cookieOf?_split (isCookie_kept hr) hne] at hmem
  obtain ⟨c, hc, hread⟩ := List.mem_map.1 hmem
  refine ⟨c, hread.symm, ?_⟩
  simpa using (List.mem_filter.1 hc).2

/-- The headers that go on have none of the names that are left out, apart from that of the cookie header. -/
structure Filtered (s : ProxySettings) (r : Request) (headers : List (String × Bytes)) : Prop where
  transport : ∀ h ∈ headers, Forward.isTransport h.1 = false
  excluded : ∀ h ∈ headers, s.excludesHeader h.1 = true → Text.sameName h.1 "cookie" = true
  /-- the cookie header is there although it is to be left out, if there is a cookie in it -/
  excluded_iff : (∀ h ∈ headers, s.excludesHeader h.1 = false) ↔
    s.excludesHeader "cookie" = false ∨ ∀ c ∈ r.cookies, s.excludesCookie c.1 = true
  /-- each part of a cookie header is a cookie that is not left out -/
  cookies : ∀ h ∈ headers, Text.sameName h.1 "cookie" = true →
    ∃ text, h.2 = Bytes.ofText text ∧ ∀ part ∈ Text.split ';' text,
      ∃ c, Request.cookieOf? part = some c ∧ s.excludesCookie c.1 = false

theorem filtered_carried (hr : r.Assembled) : Filtered s r (carried s r) where
  transport := by
    intro h hmem
    rcases mem_carried hmem with ⟨-, hpasses, -⟩ | ⟨rfl, -⟩
    · exact (passes_iff.1 hpasses).1
    · exact (by decide : Forward.isTransport "cookie" = false)
  excluded := by
    intro h hmem hexcluded
    rcases mem_carried hmem with ⟨-, hpasses, -⟩ | ⟨rfl, -⟩
    · rw [(passes_iff.1 hpasses).2.2] at hexcluded
      exact nomatch hexcluded
    · exact Text.sameName_refl _
  excluded_iff := by
    rw [← keptCookies_eq_nil]
    constructor
    · intro hnone
      by_cases hkept : keptCookies s r = []
      · exact Or.inr hkept
      · have hcookie := hnone _ (cookies_mem_carried hkept)
        exact Or.inl hcookie
    · rintro hcookie h hmem
      rcases mem_carried hmem with ⟨-, hpasses, -⟩ | ⟨rfl, hkept⟩
      · exact (passes_iff.1 hpasses).2.2
      · exact hcookie.resolve_right hkept
  cookies := by
    intro h hmem hname
    rcases mem_carried hmem with ⟨-, hpasses, -⟩ | ⟨rfl, hkept⟩
    · rw [(passes_iff.1 hpasses).2.1] at hname
      exact nomatch hname
    · exact ⟨_, rfl, parts_of_cookies hr hkept⟩

/--
Of the headers of a request that is sent none is a transport header, none has a name that is to be left out, and no
cookie that is to be left out is in a cookie header; but the cookie header itself cannot be left out.
-/
theorem ofRequest_filtered (hr : r.Assembled) (hsent : ofRequest s client r = .ok out) :
    ∃ target, s.target r.url = .ok target ∧
      out.headers = credentialHeader target ++ carried s r ∧ Filtered s r (carried s r) := by
  obtain ⟨target, hsendable, rfl⟩ := ofRequest_eq_ok.1 hsent
  exact ⟨target, ProxySettings.target_eq_ok.2 hsendable.parses, rfl, filtered_carried hr⟩

def withoutCookies : ProxySettings :=
  { ProxySettings.forUrl "http://upstream" with excludedHeaders := ["X-Internal", "COOKIE"] }

def sessionHeaders : List (String × Bytes) :=
  [("Host", Bytes.ofText "mock.local:9091"), ("X-Keep", Bytes.ofText "1"),
    ("Cookie", Bytes.ofText "session=abc; secret=shh"), ("x-internal", Bytes.ofText "skip"),
    ("x-keep", ⟨#[0x63, 0x61, 0x66, 0xE9]⟩), ("cookie", Bytes.ofText "theme = a=b ")]

theorem sessionHeaders_filtered :
    ∃ r out target, Request.assemble "GET" "http://mock.local:9091/a" sessionHeaders .empty none
        default = .ok r ∧
      ofRequest withoutCookies ⟨none⟩ r = .ok out ∧
      out.headers = credentialHeader target ++ carried withoutCookies r ∧
      Filtered withoutCookies r (carried withoutCookies r) := by
  have hcheck : (Request.assemble "GET" "http://mock.local:9091/a" sessionHeaders .empty none
      default).toOption.any (fun r =>
        (ofRequest withoutCookies ⟨none⟩ r).toOption.isSome) = true := by decide +kernel
  obtain ⟨r, hr, hcheck⟩ := (Option.any_eq_true _ _).1 hcheck
  obtain ⟨out, hout⟩ := Option.isSome_iff_exists.1 hcheck
  have hr := toOption_eq_some.1 hr
  have hout := toOption_eq_some.1 hout
  obtain ⟨target, -, hheaders, hfiltered⟩ := ofRequest_filtered ⟨_, _, _, _, _, _, hr⟩ hout
  exact ⟨r, out, target, hr, hout, hheaders, hfiltered⟩

/-- The cookies of a session reach the backend although the settings leave the cookie header out. -/
theorem withoutCookies_sends_cookies :
    ∃ r out, Request.assemble "GET" "http://mock.local:9091/a" sessionHeaders .empty none
        default = .ok r ∧
      ofRequest withoutCookies ⟨none⟩ r = .ok out ∧ withoutCookies.excludesHeader "cookie" = true ∧
      ("cookie", Bytes.ofText "secret=shh; session=abc; theme=a=b") ∈ out.headers := by
  have hcheck : (Request.assemble "GET" "http://mock.local:9091/a" sessionHeaders .empty none
      default).toOption.any (fun r => (ofRequest withoutCookies ⟨none⟩ r).toOption.any fun out =>
        out.headers.contains ("cookie", Bytes.ofText "secret=shh; session=abc; theme=a=b")) =
          true := by decide +kernel
  obtain ⟨r, hr, hcheck⟩ := (Option.any_eq_true _ _).1 hcheck
  obtain ⟨out, hout, hcookie⟩ := (Option.any_eq_true _ _).1 hcheck
  exact ⟨r, out, toOption_eq_some.1 hr, toOption_eq_some.1 hout, by decide +kernel,
    List.contains_iff_mem.1 hcookie⟩

/-- HTTP reaches the target, which has a host. -/
def Reaches (target : Url) : Prop :=
  target.host.isSome = true ∧ isReachable (withoutCredentials target) = true

/-- What goes out has everything of a request that is not left out, and nothing else of it. -/
structure Keeps (s : ProxySettings) (r : Request) (target : Url) (out : Outbound) : Prop where
  url : out.url = withoutCredentials target
  method : out.method = r.method
  body : out.body = r.body
  /-- the credentials of the target stand apart -/
  values : ∀ name, passes s name = true →
    Reply.valuesOf name out.headers =
      Reply.valuesOf name (credentialHeader target) ++ Reply.valuesOf name r.rawHeaders
  cookies : Request.cookiesOf ((Reply.valuesOf "cookie" out.headers).map Bytes.latinText) =
    keptCookies s r
  cookies_eq_nil : Reply.valuesOf "cookie" out.headers = [] ↔ keptCookies s r = []

/-- Under a name that passes there are the values that came under it. -/
theorem valuesOf_carried (hlegal : ∀ h ∈ r.rawHeaders, Response.isLegalValue h.2 = true)
    {name : String} (hname : passes s name = true) :
    Reply.valuesOf name (carried s r) = Reply.valuesOf name r.rawHeaders := by
  have hpassing : ∀ h ∈ r.rawHeaders,
      (Text.sameName h.1 name && (passes s h.1 && Response.isLegalValue h.2)) =
        Text.sameName h.1 name := by
    intro h hh
    cases hsame : Text.sameName h.1 name with
    | false => rfl
    | true => rw [passes_congr hsame, hname, hlegal h hh]; rfl
  have hcookies : Reply.valuesOf name (cookieHeader s r) = [] := by
    refine Reply.valuesOf_eq_nil fun h hh => ?_
    rw [cookieHeader_eq] at hh
    split at hh
    · exact absurd hh List.not_mem_nil
    · rw [List.mem_singleton.1 hh, Text.sameName_symm]
      exact (passes_iff.1 hname).2.1
  rw [carried, Reply.valuesOf_append, hcookies, List.append_nil, Reply.valuesOf, passing,
    List.filter_filter, List.filter_congr hpassing, Reply.valuesOf]

/-- The one value under the name of cookies is that of the cookies that go on. -/
theorem valuesOf_cookie (target : Url) :
    Reply.valuesOf "cookie" (credentialHeader target ++ carried s r) =
      (cookieHeader s r).map Prod.snd := by
  have hcredentials : Reply.valuesOf "cookie" (credentialHeader target) = [] := by
    refine Reply.valuesOf_eq_nil fun h hh => ?_
    unfold credentialHeader at hh
    split at hh
    · rw [List.mem_singleton.1 hh]
      exact (by decide : Text.sameName "authorization" "cookie" = false)
    · exact absurd hh List.not_mem_nil
  have hpassing : Reply.valuesOf "cookie" (passing s r) = [] := by
    refine Reply.valuesOf_eq_nil fun h hh => ?_
    have hpasses := (List.mem_filter.1 hh).2
    rw [Bool.and_eq_true] at hpasses
    exact (passes_iff.1 hpasses.1).2.1
  have hcookies : ∀ h ∈ cookieHeader s r, Text.sameName h.1 "cookie" = true := by
    intro h hh
    rw [cookieHeader_eq] at hh
    split at hh
    · exact absurd hh List.not_mem_nil
    · rw [List.mem_singleton.1 hh]
      exact Text.sameName_refl _
  rw [carried, Reply.valuesOf_append, Reply.valuesOf_append, hcredentials, hpassing, Reply.valuesOf,
    List.filter_eq_self.2 hcookies]
  rfl

theorem keeps_toTarget (hr : r.Assembled)
    (hlegal : ∀ h ∈ r.rawHeaders, Response.isLegalValue h.2 = true) (client : Client)
    (target : Url) : Keeps s r target (toTarget s client r target) where
  url := rfl
  method := rfl
  body := rfl
  values := by
    intro name hname
    rw [toTarget, Reply.valuesOf_append, valuesOf_carried hlegal hname]
  cookies := by
    have hascending : Ascending (keptCookies s r) := hr.cookies_ascending.filter _
    rw [toTarget, valuesOf_cookie, cookieHeader_eq]
    split
    · rename_i hnil
      rw [hnil]
      rfl
    · rename_i hne
      rw [List.map_singleton, List.map_singleton, Bytes.latinText, Bytes.text?_ofText]
      exact Request.cookiesOf_join (isCookie_kept hr) hascending hne
  cookies_eq_nil := by
    rw [toTarget, valuesOf_cookie, cookieHeader_eq]
    split
    · rename_i hnil
      exact iff_of_true rfl hnil
    · rename_i hne
      exact iff_of_false (List.cons_ne_nil _ _) hne

/-- The headers that go on for legal headers are legal, that of the cookies among them. -/
theorem legal_carried (hr : r.Assembled)
    (hlegal : ∀ h ∈ r.rawHeaders, Response.isToken h.1 = true ∧ Response.isLegalValue h.2 = true) :
    ∀ h ∈ carried s r, Response.isToken h.1 = true ∧ Response.isLegalValue h.2 = true := by
  intro h hmem
  rcases mem_carried hmem with ⟨hraw, -, -⟩ | ⟨rfl, -⟩
  · exact hlegal h hraw
  · refine ⟨(by decide : Response.isToken "cookie" = true), Request.isLegalValue_join fun c hc => ?_⟩
    exact hr.isLegalChar_cookieText (fun d hd => (hlegal d hd).2) (List.mem_of_mem_filter hc)

/--
A request with a legal method and legal headers goes out to its target with everything that is not left out. What can
prevent that is a target that HTTP does not reach, and nothing else.
-/
theorem ofRequest_keeps (hr : r.Assembled) (hmethod : Response.isToken r.method = true)
    (hlegal : ∀ h ∈ r.rawHeaders, Response.isToken h.1 = true ∧ Response.isLegalValue h.2 = true)
    (htarget : s.target r.url = .ok target) :
    (Reaches target → ∃ out, ofRequest s client r = .ok out ∧ Keeps s r target out) ∧
      (¬ Reaches target → ∃ text, ofRequest s client r = .error (.backend (.unreachable text))) := by
  have hcarried := legal_carried (s := s) hr hlegal
  constructor
  · intro hreaches
    have hsendable : Sendable s r target :=
      ⟨ProxySettings.target_eq_ok.1 htarget, hmethod, hreaches.1, hcarried, hreaches.2⟩
    exact ⟨_, ofRequest_eq_ok.2 ⟨target, hsendable, rfl⟩,
      keeps_toTarget hr (fun h hh => (hlegal h hh).2) client target⟩
  · intro hreaches
    have hall : ((carried s r).all fun h => Response.isToken h.1 && Response.isLegalValue h.2) =
        true := by
      simpa only [List.all_eq_true, Bool.and_eq_true] using hcarried
    have hchecked : checkMethod r.method = .ok () := if_pos hmethod
    unfold ofRequest
    rw [bind_of_eq_ok htarget, bind_of_eq_ok hchecked]
    cases hhost : target.host with
    | none => exact ⟨_, rfl⟩
    | some h =>
        have hunreachable : isReachable (withoutCredentials target) = false :=
          Bool.not_eq_true _ ▸ fun h => hreaches ⟨Option.isSome_iff_exists.2 ⟨_, hhost⟩, h⟩
        unfold carried at hall
        simp only [Option.isNone_some, Bool.false_eq_true, if_false, hall, Bool.not_true,
          hunreachable, Bool.not_false, if_true]
        exact ⟨_, rfl⟩

def discreet : ProxySettings :=
  { ProxySettings.forUrl "http://user:pw@upstream" with
    excludedHeaders := ["X-Internal"], excludedCookies := ["SECRET"] }

theorem sessionHeaders_kept :
    ∃ r target out, Request.assemble "POST" "http://mock.local:9091/a?b=1" sessionHeaders
        ⟨#[0x00, 0xFF]⟩ none default = .ok r ∧
      Response.isToken r.method = true ∧
      (∀ h ∈ r.rawHeaders, Response.isToken h.1 = true ∧ Response.isLegalValue h.2 = true) ∧
      discreet.target r.url = .ok target ∧
      ofRequest discreet ⟨none⟩ r = .ok out ∧ Keeps discreet r target out := by
  have hcheck : (Request.assemble "POST" "http://mock.local:9091/a?b=1" sessionHeaders
      ⟨#[0x00, 0xFF]⟩ none default).toOption.any (fun r => Response.isToken r.method &&
        (r.rawHeaders.all fun h => Response.isToken h.1 && Response.isLegalValue h.2) &&
        (discreet.target r.url).toOption.any fun target =>
          target.host.isSome && isReachable (withoutCredentials target)) = true := by
    decide +kernel
  obtain ⟨r, hr, hcheck⟩ := (Option.any_eq_true _ _).1 hcheck
  rw [Bool.and_eq_true, Bool.and_eq_true] at hcheck
  obtain ⟨⟨hmethod, hheaders⟩, hcheck⟩ := hcheck
  obtain ⟨target, htarget, hreaches⟩ := (Option.any_eq_true _ _).1 hcheck
  have hr := toOption_eq_some.1 hr
  have htarget := toOption_eq_some.1 htarget
  have hlegal : ∀ h ∈ r.rawHeaders,
      Response.isToken h.1 = true ∧ Response.isLegalValue h.2 = true := by
    simpa only [List.all_eq_true, Bool.and_eq_true] using hheaders
  have hreaches : Reaches target := (Bool.and_eq_true _ _).mp hreaches
  obtain ⟨out, hout, hkeeps⟩ : ∃ out, ofRequest discreet ⟨none⟩ r = .ok out ∧
      Keeps discreet r target out :=
    (ofRequest_keeps ⟨_, _, _, _, _, _, hr⟩ hmethod hlegal htarget).1 hreaches
  exact ⟨r, target, out, hr, hmethod, hlegal, htarget, hout, hkeeps⟩

end Outbound

end Understudy
