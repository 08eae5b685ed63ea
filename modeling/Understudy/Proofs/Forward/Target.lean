import Understudy.Proofs.Forward.Outbound
import Understudy.Proofs.Request.Assembled
import Understudy.Proofs.Url.Authority

/-!
# Where requests go

The target of a request is read from the URL of the settings with the path of the request behind it. It is a URL of the
same scheme, and of the same site as long as the path starts as paths do; a replacement that takes the slash from the
front of the path lets it run into the host.
-/

namespace Understudy

open Traversal

namespace Text

theorem exists_trimEnd (c : Char) (s : String) :
    ∃ n, s.toList = (trimEnd c s).toList ++ List.replicate n c := by
  have hsame : ∀ d ∈ s.toList.rtakeWhile (· == c), d = c :=
    fun d hd => beq_iff_eq.1 (List.mem_rtakeWhile_imp (p := (· == c)) hd)
  refine ⟨(s.toList.rtakeWhile (· == c)).length, ?_⟩
  rw [trimEnd, String.toList_ofList, ← List.eq_replicate_of_mem hsame]
  exact List.rdropWhile_append_rtakeWhile.symm

end Text

namespace ProxySettings

variable {s : ProxySettings} {r : Request} {u target : Url}

theorem exists_http_of_validate (h : s.validate = .ok ()) :
    ∃ u, Url.parse s.url = .ok u ∧ (u.scheme = "http" ∨ u.scheme = "https") := by
  unfold validate at h
  split at h
  · exact absurd h throw_ne_ok
  · rename_i u hu
    obtain ⟨hscheme, -⟩ := check_eq_ok.1 h
    refine ⟨u, hu, ?_⟩
    by_contra hother
    rw [not_or] at hother
    exact hscheme (by simpa using hother)

theorem isSome_defaultPort? (h : u.scheme = "http" ∨ u.scheme = "https") :
    (Url.defaultPort? u.scheme).isSome = true := by
  rcases h with h | h
  · rw [h]
    rfl
  · rw [h]
    rfl

/--
The path cannot run into the host: something other than slashes stands between them in the URL of the settings, or the
replacement leaves a sign at the front at which a host ends.
-/
def Delimited (s : ProxySettings) (u url : Url) : Prop :=
  ¬ u.IsBare ∨ ∀ rule ∈ s.replace, Url.EndsHost (rule.apply url.path).toList

theorem endsHost_replicate (n : Nat) : Url.EndsHost (List.replicate n '/') := by
  cases n with
  | zero => exact fun c hc => nomatch hc
  | succ n => exact Url.endsHost_of_head (by decide) (by decide) _

/-- A query behind a path changes nothing about its front. -/
theorem endsHost_append {path : List Char} (h : Url.EndsHost path) (query : Option String) :
    Url.EndsHost (path ++ (match query with | some q => "?" ++ q | none => "").toList) := by
  intro c hc
  rw [List.dropWhile_append] at hc
  split at hc
  · split at hc
    · rw [String.toList_append] at hc
      exact Url.endsHost_of_head (by decide) (by decide) _ c hc
    · exact nomatch hc
  · rename_i hne
    refine h c ?_
    obtain ⟨d, more, hd⟩ := List.exists_cons_of_ne_nil (mt List.isEmpty_iff.2 hne)
    rw [hd] at hc ⊢
    exact hc

theorem endsHost_pathOf (hr : r.Assembled) (hscheme : r.url.scheme = "http" ∨ r.url.scheme = "https")
    (hrule : ∀ rule ∈ s.replace, Url.EndsHost (rule.apply r.url.path).toList) :
    Url.EndsHost (s.pathOf r.url).toList := by
  unfold pathOf
  split
  · exact hrule _ ‹_›
  · obtain ⟨text, htext⟩ := hr.parse_url
    obtain ⟨rest, hrest⟩ := Url.exists_path_of_parse htext (isSome_defaultPort? hscheme)
    rw [hrest]
    exact Url.endsHost_of_head (by decide) (by decide) rest

/--
A request goes to the site of the settings: scheme, user, password, host and port are the same. Its path decides at
most about the host, and only when a replacement has taken the slash from its front.
-/
theorem target_site (hvalid : s.validate = .ok ()) (hr : r.Assembled)
    (hscheme : r.url.scheme = "http" ∨ r.url.scheme = "https")
    (htarget : s.target r.url = .ok target) :
    ∃ u, Url.parse s.url = .ok u ∧ target.scheme = u.scheme ∧
      (s.Delimited u r.url → target.site = u.site) := by
  obtain ⟨u, hu, hhttp⟩ := exists_http_of_validate hvalid
  have hport := isSome_defaultPort? hhttp
  obtain ⟨n, hslashes⟩ := Text.exists_trimEnd '/' s.url
  have hbase := hu
  rw [← String.ofList_toList (s := s.url), hslashes] at hbase
  obtain ⟨rest, hrest, hhost, hbare⟩ := Url.exists_rest_of_parse_slashes hbase hport
  have htext := target_eq_ok.1 htarget
  rw [← String.ofList_toList (s := s.targetText r.url), targetText, String.toList_append,
    String.toList_append, List.append_assoc] at htext
  refine ⟨u, hu, Url.scheme_of_parse_append hrest htext, fun hdelimited => ?_⟩
  have hpath : (∃ d ∈ rest.dropWhile Url.isSlash, Url.endsAuthority true d = true) ∨
      Url.EndsHost (s.pathOf r.url).toList := by
    rcases hdelimited with hbehind | hrule
    · exact Or.inl (hbare.resolve_left hbehind)
    · exact Or.inr (endsHost_pathOf hr hscheme hrule)
  have hbaseSite := Url.isSite_of_parse_append hrest hport hhost
    (Or.inr (endsHost_replicate n)) hbase
  have htargetSite := Url.isSite_of_parse_append hrest hport hhost
    (hpath.imp_right (endsHost_append · r.url.query)) htext
  exact htargetSite.unique hbaseSite

def ordersRule : ProxySettings :=
  { forUrl "HTTP://user:pw@Upstream:80//" with replace := some ⟨"/api", "/v2", false⟩ }

theorem ordersRule_keeps_site :
    ∃ r u target, Request.assemble "GET" "http://mock.local:9091/api/orders?step=2" [] .empty none
        default = .ok r ∧
      (r.url.scheme = "http" ∨ r.url.scheme = "https") ∧ ordersRule.validate = .ok () ∧
      ordersRule.target r.url = .ok target ∧ Url.parse ordersRule.url = .ok u ∧
      ordersRule.Delimited u r.url ∧ target.site = u.site := by
  have hcheck : (Request.assemble "GET" "http://mock.local:9091/api/orders?step=2" [] .empty none
      default).toOption.any (fun r => r.url.scheme == "http" &&
        (ordersRule.target r.url).toOption.isSome &&
        decide (∀ rule ∈ ordersRule.replace, Url.EndsHost (rule.apply r.url.path).toList)) =
          true := by decide +kernel
  have hvalid : ordersRule.validate.toOption = some () := by decide +kernel
  obtain ⟨r, hr, hcheck⟩ := (Option.any_eq_true _ _).1 hcheck
  rw [Bool.and_eq_true, Bool.and_eq_true, beq_iff_eq] at hcheck
  obtain ⟨⟨hscheme, htarget⟩, hrule⟩ := hcheck
  obtain ⟨target, htarget⟩ := Option.isSome_iff_exists.1 htarget
  have hr := toOption_eq_some.1 hr
  have hvalid := toOption_eq_some.1 hvalid
  have htarget := toOption_eq_some.1 htarget
  obtain ⟨u, hu, -, hsite⟩ := target_site hvalid ⟨_, _, _, _, _, _, hr⟩ (Or.inl hscheme) htarget
  have hdelimited : ordersRule.Delimited u r.url := Or.inr (of_decide_eq_true hrule)
  exact ⟨r, u, target, hr, Or.inl hscheme, hvalid, htarget, hu, hdelimited, hsite hdelimited⟩

def apiRule : ProxySettings :=
  { forUrl "http://upstream" with replace := some ⟨"/api", "", false⟩ }

/-- What follows the front runs into the host: the request goes to another one, with the own one as its user. -/
theorem apiRule_leads_away :
    ∃ r u target, Request.assemble "GET" "http://mock.local:9091/api@evil.example/x" [] .empty none
        default = .ok r ∧
      apiRule.validate = .ok () ∧ Url.parse apiRule.url = .ok u ∧
      apiRule.target r.url = .ok target ∧
      u.site = ⟨"http", "", none, some (.domain "upstream"), none⟩ ∧
      target.site = ⟨"http", "upstream", none, some (.domain "evil.example"), none⟩ := by
  have hcheck : (Request.assemble "GET" "http://mock.local:9091/api@evil.example/x" [] .empty none
      default).toOption.any (fun r => (apiRule.target r.url).toOption.any fun target =>
        decide (target.site = ⟨"http", "upstream", none, some (.domain "evil.example"), none⟩)) =
          true := by decide +kernel
  have hvalid : apiRule.validate.toOption = some () := by decide +kernel
  have hbase : (Url.parse apiRule.url).toOption.map Url.site =
      some ⟨"http", "", none, some (.domain "upstream"), none⟩ := by decide +kernel
  obtain ⟨r, hr, hcheck⟩ := (Option.any_eq_true _ _).1 hcheck
  obtain ⟨target, htarget, hsite⟩ := (Option.any_eq_true _ _).1 hcheck
  obtain ⟨u, hu, husite⟩ := Option.map_eq_some_iff.1 hbase
  exact ⟨r, u, target, toOption_eq_some.1 hr, toOption_eq_some.1 hvalid, toOption_eq_some.1 hu,
    toOption_eq_some.1 htarget, husite, of_decide_eq_true hsite⟩

end ProxySettings

end Understudy
