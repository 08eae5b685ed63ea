import Understudy.Proofs.Request.Assembled
import Understudy.Proofs.Url.Tail
import Understudy.Request.Target

/-!
# A request is for its target

The path and query of a request come from its target and not from its `Host` header, as long as the header's text is
that of a host: it changes no more than where the URL leads, and as whom.
-/

namespace Understudy

open Url

namespace Target

/-- A target with the name of a scheme, and with a path, a query or the asterisk for the server as a whole. -/
structure IsProper (t : Target) : Prop where
  scheme : ∀ c ∈ (t.scheme.getD "http").toList, isSchemeChar c = true
  pathAndQuery : IsTarget (t.pathAndQuery.getD "/").toList

theorem isTarget_dropWhile (cs : List Char) :
    cs.dropWhile (fun c => c != '/' && c != '?') = [] ∨
      IsTarget (cs.dropWhile fun c => c != '/' && c != '?') := by
  cases hrest : cs.dropWhile fun c => c != '/' && c != '?' with
  | nil => exact Or.inl rfl
  | cons c rest =>
      have hhead := List.head?_dropWhile_not (fun c => c != '/' && c != '?') cs
      rw [hrest] at hhead
      have hc : c = '/' ∨ c = '?' := by
        simpa [or_iff_not_imp_left] using hhead
      rcases hc with rfl | rfl
      · exact Or.inr (.path rest)
      · exact Or.inr (.query rest)

theorem isTarget_ofText (s : String) : IsTarget ((ofText s).pathAndQuery.getD "/").toList := by
  unfold ofText
  generalize ((Text.splitOnce "#" s).map Prod.fst).getD s = s
  simp only
  split
  · rename_i hpath
    rw [Option.getD_some]
    rcases (Bool.or_eq_true _ _).mp hpath with hslash | hserver
    · obtain ⟨cs, hcs⟩ := String.startsWith_string_iff.1 hslash
      rw [← hcs]
      exact .path cs
    · rw [beq_iff_eq.1 hserver]
      exact .server
  · split
    · rename_i scheme rest _
      simp only [Option.getD_some, drop_takeWhile]
      rcases isTarget_dropWhile rest.toList with hnone | htarget
      · rw [hnone]
        exact .path []
      · split
        · exact .path []
        · rwa [String.toList_ofList]
    · simp only [Option.getD_none]
      exact .path []

theorem isProper_ofText {s : String}
    (h : ∀ c ∈ ((ofText s).scheme.getD "http").toList, isSchemeChar c = true) : (ofText s).IsProper :=
  ⟨h, isTarget_ofText s⟩

theorem toList_urlAt (t : Target) (host : String) :
    (t.urlAt host).toList = (t.scheme.getD "http").toList ++ ':' :: '/' :: '/' ::
      (host.toList ++ (t.pathAndQuery.getD "/").toList) := by
  simp [urlAt]

end Target

namespace Request

variable {t : Target} {method : String} {headers : List (String × Bytes)} {body : Bytes}
variable {clientIp : Option Address} {at_ : Instant} {r : Request}

/-- The path and query of a request are those that its target has at a fixed host. -/
theorem ofTarget_tail (ht : t.IsProper)
    (hhost : NamesSite (Text.lower (t.scheme.getD "http")) (t.hostText headers).toList)
    (h : ofTarget method t headers body clientIp at_ = .ok r) :
    ∃ p, assemble method (t.urlAt "localhost") headers body clientIp at_ = .ok p ∧
      r = { p with url := p.url.movedTo r.url } := by
  obtain ⟨u, hu, rfl⟩ := assemble_eq_ok.1 h
  rw [Target.urlText, ← String.ofList_toList (s := t.urlAt _), Target.toList_urlAt] at hu
  obtain ⟨v, hv, htail⟩ := parse_localhost ht.scheme ht.pathAndQuery
    (by rwa [String.ofList_toList]) hu
  rw [← Target.toList_urlAt, String.ofList_toList] at hv
  refine ⟨_, assemble_eq_ok.2 ⟨v, hv, rfl⟩, ?_⟩
  rw [htail]
  rfl

def pathTarget (pathAndQuery : String) : Target :=
  { scheme := none, authority := none, pathAndQuery := some pathAndQuery }

def userHost : List (String × Bytes) := [("host", Bytes.ofText "u@shop:81")]

theorem userHost_tail :
    ∃ r p, ofTarget "GET" (pathTarget "/orders?x=1") userHost .empty none default = .ok r ∧
      assemble "GET" ((pathTarget "/orders?x=1").urlAt "localhost") userHost .empty none default = .ok p ∧
      r = { p with url := p.url.movedTo r.url } := by
  have htext : Target.ofText "/orders?x=1" = pathTarget "/orders?x=1" := by decide +kernel
  have hproper : (pathTarget "/orders?x=1").IsProper := by
    rw [← htext]
    exact Target.isProper_ofText (Text.forall_mem_of_all (by decide +kernel))
  have hscheme : Text.lower ((pathTarget "/orders?x=1").scheme.getD "http") = "http" := by
    decide +kernel
  have htext : ((pathTarget "/orders?x=1").hostText userHost).toList = "u@shop:81".toList := by
    decide +kernel
  have hhost : NamesSite (Text.lower ((pathTarget "/orders?x=1").scheme.getD "http"))
      ((pathTarget "/orders?x=1").hostText userHost).toList := by
    rw [hscheme, htext]
    exact ⟨Text.forall_mem_of_all (by decide), fun _ => ⟨'u', by decide, by decide⟩,
      fun hfile => absurd hfile (by decide)⟩
  have hsome : (ofTarget "GET" (pathTarget "/orders?x=1") userHost .empty none
      default).toOption.isSome = true := by decide +kernel
  obtain ⟨r, hr⟩ := Option.isSome_iff_exists.1 hsome
  obtain ⟨p, hp, htail⟩ := ofTarget_tail hproper hhost (Traversal.toOption_eq_some.1 hr)
  exact ⟨r, p, Traversal.toOption_eq_some.1 hr, hp, htail⟩

def pathHost : List (String × Bytes) := [("host", Bytes.ofText "h/evil")]

/-- A path in the `Host` header becomes one of the request. -/
theorem pathHost_shifts_path :
    ∃ r p, ofTarget "GET" (pathTarget "/x") pathHost .empty none default = .ok r ∧
      assemble "GET" ((pathTarget "/x").urlAt "localhost") pathHost .empty none default = .ok p ∧
      r.path = "/evil/x" ∧ p.path = "/x" := by
  have hpath : (ofTarget "GET" (pathTarget "/x") pathHost .empty none default).toOption.map (·.path) =
      some "/evil/x" := by decide +kernel
  have hplain : (assemble "GET" ((pathTarget "/x").urlAt "localhost") pathHost .empty none
      default).toOption.map (·.path) = some "/x" := by decide +kernel
  obtain ⟨r, hr, hpath⟩ := Option.map_eq_some_iff.1 hpath
  obtain ⟨p, hp, hplain⟩ := Option.map_eq_some_iff.1 hplain
  exact ⟨r, p, Traversal.toOption_eq_some.1 hr, Traversal.toOption_eq_some.1 hp, hpath, hplain⟩

end Request

end Understudy
