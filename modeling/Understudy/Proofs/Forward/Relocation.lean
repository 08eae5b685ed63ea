import Understudy.Proofs.Forward.Location
import Understudy.Proofs.Url.Reread

/-!
# Rewritten locations keep their target

A location on the backend goes on with the text of the own origin in place of its own, and is read there with the path,
query and fragment that it had; any other location stays as it is. What keeps no path is a `blob`: its path is a URL of
the backend, which does not start with a slash.
-/

namespace Understudy

open Traversal

namespace Url

variable {backend own u v : Url} {o : Origin} {location : String}

theorem relocated_of_sameOrigin (hu : parse location = .ok u) (hsame : u.sameOrigin backend = true)
    (s : String) : backend.relocated s location = u.behind s := by
  rw [relocated, hu]
  exact if_pos hsame

theorem relocated_of_not_leadsTo (h : ¬ LeadsTo backend location) (s : String) :
    backend.relocated s location = location := by
  unfold relocated
  split
  · rename_i u hu
    exact if_neg fun hsame => h ⟨u, hu, hsame⟩
  · rfl

/-- A URL behind the text of an origin is its target there. -/
theorem parse_behind (hown : parse o.text = .ok own) (ho : own.origin? = some o)
    (hu : parse location = .ok u) (hport : (defaultPort? u.scheme).isSome = true) :
    parse (u.behind o.text) = .ok (o.target u.path u.query u.fragment) := by
  obtain ⟨⟨segments, hpath⟩, htail⟩ := exists_isPath_of_parse hu hport
  rw [← parse_target hown ho hpath htail, ← Origin.trimEnd_text (isRead_of_origin? hown ho),
    ← toList_behind, String.ofList_toList, Origin.trimEnd_text (isRead_of_origin? hown ho)]

/-- The path of a `blob` with an origin is no path of a scheme with ports. -/
theorem path_ne_of_blob (hblob : u.scheme = "blob") (hu : u.origin? = some o) (rest : List Char) :
    u.path.toList ≠ '/' :: rest := by
  intro hpath
  rw [origin?, originWithin?, if_pos (by simpa using hblob)] at hu
  cases hinner : parse u.path with
  | ok inner =>
      rw [← String.ofList_toList (s := u.path), hpath] at hinner
      exact parse_slash_ne_ok rest hinner
  | error f => simp [hinner] at hu

/-- A location on the backend that is no `blob` goes on as its target at the own origin. -/
theorem parse_relocated (hown : parse o.text = .ok own) (ho : own.origin? = some o)
    (hu : parse location = .ok u) (hsame : u.sameOrigin backend = true) (hblob : u.scheme ≠ "blob") :
    parse (backend.relocated o.text location) = .ok (o.target u.path u.query u.fragment) := by
  obtain ⟨own', hown', -⟩ := sameOrigin_eq_true.1 hsame
  rw [origin?_of_ne_blob hblob] at hown'
  rw [relocated_of_sameOrigin hu hsame]
  exact parse_behind hown ho hu (isSome_of_ownOrigin? hown')

/-- A `blob` on the backend goes on as a text that has its path at no origin of a scheme with ports. -/
theorem path_ne_of_parse_relocated (hown : parse o.text = .ok own) (ho : own.origin? = some o)
    (hu : parse location = .ok u) (hsame : u.sameOrigin backend = true) (hblob : u.scheme = "blob")
    (hv : parse (backend.relocated o.text location) = .ok v) : v.path ≠ u.path := by
  obtain ⟨inner, hinner, -⟩ := sameOrigin_eq_true.1 hsame
  have hread := isRead_of_origin? hown ho
  rw [relocated_of_sameOrigin hu hsame, ← String.ofList_toList (s := u.behind _), toList_behind,
    Origin.trimEnd_text hread] at hv
  have hscheme := scheme_of_parse_append (Origin.schemeOf?_relevant hread) hv
  obtain ⟨rest, hrest⟩ := exists_path_of_parse hv (by rw [hscheme]; exact hread.scheme)
  intro hpath
  rw [hpath] at hrest
  exact path_ne_of_blob hblob hinner rest hrest

/--
At an own origin whose text is read, a location on the backend goes on as a URL of this origin without a user, with the
path, query and fragment that it has, and is left alone when it is rewritten again, unless the backend has that origin
too. Any other location goes on as it is. A `blob` on the backend is the one kind of location that does not keep its path.
-/
theorem relocated_keeps_target (hown : parse o.text = .ok own) (ho : own.origin? = some o) (backend : Url)
    (location : String) :
    (∀ u, parse location = .ok u → u.sameOrigin backend = true → u.scheme ≠ "blob" →
      (∃ v, parse (backend.relocated o.text location) = .ok v ∧ v.origin? = some o ∧
        v.user = "" ∧ v.password = none ∧
        v.path = u.path ∧ v.query = u.query ∧ v.fragment = u.fragment) ∧
      (backend.origin? ≠ some o →
        backend.relocated o.text (backend.relocated o.text location) =
          backend.relocated o.text location)) ∧
    (¬ LeadsTo backend location → backend.relocated o.text location = location) ∧
    ∀ u v, parse location = .ok u → u.sameOrigin backend = true → u.scheme = "blob" →
      parse (backend.relocated o.text location) = .ok v → v.path ≠ u.path := by
  have hscheme := (isRead_of_origin? hown ho).scheme
  refine ⟨fun u hu hsame hblob => ?_, fun h => relocated_of_not_leadsTo h o.text,
    fun u v hu hsame hblob hv => path_ne_of_parse_relocated hown ho hu hsame hblob hv⟩
  have hparse := parse_relocated hown ho hu hsame hblob
  have horigin : (o.target u.path u.query u.fragment).origin? = some o := Origin.origin?_target hscheme
  refine ⟨⟨_, hparse, horigin, rfl, rfl, rfl, rfl, rfl⟩, fun hother => relocated_of_not_leadsTo ?_ o.text⟩
  rintro ⟨v, hv, hback⟩
  rw [hparse, Except.ok.injEq] at hv
  obtain ⟨o', hv', hbackend⟩ := sameOrigin_eq_true.1 hback
  rw [← hv, horigin] at hv'
  exact hother (hbackend.trans hv'.symm)

def localOrigin : Origin := ⟨"http", .domain "localhost", 9091⟩

/-- A location with a user, the implied port, capitals in the host, dots, double slashes, an empty query and an empty fragment. -/
def crookedLocation : String := "HTTP://me:pw@Upstream-Host:80//a/../b%2e/./c?#"

theorem crookedLocation_keeps_target :
    ∃ backend v, parse "http://upstream-host" = .ok backend ∧ localOrigin.text = "http://localhost:9091" ∧
      parse (backend.relocated localOrigin.text crookedLocation) = .ok v ∧ v.origin? = some localOrigin ∧
      v.user = "" ∧ v.password = none ∧ v.path = "//b%2e/c" ∧ v.query = some "" ∧ v.fragment = some "" ∧
      backend.relocated localOrigin.text (backend.relocated localOrigin.text crookedLocation) =
        backend.relocated localOrigin.text crookedLocation := by
  have hcheck : (parse "http://upstream-host").toOption.any (fun backend =>
      (parse localOrigin.text).toOption.any fun own => (parse crookedLocation).toOption.any fun u =>
        decide (own.origin? = some localOrigin) && decide (backend.origin? ≠ some localOrigin) &&
          u.sameOrigin backend && decide (u.scheme ≠ "blob" ∧ u.path = "//b%2e/c" ∧ u.query = some "" ∧
            u.fragment = some "")) = true := by
    decide +kernel
  obtain ⟨backend, hbackend, hcheck⟩ := (Option.any_eq_true _ _).1 hcheck
  obtain ⟨own, hown, hcheck⟩ := (Option.any_eq_true _ _).1 hcheck
  obtain ⟨u, hu, hcheck⟩ := (Option.any_eq_true _ _).1 hcheck
  simp only [Bool.and_eq_true, decide_eq_true_eq] at hcheck
  obtain ⟨⟨⟨ho, hother⟩, hsame⟩, hblob, hpath, hquery, hfragment⟩ := hcheck
  obtain ⟨hkept, -, -⟩ := relocated_keeps_target (toOption_eq_some.1 hown) ho backend crookedLocation
  obtain ⟨⟨v, hv, horigin, huser, hpassword, hpath', hquery', hfragment'⟩, hagain⟩ :=
    hkept u (toOption_eq_some.1 hu) hsame hblob
  exact ⟨backend, v, toOption_eq_some.1 hbackend, by decide +kernel, hv, horigin, huser, hpassword,
    hpath'.trans hpath, hquery'.trans hquery, hfragment'.trans hfragment, hagain hother⟩

/-- A `blob` on the backend is put behind the own origin without a slash, and leads to neither of them. -/
theorem blob_loses_target :
    ∃ backend u, parse "http://upstream-host" = .ok backend ∧
      parse "blob:http://upstream-host/x" = .ok u ∧ u.sameOrigin backend = true ∧
      (∀ v, parse (backend.relocated localOrigin.text "blob:http://upstream-host/x") ≠ .ok v) ∧
      ∃ o, backend.origin? = some o ∧ o.text = "http://upstream-host" ∧
        ∃ v, parse (backend.relocated o.text "blob:http://upstream-host/x") = .ok v ∧ v.origin? ≠ some o := by
  have hcheck : (parse "http://upstream-host").toOption.any (fun backend =>
      (parse "blob:http://upstream-host/x").toOption.any fun u => u.sameOrigin backend &&
        (parse (backend.relocated localOrigin.text "blob:http://upstream-host/x")).toOption.isNone &&
        backend.origin?.any fun o => o.text == "http://upstream-host" &&
          (parse (backend.relocated o.text "blob:http://upstream-host/x")).toOption.any
            fun v => decide (v.origin? ≠ some o)) = true := by
    decide +kernel
  obtain ⟨backend, hbackend, hcheck⟩ := (Option.any_eq_true _ _).1 hcheck
  obtain ⟨u, hu, hcheck⟩ := (Option.any_eq_true _ _).1 hcheck
  rw [Bool.and_eq_true, Bool.and_eq_true] at hcheck
  obtain ⟨⟨hsame, hnone⟩, hcheck⟩ := hcheck
  obtain ⟨o, ho, hcheck⟩ := (Option.any_eq_true _ _).1 hcheck
  rw [Bool.and_eq_true, beq_iff_eq] at hcheck
  obtain ⟨v, hv, horigin⟩ := (Option.any_eq_true _ _).1 hcheck.2
  refine ⟨backend, u, toOption_eq_some.1 hbackend, toOption_eq_some.1 hu, hsame, fun w hw => ?_,
    o, ho, hcheck.1, v, toOption_eq_some.1 hv, of_decide_eq_true horigin⟩
  rw [toOption_eq_some.2 hw] at hnone
  exact nomatch hnone

end Url

end Understudy
