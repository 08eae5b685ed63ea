import Understudy.Proofs.Url.Authority

/-!
# What stands behind a host

The path, query and fragment of a URL are read from what follows its host, and do not depend on the text of the host
when this text is one (`NamesSite`): nothing in it ends a host, something is left of it, and it is not taken for a
drive. Then a fixed host in its place leads to the same path, query and fragment (`parse_localhost`).
-/

namespace Understudy

open Traversal

namespace Url

variable {a b cs name host target : List Char} {c : Char} {scheme : String} {u : Url}

/-- A path, a query, or the asterisk that stands for the server as a whole. -/
inductive IsTarget : List Char → Prop
  | path (cs : List Char) : IsTarget ('/' :: cs)
  | query (cs : List Char) : IsTarget ('?' :: cs)
  | server : IsTarget ['*']

def isDrive (cs : List Char) : Bool :=
  match cs with
  | [c, d] => c.isAlpha && (d == ':' || d == '|')
  | _ => false

/-- A text that is read as that of a host as a whole. -/
structure NamesSite (scheme : String) (host : List Char) : Prop where
  ends : ∀ c ∈ host, endsAuthority (isSpecial scheme) c = false
  kept : (defaultPort? scheme).isSome = true → ∃ c ∈ host, isKept c = true
  drive : scheme = "file" → isDrive (host.filter isKept) = false

theorem namesSite_localhost (scheme : String) : NamesSite scheme "localhost".toList where
  ends := by
    cases isSpecial scheme with
    | true => exact Text.forall_mem_of_all (by decide)
    | false => exact Text.forall_mem_of_all (by decide)
  kept := fun _ => ⟨'l', by decide, by decide⟩
  drive := fun _ => by decide

theorem afterAuthority_append {special : Bool} (ha : ∀ c ∈ a, endsAuthority special c = false)
    (b : List Char) : afterAuthority special (a ++ b) = afterAuthority special b :=
  List.dropWhile_append_of_pos fun c hc => by rw [ha c hc]; rfl

theorem cutPath_append (ha : ∀ c ∈ a, c ≠ '?' ∧ c ≠ '#') (b : List Char) :
    cutPath (a ++ b) = (a ++ (cutPath b).1, (cutPath b).2) := by
  have hpath : ∀ c ∈ a, (c != '?' && c != '#') = true := fun c hc => by simp [ha c hc]
  simp only [cutPath, List.takeWhile_append_of_pos hpath, List.length_append, List.drop_length_add_append]

/-- What a host takes from the target behind it. -/
def stem (target : List Char) : List Char := if target = ['*'] then ['*'] else []

namespace IsTarget

theorem takeWhile_cutPath (h : IsTarget target) :
    (cutPath target).1.takeWhile (!isSlash ·) = stem target := by
  cases h with
  | path cs => rfl
  | query cs => rfl
  | server => rfl

theorem dropWhile_cutPath (h : IsTarget target) :
    (cutPath target).1.dropWhile (!isSlash ·) = (cutPath (afterAuthority true target)).1 := by
  cases h with
  | path cs => rfl
  | query cs => rfl
  | server => rfl

theorem cutPath_snd (h : IsTarget target) :
    (cutPath target).2 = (cutPath (afterAuthority true target)).2 := by
  cases h with
  | path cs => rfl
  | query cs => rfl
  | server => rfl

end IsTarget

theorem isDrive_append_stem (h : isDrive host = false) (target : List Char) :
    isDrive (host ++ stem target) = false := by
  unfold stem
  split
  · match host with
    | [] => rfl
    | [c] => simp [isDrive]
    | [c, d] => rfl
    | c :: d :: e :: rest => rfl
  · rwa [List.append_nil]

/-- The host of a URL of the local file system; its name for itself is left out. -/
def fileHost (cs : List Char) : Except Fault Host :=
  if cs.isEmpty then pure (.domain "")
  else do
    let h ← Host.parse cs
    pure (if h = .domain "localhost" then .domain "" else h)

/-- A URL of the local file system is read from its host, and from what follows it. -/
theorem readFile_append (hhost : ∀ c ∈ host, endsAuthority true c = false)
    (hdrive : isDrive host = false) (htarget : IsTarget target) :
    readFile ('/' :: '/' :: (host ++ target)) = (fileHost (host ++ stem target)).map fun h =>
      { scheme := "file", user := "", password := none, host := some h, port := none
        path := readPath true ('/' :: (cutPath (afterAuthority true target)).1.dropWhile isSlash)
        query := (readRest true (cutPath (afterAuthority true target)).2).1
        fragment := (readRest true (cutPath (afterAuthority true target)).2).2 } := by
  have hopen : ∀ c ∈ host, isSlash c = false := fun c hc => isSlash_eq_false (hhost c hc)
  have hpath : ∀ c ∈ '/' :: '/' :: host, c ≠ '?' ∧ c ≠ '#' := by
    rw [List.forall_mem_cons, List.forall_mem_cons]
    refine ⟨by decide, by decide, fun c hc => ?_⟩
    have hends := hhost c hc
    constructor
    · rintro rfl
      exact absurd hends (by decide)
    · rintro rfl
      exact absurd hends (by decide)
  have hcut := cutPath_append hpath target
  -- up to the first slash there is the host, and an asterisk behind it if that is the target
  have htake : (host ++ (cutPath target).1).takeWhile (!isSlash ·) = host ++ stem target := by
    rw [List.takeWhile_append_of_pos fun c hc => by rw [hopen c hc]; rfl, htarget.takeWhile_cutPath]
  have hdrop : (host ++ (cutPath target).1).drop (host ++ stem target).length =
      (cutPath (afterAuthority true target)).1 := by
    rw [← htake, drop_takeWhile, List.dropWhile_append_of_pos fun c hc => by rw [hopen c hc]; rfl,
      htarget.dropWhile_cutPath]
  have hsite : (true && !isDrive (host ++ stem target)) = true := by
    rw [isDrive_append_stem hdrive target]
    rfl
  unfold isSlash at htake
  unfold readFile
  simp only [List.cons_append] at hcut
  simp only [hcut, htarget.cutPath_snd, List.drop_succ_cons, List.drop_zero, htake, hdrop]
  refine (if_pos hsite).trans ?_
  unfold fileHost
  split
  · rfl
  · cases Host.parse (host ++ stem target) with
    | error f => rfl
    | ok h => rfl

theorem IsTarget.takeWhile_ends (h : IsTarget target) (special : Bool) :
    target.takeWhile (!endsAuthority special ·) = stem target := by
  cases h with
  | path cs => rfl
  | query cs => rfl
  | server => cases special <;> rfl

/-- The fixed host, also with the asterisk behind it. -/
theorem localhost_append_stem (target : List Char) :
    "localhost".toList ++ stem target ∈ ["localhost".toList, "localhost*".toList] := by
  unfold stem
  split
  · decide
  · decide

def movedTo (v u : Url) : Url :=
  { v with user := u.user, password := u.password, host := u.host, port := u.port }

theorem exists_readAuthority (scheme : String) (htarget : IsTarget target) :
    ∃ v, readAuthority scheme ("localhost".toList ++ target) = .ok v := by
  have hends := (namesSite_localhost scheme).ends
  have htake : ("localhost".toList ++ target).takeWhile (!endsAuthority (isSpecial scheme) ·) =
      "localhost".toList ++ stem target := by
    rw [List.takeWhile_append_of_pos fun c hc => by rw [hends c hc]; rfl, htarget.takeWhile_ends]
  have hread : ∀ cs ∈ ["localhost".toList, "localhost*".toList],
      cutUser? cs = none ∧ cs.contains '@' = false ∧ cutHost false cs = (cs, []) ∧ cs.isEmpty = false ∧
        (Host.parse cs).toOption.isSome = true ∧ (Host.parseOpaque cs).toOption.isSome = true := by
    decide +kernel
  obtain ⟨huser, hat, hcut, hne, hspecial, hopaque⟩ := hread _ (localhost_append_stem target)
  obtain ⟨h, hspecial⟩ := Option.isSome_iff_exists.1 hspecial
  obtain ⟨h', hopaque⟩ := Option.isSome_iff_exists.1 hopaque
  unfold readAuthority
  simp only [htake, huser, hat, Option.getD_none, hcut, hne, toOption_eq_some.1 hspecial,
    toOption_eq_some.1 hopaque]
  cases isSpecial scheme with
  | true => exact ⟨_, rfl⟩
  | false => exact ⟨_, rfl⟩

theorem readAuthority_localhost (hhost : ∀ c ∈ host, endsAuthority (isSpecial scheme) c = false)
    (htarget : IsTarget target) (h : readAuthority scheme (host ++ target) = .ok u) :
    ∃ v, readAuthority scheme ("localhost".toList ++ target) = .ok v ∧ u = v.movedTo u := by
  obtain ⟨v, hv⟩ := exists_readAuthority scheme htarget
  obtain ⟨hscheme, hpath, htail⟩ := of_readAuthority h
  obtain ⟨hscheme', hpath', htail'⟩ := of_readAuthority hv
  rw [afterAuthority_append hhost] at hpath htail
  rw [afterAuthority_append (namesSite_localhost scheme).ends] at hpath' htail'
  obtain ⟨hquery, hfragment⟩ := Prod.mk.inj (htail.trans htail'.symm)
  refine ⟨v, hv, ?_⟩
  rw [movedTo, hscheme', ← hscheme, hpath', ← hpath, ← hquery, ← hfragment]

theorem exists_fileHost (target : List Char) :
    ∃ h, fileHost ("localhost".toList ++ stem target) = .ok h := by
  have hread : ∀ cs ∈ ["localhost".toList, "localhost*".toList], (fileHost cs).toOption.isSome = true := by
    decide +kernel
  obtain ⟨h, hh⟩ := Option.isSome_iff_exists.1 (hread _ (localhost_append_stem target))
  exact ⟨h, toOption_eq_some.1 hh⟩

theorem readFile_localhost (hhost : ∀ c ∈ host, endsAuthority true c = false)
    (hdrive : isDrive host = false) (htarget : IsTarget target)
    (h : readFile ('/' :: '/' :: (host ++ target)) = .ok u) :
    ∃ v, readFile ('/' :: '/' :: ("localhost".toList ++ target)) = .ok v ∧ u = v.movedTo u := by
  obtain ⟨own, hown⟩ := exists_fileHost target
  rw [readFile_append hhost hdrive htarget, map_eq_ok] at h
  obtain ⟨_, -, rfl⟩ := h
  rw [readFile_append (namesSite_localhost "file").ends (by decide) htarget, hown]
  exact ⟨_, rfl, rfl⟩

/-- What matters of a text that is put together from a scheme, a host and a target. -/
theorem exists_relevant (hname : ∀ c ∈ name, isSchemeChar c = true) (htarget : IsTarget target) :
    ∃ target', IsTarget target' ∧ ∀ host,
      relevant (String.ofList (name ++ ':' :: '/' :: '/' :: (host ++ target))) =
        name ++ ':' :: '/' :: '/' :: (host.filter isKept ++ target') := by
  obtain ⟨c, b, rfl, hc, htarget'⟩ : ∃ c b, target = c :: b ∧ isEdge c = false ∧
      IsTarget (c :: (b.rdropWhile isEdge).filter isKept) := by
    cases htarget with
    | path cs => exact ⟨'/', cs, rfl, by decide, .path _⟩
    | query cs => exact ⟨'?', cs, rfl, by decide, .query _⟩
    | server => exact ⟨'*', [], rfl, by decide, .server⟩
  have hfront : ∀ c ∈ name ++ [':', '/', '/'], isEdge c = false :=
    List.forall_mem_append.2
      ⟨fun c hc => isEdge_of_isSchemeChar (hname c hc), Text.forall_mem_of_all (by decide)⟩
  have hgap : gap (name ++ [':', '/', '/']) = [] := by
    rw [List.eq_nil_iff_forall_not_mem]
    intro c hc
    have hmem := (List.dropWhile_suffix _).subset
      ((List.rtakeWhile_suffix _ _).subset (List.mem_of_mem_filter hc))
    have hedge := isEdge_of_mem_gap hc
    rw [hfront c hmem] at hedge
    exact nomatch hedge
  refine ⟨_, htarget', fun host => ?_⟩
  have hwhole := relevant_append_cons ⟨':', by simp, by decide⟩ hc host b (a := name ++ [':', '/', '/'])
  rw [relevant_of_forall hfront, hgap, List.nil_append] at hwhole
  simpa using hwhole

/-- The scheme of a text does not depend on what stands behind its colon. -/
theorem schemeOf?_colon (hname : ∀ c ∈ name, isSchemeChar c = true)
    (h : schemeOf? (name ++ ':' :: a) = some (scheme, cs)) (b : List Char) :
    scheme = Text.lower (String.ofList name) ∧ schemeOf? (name ++ ':' :: b) = some (scheme, b) := by
  obtain ⟨name', hsplit, hname', rfl⟩ := schemeOf?_eq_some.1 h
  have htake {name cs : List Char} (hname : ∀ c ∈ name, isSchemeChar c = true) :
      (name ++ ':' :: cs).takeWhile isSchemeChar = name := by
    rw [List.takeWhile_append_of_pos hname, List.takeWhile_cons_of_neg (by decide), List.append_nil]
  obtain rfl : name = name' := by
    rw [← htake hname, hsplit, htake hname'.chars]
  exact ⟨rfl, schemeOf?_eq_some.2 ⟨name, rfl, hname', rfl⟩⟩

theorem NamesSite.filter_ends (h : NamesSite scheme host) :
    ∀ c ∈ host.filter isKept, endsAuthority (isSpecial scheme) c = false :=
  fun c hc => h.ends c (List.mem_of_mem_filter hc)

/-- No slash of the target is taken for one in front of the host. -/
theorem NamesSite.dropWhile_isSlash (h : NamesSite scheme host)
    (hport : (defaultPort? scheme).isSome = true) (b : List Char) :
    (host.filter isKept ++ b).dropWhile isSlash = host.filter isKept ++ b := by
  obtain ⟨c, hc, hkept⟩ := h.kept hport
  obtain ⟨d, rest, hfirst⟩ := List.exists_cons_of_ne_nil
    (List.ne_nil_of_mem (List.mem_filter.2 ⟨hc, hkept⟩))
  have hd := h.filter_ends d (by rw [hfirst]; exact List.mem_cons_self)
  rw [(isSpecial_of_defaultPort? hport).1] at hd
  rw [hfirst, List.cons_append, List.dropWhile_cons_of_neg]
  simp [isSlash_eq_false hd]

theorem parse_of_namesSite {s : String} (hhost : NamesSite scheme host)
    (h : schemeOf? (relevant s) = some (scheme, '/' :: '/' :: (host.filter isKept ++ target))) :
    parse s = if scheme = "file" then readFile ('/' :: '/' :: (host.filter isKept ++ target))
      else readAuthority scheme (host.filter isKept ++ target) := by
  cases hport : (defaultPort? scheme).isSome with
  | true =>
      have hfile := (isSpecial_of_defaultPort? hport).2
      rw [parse_of_defaultPort? h hport, List.dropWhile_cons_of_pos (by decide),
        List.dropWhile_cons_of_pos (by decide), hhost.dropWhile_isSlash hport,
        if_neg (beq_eq_false_iff_ne.1 hfile)]
  | false =>
      rw [parse, h]
      simp only [isSpecial, hport, Bool.or_false, beq_iff_eq]
      split
      · rfl
      · rfl

/-- At any host a URL has the path, query and fragment that it has at a fixed one. -/
theorem parse_localhost (hname : ∀ c ∈ name, isSchemeChar c = true)
    (htarget : IsTarget target) (hhost : NamesSite (Text.lower (String.ofList name)) host)
    (h : parse (String.ofList (name ++ ':' :: '/' :: '/' :: (host ++ target))) = .ok u) :
    ∃ v, parse (String.ofList (name ++ ':' :: '/' :: '/' :: ("localhost".toList ++ target))) = .ok v ∧
      u = v.movedTo u := by
  obtain ⟨target', htarget', hrelevant⟩ := exists_relevant hname htarget
  obtain ⟨rest, hscheme⟩ := schemeOf?_of_parse h
  rw [hrelevant] at hscheme
  rw [← (schemeOf?_colon hname hscheme []).1] at hhost
  have hparse {host : List Char} (hhost : NamesSite u.scheme host) :
      parse (String.ofList (name ++ ':' :: '/' :: '/' :: (host ++ target))) =
        if u.scheme = "file" then readFile ('/' :: '/' :: (host.filter isKept ++ target'))
        else readAuthority u.scheme (host.filter isKept ++ target') := by
    refine parse_of_namesSite hhost ?_
    rw [hrelevant]
    exact (schemeOf?_colon hname hscheme _).2
  have hkept : "localhost".toList.filter isKept = "localhost".toList := by decide
  have hends := hhost.filter_ends
  rw [hparse hhost] at h
  rw [hparse (namesSite_localhost u.scheme), hkept]
  by_cases hfile : u.scheme = "file"
  · rw [if_pos hfile] at h ⊢
    rw [hfile] at hends
    exact readFile_localhost hends (hhost.drive hfile) htarget' h
  · rw [if_neg hfile] at h ⊢
    exact readAuthority_localhost hends htarget' h

end Url

end Understudy
