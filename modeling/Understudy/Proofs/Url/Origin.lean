import Understudy.Proofs.Url.Authority

/-!
# Origins are read back

The text of an origin with a path behind it is read as a URL of this origin (`ownOrigin?_of_parse`): its host is read
from its text as the same host, and its port as the same port.
-/

namespace Understudy

open Traversal

namespace Url

variable {a b cs : List Char} {c : Char} {s scheme : String} {u : Url} {o : Origin}

theorem isScheme_of_defaultPort? (h : (defaultPort? scheme).isSome = true) :
    IsScheme scheme.toList ∧ Text.lower scheme = scheme := by
  have hall : ∀ scheme ∈ ["http", "ws", "https", "wss", "ftp"],
      (scheme.toList.head?.any Char.isAlpha && scheme.toList.all isSchemeChar) = true ∧
        Text.lower scheme = scheme := by decide +kernel
  obtain ⟨hscheme, hlower⟩ := hall scheme (mem_of_defaultPort? h)
  rw [Bool.and_eq_true, Option.any_eq_true] at hscheme
  exact ⟨⟨hscheme.1, List.all_eq_true.1 hscheme.2⟩, hlower⟩

structure Origin.IsRead (o : Origin) : Prop where
  scheme : (defaultPort? o.scheme).isSome = true
  host : ∃ cs, Host.parse cs = .ok o.host
  port : o.port < 65536

theorem lt_of_readPort {p : Nat} (h : readPort scheme cs = .ok (some p)) : p < 65536 := by
  unfold readPort at h
  split at h
  · split at h
    · exact nomatch pure_eq_ok.1 h
    · split at h
      · split at h
        · exact absurd h throw_ne_ok
        · rename_i n _ hlt
          have hsome := pure_eq_ok.1 h
          split at hsome
          · exact nomatch hsome
          · rw [← Option.some.inj hsome]
            exact Nat.not_le.1 hlt
      · exact absurd h throw_ne_ok
  · exact nomatch pure_eq_ok.1 h

theorem lt_of_defaultPort? {p : Nat} (h : defaultPort? scheme = some p) : p < 65536 := by
  have hall : ∀ scheme ∈ ["http", "ws", "https", "wss", "ftp"],
      ∀ p ∈ defaultPort? scheme, p < 65536 := by decide
  exact hall scheme (mem_of_defaultPort? (Option.isSome_iff_exists.2 ⟨p, h⟩)) p h

theorem isSome_of_ownOrigin? (h : u.ownOrigin? = some o) : (defaultPort? u.scheme).isSome = true := by
  unfold ownOrigin? at h
  split at h
  · exact Option.isSome_iff_exists.2 ⟨_, ‹_›⟩
  · exact nomatch h

theorem isRead_of_ownOrigin? (h : parse s = .ok u) (ho : u.ownOrigin? = some o) : o.IsRead := by
  have hsome := isSome_of_ownOrigin? ho
  unfold ownOrigin? at ho
  split at ho
  · rename_i p host hport hhost
    obtain ⟨whole, hwhole⟩ := schemeOf?_of_parse h
    rw [parse_of_defaultPort? hwhole hsome] at h
    have hsite := isSite_of_readAuthority (isSpecial_of_defaultPort? hsome).1 h
    obtain ⟨host', hhost', hparse⟩ := hsite.host_eq
    obtain rfl : host' = host := Option.some.inj (hhost'.symm.trans hhost)
    obtain rfl := Option.some.inj ho
    refine ⟨hsome, ⟨_, hparse⟩, ?_⟩
    cases hp : u.port with
    | none => exact lt_of_defaultPort? hport
    | some p => exact lt_of_readPort (hsite.port_eq.trans (congrArg _ hp))
  · exact nomatch ho

/-- The origin of a URL, whether its own or that of a URL inside, is read from a text. -/
theorem isRead_of_origin? (h : parse s = .ok u) (ho : u.origin? = some o) : o.IsRead := by
  obtain ⟨t, v, hv, hown⟩ := exists_ownOrigin h ho
  exact isRead_of_ownOrigin? hv hown

/-- A character that may stand in front of the path, other than the sign behind a user. -/
structure IsHostChar (c : Char) : Prop where
  edge : isEdge c = false
  ends : endsAuthority true c = false
  user : c ≠ '@'

theorem isHostChar_of_isDomainChar (h : Host.IsDomainChar c) :
    IsHostChar c ∧ c ≠ ':' ∧ c ≠ '[' := by
  have hne {d : Char} (hd : Host.isForbidden d = true) : c ≠ d := by
    rintro rfl
    rw [h.2] at hd
    exact nomatch hd
  have hedge : isEdge c = false := by
    have hallowed := h.2
    rw [Host.isForbidden, Bool.or_eq_false_iff, Bool.or_eq_false_iff] at hallowed
    exact hallowed.1.1
  refine ⟨⟨hedge, ?_, hne (by decide)⟩, hne (by decide), hne (by decide)⟩
  simp [endsAuthority, hne (by decide : Host.isForbidden '/' = true),
    hne (by decide : Host.isForbidden '?' = true), hne (by decide : Host.isForbidden '#' = true),
    hne (by decide : Host.isForbidden '\\' = true)]

theorem isHostChar_of_isAddressChar (h : Address.IsAddressChar c) : IsHostChar c ∧ c ≠ ']' := by
  have hne {d : Char} (hd : Text.hexDigit? d = none ∧ d ≠ '.' ∧ d ≠ ':') : c ≠ d := by
    rintro rfl
    rcases h with h | h | h
    · rw [hd.1] at h
      exact nomatch h
    · exact hd.2.1 h
    · exact hd.2.2 h
  have hedge : isEdge c = false := by
    rw [Bool.eq_false_iff]
    intro hc
    exact hne (of_isEdge (p := fun d => Text.hexDigit? d = none ∧ d ≠ '.' ∧ d ≠ ':') (by decide) hc) rfl
  refine ⟨⟨hedge, ?_, hne (by decide)⟩, hne (by decide)⟩
  simp [endsAuthority, hne (by decide : Text.hexDigit? '/' = none ∧ '/' ≠ '.' ∧ '/' ≠ ':'),
    hne (by decide : Text.hexDigit? '?' = none ∧ '?' ≠ '.' ∧ '?' ≠ ':'),
    hne (by decide : Text.hexDigit? '#' = none ∧ '#' ≠ '.' ∧ '#' ≠ ':'),
    hne (by decide : Text.hexDigit? '\\' = none ∧ '\\' ≠ '.' ∧ '\\' ≠ ':')]

theorem cutHost_append (ha : ∀ c ∈ a, c ≠ ':' ∧ c ≠ '[') (b : List Char) :
    cutHost false (a ++ b) = (a ++ (cutHost false b).1, (cutHost false b).2) := by
  induction a with
  | nil => rfl
  | cons c a ih =>
      rw [List.forall_mem_cons] at ha
      rw [List.cons_append, cutHost, if_neg fun h => ha.1.1 h.1, if_neg ha.1.2, ite_self]
      dsimp only
      rw [ih ha.2, List.cons_append]

theorem cutHost_brackets (ha : ']' ∉ a) (b : List Char) :
    cutHost true (a ++ ']' :: b) = (a ++ ']' :: (cutHost false b).1, (cutHost false b).2) := by
  induction a with
  | nil => rfl
  | cons c a ih =>
      rw [List.mem_cons, not_or] at ha
      have hinside : (if c = '[' then true else if c = ']' then false else true) = true := by
        rw [if_neg (Ne.symm ha.1), ite_self]
      rw [List.cons_append, cutHost, hinside, if_neg fun h => Bool.false_ne_true h.2]
      dsimp only
      rw [ih ha.2, List.cons_append]

/-- The text of a host that was read: none of its characters ends a host, and its colons stand in brackets. -/
structure Host.IsReadable (h : Host) : Prop where
  chars : ∀ c ∈ h.text.toList, IsHostChar c
  ne_nil : h.text.toList ≠ []
  cutHost : ∀ b, Url.cutHost false (h.text.toList ++ b) =
    (h.text.toList ++ (Url.cutHost false b).1, (Url.cutHost false b).2)

theorem Host.isReadable_of_domainChars {h : Host} (hchars : ∀ c ∈ h.text.toList, IsDomainChar c)
    (hne : h.text.toList ≠ []) : h.IsReadable where
  chars := fun c hc => (isHostChar_of_isDomainChar (hchars c hc)).1
  ne_nil := hne
  cutHost := cutHost_append fun c hc => (isHostChar_of_isDomainChar (hchars c hc)).2

theorem Host.isReadable_of_parse {h : Host} (hread : Host.parse cs = .ok h) : h.IsReadable := by
  cases h with
  | domain d =>
      rcases cases_of_parse hread with ⟨-, hbracketed⟩ | ⟨name, ascii, -, hascii, hne, hcases⟩
      · obtain ⟨-, b, -, hb⟩ := exists_of_bracketed hbracketed
        exact nomatch hb
      · rcases hcases with ⟨-, b, -, hb⟩ | ⟨-, hd⟩
        · exact nomatch hb
        · obtain rfl := domain.inj hd
          refine isReadable_of_domainChars ?_ ?_
          · rw [text, String.toList_ofList]
            exact isDomainChar_of_asciiDomain? hascii
          · rwa [text, String.toList_ofList]
  | address4 b =>
      refine isReadable_of_domainChars (fun c => isDomainChar_of_mem_text4) ?_
      rw [text, Address.toList_text4]
      simp
  | address6 b =>
      have htext : (Host.address6 b).text.toList = '[' :: ((Address.text6 b).toList ++ [']']) := by
        simp [text]
      have haddress : ∀ c ∈ (Address.text6 b).toList, IsHostChar c ∧ c ≠ ']' :=
        fun c hc => isHostChar_of_isAddressChar (Address.isAddressChar_of_mem_text6 hc)
      have hclose : ']' ∉ (Address.text6 b).toList := fun hmem => (haddress ']' hmem).2 rfl
      refine ⟨?_, ?_, fun b => ?_⟩
      · rw [htext, List.forall_mem_cons, List.forall_mem_append, List.forall_mem_singleton]
        exact ⟨⟨by decide, by decide, by decide⟩, fun c hc => (haddress c hc).1,
          ⟨by decide, by decide, by decide⟩⟩
      · rw [htext]
        exact List.cons_ne_nil _ _
      · have hinside := cutHost_brackets hclose b
        rw [htext, List.cons_append, List.append_assoc, List.singleton_append, Url.cutHost,
          if_neg (by decide)]
        dsimp only
        rw [if_pos rfl, hinside]
        simp

/-- The port of an origin behind a colon, if it is not implied. -/
def Origin.portChars (o : Origin) : List Char :=
  if defaultPort? o.scheme = some o.port then [] else ':' :: Nat.toDigits 10 o.port

theorem Origin.toList_text (o : Origin) :
    o.text.toList = o.scheme.toList ++ ':' :: '/' :: '/' :: (o.host.text.toList ++ o.portChars) := by
  unfold Origin.text portChars
  split
  · simp [portText]
  · simp [toList_portText]

theorem Origin.isHostChar_of_mem_portChars (h : c ∈ o.portChars) : IsHostChar c := by
  unfold portChars at h
  split at h
  · exact absurd h List.not_mem_nil
  · rcases List.mem_cons.1 h with rfl | h
    · exact ⟨by decide, by decide, by decide⟩
    · exact (isHostChar_of_isAddressChar
        (Address.isAddressChar_of_isDigit (Numeral.isDigit_of_mem_toDigits h))).1

theorem Origin.cutHost_portChars (o : Origin) : cutHost false o.portChars = ([], o.portChars) := by
  unfold portChars
  split
  · rfl
  · rw [cutHost, if_pos ⟨rfl, rfl⟩]

theorem Origin.readPort_portChars (ho : o.IsRead) :
    readPort o.scheme o.portChars =
      .ok (if defaultPort? o.scheme = some o.port then none else some o.port) := by
  unfold portChars
  split
  · rfl
  · rename_i hport
    have hne : (Nat.toDigits 10 o.port).isEmpty = false := by simp [Nat.toDigits_ne_nil]
    have hnat : Numeral.nat? (Nat.toDigits 10 o.port) = some o.port := by
      have hdigits : (Nat.toDigits 10 o.port).all Char.isDigit = true :=
        List.all_eq_true.2 fun c hc => Numeral.isDigit_of_mem_toDigits hc
      rw [Numeral.nat?, hne, hdigits, Numeral.ofDigits_toDigits]
      rfl
    rw [readPort, hne, hnat]
    dsimp only
    rw [if_neg (Nat.not_le.2 ho.port), if_neg hport]
    rfl

def Origin.siteChars (o : Origin) : List Char := o.host.text.toList ++ o.portChars

theorem Origin.isHostChar_of_mem (ho : o.IsRead) : ∀ c ∈ o.siteChars, IsHostChar c := by
  obtain ⟨cs, hcs⟩ := ho.host
  exact List.forall_mem_append.2
    ⟨(Host.isReadable_of_parse hcs).chars, fun c => isHostChar_of_mem_portChars⟩

theorem Origin.siteChars_ne_nil (ho : o.IsRead) : o.siteChars ≠ [] := by
  obtain ⟨cs, hcs⟩ := ho.host
  exact List.append_ne_nil_of_left_ne_nil (Host.isReadable_of_parse hcs).ne_nil _

theorem Origin.cutUser?_siteChars (ho : o.IsRead) :
    o.siteChars.contains '@' = false ∧ cutUser? o.siteChars = none := by
  have hnone : o.siteChars.contains '@' = false := by
    rw [← Bool.not_eq_true, List.contains_iff_mem]
    exact fun hmem => (isHostChar_of_mem ho _ hmem).user rfl
  exact ⟨hnone, by rw [cutUser?, hnone]; rfl⟩

theorem Origin.cutHost_siteChars (ho : o.IsRead) :
    cutHost false o.siteChars = (o.host.text.toList, o.portChars) := by
  obtain ⟨cs, hcs⟩ := ho.host
  rw [siteChars, (Host.isReadable_of_parse hcs).cutHost, cutHost_portChars, List.append_nil]

/-- The authority in the text of an origin is read as its host and port. -/
theorem Origin.eq_of_isSite (ho : o.IsRead) {site : Site} (h : IsSite o.scheme o.siteChars site) :
    Host.parse o.host.text.toList = .ok o.host ∧ site.host = some o.host ∧
      site.port = if defaultPort? o.scheme = some o.port then none else some o.port := by
  obtain ⟨cs, hcs⟩ := ho.host
  obtain ⟨host, hhost, hparse⟩ := h.host_eq
  have hport := h.port_eq
  rw [splitUser, (cutUser?_siteChars ho).2, Option.getD_none, cutHost_siteChars ho] at hparse hport
  rw [readPort_portChars ho] at hport
  obtain rfl := Host.parse_text hcs hparse
  exact ⟨hparse, hhost, (Except.ok.inj hport).symm⟩

theorem Origin.isEdge_of_mem_text (ho : o.IsRead) : ∀ c ∈ o.text.toList, isEdge c = false := by
  have hscheme := (isScheme_of_defaultPort? ho.scheme).1
  rw [Origin.toList_text, List.forall_mem_append, List.forall_mem_cons, List.forall_mem_cons,
    List.forall_mem_cons]
  exact ⟨fun c hc => isEdge_of_isSchemeChar (hscheme.chars c hc), by decide, by decide, by decide,
    fun c hc => (isHostChar_of_mem ho c hc).edge⟩

theorem Origin.schemeOf?_text (ho : o.IsRead) :
    schemeOf? o.text.toList = some (o.scheme, '/' :: '/' :: o.siteChars) := by
  obtain ⟨hscheme, hlower⟩ := isScheme_of_defaultPort? ho.scheme
  exact schemeOf?_eq_some.2 ⟨o.scheme.toList, o.toList_text, hscheme, by rw [String.ofList_toList, hlower]⟩

theorem Origin.schemeOf?_relevant (ho : o.IsRead) :
    schemeOf? (relevant (String.ofList o.text.toList)) = some (o.scheme, '/' :: '/' :: o.siteChars) := by
  rw [relevant_of_forall (isEdge_of_mem_text ho), schemeOf?_text ho]

theorem Origin.dropWhile_isSlash (ho : o.IsRead) (b : List Char) :
    ('/' :: '/' :: (o.siteChars ++ b)).dropWhile isSlash = o.siteChars ++ b := by
  obtain ⟨c, more, hfirst⟩ := List.exists_cons_of_ne_nil (siteChars_ne_nil ho)
  have hslash : isSlash c = false :=
    isSlash_eq_false (isHostChar_of_mem ho c (by rw [hfirst]; exact List.mem_cons_self)).ends
  rw [List.dropWhile_cons_of_pos (by decide), List.dropWhile_cons_of_pos (by decide), hfirst,
    List.cons_append, List.dropWhile_cons_of_neg (by simp [hslash])]

theorem Origin.authorityOf_siteChars (ho : o.IsRead) : authorityOf o.siteChars = o.siteChars :=
  List.takeWhile_eq_self_iff.2 fun d hd => by rw [(isHostChar_of_mem ho d hd).ends]; rfl

theorem ownOrigin?_of_site (hdefault : (defaultPort? o.scheme).isSome = true) (hscheme : u.scheme = o.scheme)
    (hhost : u.host = some o.host)
    (hport : u.port = if defaultPort? o.scheme = some o.port then none else some o.port) :
    u.ownOrigin? = some o := by
  obtain ⟨p, hp⟩ := Option.isSome_iff_exists.1 hdefault
  rw [ownOrigin?, hscheme, hp, hhost, hport, hp]
  dsimp only
  split
  · rename_i hsame
    rw [Option.getD_none, Option.some.inj hsame]
  · rfl

/-- A path behind the text of an origin is read as a URL of this origin. -/
theorem ownOrigin?_of_parse (ho : o.IsRead)
    (h : parse (String.ofList (o.text.toList ++ '/' :: b)) = .ok u) : u.ownOrigin? = some o := by
  have hsome : ∃ c ∈ '/' :: '/' :: o.siteChars, isSlash c = false := by
    obtain ⟨c, hc⟩ := List.exists_mem_of_ne_nil _ (Origin.siteChars_ne_nil ho)
    exact ⟨c, by simp [hc], isSlash_eq_false (Origin.isHostChar_of_mem ho c hc).ends⟩
  have hsite := isSite_of_parse_append (Origin.schemeOf?_relevant ho) ho.scheme hsome
    (Or.inr (endsHost_of_head (by decide) (by decide) b)) h
  have hdrop := Origin.dropWhile_isSlash ho []
  rw [List.append_nil] at hdrop
  rw [hdrop, Origin.authorityOf_siteChars ho] at hsite
  obtain ⟨-, hhost, hport⟩ := Origin.eq_of_isSite ho hsite
  exact ownOrigin?_of_site ho.scheme hsite.scheme_eq hhost hport

/-- Only a `blob` has the origin of another URL. -/
theorem origin?_of_ne_blob (h : u.scheme ≠ "blob") : u.origin? = u.ownOrigin? := by
  rw [origin?, originWithin?, if_neg (by simpa using h)]

theorem scheme_ne_blob (h : (defaultPort? scheme).isSome = true) : scheme ≠ "blob" := by
  rintro rfl
  exact absurd h (by decide)

theorem Origin.trimEnd_text (ho : o.IsRead) : Text.trimEnd '/' o.text = o.text := by
  have hhost := isHostChar_of_mem ho
  obtain ⟨front, c, hlast⟩ : ∃ front c, o.siteChars = front ++ [c] :=
    (List.eq_nil_or_concat' _).resolve_left (siteChars_ne_nil ho)
  have hc : c ≠ '/' := by
    rintro rfl
    have hends := (hhost '/' (by rw [hlast]; simp)).ends
    exact absurd hends (by decide)
  have htext : o.text.toList = (o.scheme.toList ++ ':' :: '/' :: '/' :: front) ++ [c] := by
    rw [siteChars] at hlast
    rw [Origin.toList_text, hlast]
    simp
  have hkept : o.text.toList.rdropWhile (· == '/') = o.text.toList := by
    rw [htext, List.rdropWhile_concat_neg _ _ _ (by simpa using hc)]
  rw [Text.trimEnd, ← List.rdropWhile, hkept, String.ofList_toList]

/-- The word that stands for no origin is no scheme. -/
theorem parse_null_ne_ok (b : List Char) : parse (String.ofList ("null/".toList ++ b)) ≠ .ok u := by
  intro h
  obtain ⟨rest, hrest⟩ := schemeOf?_of_parse h
  have hnull : ∀ c ∈ "null/".toList, isEdge c = false := Text.forall_mem_of_all (by decide)
  obtain ⟨more, hmore, -⟩ := relevant_append (a := "null/".toList) ⟨'n', by decide, by decide⟩ b
  rw [hmore, relevant_of_forall hnull] at hrest
  have hnone : schemeOf? ("null/".toList ++ more) = none := rfl
  rw [hnone] at hrest
  exact nomatch hrest

def tail (query fragment : Option String) : List Char :=
  (match query with
    | some q => '?' :: q.toList
    | none => []) ++
  match fragment with
  | some f => '#' :: f.toList
  | none => []

/-- What is put behind an origin is a path with a query and a fragment. -/
theorem toList_behind (u : Url) (own : String) :
    (u.behind own).toList =
      (Text.trimEnd '/' own).toList ++ (u.path.toList ++ tail u.query u.fragment) := by
  unfold behind pathAndQuery tail
  split
  · split
    · simp [*]
    · simp [*]
  · split
    · simp [*]
    · simp [*]

theorem exists_behind {v : Url} (hv : ∃ rest, v.path.toList = '/' :: rest) (own : String) :
    ∃ b, (v.behind own).toList = (Text.trimEnd '/' own).toList ++ '/' :: b := by
  obtain ⟨rest, hrest⟩ := hv
  rw [toList_behind, hrest]
  exact ⟨_, rfl⟩

/-- A path behind the text of the origin of a URL is read as a URL of the same origin, if it is read at all. -/
theorem origin?_of_parse_behind {own : Url} (hown : parse s = .ok own) {v : Url}
    (hv : ∃ rest, v.path.toList = '/' :: rest) (h : parse (v.behind own.originText) = .ok u) :
    u.origin? = own.origin? := by
  obtain ⟨b, hb⟩ := exists_behind hv own.originText
  rw [← String.ofList_toList (s := v.behind _), hb] at h
  unfold originText at h
  split at h
  · rename_i o ho
    have hread := isRead_of_origin? hown ho
    rw [Origin.trimEnd_text hread] at h
    have horigin := ownOrigin?_of_parse hread h
    rw [origin?_of_ne_blob (scheme_ne_blob (isSome_of_ownOrigin? horigin)), horigin, ho]
  · exact absurd h (parse_null_ne_ok b)

end Url

end Understudy
