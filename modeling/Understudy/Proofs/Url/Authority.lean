import Mathlib.Data.List.DropRight
import Understudy.Proofs.Url.Host
import Understudy.Proofs.Url.Shown

/-!
# Where the authority of a URL ends

The user, host and port of a URL are read from the characters up to the first sign that ends them, and from nothing
behind it. So a URL leads to the same site as a longer one when a sign of that kind comes first in what is added
(`authorityOf_append`); blanks in between do no harm, because no host is read from a text with a blank at its end.
-/

namespace Understudy

open Traversal

namespace Url

/-- Blanks and control characters, which are dropped at the ends of a text. -/
def isEdge (c : Char) : Bool := c.toNat ≤ 0x20

/-- All characters but line breaks and tabs, which are dropped everywhere. -/
def isKept (c : Char) : Bool := !(['\t', '\n', '\r'].contains c)

def isSlash (c : Char) : Bool := c == '/' || c == '\\'

variable {a b cs e rest : List Char} {c : Char} {s scheme : String} {u : Url}

/-- What holds of the first characters holds of all blanks and control characters. -/
theorem of_isEdge {p : Char → Prop} (h : ∀ n : Fin 33, p (Char.ofNat n)) (hc : isEdge c = true) :
    p c := by
  have hrange : c.toNat ≤ 0x20 := by simpa [isEdge] using hc
  have hchar := h ⟨c.toNat, by omega⟩
  rwa [Char.ofNat_toNat] at hchar

theorem isKept_of_not_edge (hc : isEdge c = false) : isKept c = true := by
  rw [isKept, Bool.not_eq_true', Bool.eq_false_iff]
  intro hbreak
  have hedge : ∀ d ∈ ['\t', '\n', '\r'], isEdge d = true := List.all_eq_true.1 (by decide)
  rw [hedge c (List.contains_iff_mem.1 hbreak)] at hc
  exact nomatch hc

theorem relevant_eq (cs : List Char) :
    relevant (String.ofList cs) =
      ((cs.dropWhile isEdge).rdropWhile isEdge).filter isKept := by
  rw [relevant, String.toList_ofList]
  rfl

theorem mem_of_mem_relevant (h : c ∈ relevant (String.ofList cs)) : c ∈ cs := by
  rw [relevant_eq] at h
  exact (List.dropWhile_suffix _).subset ((List.rdropWhile_prefix _ _).subset (List.mem_of_mem_filter h))

theorem rdropWhile_append_of_pos {p : Char → Bool} (hb : ∀ c ∈ b, p c = true) (a : List Char) :
    (a ++ b).rdropWhile p = a.rdropWhile p := by
  rw [List.rdropWhile, List.reverse_append,
    List.dropWhile_append_of_pos fun c hc => hb c (List.mem_reverse.1 hc), List.rdropWhile]

theorem rdropWhile_append_cons {p : Char → Bool} (hc : p c = false) (a b : List Char) :
    (a ++ c :: b).rdropWhile p = a ++ c :: b.rdropWhile p := by
  induction b using List.reverseRecOn with
  | nil => rw [List.rdropWhile_concat_neg _ _ _ (by simp [hc]), List.rdropWhile_nil]
  | append_singleton b d ih =>
      rw [← List.cons_append, ← List.append_assoc]
      by_cases hd : p d = true
      · rw [List.rdropWhile_concat_pos _ _ _ hd, ih, List.rdropWhile_concat_pos _ _ _ hd]
      · rw [List.rdropWhile_concat_neg _ _ _ hd, List.rdropWhile_concat_neg _ _ _ hd,
          List.append_assoc, List.cons_append]

theorem dropWhile_append_of_exists {p : Char → Bool} (ha : ∃ c ∈ a, p c = false) (b : List Char) :
    (a ++ b).dropWhile p = a.dropWhile p ++ b := by
  obtain ⟨c, hc, hp⟩ := ha
  rw [List.dropWhile_append, if_neg]
  rw [List.isEmpty_iff, List.dropWhile_eq_nil_iff]
  intro hall
  rw [hall c hc] at hp
  exact nomatch hp

theorem relevant_append_blank (ha : ∃ c ∈ a, isEdge c = false) (hb : ∀ c ∈ b, isEdge c = true) :
    relevant (String.ofList (a ++ b)) = relevant (String.ofList a) := by
  rw [relevant_eq, relevant_eq, dropWhile_append_of_exists ha, rdropWhile_append_of_pos hb]

theorem relevant_of_forall (h : ∀ c ∈ cs, isEdge c = false) : relevant (String.ofList cs) = cs := by
  have hkept : ∀ c ∈ cs, isKept c = true := fun c hc => isKept_of_not_edge (h c hc)
  have hfront : cs.dropWhile isEdge = cs := List.dropWhile_eq_self_iff.2 fun hlength =>
    Bool.not_eq_true _ ▸ h _ (List.getElem_mem hlength)
  have hback : cs.rdropWhile isEdge = cs := List.rdropWhile_eq_self_iff.2 fun hne =>
    Bool.not_eq_true _ ▸ h _ (List.getLast_mem hne)
  rw [relevant_eq, hfront, hback, List.filter_eq_self.2 hkept]

/-- What is left between two parts of the blanks at the end of the first. -/
def gap (a : List Char) : List Char :=
  ((a.dropWhile isEdge).rtakeWhile isEdge).filter isKept

theorem isEdge_of_mem_gap (h : c ∈ gap a) : isEdge c = true :=
  List.mem_rtakeWhile_imp (List.mem_of_mem_filter h)

theorem relevant_append_cons (ha : ∃ d ∈ a, isEdge d = false) (hc : isEdge c = false)
    (e b : List Char) :
    relevant (String.ofList (a ++ (e ++ c :: b))) =
      relevant (String.ofList a) ++ (gap a ++ e.filter isKept) ++
        c :: (b.rdropWhile isEdge).filter isKept := by
  have hkept : isKept c = true := isKept_of_not_edge hc
  rw [relevant_eq, relevant_eq, dropWhile_append_of_exists ha, ← List.append_assoc,
    rdropWhile_append_cons hc, List.filter_append, List.filter_append,
    List.filter_cons_of_pos hkept, gap]
  conv_lhs => rw [← List.rdropWhile_append_rtakeWhile (p := isEdge) (l := a.dropWhile isEdge)]
  rw [List.filter_append]
  simp only [List.append_assoc]

def isSchemeChar (c : Char) : Bool := c.isAlphanum || c == '+' || c == '-' || c == '.'

theorem isEdge_of_isSchemeChar (h : isSchemeChar c = true) : isEdge c = false := by
  rw [Bool.eq_false_iff]
  intro hc
  rw [of_isEdge (p := (isSchemeChar · = false)) (by decide) hc] at h
  exact nomatch h

structure IsScheme (name : List Char) : Prop where
  head : ∃ c, name.head? = some c ∧ c.isAlpha = true
  chars : ∀ c ∈ name, isSchemeChar c = true

theorem drop_takeWhile (p : Char → Bool) (cs : List Char) :
    cs.drop (cs.takeWhile p).length = cs.dropWhile p := by
  have hparts := congrArg (List.drop (cs.takeWhile p).length)
    (List.takeWhile_append_dropWhile (p := p) (l := cs))
  rw [List.drop_left] at hparts
  exact hparts.symm

/-- A text has a scheme when one stands before its first colon. -/
theorem schemeOf?_eq_some : schemeOf? cs = some (scheme, rest) ↔
    ∃ name, cs = name ++ ':' :: rest ∧ IsScheme name ∧ scheme = Text.lower (String.ofList name) := by
  have halnum {c : Char} (h : c.isAlpha = true) : isSchemeChar c = true := by
    simp [isSchemeChar, Char.isAlphanum, h]
  constructor
  · intro h
    unfold schemeOf? at h
    split at h
    · exact nomatch h
    · rename_i c tail
      split at h
      · rename_i halpha
        simp only at h
        split at h
        · rename_i hdrop
          obtain ⟨rfl, rfl⟩ := Prod.mk.inj (Option.some.inj h)
          refine ⟨(c :: tail).takeWhile isSchemeChar, ?_, ⟨⟨c, ?_, halpha⟩, ?_⟩, rfl⟩
          · exact (List.takeWhile_append_dropWhile.symm.trans
              (congrArg _ ((drop_takeWhile isSchemeChar (c :: tail)).symm.trans hdrop)))
          · rw [List.takeWhile_cons_of_pos (halnum halpha), List.head?_cons]
          · exact fun d hd => List.mem_takeWhile_imp hd
        · exact nomatch h
      · exact nomatch h
  · rintro ⟨name, rfl, ⟨⟨c, hc, halpha⟩, hchars⟩, rfl⟩
    have htake : (name ++ ':' :: rest).takeWhile isSchemeChar = name := by
      rw [List.takeWhile_append_of_pos hchars, List.takeWhile_cons_of_neg (by decide), List.append_nil]
    obtain ⟨tail, rfl⟩ : ∃ tail, name = c :: tail := List.head?_eq_some_iff.1 hc
    unfold schemeOf?
    unfold isSchemeChar at htake
    simp only [List.cons_append] at htake ⊢
    rw [if_pos halpha, htake, ← List.cons_append, List.drop_left]
    rfl

theorem schemeOf?_append (h : schemeOf? cs = some (scheme, rest)) (more : List Char) :
    schemeOf? (cs ++ more) = some (scheme, rest ++ more) := by
  obtain ⟨name, rfl, hname, rfl⟩ := schemeOf?_eq_some.1 h
  exact schemeOf?_eq_some.2 ⟨name, by rw [List.append_assoc, List.cons_append], hname, rfl⟩

theorem exists_of_schemeOf?_append {more : List Char} (hmore : ':' ∉ more)
    (h : schemeOf? (cs ++ more) = some (scheme, rest)) :
    ∃ front, schemeOf? cs = some (scheme, front) ∧ rest = front ++ more := by
  obtain ⟨name, hsplit, hname, rfl⟩ := schemeOf?_eq_some.1 h
  rcases List.append_eq_append_iff.1 hsplit with ⟨mid, -, hmid⟩ | ⟨mid, hmid, hrest⟩
  · refine absurd ?_ hmore
    rw [hmid]
    exact List.mem_append_right _ List.mem_cons_self
  · cases mid with
    | nil =>
        rw [List.nil_append] at hrest
        exact absurd (hrest ▸ List.mem_cons_self) hmore
    | cons d front =>
        obtain ⟨rfl, rfl⟩ := List.cons.inj hrest
        exact ⟨front, schemeOf?_eq_some.2 ⟨name, hmid, hname, rfl⟩, rfl⟩

/-- What stands in front of the path: where a URL leads, and as whom. -/
@[ext]
structure Site where
  scheme : String
  user : String
  password : Option String
  host : Option Host
  port : Option Nat
  deriving DecidableEq

def site (u : Url) : Site :=
  { scheme := u.scheme, user := u.user, password := u.password, host := u.host, port := u.port }

def splitUser (authority : List Char) : List Char × List Char :=
  (cutUser? authority).getD ([], authority)

def authorityOf (cs : List Char) : List Char := cs.takeWhile (!endsAuthority true ·)

/-- A site that an authority is read as. -/
structure IsSite (scheme : String) (authority : List Char) (site : Site) : Prop where
  scheme_eq : site.scheme = scheme
  user_eq : (site.user, site.password) = readUser (splitUser authority).1
  host_eq : ∃ h, site.host = some h ∧ Host.parse (cutHost false (splitUser authority).2).1 = .ok h
  port_eq : readPort scheme (cutHost false (splitUser authority).2).2 = .ok site.port

theorem IsSite.unique {x y : Site} (hx : IsSite scheme a x) (hy : IsSite scheme a y) : x = y := by
  obtain ⟨h, hhost, hparse⟩ := hx.host_eq
  obtain ⟨h', hhost', hparse'⟩ := hy.host_eq
  obtain ⟨huser, hpassword⟩ := Prod.mk.inj (hx.user_eq.trans hy.user_eq.symm)
  have hport := Except.ok.inj (hx.port_eq.symm.trans hy.port_eq)
  rw [hparse, Except.ok.injEq] at hparse'
  exact Site.ext (hx.scheme_eq.trans hy.scheme_eq.symm) huser hpassword
    (hhost.trans (hparse' ▸ hhost'.symm)) hport

/-- A URL with a host has the site of its authority. -/
theorem isSite_of_readAuthority (hspecial : isSpecial scheme = true)
    (h : readAuthority scheme cs = .ok u) : IsSite scheme (authorityOf cs) u.site := by
  unfold readAuthority at h
  simp only [hspecial, check_eq_ok, if_true] at h
  obtain ⟨-, -, h⟩ := h
  obtain ⟨host, hhost, h⟩ := bind_eq_ok.1 h
  obtain ⟨port, hport, h⟩ := bind_eq_ok.1 h
  obtain rfl := pure_eq_ok.1 h
  exact ⟨rfl, rfl, ⟨host, rfl, hhost⟩, hport⟩

def afterAuthority (special : Bool) (cs : List Char) : List Char :=
  cs.dropWhile (!endsAuthority special ·)

theorem of_readAuthority (h : readAuthority scheme cs = .ok u) :
    u.scheme = scheme ∧
      u.path = readPath (isSpecial scheme) (cutPath (afterAuthority (isSpecial scheme) cs)).1 ∧
      (u.query, u.fragment) =
        readRest (isSpecial scheme) (cutPath (afterAuthority (isSpecial scheme) cs)).2 := by
  unfold readAuthority at h
  simp only [check_eq_ok, drop_takeWhile] at h
  obtain ⟨-, -, h⟩ := h
  split at h
  all_goals
    obtain ⟨host, -, h⟩ := bind_eq_ok.1 h
    obtain ⟨port, -, h⟩ := bind_eq_ok.1 h
    obtain rfl := pure_eq_ok.1 h
    exact ⟨rfl, rfl, rfl⟩

theorem isSpecial_of_defaultPort? (h : (defaultPort? scheme).isSome = true) :
    isSpecial scheme = true ∧ (scheme == "file") = false := by
  refine ⟨by rw [isSpecial, h, Bool.or_true], ?_⟩
  rw [beq_eq_false_iff_ne]
  rintro rfl
  exact absurd h (by decide)

/-- A URL of a scheme with ports is read from its authority. -/
theorem parse_of_defaultPort? (hscheme : schemeOf? (relevant s) = some (scheme, rest))
    (hport : (defaultPort? scheme).isSome = true) :
    parse s = readAuthority scheme (rest.dropWhile isSlash) := by
  obtain ⟨hspecial, hfile⟩ := isSpecial_of_defaultPort? hport
  rw [parse, hscheme]
  simp only [hspecial, hfile, Bool.false_eq_true, if_false, if_true]
  rfl

theorem scheme_of_readFile (h : readFile cs = .ok u) : u.scheme = "file" := by
  unfold readFile at h
  simp only [ite_eq_ok] at h
  rcases h with ⟨-, ⟨-, h⟩ | ⟨-, h⟩⟩ | ⟨-, h⟩
  · rw [← pure_eq_ok.1 h]
  · obtain ⟨host, -, h⟩ := bind_eq_ok.1 h
    rw [← pure_eq_ok.1 h]
  · rw [← pure_eq_ok.1 h]

theorem schemeOf?_of_parse (h : parse s = .ok u) :
    ∃ rest, schemeOf? (relevant s) = some (u.scheme, rest) := by
  unfold parse at h
  split at h
  · exact absurd h throw_ne_ok
  · rename_i scheme rest hscheme
    refine ⟨rest, ?_⟩
    split at h
    · rename_i hfile
      rw [hscheme, scheme_of_readFile h, beq_iff_eq.1 hfile]
    · split at h
      · rw [hscheme, (of_readAuthority h).1]
      · split at h
        · rw [hscheme, (of_readAuthority h).1]
        · rw [hscheme, ← pure_eq_ok.1 h]

theorem splitUser_concat (hc : c ≠ '@') (a : List Char) :
    splitUser (a ++ [c]) = ((splitUser a).1, (splitUser a).2 ++ [c]) := by
  have hback : ((a ++ [c]).reverse.takeWhile (· != '@')).reverse =
      (a.reverse.takeWhile (· != '@')).reverse ++ [c] := by
    rw [List.reverse_append, List.reverse_singleton, List.singleton_append,
      List.takeWhile_cons_of_pos (by simpa using hc), List.reverse_cons]
  have hcontains : (a ++ [c]).contains '@' = a.contains '@' := by
    simp [Ne.symm hc]
  rw [splitUser, splitUser, cutUser?, cutUser?, hcontains]
  split
  · simp only [Option.getD_some, hback]
    rw [List.take_append_of_le_length]
    · simp only [List.length_append, List.length_singleton]
      rw [Nat.add_sub_add_right]
    · simp only [List.length_append, List.length_singleton]
      omega
  · rfl

/-- What follows the host starts with a colon. -/
theorem exists_colon_of_cutHost {inside : Bool} (h : (cutHost inside cs).2 ≠ []) :
    ∃ ds, (cutHost inside cs).2 = ':' :: ds := by
  induction cs generalizing inside with
  | nil => exact absurd rfl h
  | cons d cs ih =>
      rw [cutHost] at h ⊢
      split
      · rename_i hd
        exact ⟨cs, by rw [hd.1]⟩
      · rw [if_neg ‹_›] at h
        exact ih h

theorem cutHost_concat (hc : c ≠ ':') (inside : Bool) (cs : List Char) :
    cutHost inside (cs ++ [c]) =
      if (cutHost inside cs).2 = [] then ((cutHost inside cs).1 ++ [c], [])
      else ((cutHost inside cs).1, (cutHost inside cs).2 ++ [c]) := by
  induction cs generalizing inside with
  | nil => simp [cutHost, hc]
  | cons d cs ih =>
      rw [List.cons_append, cutHost, cutHost]
      split
      · rw [if_neg (List.cons_ne_nil _ _), List.cons_append]
      · dsimp only
        generalize (if d = '[' then true else if d = ']' then false else inside) = next
        rw [ih]
        split <;> rfl

theorem readPort_concat_ne_ok (hc : isEdge c = true) (ds : List Char) (port : Option Nat) :
    readPort scheme (':' :: ds ++ [c]) ≠ .ok port := by
  have hdigit : c.isDigit = false := of_isEdge (p := (Char.isDigit · = false)) (by decide) hc
  have hnat : Numeral.nat? (ds ++ [c]) = none := by
    simp [Numeral.nat?, hdigit]
  have hne : (ds ++ [c]).isEmpty = false := by simp
  rw [List.cons_append, readPort, hnat, hne]
  exact throw_ne_ok

theorem IsSite.isEdge_eq_false {site : Site} (h : IsSite scheme (a ++ [c]) site) : isEdge c = false := by
  rw [Bool.eq_false_iff]
  intro hc
  have hrange : c.toNat ≤ 0x20 := by simpa [isEdge] using hc
  have hne {d : Char} (hd : isEdge d = false) : c ≠ d := by
    rintro rfl
    rw [hc] at hd
    exact nomatch hd
  obtain ⟨host, -, hhost⟩ := h.host_eq
  have hport := h.port_eq
  rw [splitUser_concat (hne (by decide)), cutHost_concat (hne (by decide))] at hhost hport
  split at hhost
  · exact Host.parse_concat_ne_ok hrange _ host hhost
  · rename_i hcolon
    obtain ⟨ds, hds⟩ := exists_colon_of_cutHost hcolon
    rw [if_neg hcolon, hds] at hport
    exact readPort_concat_ne_ok hc ds _ hport

theorem IsSite.exists_not_edge {site : Site} (h : IsSite scheme a site) :
    ∃ c ∈ a, isEdge c = false := by
  rcases List.eq_nil_or_concat' a with rfl | ⟨front, c, rfl⟩
  · obtain ⟨host, -, hhost⟩ := h.host_eq
    have hempty : (Host.parse []).toOption = none := by decide +kernel
    have hread : Host.parse [] = .ok host := hhost
    rw [hread] at hempty
    exact nomatch hempty
  · exact ⟨c, List.mem_append_right _ (List.mem_singleton_self c), h.isEdge_eq_false⟩

theorem authorityOf_append_of_exists (h : ∃ c ∈ a, endsAuthority true c = true) (b : List Char) :
    authorityOf (a ++ b) = authorityOf a := by
  obtain ⟨c, hc, hend⟩ := h
  rw [authorityOf, authorityOf, List.takeWhile_append, if_neg]
  intro hlength
  have hall := List.takeWhile_eq_self_iff.1 ((List.takeWhile_prefix _).eq_of_length hlength) c hc
  rw [hend] at hall
  exact nomatch hall

theorem authorityOf_append_of_forall (h : ∀ c ∈ a, endsAuthority true c = false) (b : List Char) :
    authorityOf (a ++ b) = a ++ authorityOf b :=
  List.takeWhile_append_of_pos fun c hc => by rw [h c hc]; rfl

theorem authorityOf_cons_of_ends (hc : endsAuthority true c = true) (b : List Char) :
    authorityOf (c :: b) = [] := by
  rw [authorityOf, List.takeWhile_cons_of_neg (by simp [hc])]

theorem endsAuthority_of_isEdge (hc : isEdge c = true) : endsAuthority true c = false :=
  of_isEdge (p := (endsAuthority true · = false)) (by decide) hc

/--
A site that is read from an authority, blanks and more is that of the authority alone, if it ends before the blanks or
what follows ends it.
-/
theorem authorityOf_append {gap : List Char} (hgap : ∀ c ∈ gap, isEdge c = true) {site : Site}
    (hsite : IsSite scheme (authorityOf (a ++ gap ++ c :: b)) site)
    (hend : (∃ d ∈ a, endsAuthority true d = true) ∨ endsAuthority true c = true) :
    authorityOf (a ++ gap ++ c :: b) = authorityOf a := by
  by_cases hclosed : ∃ d ∈ a, endsAuthority true d = true
  · rw [List.append_assoc, authorityOf_append_of_exists hclosed]
  · have hc := hend.resolve_left hclosed
    have hopen : ∀ d ∈ a, endsAuthority true d = false := by simpa using hclosed
    have hwhole : authorityOf (a ++ gap ++ c :: b) = a ++ gap := by
      rw [List.append_assoc, authorityOf_append_of_forall hopen,
        authorityOf_append_of_forall fun d hd => endsAuthority_of_isEdge (hgap d hd),
        authorityOf_cons_of_ends hc, List.append_nil]
    -- a blank in the gap would stand at the end of what the site is read from
    rcases List.eq_nil_or_concat' gap with rfl | ⟨front, d, rfl⟩
    · have ha := authorityOf_append_of_forall hopen []
      rw [List.append_nil] at ha
      rw [hwhole, ha]
      rfl
    · rw [hwhole, ← List.append_assoc] at hsite
      have hd := hgap d (List.mem_append_right _ (List.mem_singleton_self d))
      rw [hsite.isEdge_eq_false] at hd
      exact nomatch hd

theorem exists_isAlpha_of_schemeOf? (h : schemeOf? (relevant (String.ofList cs)) = some (scheme, rest)) :
    ∃ c ∈ cs, c.isAlpha = true := by
  obtain ⟨name, hname, ⟨⟨c, hc, halpha⟩, -⟩, -⟩ := schemeOf?_eq_some.1 h
  refine ⟨c, mem_of_mem_relevant ?_, halpha⟩
  rw [hname]
  exact List.mem_append_left _ (List.mem_of_mem_head? hc)

theorem isEdge_of_isAlpha (h : c.isAlpha = true) : isEdge c = false := by
  rw [Bool.eq_false_iff]
  intro hc
  rw [of_isEdge (p := (Char.isAlpha · = false)) (by decide) hc] at h
  exact nomatch h

/-- There are only blanks, or a sign at which a host ends stands behind them. -/
def EndsHost (cs : List Char) : Prop :=
  ∀ c ∈ (cs.dropWhile isEdge).head?, endsAuthority true c = true

instance (cs : List Char) : Decidable (EndsHost cs) :=
  decidable_of_iff ((cs.dropWhile isEdge).head?.all (endsAuthority true) = true) (Option.all_eq_true _ _)

theorem endsHost_of_head (hedge : isEdge c = false) (hc : endsAuthority true c = true)
    (cs : List Char) : EndsHost (c :: cs) := by
  intro d hd
  rw [List.dropWhile_cons_of_neg (by simp [hedge]), List.head?_cons] at hd
  rw [← Option.some.inj hd]
  exact hc

theorem exists_not_edge_of_schemeOf?
    (h : schemeOf? (relevant (String.ofList cs)) = some (scheme, rest)) :
    ∃ c ∈ cs, isEdge c = false := by
  obtain ⟨c, hc, halpha⟩ := exists_isAlpha_of_schemeOf? h
  exact ⟨c, hc, isEdge_of_isAlpha halpha⟩

/-- What matters of a text with something added: nothing of the latter, or what follows some blanks. -/
theorem relevant_append (ha : ∃ c ∈ a, isEdge c = false) (b : List Char) :
    ∃ more, relevant (String.ofList (a ++ b)) = relevant (String.ofList a) ++ more ∧
      (more = [] ∨ ∃ front c back, more = front ++ c :: back ∧ (∀ d ∈ front, isEdge d = true) ∧
        (EndsHost b → endsAuthority true c = true)) := by
  cases hb : b.dropWhile isEdge with
  | nil =>
      refine ⟨[], ?_, Or.inl rfl⟩
      rw [relevant_append_blank ha (List.dropWhile_eq_nil_iff.1 hb), List.append_nil]
  | cons c more =>
      have hc : isEdge c = false := by
        have hhead := List.head_dropWhile_not isEdge (l := b) (by rw [hb]; exact List.cons_ne_nil _ _)
        simpa only [hb, List.head_cons] using hhead
      have hsplit : b = b.takeWhile isEdge ++ c :: more := by
        rw [← hb, List.takeWhile_append_dropWhile]
      have hrelevant := relevant_append_cons ha hc (b.takeWhile isEdge) more
      rw [← hsplit, List.append_assoc] at hrelevant
      refine ⟨_, hrelevant, Or.inr ⟨_, c, _, rfl, List.forall_mem_append.2 ⟨fun d => isEdge_of_mem_gap,
        fun d hd => List.mem_takeWhile_imp (List.mem_of_mem_filter hd)⟩, fun hends => ?_⟩⟩
      exact hends c (by rw [hb]; rfl)

theorem scheme_of_parse_append
    (ha : schemeOf? (relevant (String.ofList a)) = some (scheme, rest))
    (h : parse (String.ofList (a ++ b)) = .ok u) : u.scheme = scheme := by
  obtain ⟨whole, hwhole⟩ := schemeOf?_of_parse h
  obtain ⟨more, hmore, -⟩ := relevant_append (exists_not_edge_of_schemeOf? ha) b
  rw [hmore, schemeOf?_append ha] at hwhole
  exact (Prod.mk.inj (Option.some.inj hwhole)).1.symm

/--
What is added to a text does not change the site that is read from it, if the authority ends before, or a sign that
ends it comes first.
-/
theorem isSite_of_parse_append
    (ha : schemeOf? (relevant (String.ofList a)) = some (scheme, rest))
    (hport : (defaultPort? scheme).isSome = true) (hrest : ∃ c ∈ rest, isSlash c = false)
    (hend : (∃ d ∈ rest.dropWhile isSlash, endsAuthority true d = true) ∨ EndsHost b)
    (h : parse (String.ofList (a ++ b)) = .ok u) :
    IsSite scheme (authorityOf (rest.dropWhile isSlash)) u.site := by
  obtain ⟨more, hmore, hcases⟩ := relevant_append (exists_not_edge_of_schemeOf? ha) b
  have hscheme := schemeOf?_append ha more
  rw [← hmore] at hscheme
  rw [parse_of_defaultPort? hscheme hport, dropWhile_append_of_exists hrest] at h
  have hsite := isSite_of_readAuthority (isSpecial_of_defaultPort? hport).1 h
  rcases hcases with rfl | ⟨front, c, back, rfl, hfront, hc⟩
  · rwa [List.append_nil] at hsite
  · rw [← List.append_assoc] at hsite
    rwa [authorityOf_append hfront hsite (hend.imp_right hc)] at hsite

/-- Nothing but slashes stands behind the host. -/
structure IsBare (u : Url) : Prop where
  path : ∀ c ∈ u.path.toList, c = '/'
  query : u.query = none
  fragment : u.fragment = none

theorem pathOfSegments_slashes (hcs : ∀ c ∈ cs, c = '/') :
    ∀ c ∈ (pathOfSegments true cs).toList, c = '/' := by
  have hsame : (cs.map fun c => if c = '\\' then '/' else c) = cs := by
    refine (List.map_congr_left fun c hc => ?_).trans cs.map_id
    rw [hcs c hc]
    rfl
  have hnil : ∀ part ∈ (Text.cutAtChar '/' cs).map (Percent.encode keepsPath), part = [] := by
    intro part hpart
    obtain ⟨segment, hsegment, rfl⟩ := List.mem_map.1 hpart
    have hempty : segment = [] := List.eq_nil_iff_forall_not_mem.2 fun c hc => by
      obtain ⟨hmem, hne⟩ := Text.mem_of_mem_cutAtChar hsegment hc
      exact hne (hcs c hmem)
    rw [hempty]
    rfl
  simp only [pathOfSegments, if_true, hsame, String.toList_append, String.toList_ofList]
  refine List.forall_mem_append.2 ⟨List.forall_mem_singleton.2 rfl, ?_⟩
  refine Text.forall_mem_intercalate (fun part hpart => ?_) (List.forall_mem_singleton.2 rfl)
  rw [forall_resolveDots (p := (· = [])) rfl (List.forall_mem_nil _) (fun s hs _ _ => hnil s hs) part hpart]
  exact List.forall_mem_nil _

theorem readPath_slashes (hcs : ∀ c ∈ cs, c = '/') : ∀ c ∈ (readPath true cs).toList, c = '/' := by
  unfold readPath
  split
  · exact List.forall_mem_singleton.2 rfl
  · rename_i c rest
    split
    · exact pathOfSegments_slashes fun d hd => hcs d (List.mem_cons_of_mem c hd)
    · exact pathOfSegments_slashes hcs

theorem cutPath_slashes (hcs : ∀ c ∈ cs, c = '/') : cutPath cs = (cs, []) := by
  have htake : (cs.takeWhile fun c => c != '?' && c != '#') = cs :=
    List.takeWhile_eq_self_iff.2 fun c hc => by rw [hcs c hc]; rfl
  rw [cutPath]
  simp only [htake, List.drop_length]

theorem endsAuthority_of_isSlash (h : isSlash c = true) : endsAuthority true c = true := by
  rcases (Bool.or_eq_true _ _).mp h with h | h
  · rw [beq_iff_eq.1 h]
    rfl
  · rw [beq_iff_eq.1 h]
    rfl

theorem isSlash_eq_false (h : endsAuthority true c = false) : isSlash c = false := by
  rw [Bool.eq_false_iff]
  intro hc
  rw [endsAuthority_of_isSlash hc] at h
  exact nomatch h

theorem relevant_append_slashes (ha : ∃ c ∈ a, isEdge c = false) (n : Nat) :
    ∃ front, (∀ c ∈ front, isEdge c = true) ∧
      relevant (String.ofList (a ++ List.replicate n '/')) =
        relevant (String.ofList a) ++ (front ++ List.replicate n '/') := by
  cases n with
  | zero =>
      refine ⟨[], List.forall_mem_nil _, ?_⟩
      rw [List.replicate_zero, List.append_nil, List.append_nil, List.append_nil]
  | succ n =>
      have hslashes : ∀ c ∈ List.replicate n '/', c = '/' := fun c => List.eq_of_mem_replicate
      have hkept : ((List.replicate n '/').rdropWhile isEdge).filter isKept = List.replicate n '/' := by
        rw [List.rdropWhile_eq_self_iff.2, List.filter_eq_self.2]
        · intro c hc
          rw [hslashes c hc]
          rfl
        · intro hne hlast
          rw [hslashes _ (List.getLast_mem hne)] at hlast
          exact absurd hlast (by decide)
      have hwhole := relevant_append_cons ha (by decide : isEdge '/' = false) [] (List.replicate n '/')
      rw [hkept, List.filter_nil, List.append_nil, List.nil_append, List.append_assoc] at hwhole
      exact ⟨gap a, fun c => isEdge_of_mem_gap, hwhole⟩

theorem exists_not_isSlash {front slashes : List Char} (hfront : ∀ c ∈ front, isEdge c = true)
    (hslashes : ∀ c ∈ slashes, c = '/')
    (hinside : ∃ c ∈ ((rest ++ (front ++ slashes)).dropWhile isSlash).takeWhile
      (!endsAuthority true ·), isEdge c = false) :
    ∃ c ∈ rest, isSlash c = false := by
  obtain ⟨c, hc, hedge⟩ := hinside
  have hopen : endsAuthority true c = false := by simpa using List.mem_takeWhile_imp hc
  have hmem := (List.dropWhile_suffix _).subset ((List.takeWhile_prefix _).subset hc)
  rcases List.mem_append.1 hmem with hmem | hmem
  · exact ⟨c, hmem, isSlash_eq_false hopen⟩
  · rcases List.mem_append.1 hmem with hmem | hmem
    · rw [hfront c hmem] at hedge
      exact nomatch hedge
    · rw [hslashes c hmem] at hopen
      exact absurd hopen (by decide)

/--
A text keeps its scheme and host without the slashes at its end, and if its authority does not end before them, there
is nothing else behind the host.
-/
theorem exists_rest_of_parse_slashes {n : Nat}
    (h : parse (String.ofList (a ++ List.replicate n '/')) = .ok u)
    (hport : (defaultPort? u.scheme).isSome = true) :
    ∃ rest, schemeOf? (relevant (String.ofList a)) = some (u.scheme, rest) ∧
      (∃ c ∈ rest, isSlash c = false) ∧
      (u.IsBare ∨ ∃ d ∈ rest.dropWhile isSlash, endsAuthority true d = true) := by
  have hslash : ∀ c ∈ List.replicate n '/', c = '/' := fun c => List.eq_of_mem_replicate
  obtain ⟨whole, hwhole⟩ := schemeOf?_of_parse h
  have hletter : ∃ c ∈ a, isEdge c = false := by
    obtain ⟨c, hc, halpha⟩ := exists_isAlpha_of_schemeOf? hwhole
    rcases List.mem_append.1 hc with hc | hc
    · exact ⟨c, hc, isEdge_of_isAlpha halpha⟩
    · rw [hslash c hc] at halpha
      exact absurd halpha (by decide)
  obtain ⟨front, hfront, hrelevant⟩ := relevant_append_slashes hletter n
  have hcolon : ':' ∉ front ++ List.replicate n '/' := by
    rw [List.mem_append, not_or]
    exact ⟨fun hc => absurd (hfront _ hc) (by decide), fun hc => absurd (hslash _ hc) (by decide)⟩
  rw [parse_of_defaultPort? hwhole hport] at h
  rw [hrelevant] at hwhole
  obtain ⟨rest, hrest, rfl⟩ := exists_of_schemeOf?_append hcolon hwhole
  have hspecial := (isSpecial_of_defaultPort? hport).1
  have hsite := isSite_of_readAuthority hspecial h
  obtain ⟨-, hpath, htail⟩ := of_readAuthority h
  have hhost : ∃ c ∈ rest, isSlash c = false :=
    exists_not_isSlash hfront hslash hsite.exists_not_edge
  refine ⟨rest, hrest, hhost, ?_⟩
  by_cases hclosed : ∃ d ∈ rest.dropWhile isSlash, endsAuthority true d = true
  · exact Or.inr hclosed
  · have hopen : ∀ d ∈ rest.dropWhile isSlash ++ front, (!endsAuthority true d) = true := by
      refine List.forall_mem_append.2 ⟨by simpa using hclosed, fun d hd => ?_⟩
      rw [endsAuthority_of_isEdge (hfront d hd)]
      rfl
    have hleft : ∀ c ∈ (List.replicate n '/').dropWhile (!endsAuthority true ·), c = '/' :=
      fun c hc => hslash c ((List.dropWhile_suffix _).subset hc)
    rw [hspecial, afterAuthority, dropWhile_append_of_exists hhost, ← List.append_assoc,
      List.dropWhile_append_of_pos hopen, cutPath_slashes hleft] at hpath htail
    obtain ⟨hquery, hfragment⟩ := Prod.mk.inj htail
    exact Or.inl ⟨hpath ▸ readPath_slashes hleft, hquery, hfragment⟩

/-- The path of a URL of a scheme with ports starts with a slash. -/
theorem exists_path_of_parse (h : parse s = .ok u) (hport : (defaultPort? u.scheme).isSome = true) :
    ∃ rest, u.path.toList = '/' :: rest := by
  have hsegments (cs : List Char) : ∃ rest, (pathOfSegments true cs).toList = '/' :: rest := by
    rw [pathOfSegments, String.toList_append]
    exact ⟨_, rfl⟩
  obtain ⟨whole, hwhole⟩ := schemeOf?_of_parse h
  rw [parse_of_defaultPort? hwhole hport] at h
  rw [(of_readAuthority h).2.1, (isSpecial_of_defaultPort? hport).1]
  unfold readPath
  split
  · exact ⟨[], rfl⟩
  · split
    · exact hsegments _
    · exact hsegments _

end Url

end Understudy
