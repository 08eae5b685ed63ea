import Understudy.Forward.Target
import Understudy.Proofs.Bytes.Percent
import Understudy.Proofs.Error.Traversal
import Understudy.Proofs.Net.AddressText
import Understudy.Proofs.Number.Digits

/-!
# URLs have no control characters

Reading a URL drops or encodes every control character, so that none is left in the host, the path, the query or the
fragment: what is put together from them can stand in a header.
-/

namespace Understudy

open Traversal

namespace Url

/-- A character other than the control characters of ASCII. -/
def IsShown (c : Char) : Prop := 0x20 ≤ c.toNat ∧ c.toNat ≠ 0x7F

instance (c : Char) : Decidable (IsShown c) := inferInstanceAs (Decidable (_ ∧ _))

def Shown (cs : List Char) : Prop := ∀ c ∈ cs, IsShown c

instance (cs : List Char) : Decidable (Shown cs) := List.decidableBAll IsShown cs

variable {cs : List Char} {parts : List (List Char)}

theorem shown_nil : Shown [] := List.forall_mem_nil _

theorem shown_append {as bs : List Char} : Shown (as ++ bs) ↔ Shown as ∧ Shown bs :=
  List.forall_mem_append

theorem shown_encode {keep : Char → Bool} (hkeep : ∀ c, keep c = true → IsShown c)
    (cs : List Char) : Shown (Percent.encode keep cs) :=
  Percent.forall_mem_encode (fun c _ _ => hkeep c) (by decide) (by decide)

theorem shown_intercalate (h : ∀ part ∈ parts, Shown part) {sep : Char} (hsep : IsShown sep) :
    Shown ([sep].intercalate parts) :=
  Text.forall_mem_intercalate h (List.forall_mem_singleton.2 hsep)

/-- Resolving dots drops segments, the dots among them, and adds empty ones at most. -/
theorem forall_resolveDots {p : List Char → Prop} (hnil : p []) {done segments : List (List Char)}
    (hdone : ∀ s ∈ done, p s)
    (hsegments : ∀ s ∈ segments, isDoubleDot s = false → isDot s = false → p s) :
    ∀ s ∈ resolveDots done segments, p s := by
  have hreverse {ss : List (List Char)} (h : ∀ s ∈ ss, p s) : ∀ s ∈ ss.reverse, p s :=
    fun s hs => h s (List.mem_reverse.1 hs)
  have htail {ss : List (List Char)} (h : ∀ s ∈ ss, p s) : ∀ s ∈ ss.tail, p s :=
    fun s hs => h s (List.mem_of_mem_tail hs)
  induction segments generalizing done with
  | nil => exact hreverse hdone
  | cons s ss ih =>
      rw [List.forall_mem_cons] at hsegments
      cases ss with
      | nil =>
          rw [resolveDots]
          split
          · exact hreverse (List.forall_mem_cons.2 ⟨hnil, htail hdone⟩)
          · rename_i hdouble
            split
            · exact hreverse (List.forall_mem_cons.2 ⟨hnil, hdone⟩)
            · rename_i hdot
              exact hreverse (List.forall_mem_cons.2
                ⟨hsegments.1 (Bool.eq_false_iff.2 hdouble) (Bool.eq_false_iff.2 hdot), hdone⟩)
      | cons next ss =>
          rw [resolveDots]
          split
          · exact ih (htail hdone) hsegments.2
          · rename_i hdouble
            split
            · exact ih hdone hsegments.2
            · rename_i hdot
              exact ih (List.forall_mem_cons.2
                ⟨hsegments.1 (Bool.eq_false_iff.2 hdouble) (Bool.eq_false_iff.2 hdot), hdone⟩) hsegments.2
          · exact List.cons_ne_nil next ss

theorem isShown_of_keepsFragment {c : Char} (h : keepsFragment c = true) : IsShown c := by
  simp only [keepsFragment, Bool.and_eq_true, decide_eq_true_eq] at h
  exact ⟨by omega, by omega⟩

theorem isShown_of_keepsPath {c : Char} (h : keepsPath c = true) : IsShown c := by
  rw [keepsPath, Bool.and_eq_true] at h
  exact isShown_of_keepsFragment h.1

theorem isShown_of_keepsQuery {special : Bool} {c : Char} (h : keepsQuery special c = true) :
    IsShown c := by
  simp only [keepsQuery, Bool.and_eq_true, decide_eq_true_eq] at h
  exact ⟨by omega, by omega⟩

theorem isShown_of_keepsOpaque {c : Char} (h : keepsOpaque c = true) : IsShown c := by
  simp only [keepsOpaque, Bool.and_eq_true, decide_eq_true_eq] at h
  exact ⟨by omega, by omega⟩

theorem shown_pathOfSegments (special : Bool) (cs : List Char) :
    Shown (pathOfSegments special cs).toList := by
  simp only [pathOfSegments, String.toList_append, String.toList_ofList]
  refine shown_append.2 ⟨by decide, shown_intercalate ?_ (by decide)⟩
  refine forall_resolveDots shown_nil (List.forall_mem_nil _) fun s hs _ _ => ?_
  obtain ⟨segment, -, rfl⟩ := List.mem_map.1 hs
  exact shown_encode (fun c => isShown_of_keepsPath) segment

theorem shown_readPath (special : Bool) (cs : List Char) : Shown (readPath special cs).toList := by
  unfold readPath
  split
  · cases special <;> decide
  · split <;> exact shown_pathOfSegments special _

theorem exists_readRest (special : Bool) (cs : List Char) :
    (∀ q ∈ (readRest special cs).1, ∃ raw, q = String.ofList (Percent.encode (keepsQuery special) raw)) ∧
      ∀ f ∈ (readRest special cs).2, ∃ raw, f = String.ofList (Percent.encode keepsFragment raw) := by
  unfold readRest
  simp only
  split
  · refine ⟨fun q hq => ⟨_, (Option.some.inj hq).symm⟩, fun f hf => ?_⟩
    split at hf
    · exact ⟨_, (Option.some.inj hf).symm⟩
    · cases hf
  · refine ⟨fun q hq => (by cases hq), fun f hf => ?_⟩
    split at hf
    · exact ⟨_, (Option.some.inj hf).symm⟩
    · cases hf

theorem shown_readRest (special : Bool) (cs : List Char) :
    (∀ q ∈ (readRest special cs).1, Shown q.toList) ∧
      ∀ f ∈ (readRest special cs).2, Shown f.toList := by
  obtain ⟨hquery, hfragment⟩ := exists_readRest special cs
  constructor
  · intro q hq
    obtain ⟨raw, rfl⟩ := hquery q hq
    rw [String.toList_ofList]
    exact shown_encode (fun c => isShown_of_keepsQuery) raw
  · intro f hf
    obtain ⟨raw, rfl⟩ := hfragment f hf
    rw [String.toList_ofList]
    exact shown_encode (fun c => isShown_of_keepsFragment) raw

/-- The parts that follow the scheme have no control characters. -/
structure Clean (u : Url) : Prop where
  host : ∀ h ∈ u.host, Shown h.text.toList
  path : Shown u.path.toList
  query : ∀ q ∈ u.query, Shown q.toList
  fragment : ∀ f ∈ u.fragment, Shown f.toList

theorem isShown_of_isAddressChar {c : Char} (h : Address.IsAddressChar c) : IsShown c := by
  have hrange {low high : Char} (hc : low ≤ c ∧ c ≤ high)
      (hbounds : 0x20 ≤ low.toNat ∧ high.toNat < 0x7F) : IsShown c := by
    have hle : low.toNat ≤ c.toNat ∧ c.toNat ≤ high.toNat := hc
    exact ⟨by omega, by omega⟩
  rcases h with h | rfl | rfl
  · unfold Text.hexDigit? at h
    split at h
    · exact hrange ‹_› (by decide)
    · split at h
      · exact hrange ‹_› (by decide)
      · split at h
        · exact hrange ‹_› (by decide)
        · exact nomatch h
  · decide
  · decide

theorem shown_bracketed {h : Host} (hread : Host.bracketed cs = .ok h) : Shown h.text.toList := by
  unfold Host.bracketed at hread
  split at hread
  · split at hread
    · obtain rfl := pure_eq_ok.1 hread
      simp only [Host.text, String.toList_append]
      refine shown_append.2 ⟨shown_append.2 ⟨by decide, fun c hc => ?_⟩, by decide⟩
      exact isShown_of_isAddressChar (Address.isAddressChar_of_mem_text6 hc)
    · exact absurd hread throw_ne_ok
  · exact absurd hread throw_ne_ok

theorem shown_of_asciiDomain? {ascii : List Char} (h : Host.asciiDomain? cs = some ascii) :
    Shown ascii := by
  unfold Host.asciiDomain? at h
  obtain ⟨labels, -, h⟩ := Option.bind_eq_some_iff.1 h
  simp only at h
  split at h
  · exact nomatch h
  · rename_i hforbidden
    obtain rfl := Option.some.inj h
    intro c hc
    have hallowed : Host.isForbidden c = false := by
      simpa using fun hf => hforbidden (List.any_eq_true.2 ⟨c, hc, hf⟩)
    simp only [Host.isForbidden, Bool.or_eq_false_iff, decide_eq_false_iff_not, beq_eq_false_iff_ne]
      at hallowed
    exact ⟨by omega, hallowed.1.2⟩

theorem shown_parseHost {h : Host} (hread : Host.parse cs = .ok h) : Shown h.text.toList := by
  unfold Host.parse at hread
  split at hread
  · exact shown_bracketed hread
  · split at hread
    · exact absurd hread throw_ne_ok
    · exact absurd hread throw_ne_ok
    · rename_i ascii _ hascii
      obtain ⟨text, -, hascii⟩ := Option.bind_eq_some_iff.1 hascii
      split at hread
      · split at hread
        · obtain rfl := pure_eq_ok.1 hread
          exact fun c hc => isShown_of_isAddressChar (Address.isAddressChar_of_mem_text4 hc)
        · exact absurd hread throw_ne_ok
      · obtain rfl := pure_eq_ok.1 hread
        rw [Host.text, String.toList_ofList]
        exact shown_of_asciiDomain? hascii

theorem shown_parseOpaque {h : Host} (hread : Host.parseOpaque cs = .ok h) :
    Shown h.text.toList := by
  unfold Host.parseOpaque at hread
  split at hread
  · exact shown_bracketed hread
  · split at hread
    · exact absurd hread throw_ne_ok
    · obtain rfl := pure_eq_ok.1 hread
      rw [Host.text, String.toList_ofList]
      refine shown_encode (fun c hc => ?_) cs
      simp only [Bool.and_eq_true, decide_eq_true_eq, bne_iff_ne] at hc
      exact hc

theorem clean_of_parts {scheme user path : String} {password : Option String} {port : Option Nat}
    {h : Host} (hhost : Shown h.text.toList) (hpath : Shown path.toList) (special : Bool)
    (rest : List Char) :
    Clean
      { scheme, user, password, host := some h, port, path
        query := (readRest special rest).1, fragment := (readRest special rest).2 } :=
  ⟨fun _ hother => Option.some.inj hother ▸ hhost, hpath, (shown_readRest special rest).1,
    (shown_readRest special rest).2⟩

theorem clean_of_readAuthority {scheme : String} {u : Url}
    (h : readAuthority scheme cs = .ok u) : u.Clean := by
  unfold readAuthority at h
  simp only [check_eq_ok] at h
  obtain ⟨-, -, h⟩ := h
  split at h
  · obtain ⟨host, hhost, h⟩ := bind_eq_ok.1 h
    obtain ⟨port, -, h⟩ := bind_eq_ok.1 h
    obtain rfl := pure_eq_ok.1 h
    exact clean_of_parts (shown_parseHost hhost) (shown_readPath _ _) _ _
  · obtain ⟨host, hhost, h⟩ := bind_eq_ok.1 h
    obtain ⟨port, -, h⟩ := bind_eq_ok.1 h
    obtain rfl := pure_eq_ok.1 h
    exact clean_of_parts (shown_parseOpaque hhost) (shown_readPath _ _) _ _

theorem clean_of_readFile {u : Url} (h : readFile cs = .ok u) : u.Clean := by
  have hempty : Shown (Host.domain "").text.toList := by decide
  unfold readFile at h
  simp only [ite_eq_ok] at h
  rcases h with ⟨-, ⟨-, h⟩ | ⟨-, h⟩⟩ | ⟨-, h⟩
  · obtain rfl := pure_eq_ok.1 h
    exact clean_of_parts hempty (shown_readPath _ _) _ _
  · obtain ⟨host, hhost, h⟩ := bind_eq_ok.1 h
    obtain rfl := pure_eq_ok.1 h
    refine clean_of_parts ?_ (shown_readPath _ _) _ _
    split
    · exact hempty
    · exact shown_parseHost hhost
  · obtain rfl := pure_eq_ok.1 h
    exact clean_of_parts hempty (shown_readPath _ _) _ _

/-- A text is read as a URL without control characters. -/
theorem clean_of_parse {s : String} {u : Url} (h : parse s = .ok u) : u.Clean := by
  unfold parse at h
  split at h
  · exact absurd h throw_ne_ok
  · split at h
    · exact clean_of_readFile h
    · split at h
      · exact clean_of_readAuthority h
      · split at h
        · exact clean_of_readAuthority h
        · obtain rfl := pure_eq_ok.1 h
          refine ⟨fun host hhost => (nomatch hhost), ?_, (shown_readRest _ _).1,
            (shown_readRest _ _).2⟩
          simp only
          split
          · exact shown_pathOfSegments false _
          · rw [String.toList_ofList]
            exact shown_encode (fun c => isShown_of_keepsOpaque) _

theorem toList_portText (p : Nat) : (portText (some p)).toList = ':' :: Nat.toDigits 10 p := by
  simp only [portText, String.toList_append, Nat.toString_eq_repr, Nat.toList_repr]
  rfl

theorem shown_portText (port : Option Nat) : Shown (portText port).toList := by
  cases port with
  | none => decide
  | some p =>
      rw [toList_portText]
      refine List.forall_mem_cons.2 ⟨by decide, fun c hc => isShown_of_isAddressChar ?_⟩
      exact Address.isAddressChar_of_isDigit (Numeral.isDigit_of_mem_toDigits hc)

theorem mem_of_defaultPort? {scheme : String} (h : (defaultPort? scheme).isSome = true) :
    scheme ∈ ["http", "ws", "https", "wss", "ftp"] := by
  unfold defaultPort? at h
  split at h
  iterate 5 · decide
  · exact absurd h Bool.false_ne_true

theorem shown_of_defaultPort? {scheme : String} {p : Nat} (h : defaultPort? scheme = some p) :
    Shown scheme.toList := by
  have hall : ∀ scheme ∈ ["http", "ws", "https", "wss", "ftp"], Shown scheme.toList := by decide
  exact hall scheme (mem_of_defaultPort? (Option.isSome_iff_exists.2 ⟨p, h⟩))

theorem Clean.shown_ownOrigin {u : Url} (hu : u.Clean) {o : Origin} (h : u.ownOrigin? = some o) :
    Shown o.text.toList := by
  unfold ownOrigin? at h
  split at h
  · rename_i p host hport hhost
    obtain rfl := Option.some.inj h
    simp only [Origin.text, String.toList_append]
    refine shown_append.2 ⟨shown_append.2 ⟨shown_append.2 ⟨shown_of_defaultPort? hport, by decide⟩,
      hu.host host hhost⟩, shown_portText _⟩
  · exact nomatch h

theorem exists_ownOrigin_of_originWithin {s : String} {u : Url} (h : parse s = .ok u)
    {depth : Nat} {o : Origin} (ho : originWithin? depth u = some o) :
    ∃ t v, parse t = .ok v ∧ v.ownOrigin? = some o := by
  induction depth generalizing s u with
  | zero => exact nomatch ho
  | succ depth ih =>
      rw [originWithin?] at ho
      split at ho
      · split at ho
        · rename_i inner hinner
          exact ih hinner ho
        · exact nomatch ho
      · exact ⟨s, u, h, ho⟩

theorem exists_ownOrigin {s : String} {u : Url} (h : parse s = .ok u) {o : Origin}
    (ho : u.origin? = some o) : ∃ t v, parse t = .ok v ∧ v.ownOrigin? = some o :=
  exists_ownOrigin_of_originWithin h ho

theorem shown_originText {s : String} {u : Url} (h : parse s = .ok u) :
    Shown u.originText.toList := by
  unfold originText
  split
  · rename_i o ho
    obtain ⟨t, v, hv, hown⟩ := exists_ownOrigin h ho
    exact (clean_of_parse hv).shown_ownOrigin hown
  · decide

theorem shown_trimEnd {s : String} (h : Shown s.toList) (c : Char) :
    Shown (Text.trimEnd c s).toList := by
  intro d hd
  rw [Text.trimEnd, String.toList_ofList, List.mem_reverse] at hd
  exact h d (List.mem_reverse.1 ((List.dropWhile_suffix _).subset hd))

/-- A URL behind an origin has no control characters. -/
theorem Clean.shown_behind {u : Url} (hu : u.Clean) {own : String} (hown : Shown own.toList) :
    Shown (u.behind own).toList := by
  unfold behind pathAndQuery
  simp only [String.toList_append]
  refine shown_append.2 ⟨shown_append.2 ⟨shown_trimEnd hown '/', ?_⟩, ?_⟩
  · split
    · rename_i q hq
      simp only [String.toList_append]
      exact shown_append.2 ⟨shown_append.2 ⟨hu.path, by decide⟩, hu.query q hq⟩
    · exact hu.path
  · split
    · rename_i f hf
      rw [String.toList_append]
      exact shown_append.2 ⟨by decide, hu.fragment f hf⟩
    · decide

end Url

end Understudy
