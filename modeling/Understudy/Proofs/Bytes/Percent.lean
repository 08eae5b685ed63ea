import Understudy.Bytes.Percent
import Understudy.Proofs.Bytes.Texts
import Understudy.Proofs.Request.Assembled
import Understudy.Proofs.Text.Cut

/-!
# Percent escapes

An escape is a percent sign with two digits behind it, so that a byte which is neither stands for itself and no escape
reaches across it: what stands before it and behind it is decoded apart. What is encoded has escapes and characters that
are kept, and nothing else.
-/

namespace Understudy

namespace Percent

variable {a b : UInt8} {bs : List UInt8}

theorem decodeBytes_cons_of_ne (h : a ≠ 0x25) (bs : List UInt8) :
    decodeBytes (a :: bs) = a :: decodeBytes bs := by
  match bs with
  | [] => rfl
  | [_] => rfl
  | _ :: _ :: _ => rw [decodeBytes, if_neg h]

theorem decodeBytes_cons_of_first (h : Text.hexDigit? (Char.ofNat b.toNat) = none)
    (bs : List UInt8) : decodeBytes (a :: b :: bs) = a :: decodeBytes (b :: bs) := by
  match bs with
  | [] => rfl
  | c :: rest =>
      rw [decodeBytes]
      split
      · rw [h]
      · rfl

theorem decodeBytes_cons_of_not_digits {c : UInt8}
    (h : ∀ x y, Text.hexDigit? (Char.ofNat b.toNat) = some x →
      Text.hexDigit? (Char.ofNat c.toNat) = some y → False) (bs : List UInt8) :
    decodeBytes (a :: b :: c :: bs) = a :: decodeBytes (b :: c :: bs) := by
  rw [decodeBytes]
  split
  · split
    · rename_i x y hb hc
      exact (h x y hb hc).elim
    · rfl
  · rfl

/-- No escape reaches across a byte that is neither a percent sign nor a digit. -/
theorem decodeBytes_append_cons {x : UInt8} (hx : x ≠ 0x25)
    (hdigit : Text.hexDigit? (Char.ofNat x.toNat) = none) (front back : List UInt8) :
    decodeBytes (front ++ x :: back) = decodeBytes front ++ x :: decodeBytes back := by
  induction front using decodeBytes.induct with
  | case1 => exact decodeBytes_cons_of_ne hx back
  | case2 a =>
      rw [List.singleton_append, decodeBytes_cons_of_first hdigit, decodeBytes_cons_of_ne hx]
      rfl
  | case3 a b =>
      have hsecond : ∀ u v, Text.hexDigit? (Char.ofNat b.toNat) = some u →
          Text.hexDigit? (Char.ofNat x.toNat) = some v → False := by
        intro u v _ hv
        rw [hdigit] at hv
        exact absurd hv (by simp)
      rw [List.cons_append, List.singleton_append, decodeBytes_cons_of_not_digits hsecond,
        decodeBytes_cons_of_first hdigit, decodeBytes_cons_of_ne hx]
      rfl
  | case4 b c rest high low hhigh hlow ih =>
      simp only [List.cons_append, decodeBytes, if_true, hhigh, hlow, ih]
  | case5 b c rest hnot ih =>
      rw [decodeBytes_cons_of_not_digits hnot, List.cons_append, List.cons_append, List.cons_append,
        decodeBytes_cons_of_not_digits hnot]
      exact congrArg _ ih
  | case6 a b c rest ha ih =>
      rw [List.cons_append, decodeBytes_cons_of_ne ha, decodeBytes_cons_of_ne ha, ih]
      rfl

theorem decodeBytes_eq_self (h : 0x25 ∉ bs) : decodeBytes bs = bs := by
  induction bs with
  | nil => rfl
  | cons a bs ih =>
      rw [List.mem_cons, not_or] at h
      rw [decodeBytes_cons_of_ne (fun heq => h.1 heq.symm), ih h.2]

theorem toList_decode (s : String) : (decode s).toList = decodeBytes (Bytes.ofText s).toList := rfl

theorem decode_of_notMem {s : String} (h : '%' ∉ s.toList) : decode s = Bytes.ofText s := by
  rw [← Bytes.toList_inj, toList_decode]
  exact decodeBytes_eq_self (Bytes.notMem_ofText (by decide) h)

/-- The text either has the decoded bytes, or is what was given because these are no text. -/
theorem decodeText_cases (s : String) :
    Bytes.text? (decode s) = some (decodeText s) ∨
      Bytes.text? (decode s) = none ∧ decodeText s = s := by
  unfold decodeText
  cases Bytes.text? (decode s) with
  | some t => exact Or.inl rfl
  | none => exact Or.inr ⟨rfl, rfl⟩

theorem decodeText_of_notMem {s : String} (h : '%' ∉ s.toList) : decodeText s = s := by
  rw [decodeText, decode_of_notMem h, Bytes.text?_ofText]
  rfl

/--
What stands behind the last slash of a decoded text is what the last part of the text is decoded as, when there are
neither slashes nor percent signs in them.
-/
theorem decodeText_last {s front t : String} {before last : List Char}
    (hs : s.toList = before ++ '/' :: last) (hlast : '/' ∉ last)
    (heq : decodeText s = front ++ "/" ++ t) (ht : '/' ∉ t.toList ∧ '%' ∉ t.toList)
    (hdecoded : '/' ∉ (decodeText (String.ofList last)).toList ∧
      '%' ∉ (decodeText (String.ofList last)).toList) :
    decodeText (String.ofList last) = t := by
  have hslash : String.ofList (before ++ '/' :: last) =
      String.ofList before ++ "/" ++ String.ofList last := by
    rw [← String.toList_inj]
    simp
  rcases decodeText_cases s with hread | ⟨-, hsame⟩
  · -- both are decoded: the bytes behind the last slash are the same
    have hpart : decode (String.ofList last) = Bytes.ofText (decodeText (String.ofList last)) := by
      rcases decodeText_cases (String.ofList last) with hpart | ⟨hnone, hsame⟩
      · exact Bytes.text?_eq_some.1 hpart
      · rw [hsame] at hdecoded
        rw [decode_of_notMem hdecoded.2, Bytes.text?_ofText] at hnone
        exact absurd hnone (by simp)
    have hwhole : decode s = Bytes.ofText (front ++ "/" ++ t) := by
      rw [Bytes.text?_eq_some.1 hread, heq]
    have hsplit (a b : String) : (Bytes.ofText (a ++ "/" ++ b)).toList =
        (Bytes.ofText a).toList ++ 0x2F :: (Bytes.ofText b).toList := by
      rw [Bytes.toList_ofText_append, Bytes.toList_ofText_append, List.append_assoc]
      rfl
    have hbytes := congrArg Bytes.toList hwhole
    rw [toList_decode, ← String.ofList_toList (s := s), hs, hslash, hsplit, hsplit,
      decodeBytes_append_cons (by decide) (by decide), ← toList_decode (String.ofList last),
      hpart] at hbytes
    have hback := Text.back_eq_of_notMem hbytes (Bytes.notMem_ofText (by decide) hdecoded.1)
      (Bytes.notMem_ofText (by decide) ht.1)
    exact Bytes.ofText_inj.1 (Bytes.toList_inj.1 hback)
  · -- nothing is decoded
    rw [hsame] at heq
    have hcut : before ++ '/' :: last = front.toList ++ '/' :: t.toList := by
      rw [← hs, heq]
      simp
    have hback : last = t.toList := Text.back_eq_of_notMem hcut hlast ht.1
    rw [hback, String.ofList_toList]
    exact decodeText_of_notMem ht.2

/-! ### Encoding -/

variable {keep : Char → Bool} {p : Char → Prop} {cs : List Char}

theorem forall_hexCharUpper (h : ∀ d : Fin 16, p (Text.hexCharUpper d)) (n : Nat) :
    p (Text.hexCharUpper n) := by
  have hchar : Text.hexCharUpper n = Text.hexCharUpper (n % 16) := by simp [Text.hexCharUpper]
  rw [hchar]
  exact h ⟨n % 16, Nat.mod_lt n (by decide)⟩

/-- Encoding leaves the characters that are kept, and makes escapes of all others. -/
theorem forall_mem_encode (hkeep : ∀ c ∈ cs, c.toNat < 128 → keep c = true → p c) (hpercent : p '%')
    (hdigit : ∀ d : Fin 16, p (Text.hexCharUpper d)) : ∀ c ∈ encode keep cs, p c := by
  intro c hc
  obtain ⟨d, hd, hc⟩ := List.mem_flatMap.1 hc
  unfold encodeChar at hc
  split at hc
  · rename_i h
    rw [List.mem_singleton.1 hc]
    exact hkeep d hd h.1 h.2
  · obtain ⟨b, -, hc⟩ := List.mem_flatMap.1 hc
    simp only [escape, List.mem_cons, List.not_mem_nil, or_false] at hc
    rcases hc with rfl | rfl | rfl
    · exact hpercent
    · exact forall_hexCharUpper hdigit _
    · exact forall_hexCharUpper hdigit _

theorem encode_eq_self (h : ∀ c ∈ cs, c.toNat < 128 ∧ keep c = true) : encode keep cs = cs := by
  have hchar : ∀ c ∈ cs, encodeChar keep c = [c] := fun c hc => if_pos (h c hc)
  rw [encode, List.flatMap_congr hchar]
  exact List.flatMap_singleton' cs

end Percent

end Understudy
