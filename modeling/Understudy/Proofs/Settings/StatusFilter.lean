import Understudy.Proofs.Error.Traversal
import Understudy.Proofs.Number.Numeral
import Understudy.Proofs.Text.Blank
import Understudy.Proofs.Text.Cut
import Understudy.Settings.StatusFilter

/-!
# What a pattern of status codes means

`StatusFilter.Denotes item low high` is the grammar of one item: a class such as `4xx`, one code, or two codes with a
hyphen between them, each with the range that it stands for. Reading an item decides it (`item_eq_ok`). The three kinds
are told apart by the letters of a class and by the hyphen, neither of which a numeral has. A list is read when all of
its items are (`exists_parse_iff`), and then it allows what one of them stands for (`allows_iff`).
-/

namespace Understudy

open Traversal

namespace StatusFilter

/-! ### Items -/

/-- The text names a code from 100 to 599; blanks at its ends do not count. -/
def Names (s : String) (c : Nat) : Prop :=
  Numeral.Writes (Text.trim s) c ∧ 100 ≤ c ∧ c ≤ 599

/-- The grammar of items, each with the ends of the range that it stands for. -/
inductive Denotes : String → Nat → Nat → Prop
  /-- all codes that start with a digit; the letters may be capitals -/
  | family {item digit : String} {d : Nat} (hitem : Text.lower item = digit ++ "xx")
      (hdigit : Numeral.Writes digit d) (hd : 1 ≤ d ∧ d ≤ 5) : Denotes item (100 * d) (100 * d + 99)
  | code {item : String} {c : Nat} (hcode : Names item c) : Denotes item c c
  | range {item low high : String} {a b : Nat} (hitem : item = low ++ "-" ++ high)
      (hlow : Names low a) (hhigh : Names high b) (hle : a ≤ b) : Denotes item a b

variable {s whole digit low high : String} {a b c d : Nat} {f : StatusFilter}

theorem code_eq_ok : code whole s = .ok c ↔ Names s c := by
  unfold code Names
  rw [← Numeral.filter_atMost?_eq_some (show 599 ≤ 65535 by decide)]
  split
  · rename_i n hn
    rw [hn, pure_eq_ok, Option.some_inj]
  · rename_i hn
    rw [hn]
    exact iff_of_false throw_ne_ok nofun

theorem names_lower : Names (Text.lower s) c ↔ Names s c := by
  rw [Names, Names, Text.trim_lower, Numeral.writes_lower]

theorem Names.notMem (h : Names s c) {x : Char} (hblank : Text.isBlank x = false)
    (hdigit : x.isDigit = false) (hplus : x ≠ '+') : x ∉ s.toList := by
  intro hx
  rcases h.1.mem_cases (Text.mem_trim_of_mem hx hblank) with hcase | hcase
  · rw [hdigit] at hcase
    exact nomatch hcase
  · exact hplus hcase

theorem not_names_of_getLast? (h : (Text.lower s).toList.getLast? = some 'x') : ¬ Names s c := fun hs =>
  (names_lower.2 hs).notMem (x := 'x') (by decide) (by decide) (by decide) (List.mem_of_getLast? h)

theorem getLast?_of_family (h : Text.lower s = digit ++ "xx") :
    (Text.lower s).toList.getLast? = some 'x' := by
  rw [h, String.toList_append, List.getLast?_append]
  rfl

/-- A range ends in its second code. -/
theorem getLast?_of_range (hs : s = low ++ "-" ++ high)
    (h : (Text.lower s).toList.getLast? = some 'x') :
    (Text.lower high).toList.getLast? = some 'x' := by
  have hparts : (Text.lower s).toList =
      (Text.lower low).toList ++ '-' :: (Text.lower high).toList := by
    simp [hs, Text.lower]
  rw [hparts, List.getLast?_append, List.getLast?_cons] at h
  cases hhigh : (Text.lower high).toList.getLast? with
  | none =>
      rw [hhigh] at h
      exact absurd (Option.some.inj h) (by decide)
  | some x =>
      rw [hhigh] at h
      exact h

/-- The parts of a text in small letters are parts of the text. -/
theorem exists_of_lower_eq (h : Text.lower s = low ++ "-" ++ high) :
    ∃ low' high', s = low' ++ "-" ++ high' ∧ Text.lower low' = low ∧ Text.lower high' = high := by
  have hchars := congrArg String.toList h
  simp only [Text.lower, String.toList_append, String.toList_ofList, List.append_assoc,
    List.map_eq_append_iff, show "-".toList = ['-'] from rfl] at hchars
  obtain ⟨front, rest, hs, hfront, mid, back, rfl, hmid, hback⟩ := hchars
  obtain ⟨c, rfl, hc⟩ := List.map_eq_singleton_iff.1 hmid
  obtain rfl := (Text.toLower_eq_iff (by decide)).1 hc
  refine ⟨String.ofList front, String.ofList back, ?_, ?_, ?_⟩
  · rw [← String.toList_inj, hs]
    simp
  · rw [← String.toList_inj, Text.lower, String.toList_ofList, String.toList_ofList, hfront]
  · rw [← String.toList_inj, Text.lower, String.toList_ofList, String.toList_ofList, hback]

theorem hyphen_notMem (h : Names s c) : '-' ∉ s.toList :=
  h.notMem (by decide) (by decide) (by decide)

theorem splitOnce_of_range (hs : s = low ++ "-" ++ high) (hlow : Names low a) :
    Text.splitOnce "-" (Text.lower s) = some (Text.lower low, Text.lower high) := by
  refine (Text.splitOnce_eq_some rfl).2 ⟨hyphen_notMem (names_lower.2 hlow), ?_⟩
  rw [← String.toList_inj]
  simp [hs, Text.lower]

/-- The letters of a class tell it from the other items. -/
theorem denotes_iff_of_family (hs : Text.lower s = digit ++ "xx") : Denotes s a b ↔
    ∃ d, Numeral.Writes digit d ∧ (1 ≤ d ∧ d ≤ 5) ∧ 100 * d = a ∧ 100 * d + 99 = b := by
  constructor
  · intro h
    have hlast := getLast?_of_family hs
    cases h with
    | family hitem hdigit hd =>
        rw [hs, String.append_left_inj] at hitem
        exact ⟨_, hitem ▸ hdigit, hd, rfl, rfl⟩
    | code hcode => exact absurd hcode (not_names_of_getLast? hlast)
    | range hitem hlow hhigh hle =>
        exact absurd hhigh (not_names_of_getLast? (getLast?_of_range hitem hlast))
  · rintro ⟨d, hdigit, hd, rfl, rfl⟩
    exact .family hs hdigit hd

/-- What is no class and has a hyphen is a range. -/
theorem denotes_iff_of_hyphen (hfamily : ∀ digit, Text.lower s ≠ digit ++ "xx")
    (hcut : Text.splitOnce "-" (Text.lower s) = some (low, high)) :
    Denotes s a b ↔ Names low a ∧ Names high b ∧ a ≤ b := by
  constructor
  · intro h
    cases h with
    | family hitem => exact absurd hitem (hfamily _)
    | code hcode =>
        rw [(Text.splitOnce_eq_none rfl).2 (hyphen_notMem (names_lower.2 hcode))] at hcut
        exact nomatch hcut
    | range hitem hlow hhigh hle =>
        rw [splitOnce_of_range hitem hlow] at hcut
        obtain ⟨rfl, rfl⟩ := Prod.mk.inj (Option.some.inj hcut)
        exact ⟨names_lower.2 hlow, names_lower.2 hhigh, hle⟩
  · rintro ⟨hlow, hhigh, hle⟩
    obtain ⟨low', high', hitem, rfl, rfl⟩ :=
      exists_of_lower_eq ((Text.splitOnce_eq_some rfl).1 hcut).2
    exact .range hitem (names_lower.1 hlow) (names_lower.1 hhigh) hle

theorem denotes_iff_of_none (hfamily : ∀ digit, Text.lower s ≠ digit ++ "xx")
    (hcut : Text.splitOnce "-" (Text.lower s) = none) : Denotes s a b ↔ Names s a ∧ a = b := by
  constructor
  · intro h
    cases h with
    | family hitem => exact absurd hitem (hfamily _)
    | code hcode => exact ⟨hcode, rfl⟩
    | range hitem hlow =>
        rw [splitOnce_of_range hitem hlow] at hcut
        exact nomatch hcut
  · rintro ⟨hcode, rfl⟩
    exact .code hcode

/-- Reading an item gives the range that it denotes. -/
theorem item_eq_ok : StatusFilter.item s = .ok (a, b) ↔ Denotes s a b := by
  unfold StatusFilter.item
  simp only
  -- the reader asks for the letters of a class, then for a hyphen, and each answer leaves one kind of item
  split
  · rename_i digit hdigit
    rw [denotes_iff_of_family (Text.stripBack?_eq_some.1 hdigit)]
    simp only [← and_assoc, ← Numeral.filter_atMost?_eq_some (show 5 ≤ 65535 by decide)]
    split
    · rename_i d hd
      simp [hd, pure_eq_ok, Nat.mul_comm, and_assoc]
    · rename_i hnone
      simp [hnone, throw_ne_ok]
  · rename_i hclass
    have hfamily (digit : String) : Text.lower s ≠ digit ++ "xx" := fun h => by
      rw [Text.stripBack?_eq_some.2 h] at hclass
      exact nomatch hclass
    split
    · rename_i low high hcut
      rw [denotes_iff_of_hyphen hfamily hcut]
      simp only [bind_eq_ok, code_eq_ok, ite_eq_ok, throw_ne_ok, and_false, false_or, pure_eq_ok]
      constructor
      · rintro ⟨a', hlow, b', hhigh, hle, hparts⟩
        obtain ⟨rfl, rfl⟩ := Prod.mk.inj hparts
        exact ⟨hlow, hhigh, Nat.le_of_not_lt hle⟩
      · rintro ⟨hlow, hhigh, hle⟩
        exact ⟨a, hlow, b, hhigh, Nat.not_lt.2 hle, rfl⟩
    · rename_i hcut
      rw [denotes_iff_of_none hfamily hcut]
      simp only [bind_eq_ok, code_eq_ok, names_lower, pure_eq_ok, Prod.mk.injEq]
      constructor
      · rintro ⟨c, hcode, rfl, rfl⟩
        exact ⟨hcode, rfl⟩
      · rintro ⟨hcode, rfl⟩
        exact ⟨a, hcode, rfl, rfl⟩

theorem Denotes.bounds (h : Denotes s a b) : 100 ≤ a ∧ a ≤ b ∧ b ≤ 599 := by
  cases h with
  | family hitem hdigit hd => omega
  | code hcode => exact ⟨hcode.2.1, le_rfl, hcode.2.2⟩
  | range hitem hlow hhigh hle => exact ⟨hlow.2.1, hle, hhigh.2.2⟩

/-! ### Patterns -/

/-- Nothing but blanks, or a star between blanks. -/
def IsAny (pattern : String) : Prop := Text.trim pattern = "" ∨ Text.trim pattern = "*"

/-- Some item of the pattern denotes the code. -/
def Covers (pattern : String) (status : Nat) : Prop :=
  ∃ item ∈ items pattern, ∃ low high, Denotes item low high ∧ low ≤ status ∧ status ≤ high

variable {p q : String} {rs : List (Nat × Nat)}

/-- A comma between two patterns ends an item. -/
theorem items_append (p q : String) : items (p ++ "," ++ q) = items p ++ items q := by
  have hchars : (p ++ "," ++ q).toList = p.toList ++ ',' :: q.toList := by simp
  rw [items, Text.split, hchars, Text.cutAtChar_append_cons, List.map_append, List.map_append,
    List.filter_append]
  rfl

theorem items_blanks_append {front : List Char} (hfront : ∀ c ∈ front, Text.isBlank c = true)
    (cs : List Char) : items (String.ofList (front ++ cs)) = items (String.ofList cs) := by
  induction front with
  | nil => rfl
  | cons c front ih =>
      rw [List.forall_mem_cons] at hfront
      have hcomma : c ≠ ',' := fun h => absurd hfront.1 (by rw [h]; decide)
      rw [← ih hfront.2, items, items, Text.split, Text.split, String.toList_ofList,
        String.toList_ofList, List.cons_append, Text.cutAtChar, if_neg hcomma]
      cases hparts : Text.cutAtChar ',' (front ++ cs) with
      | nil => exact absurd hparts (Text.cutAtChar_ne_nil ',' _)
      | cons part parts => simp only [List.map_cons, Text.trim_cons hfront.1]

theorem items_append_blanks {back : List Char} (hback : ∀ c ∈ back, Text.isBlank c = true)
    (cs : List Char) : items (String.ofList (cs ++ back)) = items (String.ofList cs) := by
  have hcomma : ',' ∉ back := fun h => absurd (hback ',' h) (by decide)
  obtain ⟨init, last, hparts, hwhole⟩ := Text.exists_cutAtChar_append hcomma cs
  simp only [items, Text.split, String.toList_ofList, hparts, hwhole, List.map_append,
    List.map_cons, List.map_nil, Text.trim_append_of_blank hback]

theorem items_trim (p : String) : items (Text.trim p) = items p := by
  obtain ⟨front, back, hp, hfront, hback⟩ := Text.exists_trim p
  calc items (Text.trim p)
      = items (String.ofList (front ++ (Text.trim p).toList ++ back)) := by
        rw [items_append_blanks hback, items_blanks_append hfront, String.ofList_toList]
    _ = items p := by rw [← hp, String.ofList_toList]

theorem parse_eq_ok (hp : ¬ IsAny p) :
    parse p = .ok f ↔ ∃ rs, (items p).mapM item = .ok rs ∧ ranges rs = f := by
  have hany : ((Text.trim p).isEmpty || Text.trim p == "*") = false := by
    rw [Bool.or_eq_false_iff]
    exact ⟨by simpa using fun h => hp (Or.inl h), by simpa using fun h => hp (Or.inr h)⟩
  simp only [parse, hany, Bool.false_eq_true, if_false, items_trim, map_eq_ok]

theorem parse_of_isAny (hp : IsAny p) : parse p = .ok .any := by
  rcases hp with h | h
  · simp [parse, h]
    rfl
  · simp [parse, h]
    rfl

theorem parse_eq_any : parse p = .ok .any ↔ IsAny p := by
  refine ⟨fun h => ?_, parse_of_isAny⟩
  by_contra hp
  obtain ⟨rs, -, hrs⟩ := (parse_eq_ok hp).1 h
  exact nomatch hrs

theorem not_isAny_append : ¬ IsAny (p ++ "," ++ q) := by
  have hcomma : ',' ∈ (Text.trim (p ++ "," ++ q)).toList :=
    Text.mem_trim_of_mem (by simp) (by decide)
  rintro (h | h)
  · rw [h] at hcomma
    exact absurd hcomma (by decide)
  · rw [h] at hcomma
    exact absurd hcomma (by decide)

theorem exists_parse_iff (hp : ¬ IsAny p) :
    (∃ f, parse p = .ok f) ↔ ∀ item ∈ items p, ∃ low high, Denotes item low high := by
  have hitem (s : String) : (∃ r, item s = .ok r) ↔ ∃ low high, Denotes s low high := by
    rw [Prod.exists]
    exact exists_congr fun a => exists_congr fun b => item_eq_ok
  simp only [parse_eq_ok hp, ← hitem, ← exists_mapM_eq_ok]
  exact ⟨fun ⟨_, rs, hrs, _⟩ => ⟨rs, hrs⟩, fun ⟨rs, hrs⟩ => ⟨_, rs, hrs, rfl⟩⟩

/-- The ranges of a list are those that its items denote. -/
theorem exists_ranges (hp : ¬ IsAny p) (h : parse p = .ok f) :
    ∃ rs, f = ranges rs ∧ ∀ r, r ∈ rs ↔ ∃ item ∈ items p, Denotes item r.1 r.2 := by
  obtain ⟨rs, hrs, rfl⟩ := (parse_eq_ok hp).1 h
  refine ⟨rs, rfl, fun r => ?_⟩
  rw [mem_iff_of_mapM_eq_ok hrs]
  exact exists_congr fun s => and_congr_right fun _ => item_eq_ok

theorem allows_iff (hp : ¬ IsAny p) (h : parse p = .ok f) (status : Nat) :
    f.allows status = true ↔ Covers p status := by
  obtain ⟨rs, rfl, hmem⟩ := exists_ranges hp h
  simp only [allows, List.any_eq_true, hmem, Bool.and_eq_true, decide_eq_true_eq, Covers]
  constructor
  · rintro ⟨r, ⟨item, hitem, hdenotes⟩, hstatus⟩
    exact ⟨item, hitem, r.1, r.2, hdenotes, hstatus⟩
  · rintro ⟨item, hitem, low, high, hdenotes, hstatus⟩
    exact ⟨(low, high), ⟨item, hitem, hdenotes⟩, hstatus⟩

theorem covers_append : Covers (p ++ "," ++ q) c ↔ Covers p c ∨ Covers q c := by
  simp only [Covers, items_append, List.mem_append, or_and_right, exists_or]

/--
A pattern asks for all codes when it is empty or a star. Another one is read exactly when each of its items denotes a
range of codes; it then has such ranges, and it allows what the items denote. With a comma between them two lists are
read when both are, and allow what either of them does.
-/
theorem parse_denotes (p : String) :
    (parse p = .ok .any ↔ IsAny p) ∧
    (¬ IsAny p →
      ((∃ f, parse p = .ok f) ↔ ∀ item ∈ items p, ∃ low high, Denotes item low high) ∧
      (∀ f, parse p = .ok f →
        (∃ rs, f = ranges rs ∧ ∀ r ∈ rs, 100 ≤ r.1 ∧ r.1 ≤ r.2 ∧ r.2 ≤ 599) ∧
        ∀ status, f.allows status = true ↔ Covers p status) ∧
      ∀ q, ¬ IsAny q →
        ((∃ h, parse (p ++ "," ++ q) = .ok h) ↔ (∃ f, parse p = .ok f) ∧ ∃ g, parse q = .ok g) ∧
        ∀ f g h, parse p = .ok f → parse q = .ok g → parse (p ++ "," ++ q) = .ok h →
          ∀ status, h.allows status = (f.allows status || g.allows status)) := by
  refine ⟨parse_eq_any, fun hp => ⟨exists_parse_iff hp, fun f hf => ⟨?_, allows_iff hp hf⟩,
    fun q hq => ⟨?_, fun f g h hf hg hh status => ?_⟩⟩⟩
  · obtain ⟨rs, rfl, hmem⟩ := exists_ranges hp hf
    refine ⟨rs, rfl, fun r hr => ?_⟩
    obtain ⟨item, -, hdenotes⟩ := (hmem r).1 hr
    exact hdenotes.bounds
  · rw [exists_parse_iff hp, exists_parse_iff hq, exists_parse_iff not_isAny_append, items_append,
      List.forall_mem_append]
  · rw [Bool.eq_iff_iff, Bool.or_eq_true, allows_iff hp hf, allows_iff hq hg,
      allows_iff not_isAny_append hh, covers_append]

example : (parse " 4XX,, 0500 - +502 ,").toOption = some (ranges [(400, 499), (500, 502)]) := by
  decide +kernel

end StatusFilter

end Understudy
