import Mathlib.Data.List.Perm.Subperm
import Understudy.Proofs.Json.Free

/-!
# Equality and containment of values

Arrays and objects are families of values, one over places and one over names: `items[i]?` and `member? members name`
find the value at a place or under a name. Two values are equal when their families agree everywhere
(`equalItems_iff`, `equals_object_iff`), and one includes another when it agrees wherever the other has a value
(`includesItems_iff`, `includesMembers_iff`). For objects this is what equality comes to, although it goes through the
names of one side only: a name stands once on either side, and there are as many. With these readings equality is an
equivalence on free values, and containment a partial order over it.
-/

namespace Understudy

namespace Binary64

theorem eq_symm {x y : Binary64} (h : x.eq y = true) : y.eq x = true := by
  cases x <;> cases y <;> simp_all [eq]

theorem eq_trans {x y z : Binary64} (hxy : x.eq y = true) (hyz : y.eq z = true) :
    x.eq z = true := by
  cases x <;> cases y <;> simp [eq] at hxy <;> cases z <;> simp_all [eq]

end Binary64

/-! ### Options that agree -/

section Agreement

variable {α β γ : Type} {a : Option α} {b : Option β} {c : Option γ}

theorem rel_symm {r : α → β → Prop} {s : β → α → Prop}
    (h : ∀ x ∈ a, ∀ y ∈ b, r x y → s y x) (hab : Option.Rel r a b) : Option.Rel s b a := by
  cases hab with
  | none => exact .none
  | some hxy => exact .some (h _ rfl _ rfl hxy)

theorem rel_trans {r : α → β → Prop} {s : β → γ → Prop} {t : α → γ → Prop}
    (h : ∀ x ∈ a, ∀ y ∈ b, ∀ z ∈ c, r x y → s y z → t x z) (hab : Option.Rel r a b)
    (hbc : Option.Rel s b c) : Option.Rel t a c := by
  cases hab with
  | none =>
      cases hbc
      exact .none
  | some hxy =>
      cases hbc with
      | some hyz => exact .some (h _ rfl _ rfl _ rfl hxy hyz)

theorem exists_of_rel {r s : α → β → Prop} (h : ∀ x ∈ a, ∀ y ∈ b, r x y → s x y)
    (hab : Option.Rel r a b) : ∀ x ∈ a, ∃ y ∈ b, s x y := by
  cases hab with
  | none => exact fun x hx => absurd hx (by simp)
  | some hxy =>
      intro x hx
      rw [← Option.some.inj hx]
      exact ⟨_, rfl, h _ rfl _ rfl hxy⟩

/-- What is there on one side is there on the other, and the two agree. -/
theorem rel_of_exists {r : α → β → Prop} (hab : ∀ x ∈ a, ∃ y ∈ b, r x y)
    (hba : ∀ y ∈ b, ∃ x, x ∈ a) : Option.Rel r a b := by
  cases a with
  | none =>
      cases b with
      | none => exact .none
      | some y => exact absurd (hba y rfl) (by simp)
  | some x =>
      obtain ⟨y, hy, hxy⟩ := hab x rfl
      rw [Option.mem_def.1 hy]
      exact .some hxy

theorem rel_antisymm {r t : α → β → Prop} {s : β → α → Prop}
    (h : ∀ x ∈ a, ∀ y ∈ b, r x y → s y x → t x y) (hab : ∀ x ∈ a, ∃ y ∈ b, r x y)
    (hba : ∀ y ∈ b, ∃ x ∈ a, s y x) : Option.Rel t a b := by
  refine rel_of_exists (fun x hx => ?_) fun y hy => (hba y hy).imp fun x => And.left
  obtain ⟨y, hy, hxy⟩ := hab x hx
  obtain ⟨x', hx', hyx⟩ := hba y hy
  obtain rfl : x = x' := Option.some.inj (hx.symm.trans hx')
  exact ⟨y, hy, h x hx y hy hxy hyx⟩

theorem exists_trans {r : α → β → Prop} {s : β → γ → Prop} {t : α → γ → Prop}
    (h : ∀ x ∈ a, ∀ y ∈ b, ∀ z ∈ c, r x y → s y z → t x z) (hab : ∀ x ∈ a, ∃ y ∈ b, r x y)
    (hbc : ∀ y ∈ b, ∃ z ∈ c, s y z) : ∀ x ∈ a, ∃ z ∈ c, t x z := by
  intro x hx
  obtain ⟨y, hy, hxy⟩ := hab x hx
  obtain ⟨z, hz, hyz⟩ := hbc y hy
  exact ⟨z, hz, h x hx y hy z hz hxy hyz⟩

end Agreement

theorem Ascending.nodup_fst {α : Type} {entries : List (String × α)} (h : Ascending entries) :
    (entries.map Prod.fst).Nodup := by
  rw [List.Nodup, List.pairwise_map]
  exact h.imp fun hlt => hlt.ne

namespace Json

variable {ignoreCase : Bool}

/-! ### Values at their places and under their names -/

theorem equalItems_iff {es vs : List Json} :
    equalItems ignoreCase es vs = true ↔
      ∀ i : Nat, Option.Rel (equals ignoreCase · · = true) es[i]? vs[i]? := by
  induction es generalizing vs with
  | nil =>
      cases vs with
      | nil => exact iff_of_true rfl fun i => .none
      | cons v vs => exact iff_of_false Bool.false_ne_true fun h => nomatch h 0
  | cons e es ih =>
      cases vs with
      | nil => exact iff_of_false Bool.false_ne_true fun h => nomatch h 0
      | cons v vs =>
          rw [equalItems, Bool.and_eq_true_iff, ih]
          constructor
          · rintro ⟨hfirst, hrest⟩ (_ | i)
            · exact .some hfirst
            · exact hrest i
          · intro h
            have hfirst : Option.Rel (equals ignoreCase · · = true) (some e) (some v) := h 0
            refine ⟨?_, fun i => h (i + 1)⟩
            cases hfirst with
            | some hfirst => exact hfirst

theorem includesItems_iff {es vs : List Json} :
    includesItems ignoreCase es vs = true ↔
      ∀ i : Nat, ∀ e ∈ es[i]?, ∃ v ∈ vs[i]?, includes ignoreCase e v = true := by
  induction es generalizing vs with
  | nil => exact iff_of_true rfl fun i e he => absurd he (by simp)
  | cons e es ih =>
      cases vs with
      | nil => exact iff_of_false Bool.false_ne_true fun h => by simpa using h 0 e rfl
      | cons v vs =>
          rw [includesItems, Bool.and_eq_true_iff, ih]
          constructor
          · rintro ⟨hfirst, hrest⟩ (_ | i)
            · simpa using hfirst
            · exact hrest i
          · exact fun h => ⟨by simpa using h 0 e rfl, fun i => h (i + 1)⟩

theorem mem_of_member? {members : List (String × Json)} {name : String} {v : Json}
    (h : v ∈ member? members name) : (name, v) ∈ members := by
  obtain ⟨m, hm, rfl⟩ := Option.map_eq_some_iff.1 h
  have hname : m.1 = name := by simpa using List.find?_some hm
  rw [← hname]
  exact List.mem_of_find?_eq_some hm

theorem exists_member?_iff {members : List (String × Json)} {name : String} :
    (∃ v, v ∈ member? members name) ↔ name ∈ members.map Prod.fst := by
  simp only [Option.mem_def, ← Option.isSome_iff_exists, member?, Option.isSome_map]
  simp

/-- A check that goes through the members one by one is one of the value under each name. -/
theorem members_check_iff (check : List (String × Json) → Bool) {P : String → Json → Prop}
    (hnil : check [] = true)
    (hcons : ∀ m ms, check (m :: ms) = true ↔ P m.1 m.2 ∧ check ms = true)
    {members : List (String × Json)} (h : Ascending members) :
    check members = true ↔ ∀ name, ∀ v ∈ member? members name, P name v := by
  have hall : check members = true ↔ ∀ m ∈ members, P m.1 m.2 := by
    clear h
    induction members with
    | nil => exact iff_of_true hnil fun m hm => absurd hm List.not_mem_nil
    | cons m members ih => rw [hcons, ih, List.forall_mem_cons]
  rw [hall]
  exact ⟨fun hmem name v hv => hmem (name, v) (mem_of_member? hv),
    fun hnames m hm => hnames m.1 m.2 (member?_of_mem h hm)⟩

theorem equalMembers_iff {es vs : List (String × Json)} (hes : Ascending es) :
    equalMembers ignoreCase es vs = true ↔
      ∀ name, ∀ e ∈ member? es name, ∃ v ∈ member? vs name, equals ignoreCase e v = true := by
  refine members_check_iff (equalMembers ignoreCase · vs) rfl (fun m es => ?_) hes
  rw [equalMembers, Bool.and_eq_true_iff]
  cases member? vs m.1 <;> simp

theorem includesMembers_iff {es vs : List (String × Json)} (hes : Ascending es) :
    includesMembers ignoreCase es vs = true ↔
      ∀ name, ∀ e ∈ member? es name, ∃ v ∈ member? vs name, includes ignoreCase e v = true := by
  refine members_check_iff (includesMembers ignoreCase · vs) rfl (fun m es => ?_) hes
  rw [includesMembers, Bool.and_eq_true_iff]
  cases member? vs m.1 <;> simp

/-- Objects are equal when they have the same names, and equal values under each. -/
theorem equals_object_iff {es vs : List (String × Json)} (hes : Ascending es)
    (hvs : Ascending vs) :
    equals ignoreCase (.object es) (.object vs) = true ↔
      ∀ name, Option.Rel (equals ignoreCase · · = true) (member? es name) (member? vs name) := by
  rw [equals, Bool.and_eq_true_iff, beq_iff_eq, equalMembers_iff hes]
  constructor
  · rintro ⟨hlength, hmembers⟩ name
    refine rel_of_exists (hmembers name) fun v hv => ?_
    -- as many names as there are on the other side, and all of them there
    have hsub : es.map Prod.fst ⊆ vs.map Prod.fst := fun n hn => by
      obtain ⟨e, he⟩ := exists_member?_iff.2 hn
      obtain ⟨v, hv, -⟩ := hmembers n e he
      exact exists_member?_iff.1 ⟨v, hv⟩
    have hperm : (es.map Prod.fst).Perm (vs.map Prod.fst) :=
      (List.subperm_of_subset hes.nodup_fst hsub).perm_of_length_le
        (by simp [hlength])
    exact exists_member?_iff.2 (hperm.mem_iff.2 (exists_member?_iff.1 ⟨v, hv⟩))
  · intro h
    refine ⟨?_, fun name => exists_of_rel (fun _ _ _ _ hr => hr) (h name)⟩
    have hnames : ∀ name, name ∈ es.map Prod.fst ↔ name ∈ vs.map Prod.fst := fun name => by
      rw [← exists_member?_iff, ← exists_member?_iff]
      constructor
      · rintro ⟨e, he⟩
        exact (exists_of_rel (fun _ _ _ _ hr => hr) (h name) e he).imp fun v => And.left
      · rintro ⟨v, hv⟩
        have hsymm := rel_symm (fun _ _ _ _ hr => hr) (h name)
        exact (exists_of_rel (fun _ _ _ _ hr => hr) hsymm v hv).imp fun e => And.left
    have hperm := (List.perm_ext_iff_of_nodup hes.nodup_fst
      hvs.nodup_fst).2 hnames
    simpa using hperm.length_eq

/-! ### Values that hold no other values -/

theorem sameText_symm {a b : String} (h : sameText ignoreCase a b = true) :
    sameText ignoreCase b a = true := by
  cases ignoreCase <;> simp_all [sameText]

theorem sameText_trans {a b c : String} (hab : sameText ignoreCase a b = true)
    (hbc : sameText ignoreCase b c = true) : sameText ignoreCase a c = true := by
  cases ignoreCase <;> simp_all [sameText]

theorem sameLeaf_symm {a b : Json} (h : sameLeaf ignoreCase a b = true) :
    sameLeaf ignoreCase b a = true := by
  unfold sameLeaf at h
  split at h
  · rfl
  · simpa [sameLeaf] using (beq_iff_eq.1 h).symm
  · exact Binary64.eq_symm h
  · exact sameText_symm h
  · exact absurd h Bool.false_ne_true

theorem sameLeaf_trans {a b c : Json} (hab : sameLeaf ignoreCase a b = true)
    (hbc : sameLeaf ignoreCase b c = true) : sameLeaf ignoreCase a c = true := by
  unfold sameLeaf at hab
  split at hab
  · exact hbc
  · rw [beq_iff_eq.1 hab]
    exact hbc
  · cases c with
    | number n => exact Binary64.eq_trans hab hbc
    | _ => exact absurd hbc (by simp [sameLeaf])
  · cases c with
    | string s => exact sameText_trans hab hbc
    | _ => exact absurd hbc (by simp [sameLeaf])
  · exact absurd hab Bool.false_ne_true

def isLeaf : Json → Bool
  | .array _ | .object _ => false
  | _ => true

theorem equals_of_isLeaf {e : Json} (h : e.isLeaf = true) (v : Json) :
    equals ignoreCase e v = sameLeaf ignoreCase e v := by
  cases e with
  | array items => exact absurd h Bool.false_ne_true
  | object members => exact absurd h Bool.false_ne_true
  | _ => rw [equals] <;> simp

theorem includes_of_isLeaf {e : Json} (h : e.isLeaf = true) (v : Json) :
    includes ignoreCase e v = equals ignoreCase e v := by
  cases e with
  | array items => exact absurd h Bool.false_ne_true
  | object members => exact absurd h Bool.false_ne_true
  | _ => rw [includes] <;> simp

theorem isLeaf_of_sameLeaf {e v : Json} (h : sameLeaf ignoreCase e v = true) :
    v.isLeaf = true := by
  unfold sameLeaf at h
  split at h
  · rfl
  · rfl
  · rfl
  · rfl
  · exact absurd h Bool.false_ne_true

/-! ### Equality is an equivalence -/

theorem Free.equals_symm {a b : Json} (ha : a.Free) (hb : b.Free)
    (h : equals ignoreCase a b = true) : equals ignoreCase b a = true := by
  induction ha generalizing b with
  | array _ ih =>
      cases hb with
      | array hbs =>
          rw [equals, equalItems_iff] at h ⊢
          exact fun i => rel_symm (fun x hx y hy hxy =>
            ih x (List.mem_of_getElem? hx) (hbs y (List.mem_of_getElem? hy)) hxy) (h i)
      | _ => exact absurd h (by simp [equals, sameLeaf])
  | object horder _ ih =>
      cases hb with
      | object hborder hbs =>
          rw [equals_object_iff horder hborder] at h
          rw [equals_object_iff hborder horder]
          exact fun name => rel_symm (fun x hx y hy hxy =>
            ih _ (mem_of_member? hx) (hbs _ (mem_of_member? hy)) hxy) (h name)
      | _ => exact absurd h (by simp [equals, sameLeaf])
  | _ =>
      rw [equals_of_isLeaf rfl] at h
      have hsymm := sameLeaf_symm h
      rwa [equals_of_isLeaf (isLeaf_of_sameLeaf h)]

theorem Free.equals_trans {a b c : Json} (ha : a.Free) (hb : b.Free) (hc : c.Free)
    (hab : equals ignoreCase a b = true) (hbc : equals ignoreCase b c = true) :
    equals ignoreCase a c = true := by
  induction ha generalizing b c with
  | array _ ih =>
      cases hb with
      | array hbs =>
          cases hc with
          | array hcs =>
              rw [equals, equalItems_iff] at hab hbc ⊢
              exact fun i => rel_trans (fun x hx y hy z hz hxy hyz =>
                ih x (List.mem_of_getElem? hx) (hbs y (List.mem_of_getElem? hy))
                  (hcs z (List.mem_of_getElem? hz)) hxy hyz) (hab i) (hbc i)
          | _ => exact absurd hbc (by simp [equals, sameLeaf])
      | _ => exact absurd hab (by simp [equals, sameLeaf])
  | object horder _ ih =>
      cases hb with
      | object hborder hbs =>
          cases hc with
          | object hcorder hcs =>
              rw [equals_object_iff horder hborder] at hab
              rw [equals_object_iff hborder hcorder] at hbc
              rw [equals_object_iff horder hcorder]
              exact fun name => rel_trans (fun x hx y hy z hz hxy hyz =>
                ih _ (mem_of_member? hx) (hbs _ (mem_of_member? hy))
                  (hcs _ (mem_of_member? hz)) hxy hyz) (hab name) (hbc name)
          | _ => exact absurd hbc (by simp [equals, sameLeaf])
      | _ => exact absurd hab (by simp [equals, sameLeaf])
  | _ =>
      rw [equals_of_isLeaf rfl] at hab ⊢
      rw [equals_of_isLeaf (isLeaf_of_sameLeaf hab)] at hbc
      exact sameLeaf_trans hab hbc

/-! ### Containment is a partial order -/

/-- A value includes what it is equal to. -/
theorem Free.includes_of_equals {a b : Json} (ha : a.Free) (hb : b.Free)
    (h : equals ignoreCase a b = true) : includes ignoreCase a b = true := by
  induction ha generalizing b with
  | array _ ih =>
      cases hb with
      | array hbs =>
          rw [equals, equalItems_iff] at h
          rw [includes, includesItems_iff]
          exact fun i => exists_of_rel (fun x hx y hy hxy =>
            ih x (List.mem_of_getElem? hx) (hbs y (List.mem_of_getElem? hy)) hxy) (h i)
      | _ => exact absurd h (by simp [equals, sameLeaf])
  | object horder _ ih =>
      cases hb with
      | object hborder hbs =>
          rw [equals_object_iff horder hborder] at h
          rw [includes, includesMembers_iff horder]
          exact fun name => exists_of_rel (fun x hx y hy hxy =>
            ih _ (mem_of_member? hx) (hbs _ (mem_of_member? hy)) hxy) (h name)
      | _ => exact absurd h (by simp [equals, sameLeaf])
  | _ => rwa [includes_of_isLeaf rfl]

theorem Free.includes_trans {a b c : Json} (ha : a.Free) (hb : b.Free) (hc : c.Free)
    (hab : includes ignoreCase a b = true) (hbc : includes ignoreCase b c = true) :
    includes ignoreCase a c = true := by
  induction ha generalizing b c with
  | array _ ih =>
      cases hb with
      | array hbs =>
          cases hc with
          | array hcs =>
              rw [includes, includesItems_iff] at hab hbc ⊢
              exact fun i => exists_trans (fun x hx y hy z hz hxy hyz =>
                ih x (List.mem_of_getElem? hx) (hbs y (List.mem_of_getElem? hy))
                  (hcs z (List.mem_of_getElem? hz)) hxy hyz) (hab i) (hbc i)
          | _ => exact absurd hbc (by simp [includes, equals, sameLeaf])
      | _ => exact absurd hab (by simp [includes, equals, sameLeaf])
  | object horder _ ih =>
      cases hb with
      | object hborder hbs =>
          cases hc with
          | object hcorder hcs =>
              rw [includes, includesMembers_iff horder] at hab ⊢
              rw [includes, includesMembers_iff hborder] at hbc
              exact fun name => exists_trans (fun x hx y hy z hz hxy hyz =>
                ih _ (mem_of_member? hx) (hbs _ (mem_of_member? hy))
                  (hcs _ (mem_of_member? hz)) hxy hyz) (hab name) (hbc name)
          | _ => exact absurd hbc (by simp [includes, equals, sameLeaf])
      | _ => exact absurd hab (by simp [includes, equals, sameLeaf])
  | _ =>
      rw [includes_of_isLeaf rfl, equals_of_isLeaf rfl] at hab ⊢
      have hleaf := isLeaf_of_sameLeaf hab
      rw [includes_of_isLeaf hleaf, equals_of_isLeaf hleaf] at hbc
      exact sameLeaf_trans hab hbc

/-- Two values that include each other are equal. -/
theorem Free.equals_of_includes {a b : Json} (ha : a.Free) (hb : b.Free)
    (hab : includes ignoreCase a b = true) (hba : includes ignoreCase b a = true) :
    equals ignoreCase a b = true := by
  induction ha generalizing b with
  | array _ ih =>
      cases hb with
      | array hbs =>
          rw [includes, includesItems_iff] at hab hba
          rw [equals, equalItems_iff]
          exact fun i => rel_antisymm (fun x hx y hy hxy hyx =>
            ih x (List.mem_of_getElem? hx) (hbs y (List.mem_of_getElem? hy)) hxy hyx)
            (hab i) (hba i)
      | _ => exact absurd hab (by simp [includes, equals, sameLeaf])
  | object horder _ ih =>
      cases hb with
      | object hborder hbs =>
          rw [includes, includesMembers_iff horder] at hab
          rw [includes, includesMembers_iff hborder] at hba
          rw [equals_object_iff horder hborder]
          exact fun name => rel_antisymm (fun x hx y hy hxy hyx =>
            ih _ (mem_of_member? hx) (hbs _ (mem_of_member? hy)) hxy hyx) (hab name) (hba name)
      | _ => exact absurd hab (by simp [includes, equals, sameLeaf])
  | _ => rwa [includes_of_isLeaf rfl] at hab

/--
On free values, with or without regard to case, equality is an equivalence, and containment is a partial order whose
equality it is. The expected value stands first: `includes ignoreCase y x` says that `x` has all that `y` has.
-/
theorem includes_isPartialOrder (ignoreCase : Bool) {x y z : Json} (hx : x.Free) (hy : y.Free)
    (hz : z.Free) :
    (equals ignoreCase x x = true ∧
      (equals ignoreCase y x = true → equals ignoreCase x y = true) ∧
      (equals ignoreCase y x = true → equals ignoreCase z y = true →
        equals ignoreCase z x = true)) ∧
    (equals ignoreCase y x = true → includes ignoreCase y x = true) ∧
    includes ignoreCase x x = true ∧
    (includes ignoreCase y x = true → includes ignoreCase z y = true →
      includes ignoreCase z x = true) ∧
    (includes ignoreCase y x = true → includes ignoreCase x y = true →
      equals ignoreCase y x = true) := by
  have hself := hx.equals_self ignoreCase
  refine ⟨⟨hself, hy.equals_symm hx, fun hyx hzy => hz.equals_trans hy hx hzy hyx⟩,
    hy.includes_of_equals hx, hx.includes_of_equals hx hself,
    fun hyx hzy => hz.includes_trans hy hx hzy hyx, hy.equals_of_includes hx⟩

def wantedUser : Json := .object [("id", .number (.whole 7)), ("tags", .array [.string "A"])]

def foundUser : Json :=
  .object [("id", .number (.real (.finite false 7))), ("tags", .array [.string "a", .string "B"])]

def fullBody : Json :=
  .object [("id", .number (.whole 7)), ("name", .null),
    ("tags", .array [.string "A", .string "b", .string "c"])]

/-- What the third has of the second and the second of the first, the third has of the first. -/
theorem fullBody_includes_wantedUser :
    wantedUser.Free ∧ foundUser.Free ∧ fullBody.Free ∧
      includes true wantedUser foundUser = true ∧ includes true foundUser fullBody = true ∧
      includes true wantedUser fullBody = true := by
  have hseven : (Number.whole 7).InRange := by simp [Number.InRange]
  have hwanted : wantedUser.Free :=
    .object (by unfold Ascending; decide) (by simp [Free.number hseven, Free.array, Free.string])
  have hfound : foundUser.Free := by
    have hreal : (Number.real (.finite false 7)).InRange := rfl
    exact .object (by unfold Ascending; decide)
      (by simp [Free.number hreal, Free.array, Free.string])
  have hfull : fullBody.Free :=
    .object (by unfold Ascending; decide)
      (by simp [Free.number hseven, Free.null, Free.array, Free.string])
  have hnumber : (Binary64.ofInt 7).eq (.finite false 7) = true := by decide +kernel
  have hletters : Text.lowercase "A" = Text.lowercase "a" ∧
      Text.lowercase "B" = Text.lowercase "b" := by decide
  have hfirst : includes true wantedUser foundUser = true := by
    simp [wantedUser, foundUser, includes, includesMembers, includesItems, member?, equals,
      sameLeaf, sameText, hletters, Number.toBinary64, hnumber]
  have hsecond : includes true foundUser fullBody = true := by
    simp [foundUser, fullBody, includes, includesMembers, includesItems, member?, equals,
      sameLeaf, sameText, hletters, Number.toBinary64, Binary64.eq_symm hnumber]
  obtain ⟨-, -, -, htrans, -⟩ := includes_isPartialOrder true hfull hfound hwanted
  exact ⟨hwanted, hfound, hfull, hfirst, hsecond, htrans hsecond hfirst⟩

end Json

end Understudy
