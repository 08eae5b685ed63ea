import Mathlib.Data.List.Forall2

/-!
# Steps that may fail

A chain of steps gives a result exactly when each step does, and so does a list of steps. These are the two ways in
which compiling is put together, and both are opened with the lemmas here.
-/

namespace Understudy

namespace Traversal

variable {ε α β γ δ : Type}

theorem bind_eq_ok {x : Except ε α} {f : α → Except ε β} {b : β} :
    (x >>= f) = .ok b ↔ ∃ a, x = .ok a ∧ f a = .ok b := by
  cases x with
  | error e => simp [bind, Except.bind]
  | ok a => simp [bind, Except.bind]

theorem bind_of_eq_ok {x : Except ε α} {a : α} (h : x = .ok a) (f : α → Except ε β) :
    (x >>= f) = f a := by
  rw [h]
  rfl

theorem map_eq_ok {x : Except ε α} {f : α → β} {b : β} :
    x.map f = .ok b ↔ ∃ a, x = .ok a ∧ f a = b := by
  cases x with
  | error e => simp [Except.map]
  | ok a => simp [Except.map]

theorem mapError_eq_ok {ε' : Type} {x : Except ε α} {f : ε → ε'} {a : α} :
    x.mapError f = .ok a ↔ x = .ok a := by
  cases x with
  | error e => simp [Except.mapError]
  | ok a => simp [Except.mapError]

theorem pure_eq_ok {a b : α} : (pure a : Except ε α) = .ok b ↔ a = b := by
  simp [pure, Except.pure]

theorem toOption_eq_some {x : Except ε α} {a : α} : x.toOption = some a ↔ x = .ok a := by
  cases x <;> simp [Except.toOption]

theorem throw_ne_ok {e : ε} {a : α} : (throw e : Except ε α) ≠ .ok a := by
  simp [throw, throwThe, MonadExceptOf.throw]

theorem check_eq_ok {c : Prop} [Decidable c] {e : ε} {f : β → Except ε α} {x : Except ε α} {a : α} :
    (if c then throw e >>= f else x) = .ok a ↔ ¬ c ∧ x = .ok a := by
  by_cases h : c
  · rw [if_pos h, bind_eq_ok]
    exact ⟨fun ⟨b, hb, _⟩ => absurd hb throw_ne_ok, fun ⟨hnot, _⟩ => absurd h hnot⟩
  · rw [if_neg h]
    exact ⟨fun hok => ⟨h, hok⟩, fun hok => hok.2⟩

theorem ite_eq_ok {c : Prop} [Decidable c] {x y : Except ε α} {a : α} :
    (if c then x else y) = .ok a ↔ c ∧ x = .ok a ∨ ¬ c ∧ y = .ok a := by
  by_cases h : c <;> simp [h]

/-- A step fails exactly when it gives no result. -/
theorem exists_error_iff {x : Except ε α} : (∃ e, x = .error e) ↔ ∀ a, x ≠ .ok a := by
  cases x with
  | error e => simp
  | ok a => simp

theorem exists_mapError_eq_error {ε' : Type} {x : Except ε α} {g : ε → ε'} :
    (∃ e, x.mapError g = .error (g e)) ↔ ∃ e, x = .error e := by
  cases x with
  | error e => exact iff_of_true ⟨e, rfl⟩ ⟨e, rfl⟩
  | ok a => exact iff_of_false (fun ⟨e, he⟩ => nomatch he) (fun ⟨e, he⟩ => nomatch he)

theorem mapM_eq_ok {f : α → Except ε β} {xs : List α} {ys : List β} :
    xs.mapM f = .ok ys ↔ List.Forall₂ (fun x y => f x = .ok y) xs ys := by
  induction xs generalizing ys with
  | nil =>
      rw [List.mapM_nil, pure_eq_ok, List.forall₂_nil_left_iff, eq_comm]
  | cons x xs ih =>
      simp only [List.mapM_cons, bind_eq_ok, pure_eq_ok, List.forall₂_cons_left_iff]
      constructor
      · rintro ⟨y, hy, ys', hys, rfl⟩
        exact ⟨y, ys', hy, ih.1 hys, rfl⟩
      · rintro ⟨y, ys', hy, hys, rfl⟩
        exact ⟨y, hy, ys', ih.2 hys, rfl⟩

theorem mapM_eq_some {f : α → Option β} {xs : List α} {ys : List β} :
    xs.mapM f = some ys ↔ List.Forall₂ (fun x y => f x = some y) xs ys := by
  induction xs generalizing ys with
  | nil =>
      rw [List.mapM_nil, Option.pure_def, Option.some_inj, List.forall₂_nil_left_iff, eq_comm]
  | cons x xs ih =>
      simp only [List.mapM_cons, Option.bind_eq_bind, Option.bind_eq_some_iff, Option.pure_def,
        Option.some_inj, List.forall₂_cons_left_iff]
      constructor
      · rintro ⟨y, hy, ys', hys, rfl⟩
        exact ⟨y, ys', hy, ih.1 hys, rfl⟩
      · rintro ⟨y, ys', hy, hys, rfl⟩
        exact ⟨y, hy, ys', ih.2 hys, rfl⟩

theorem mem_iff_of_mapM_eq_ok {f : α → Except ε β} {xs : List α} {ys : List β}
    (h : xs.mapM f = .ok ys) {y : β} : y ∈ ys ↔ ∃ x ∈ xs, f x = .ok y := by
  have hall := mapM_eq_ok.1 h
  clear h
  induction hall with
  | nil => simp
  | cons hx _ ih => simp [hx, ih, eq_comm]

theorem exists_of_mapM_eq_ok {f : α → Except ε β} {xs : List α} {ys : List β}
    (h : xs.mapM f = .ok ys) {y : β} (hy : y ∈ ys) : ∃ x ∈ xs, f x = .ok y :=
  (mem_iff_of_mapM_eq_ok h).1 hy

theorem exists_mapM_eq_ok {f : α → Except ε β} {xs : List α} :
    (∃ ys, xs.mapM f = .ok ys) ↔ ∀ x ∈ xs, ∃ y, f x = .ok y := by
  induction xs with
  | nil => exact iff_of_true ⟨[], rfl⟩ (List.forall_mem_nil _)
  | cons x xs ih =>
      rw [List.forall_mem_cons, ← ih]
      simp only [List.mapM_cons, bind_eq_ok, pure_eq_ok]
      constructor
      · rintro ⟨_, y, hy, ys, hys, -⟩
        exact ⟨⟨y, hy⟩, ys, hys⟩
      · rintro ⟨⟨y, hy⟩, ys, hys⟩
        exact ⟨y :: ys, y, hy, ys, hys, rfl⟩

theorem exists_ok_of_mapM_eq_ok {f : α → Except ε β} {xs : List α} {ys : List β}
    (h : xs.mapM f = .ok ys) {x : α} (hx : x ∈ xs) : ∃ y, f x = .ok y :=
  exists_mapM_eq_ok.1 ⟨ys, h⟩ x hx

theorem mapM_map_eq_ok {write : β → γ} {read : γ → Except ε δ} {result : β → δ} {ys : List β}
    (h : ∀ y ∈ ys, read (write y) = .ok (result y)) :
    (ys.map write).mapM read = .ok (ys.map result) := by
  rw [mapM_eq_ok, List.forall₂_map_left_iff, List.forall₂_map_right_iff, List.forall₂_same]
  exact h

/-- A step behind each of the steps can be put behind all of them. -/
theorem mapM_map_step_eq_ok {f : α → Except ε β} {g : β → γ} {xs : List α} {zs : List γ} :
    (xs.mapM fun x => (f x).map g) = .ok zs ↔ ∃ ys, xs.mapM f = .ok ys ∧ ys.map g = zs := by
  induction xs generalizing zs with
  | nil => simp [pure_eq_ok]
  | cons x xs ih =>
      simp only [List.mapM_cons, bind_eq_ok, pure_eq_ok, map_eq_ok, ih]
      constructor
      · rintro ⟨z, ⟨y, hy, rfl⟩, zs', ⟨ys, hys, rfl⟩, rfl⟩
        exact ⟨y :: ys, ⟨y, hy, ys, hys, rfl⟩, rfl⟩
      · rintro ⟨ys, ⟨y, hy, ys', hys, rfl⟩, rfl⟩
        exact ⟨g y, ⟨y, hy, rfl⟩, ys'.map g, ⟨ys', hys, rfl⟩, rfl⟩

theorem flatMapM_eq_ok {f : α → Except ε (List β)} {xs : List α} {zs : List β} :
    xs.flatMapM f = .ok zs ↔ ∃ yss, xs.mapM f = .ok yss ∧ yss.flatten = zs := by
  -- the loop has the lists of the steps before in reverse
  have hloop : ∀ (xs : List α) (before : List (List β)),
      List.flatMapM.loop f xs before = .ok zs ↔
        ∃ yss, xs.mapM f = .ok yss ∧ before.reverse.flatten ++ yss.flatten = zs := by
    intro xs
    induction xs with
    | nil =>
        intro before
        simp [List.flatMapM.loop, pure_eq_ok]
    | cons x xs ih =>
        intro before
        simp only [List.flatMapM.loop, List.mapM_cons, bind_eq_ok, pure_eq_ok, ih]
        constructor
        · rintro ⟨ys, hys, yss, hyss, rfl⟩
          exact ⟨ys :: yss, ⟨ys, hys, yss, hyss, rfl⟩, by simp⟩
        · rintro ⟨-, ⟨ys, hys, yss, hyss, rfl⟩, rfl⟩
          exact ⟨ys, hys, yss, hyss, by simp⟩
  simpa [List.flatMapM] using hloop xs []

/-- What goes through two lists of steps goes through the two steps one by one. -/
theorem forall₂_comp {p : α → β → Prop} {q : β → γ → Prop} {xs : List α} {ys : List β}
    {zs : List γ} (hxy : List.Forall₂ p xs ys) (hyz : List.Forall₂ q ys zs) :
    List.Forall₂ (fun x z => ∃ y, p x y ∧ q y z) xs zs := by
  induction hxy generalizing zs with
  | nil =>
      cases hyz
      exact List.Forall₂.nil
  | cons hp _ ih =>
      cases hyz with
      | cons hq hyz => exact List.Forall₂.cons ⟨_, hp, hq⟩ (ih hyz)

theorem ne_nil_of_mapM_eq_ok {f : α → Except ε β} {xs : List α} {ys : List β}
    (h : xs.mapM f = .ok ys) (hne : xs ≠ []) : ys ≠ [] := by
  rintro rfl
  exact hne (List.forall₂_nil_right_iff.1 (mapM_eq_ok.1 h))

end Traversal

end Understudy
