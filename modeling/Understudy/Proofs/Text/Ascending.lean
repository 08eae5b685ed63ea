import Mathlib.Data.List.Induction
import Mathlib.Data.String.Basic
import Understudy.Text.Ascending

/-!
# What putting entries in order keeps

`Ascending` is the order of the names. `insert` keeps it, so that `sort` reaches it, and there is one way to put entries
of different names in order (`eq_of_perm`).
-/

namespace Understudy

/-- Entries in ascending order of their names, so that each name stands once. -/
def Ascending {α : Type} (entries : List (String × α)) : Prop :=
  entries.Pairwise fun a b => a.1 < b.1

namespace Ascending

variable {α : Type}

theorem eq_or_mem_of_mem_insert {name : String} {value : α} {entries : List (String × α)}
    {e : String × α} (h : e ∈ insert name value entries) : e = (name, value) ∨ e ∈ entries := by
  induction entries with
  | nil => exact Or.inl (List.mem_singleton.1 h)
  | cons first rest ih =>
      rw [insert] at h
      split at h
      · exact List.mem_cons.1 h
      · split at h
        · exact (List.mem_cons.1 h).imp_right (List.mem_cons_of_mem _)
        · rcases List.mem_cons.1 h with rfl | h
          · exact Or.inr List.mem_cons_self
          · exact (ih h).imp_right (List.mem_cons_of_mem _)

protected theorem insert_ascending {entries : List (String × α)} (h : Ascending entries)
    (name : String) (value : α) : Ascending (insert name value entries) := by
  induction entries with
  | nil => exact List.pairwise_singleton _ _
  | cons first rest ih =>
      have hcons := List.pairwise_cons.1 h
      rw [insert]
      split
      · rename_i hlt
        refine List.pairwise_cons.2 ⟨?_, h⟩
        exact List.forall_mem_cons.2 ⟨hlt, fun e he => hlt.trans (hcons.1 e he)⟩
      · rename_i hnlt
        split
        · rename_i heq
          rw [beq_iff_eq] at heq
          refine List.pairwise_cons.2 ⟨fun e he => ?_, hcons.2⟩
          rw [heq]
          exact hcons.1 e he
        · rename_i hne
          have hgt : first.1 < name :=
            lt_of_le_of_ne (not_lt.1 hnlt) fun heq => hne (beq_iff_eq.2 heq.symm)
          refine List.pairwise_cons.2 ⟨fun e he => ?_, ih hcons.2⟩
          rcases eq_or_mem_of_mem_insert he with rfl | he
          · exact hgt
          · exact hcons.1 e he

theorem insert_of_above {entries : List (String × α)} {name : String}
    (h : ∀ e ∈ entries, e.1 < name) (value : α) :
    insert name value entries = entries ++ [(name, value)] := by
  induction entries with
  | nil => rfl
  | cons first rest ih =>
      rw [List.forall_mem_cons] at h
      rw [insert, if_neg h.1.not_gt, if_neg (by simpa using h.1.ne'), ih h.2]
      rfl

theorem sort_concat (entries : List (String × α)) (e : String × α) :
    sort (entries ++ [e]) = insert e.1 e.2 (sort entries) := by
  simp [sort]

theorem sort_ascending (entries : List (String × α)) : Ascending (sort entries) := by
  induction entries using List.reverseRecOn with
  | nil => exact List.Pairwise.nil
  | append_singleton entries e ih =>
      rw [sort_concat]
      exact ih.insert_ascending e.1 e.2

theorem mem_of_mem_sort {entries : List (String × α)} {e : String × α} (h : e ∈ sort entries) :
    e ∈ entries := by
  induction entries using List.reverseRecOn with
  | nil => exact h
  | append_singleton entries last ih =>
      rw [sort_concat] at h
      rcases eq_or_mem_of_mem_insert h with rfl | h
      · exact List.mem_concat_self
      · exact List.mem_append_left _ (ih h)

/-- Entries in order stay as they are. -/
theorem sort_of_ascending {entries : List (String × α)} (h : Ascending entries) :
    sort entries = entries := by
  induction entries using List.reverseRecOn with
  | nil => rfl
  | append_singleton entries e ih =>
      have happend := List.pairwise_append.1 h
      rw [sort_concat, ih happend.1]
      exact insert_of_above (fun a ha => happend.2.2 a ha e (List.mem_singleton.2 rfl)) e.2

theorem find?_of_mem {entries : List (String × α)} (h : Ascending entries) {e : String × α}
    (he : e ∈ entries) : entries.find? (·.1 == e.1) = some e := by
  induction entries with
  | nil => exact absurd he List.not_mem_nil
  | cons first rest ih =>
      have hcons := List.pairwise_cons.1 h
      rw [List.find?_cons]
      rcases List.mem_cons.1 he with rfl | he
      · simp
      · have hne : (first.1 == e.1) = false := by simpa using (hcons.1 e he).ne
        rw [hne]
        exact ih hcons.2 he

theorem insert_perm {entries : List (String × α)} {name : String} (h : name ∉ entries.map Prod.fst)
    (value : α) : (insert name value entries).Perm ((name, value) :: entries) := by
  induction entries with
  | nil => exact List.Perm.refl _
  | cons first rest ih =>
      rw [List.map_cons, List.mem_cons, not_or] at h
      rw [insert]
      split
      · exact List.Perm.refl _
      · rw [if_neg (by simpa using h.1)]
        exact ((ih h.2).cons first).trans (List.Perm.swap _ _ _)

/-- Entries of different names are put in another order, and that is all. -/
theorem sort_perm {entries : List (String × α)} (h : (entries.map Prod.fst).Nodup) :
    (sort entries).Perm entries := by
  induction entries using List.reverseRecOn with
  | nil => exact List.Perm.refl _
  | append_singleton entries e ih =>
      rw [List.map_append, List.nodup_append] at h
      have hperm := ih h.1
      have hnew : e.1 ∉ (sort entries).map Prod.fst := fun hmem =>
        h.2.2 e.1 ((hperm.map Prod.fst).mem_iff.1 hmem) e.1 (by simp) rfl
      rw [sort_concat]
      exact (insert_perm hnew e.2).trans ((hperm.cons e).trans (List.perm_append_singleton e _).symm)

/-- There is one way to put entries in order. -/
theorem eq_of_perm {a b : List (String × α)} (ha : Ascending a) (hb : Ascending b)
    (h : a.Perm b) : a = b :=
  h.eq_of_pairwise (fun _ _ _ _ hlt hgt => absurd hlt hgt.not_gt) ha hb

theorem insert_map {β : Type} (f : α → β) (name : String) (value : α)
    (entries : List (String × α)) :
    insert name (f value) (entries.map fun e => (e.1, f e.2)) =
      (insert name value entries).map fun e => (e.1, f e.2) := by
  induction entries with
  | nil => rfl
  | cons first rest ih =>
      rw [List.map_cons, insert, insert]
      split
      · rfl
      · split
        · rfl
        · rw [ih, List.map_cons]

/-- The order does not depend on the values. -/
theorem sort_map {β : Type} (f : α → β) (entries : List (String × α)) :
    sort (entries.map fun e => (e.1, f e.2)) = (sort entries).map fun e => (e.1, f e.2) := by
  induction entries using List.reverseRecOn with
  | nil => rfl
  | append_singleton entries e ih =>
      rw [List.map_append, List.map_singleton, sort_concat, sort_concat, ih]
      exact insert_map f e.1 e.2 (sort entries)

end Ascending

end Understudy
