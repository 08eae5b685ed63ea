import Mathlib.Data.List.Induction
import Mathlib.Data.List.Nodup
import Understudy.Registry.Basic

/-!
# Slots of a registry

What each operation of a `Registry` does to the mapping that `get?` finds and to the order of the GUIDs. A registry is
`Distinct` when no GUID has two mappings; every operation keeps it so, and `get?` then finds exactly what is listed.
-/

namespace Understudy

namespace Registry

variable {r : Registry} {m d : Mapping} {ms : List Mapping} {g : Guid} {now : Instant}

def guids (r : Registry) : List Guid := r.mappings.map (·.guid)

def Distinct (r : Registry) : Prop := r.guids.Nodup

theorem find?_put (m : Mapping) (ms : List Mapping) (g : Guid) :
    (put m ms).find? (·.guid == g) = if m.guid = g then some m else ms.find? (·.guid == g) := by
  induction ms with
  | nil => by_cases h : m.guid = g <;> simp [put, h]
  | cons n ns ih =>
      by_cases hn : n.guid = m.guid
      · by_cases h : m.guid = g <;> simp [put, hn, h]
      · by_cases hg : n.guid = g
        · have hm : ¬ m.guid = g := fun h => hn (hg.trans h.symm)
          have hm' : ¬ g = m.guid := fun h => hm h.symm
          simp [put, hg, hm, hm']
        · simp [put, hn, hg, ih]

/-- A mapping is put in the slot of its GUID, and in a new one at the end when there is none. -/
theorem map_guid_put (m : Mapping) (ms : List Mapping) :
    (put m ms).map (·.guid) =
      if m.guid ∈ ms.map (·.guid) then ms.map (·.guid) else ms.map (·.guid) ++ [m.guid] := by
  induction ms with
  | nil => simp [put]
  | cons n ns ih =>
      by_cases hn : n.guid = m.guid
      · simp [put, hn]
      · have hn' : ¬ m.guid = n.guid := fun h => hn h.symm
        by_cases hm : m.guid ∈ ns.map (·.guid)
        · simp only [put, beq_iff_eq, hn, if_false, List.map_cons, ih, List.mem_cons, hm, or_true,
            if_true]
        · simp only [put, beq_iff_eq, hn, if_false, List.map_cons, ih, List.mem_cons, hm, or_false,
            hn', List.cons_append]

theorem length_put (m : Mapping) (ms : List Mapping) :
    (put m ms).length = if m.guid ∈ ms.map (·.guid) then ms.length else ms.length + 1 := by
  have hlength := congrArg List.length (map_guid_put m ms)
  rw [List.length_map] at hlength
  rw [hlength]
  split <;> simp

theorem put_append {front : List Mapping} (h : ∀ d ∈ front, d.guid ≠ m.guid) :
    put m (front ++ ms) = front ++ put m ms := by
  induction front with
  | nil => rfl
  | cons n ns ih =>
      rw [List.forall_mem_cons] at h
      rw [List.cons_append, put, if_neg (by simpa using h.1), ih h.2, List.cons_append]

theorem put_of_absent (h : ∀ d ∈ ms, d.guid ≠ m.guid) : put m ms = ms ++ [m] := by
  have hback : put m (ms ++ []) = ms ++ put m [] := put_append h
  rwa [List.append_nil] at hback

theorem all_put {p : Mapping → Prop} (hm : p m) (h : ∀ d ∈ ms, p d) : ∀ d ∈ put m ms, p d := by
  induction ms with
  | nil => exact List.forall_mem_singleton.2 hm
  | cons n ns ih =>
      rw [List.forall_mem_cons] at h
      rw [put]
      split
      · exact List.forall_mem_cons.2 ⟨hm, h.2⟩
      · exact List.forall_mem_cons.2 ⟨h.1, ih h.2⟩

theorem mem_put (m : Mapping) (ms : List Mapping) : m ∈ put m ms :=
  List.mem_of_find?_eq_some ((find?_put m ms m.guid).trans (if_pos rfl))

theorem mem_put_of_ne (hd : d ∈ ms) (h : d.guid ≠ m.guid) : d ∈ put m ms := by
  induction ms with
  | nil => exact absurd hd List.not_mem_nil
  | cons n ns ih =>
      rw [put]
      rcases List.mem_cons.1 hd with rfl | hd
      · rw [if_neg (by simpa using h)]
        exact List.mem_cons_self
      · split
        · exact List.mem_cons_of_mem m hd
        · exact List.mem_cons_of_mem n (ih hd)

/-- Of the mappings that pass a test, only the one is lost whose place another takes. -/
theorem filter_put_sublist {p : Mapping → Bool} (hm : p m = false) :
    ((put m ms).filter p).Sublist (ms.filter p) := by
  induction ms with
  | nil => simp [put, hm]
  | cons n ns ih =>
      rw [put]
      split
      · rw [List.filter_cons_of_neg (by simp [hm])]
        exact (List.sublist_cons_self n ns).filter p
      · cases hn : p n with
        | true =>
            rw [List.filter_cons_of_pos hn, List.filter_cons_of_pos hn]
            exact ih.cons_cons n
        | false =>
            rw [List.filter_cons_of_neg (by simp [hn]), List.filter_cons_of_neg (by simp [hn])]
            exact ih

theorem get?_register (r : Registry) (m : Mapping) (now : Instant) (g : Guid) :
    (r.register m now).get? g =
      if m.guid = g then some { m with updatedAt := now } else r.get? g :=
  find?_put { m with updatedAt := now } r.mappings g

theorem guids_register (r : Registry) (m : Mapping) (now : Instant) :
    (r.register m now).guids = if m.guid ∈ r.guids then r.guids else r.guids ++ [m.guid] :=
  map_guid_put { m with updatedAt := now } r.mappings

theorem Distinct.eq_of_guid (h : r.Distinct) (hm : m ∈ r.mappings) (hd : d ∈ r.mappings)
    (hguid : d.guid = m.guid) : d = m :=
  List.inj_on_of_nodup_map h hd hm hguid

theorem Distinct.get?_eq_some_iff (h : r.Distinct) :
    r.get? g = some m ↔ m ∈ r.mappings ∧ m.guid = g := by
  constructor
  · intro hget
    exact ⟨List.mem_of_find?_eq_some hget, by simpa using List.find?_some hget⟩
  · rintro ⟨hm, rfl⟩
    have hfound : (r.get? m.guid).isSome = true := List.find?_isSome.2 ⟨m, hm, by simp⟩
    obtain ⟨d, hd⟩ := Option.isSome_iff_exists.1 hfound
    rw [hd, h.eq_of_guid hm (List.mem_of_find?_eq_some hd) (by simpa using List.find?_some hd)]

theorem get?_eq_none_iff : r.get? g = none ↔ g ∉ r.guids := by
  simp [get?, guids]

theorem Distinct.register (h : r.Distinct) (m : Mapping) (now : Instant) :
    (r.register m now).Distinct := by
  unfold Distinct at *
  rw [guids_register]
  split
  · exact h
  · rename_i hnew
    rw [List.nodup_append]
    refine ⟨h, List.nodup_singleton _, ?_⟩
    rintro a ha b hb rfl
    exact hnew (List.mem_singleton.1 hb ▸ ha)

theorem Distinct.filter (h : r.Distinct) (p : Mapping → Bool) :
    (⟨r.mappings.filter p⟩ : Registry).Distinct :=
  List.Nodup.sublist (List.filter_sublist.map _) h

theorem Distinct.get?_filter (h : r.Distinct) (p : Mapping → Bool) (g : Guid) :
    (⟨r.mappings.filter p⟩ : Registry).get? g = (r.get? g).filter p := by
  apply Option.ext
  intro m
  rw [(h.filter p).get?_eq_some_iff, Option.filter_eq_some_iff, h.get?_eq_some_iff,
    List.mem_filter, and_right_comm]

theorem Distinct.filter_guid (h : r.Distinct) {before after : List Mapping}
    (hsplit : r.mappings = before ++ m :: after) :
    r.mappings.filter (·.guid != m.guid) = before ++ after := by
  have hother : ∀ d ∈ before ++ after, d.guid ≠ m.guid := by
    unfold Distinct guids at h
    rw [hsplit, List.map_append, List.map_cons, List.nodup_middle, List.nodup_cons,
      ← List.map_append] at h
    exact fun d hd hguid => h.1 (hguid ▸ List.mem_map_of_mem hd)
  rw [List.forall_mem_append] at hother
  rw [hsplit, List.filter_append, List.filter_cons_of_neg (by simp),
    List.filter_eq_self.2 fun d hd => by simpa using hother.1 d hd,
    List.filter_eq_self.2 fun d hd => by simpa using hother.2 d hd]

theorem registerAll_append {front back added : List Mapping}
    (h : ∀ m ∈ added, ∀ d ∈ front, d.guid ≠ m.guid) (now : Instant) :
    ((⟨front ++ back⟩ : Registry).registerAll added now).mappings =
      front ++ ((⟨back⟩ : Registry).registerAll added now).mappings := by
  induction added generalizing back with
  | nil => rfl
  | cons m added ih =>
      rw [List.forall_mem_cons] at h
      have hput : (⟨front ++ back⟩ : Registry).register m now =
          ⟨front ++ ((⟨back⟩ : Registry).register m now).mappings⟩ :=
        congrArg Registry.mk (put_append (m := { m with updatedAt := now }) h.1)
      rw [registerAll, List.foldl_cons, hput]
      exact ih h.2

theorem mem_registerAll_of_ne {added : List Mapping} (hd : d ∈ r.mappings)
    (h : ∀ m ∈ added, m.guid ≠ d.guid) (now : Instant) :
    d ∈ (r.registerAll added now).mappings := by
  induction added generalizing r with
  | nil => exact hd
  | cons m added ih =>
      rw [List.forall_mem_cons] at h
      exact ih (mem_put_of_ne (m := { m with updatedAt := now }) hd fun heq => h.1 heq.symm) h.2

theorem Distinct.registerAll (h : r.Distinct) (added : List Mapping) (now : Instant) :
    (r.registerAll added now).Distinct := by
  induction added generalizing r with
  | nil => exact h
  | cons m added ih => exact ih (h.register m now)

theorem all_registerAll {p : Mapping → Prop} {added : List Mapping} {now : Instant}
    (hnew : ∀ m ∈ added, p { m with updatedAt := now }) (h : ∀ d ∈ r.mappings, p d) :
    ∀ d ∈ (r.registerAll added now).mappings, p d := by
  induction added generalizing r with
  | nil => exact h
  | cons m added ih =>
      rw [List.forall_mem_cons] at hnew
      exact ih hnew.2 (all_put hnew.1 h)

theorem filter_registerAll_sublist {p : Mapping → Bool} {added : List Mapping} {now : Instant}
    (h : ∀ m ∈ added, p { m with updatedAt := now } = false) :
    ((r.registerAll added now).mappings.filter p).Sublist (r.mappings.filter p) := by
  induction added generalizing r with
  | nil => exact .refl _
  | cons m added ih =>
      rw [List.forall_mem_cons] at h
      exact (ih h.2).trans (filter_put_sublist h.1)

theorem get?_registerAll {added : List Mapping} (hm : m ∈ added) (r : Registry) (now : Instant) :
    ∃ d ∈ added, d.guid = m.guid ∧
      (r.registerAll added now).get? m.guid = some { d with updatedAt := now } := by
  -- the last one under the GUID, which the ones behind it leave in its place
  induction added using List.reverseRecOn with
  | nil => exact absurd hm List.not_mem_nil
  | append_singleton before last ih =>
      rw [Registry.registerAll, List.foldl_append, List.foldl_cons, List.foldl_nil, get?_register]
      by_cases hlast : last.guid = m.guid
      · exact ⟨last, by simp, hlast, if_pos hlast⟩
      · rw [if_neg hlast]
        rcases List.mem_append.1 hm with hm | hm
        · obtain ⟨d, hd, hguid, hget⟩ := ih hm
          exact ⟨d, List.mem_append_left _ hd, hguid, hget⟩
        · exact absurd (congrArg Mapping.guid (List.mem_singleton.1 hm)).symm hlast

theorem get?_registerAll_of_ne {added : List Mapping} (h : ∀ d ∈ added, d.guid ≠ g)
    (r : Registry) (now : Instant) : (r.registerAll added now).get? g = r.get? g := by
  induction added generalizing r with
  | nil => rfl
  | cons m added ih =>
      rw [List.forall_mem_cons] at h
      rw [registerAll, List.foldl_cons]
      exact (ih h.2 _).trans ((r.get?_register m now g).trans (if_neg h.1))

/-- Of mappings under one GUID the last one stays. -/
theorem get?_registerAll_of_last {later : List Mapping} (h : ∀ d ∈ later, d.guid ≠ m.guid)
    (r : Registry) (before : List Mapping) (now : Instant) :
    (r.registerAll (before ++ m :: later) now).get? m.guid = some { m with updatedAt := now } := by
  rw [registerAll, List.foldl_append, List.foldl_cons]
  exact (get?_registerAll_of_ne h _ now).trans ((get?_register _ m now m.guid).trans (if_pos rfl))

theorem unregister_of_none (h : r.get? g = none) : r.unregister g = .error (.notFound g) := by
  rw [unregister, h]
  rfl

theorem unregister_of_some (h : r.get? g = some m) :
    r.unregister g = .ok (m, ⟨r.mappings.filter (·.guid != g)⟩) := by
  rw [unregister, h]
  rfl

theorem reset_fst (r : Registry) : r.reset.1 = r.mappings.countP (!·.isPermanent) := by
  have hsum := List.length_eq_countP_add_countP (l := r.mappings) (·.isPermanent)
  simp only [reset, ← List.countP_eq_length_filter]
  simp only [Bool.not_eq_true, Bool.decide_eq_false] at hsum
  omega

end Registry

end Understudy
