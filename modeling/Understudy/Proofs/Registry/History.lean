import Mathlib.Data.List.Induction
import Understudy.Proofs.Registry.Slots

/-!
# A registry is an ordered map

`held` follows one GUID through a run of operations, with no list at all: it is what a map from GUIDs to mappings would
hold. `ArrivedAt` says when a GUID came, which is when it was registered while it stood for nothing. The registry after
every run lists what the map holds, each GUID once, in the order in which the GUIDs came.
-/

namespace Understudy

namespace Registry

inductive Op where
  | register (m : Mapping) (now : Instant)
  | unregister (guid : Guid)
  | reset

/-- The registry after an operation; one that fails leaves it as it was. -/
def apply (r : Registry) : Op → Registry
  | .register m now => r.register m now
  | .unregister guid =>
    match r.unregister guid with
    | .ok (_, after) => after
    | .error _ => r
  | .reset => r.reset.2

def run (ops : List Op) : Registry := ops.foldl apply empty

def Op.change (g : Guid) (held : Option Mapping) : Op → Option Mapping
  | .register m now => if m.guid = g then some { m with updatedAt := now } else held
  | .unregister guid => if guid = g then none else held
  | .reset => held.filter (·.isPermanent)

def held (g : Guid) (ops : List Op) : Option Mapping := ops.foldl (fun h op => op.change g h) none

def lastRegistered (g : Guid) (ops : List Op) : Option (Mapping × Instant) :=
  ops.reverse.findSome? fun
    | .register m now => if m.guid = g then some (m, now) else none
    | _ => none

/-- The operation at this place registered the GUID when it stood for nothing, and it has stood for a mapping since. -/
structure ArrivedAt (g : Guid) (ops : List Op) (i : ℕ) : Prop where
  registers : ∃ m now, ops[i]? = some (.register m now) ∧ m.guid = g
  absent : held g (ops.take i) = none
  since : ∀ j, i < j → j ≤ ops.length → (held g (ops.take j)).isSome = true

@[simp] theorem run_concat (ops : List Op) (op : Op) : run (ops ++ [op]) = (run ops).apply op := by
  simp [run]

@[simp] theorem held_nil (g : Guid) : held g [] = none := rfl

@[simp] theorem held_concat (g : Guid) (ops : List Op) (op : Op) :
    held g (ops ++ [op]) = op.change g (held g ops) := by
  simp [held]

theorem lastRegistered_concat (g : Guid) (ops : List Op) (op : Op) :
    lastRegistered g (ops ++ [op]) =
      match op with
      | .register m now => if m.guid = g then some (m, now) else lastRegistered g ops
      | _ => lastRegistered g ops := by
  unfold lastRegistered
  rw [List.reverse_concat, List.findSome?_cons]
  cases op with
  | register m now => by_cases h : m.guid = g <;> simp [h]
  | unregister guid => rfl
  | reset => rfl

theorem apply_unregister (r : Registry) (g : Guid) :
    r.apply (.unregister g) = ⟨r.mappings.filter (·.guid != g)⟩ := by
  rw [apply]
  cases hget : r.get? g with
  | some m => rw [unregister_of_some hget]
  | none =>
      rw [unregister_of_none hget]
      rw [get?_eq_none_iff] at hget
      have hother : ∀ d ∈ r.mappings, (d.guid != g) = true := fun d hd =>
        bne_iff_ne.2 fun hguid => hget (hguid ▸ List.mem_map_of_mem hd)
      rw [List.filter_eq_self.2 hother]

theorem Distinct.apply {r : Registry} (h : r.Distinct) (op : Op) : (r.apply op).Distinct := by
  cases op with
  | register m now => exact h.register m now
  | unregister guid =>
      rw [apply_unregister]
      exact h.filter _
  | reset => exact h.filter _

theorem distinct_run (ops : List Op) : (run ops).Distinct := by
  induction ops using List.reverseRecOn with
  | nil => exact List.nodup_nil
  | append_singleton ops op ih =>
      rw [run_concat]
      exact ih.apply op

theorem Distinct.get?_apply {r : Registry} (h : r.Distinct) (op : Op) (g : Guid) :
    (r.apply op).get? g = op.change g (r.get? g) := by
  cases op with
  | register m now => exact get?_register r m now g
  | unregister guid =>
      rw [apply_unregister, h.get?_filter, Op.change]
      cases hget : r.get? g with
      | none => simp
      | some d =>
          obtain ⟨-, rfl⟩ := h.get?_eq_some_iff.1 hget
          by_cases hguid : guid = d.guid
          · simp [hguid]
          · have hguid' : ¬ d.guid = guid := fun e => hguid e.symm
            simp [hguid, hguid']
  | reset => exact h.get?_filter _ g

/-- What is found after a run is what the map holds. -/
theorem get?_run (ops : List Op) (g : Guid) : (run ops).get? g = held g ops := by
  induction ops using List.reverseRecOn with
  | nil => rfl
  | append_singleton ops op ih => rw [run_concat, (distinct_run ops).get?_apply, ih, held_concat]

theorem mem_run_iff {ops : List Op} {m : Mapping} :
    m ∈ (run ops).mappings ↔ held m.guid ops = some m := by
  rw [← get?_run, (distinct_run ops).get?_eq_some_iff, and_iff_left rfl]

theorem mem_guids_run {ops : List Op} {g : Guid} :
    g ∈ (run ops).guids ↔ (held g ops).isSome = true := by
  rw [← get?_run, ← not_iff_not, ← get?_eq_none_iff, Bool.not_eq_true, Option.isSome_eq_false_iff,
    Option.isNone_iff_eq_none]

theorem exists_lastRegistered {ops : List Op} {g : Guid} {m : Mapping} (h : held g ops = some m) :
    ∃ m₀ now, lastRegistered g ops = some (m₀, now) ∧ m = { m₀ with updatedAt := now } := by
  induction ops using List.reverseRecOn generalizing m with
  | nil => exact absurd h (by simp)
  | append_singleton ops op ih =>
      rw [held_concat] at h
      rw [lastRegistered_concat]
      cases op with
      | register m₁ now =>
          simp only [Op.change] at h ⊢
          split at h
          · rename_i hguid
            rw [if_pos hguid]
            exact ⟨m₁, now, rfl, (Option.some.inj h).symm⟩
          · rename_i hguid
            rw [if_neg hguid]
            exact ih h
      | unregister guid =>
          simp only [Op.change] at h
          split at h
          · exact absurd h (by simp)
          · exact ih h
      | reset =>
          rw [Op.change, Option.filter_eq_some_iff] at h
          exact ih h.1

theorem Op.registers_of_change {op : Op} {g : Guid} (h : (op.change g none).isSome = true) :
    ∃ m now, op = .register m now ∧ m.guid = g := by
  cases op with
  | register m now =>
      simp only [change] at h
      split at h
      · rename_i hguid
        exact ⟨m, now, rfl, hguid⟩
      · exact absurd h (by simp)
  | unregister guid => simp [change] at h
  | reset => simp [change] at h

section

variable {ops : List Op} {op : Op} {g : Guid} {i j : ℕ}

theorem ArrivedAt.lt_length (h : ArrivedAt g ops i) : i < ops.length := by
  obtain ⟨m, now, hop, -⟩ := h.registers
  exact (List.getElem?_eq_some_iff.1 hop).1

/-- A GUID comes only once. -/
theorem ArrivedAt.unique (hi : ArrivedAt g ops i) (hj : ArrivedAt g ops j) : i = j := by
  -- at the later of two arrivals the GUID would still be held
  rcases Nat.lt_trichotomy i j with h | h | h
  · have hheld := hi.since j h (Nat.le_of_lt hj.lt_length)
    rw [hj.absent] at hheld
    exact absurd hheld (by simp)
  · exact h
  · have hheld := hj.since i h (Nat.le_of_lt hi.lt_length)
    rw [hi.absent] at hheld
    exact absurd hheld (by simp)

theorem ArrivedAt.of_concat (h : ArrivedAt g (ops ++ [op]) i) (hheld : (held g ops).isSome = true) :
    ArrivedAt g ops i := by
  have hlt : i < ops.length := by
    refine Nat.lt_of_le_of_ne (Nat.lt_succ_iff.1 (by simpa using h.lt_length)) ?_
    rintro rfl
    have habsent := h.absent
    rw [List.take_left' rfl] at habsent
    rw [habsent] at hheld
    exact absurd hheld (by simp)
  refine ⟨?_, ?_, fun j hij hj => ?_⟩
  · obtain ⟨m, now, hop, hguid⟩ := h.registers
    rw [List.getElem?_append_left hlt] at hop
    exact ⟨m, now, hop, hguid⟩
  · have habsent := h.absent
    rwa [List.take_append_of_le_length (Nat.le_of_lt hlt)] at habsent
  · have hsince := h.since j hij (by simpa using Nat.le_succ_of_le hj)
    rwa [List.take_append_of_le_length hj] at hsince

theorem ArrivedAt.concat (h : ArrivedAt g ops i)
    (hheld : (held g (ops ++ [op])).isSome = true) : ArrivedAt g (ops ++ [op]) i := by
  refine ⟨?_, ?_, fun j hij hj => ?_⟩
  · obtain ⟨m, now, hop, hguid⟩ := h.registers
    exact ⟨m, now, by rw [List.getElem?_append_left h.lt_length, hop], hguid⟩
  · rw [List.take_append_of_le_length (Nat.le_of_lt h.lt_length)]
    exact h.absent
  · rw [List.length_append, List.length_singleton] at hj
    rcases Nat.lt_or_eq_of_le hj with hlt | rfl
    · rw [List.take_append_of_le_length (Nat.lt_succ_iff.1 hlt)]
      exact h.since j hij (Nat.lt_succ_iff.1 hlt)
    · rwa [List.take_of_length_le (by simp)]

theorem arrivedAt_length (habsent : held g ops = none)
    (hheld : (held g (ops ++ [op])).isSome = true) : ArrivedAt g (ops ++ [op]) ops.length := by
  refine ⟨?_, by simpa using habsent, fun j hij hj => ?_⟩
  · rw [held_concat, habsent] at hheld
    obtain ⟨m, now, rfl, hguid⟩ := Op.registers_of_change hheld
    exact ⟨m, now, by simp, hguid⟩
  · rwa [List.take_of_length_le (by simpa using Nat.succ_le_of_lt hij)]

theorem exists_arrivedAt (h : (held g ops).isSome = true) : ∃ i, ArrivedAt g ops i := by
  induction ops using List.reverseRecOn with
  | nil => exact absurd h (by simp)
  | append_singleton ops op ih =>
      cases hheld : held g ops with
      | none => exact ⟨ops.length, arrivedAt_length hheld h⟩
      | some m =>
          obtain ⟨i, hi⟩ := ih (by rw [hheld]; rfl)
          exact ⟨i, hi.concat h⟩

end

def CameBefore (ops : List Op) (a b : Guid) : Prop :=
  ∀ i j, ArrivedAt a ops i → ArrivedAt b ops j → i < j

theorem pairwise_concat {ops : List Op} {gs : List Guid} (h : gs.Pairwise (CameBefore ops))
    (hheld : ∀ g ∈ gs, (held g ops).isSome = true) (op : Op) :
    gs.Pairwise (CameBefore (ops ++ [op])) :=
  h.imp_of_mem fun ha hb hbefore i j hi hj =>
    hbefore i j (hi.of_concat (hheld _ ha)) (hj.of_concat (hheld _ hb))

/-- The GUIDs stand in the order in which they came. -/
theorem guids_run_pairwise (ops : List Op) : (run ops).guids.Pairwise (CameBefore ops) := by
  induction ops using List.reverseRecOn with
  | nil => exact List.Pairwise.nil
  | append_singleton ops op ih =>
      have hkept := pairwise_concat ih (fun g => mem_guids_run.1) op
      have hfiltered (p : Mapping → Bool) :
          (⟨(run ops).mappings.filter p⟩ : Registry).guids.Pairwise (CameBefore (ops ++ [op])) :=
        hkept.sublist (List.filter_sublist.map _)
      rw [run_concat]
      cases op with
      | register m now =>
          rw [apply, guids_register]
          split
          · exact hkept
          · rename_i hnew
            rw [mem_guids_run, Bool.not_eq_true, Option.isSome_eq_false_iff,
              Option.isNone_iff_eq_none] at hnew
            refine List.pairwise_append.2 ⟨hkept, List.pairwise_singleton _ _, ?_⟩
            intro a ha b hb i j hi hj
            obtain rfl := List.mem_singleton.1 hb
            have hlast : ArrivedAt m.guid (ops ++ [.register m now]) ops.length :=
              arrivedAt_length hnew (by simp [Op.change])
            rw [hj.unique hlast]
            exact (hi.of_concat (mem_guids_run.1 ha)).lt_length
      | unregister guid =>
          rw [apply_unregister]
          exact hfiltered _
      | reset => exact hfiltered _

/-- The registry lists what the map holds after operations, in the order in which the GUIDs came. -/
structure Tells (ops : List Op) (r : Registry) : Prop where
  distinct : r.Distinct
  found : ∀ g, r.get? g = held g ops
  listed : ∀ m, m ∈ r.mappings ↔ r.get? m.guid = some m
  latest : ∀ m ∈ r.mappings, ∃ m₀ now, lastRegistered m.guid ops = some (m₀, now) ∧
    m = { m₀ with updatedAt := now }
  arrived : ∀ m ∈ r.mappings, ∃ i, ArrivedAt m.guid ops i
  ordered : r.guids.Pairwise (CameBefore ops)

theorem tells_run (ops : List Op) : Tells ops (run ops) where
  distinct := distinct_run ops
  found := get?_run ops
  listed m := by rw [mem_run_iff, get?_run]
  latest _ hm := exists_lastRegistered (mem_run_iff.1 hm)
  arrived m hm := exists_arrivedAt (by rw [mem_run_iff.1 hm]; rfl)
  ordered := guids_run_pairwise ops

/-- After every run the registry is the map in its order, and so each operation on it does what it does to the map. -/
theorem run_is_ordered_map (ops : List Op) :
    Tells ops (run ops) ∧
    (∀ m now, ((run ops).register m now).guids =
      if (held m.guid ops).isSome then (run ops).guids else (run ops).guids ++ [m.guid]) ∧
    (∀ g, held g ops = none → (run ops).unregister g = .error (.notFound g) ∧
      run (ops ++ [.unregister g]) = run ops) ∧
    (∀ g m, held g ops = some m → ∃ before after, (run ops).mappings = before ++ m :: after ∧
      (run ops).unregister g = .ok (m, ⟨before ++ after⟩)) ∧
    (run ops).reset = ((run ops).mappings.countP (!·.isPermanent),
      ⟨(run ops).mappings.filter (·.isPermanent)⟩) := by
  refine ⟨tells_run ops, fun m now => ?_, fun g hnone => ?_, fun g m hsome => ?_, ?_⟩
  · simp only [guids_register, mem_guids_run]
  · rw [← get?_run] at hnone
    rw [run_concat, apply, unregister_of_none hnone]
    exact ⟨rfl, rfl⟩
  · rw [← get?_run] at hsome
    obtain ⟨hm, rfl⟩ := (distinct_run ops).get?_eq_some_iff.1 hsome
    obtain ⟨before, after, hsplit⟩ := List.append_of_mem hm
    refine ⟨before, after, hsplit, ?_⟩
    rw [unregister_of_some hsome, (distinct_run ops).filter_guid hsplit]
  · exact Prod.ext (reset_fst (run ops)) rfl

end Registry

end Understudy
