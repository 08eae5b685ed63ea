import Mathlib.Data.List.Perm.Basic
import Understudy.Proofs.Bytes.Base64
import Understudy.Proofs.Error.Traversal
import Understudy.Proofs.Text.Ascending
import Understudy.Response.Form

/-!
# What a response keeps when it is written

The headers of a response are grouped: no two groups have the same name and no group is empty. Written in ascending
order and added again one value at a time they give the same groups in that order, so that every name keeps its values.
-/

namespace Understudy

open Traversal

namespace Response

def Message.valuesOf (m : Message) (name : String) : List String :=
  (m.headers.filter fun h => Text.sameName h.1 name).map Prod.snd

namespace Definition

abbrev Groups := List (String × List String)

/-- No two groups have the same name, and no group is empty. -/
structure Grouped (groups : Groups) : Prop where
  distinct : groups.Pairwise fun a b => Text.sameName a.1 b.1 = false
  filled : ∀ g ∈ groups, g.2 ≠ []

theorem addHeader_of_absent {groups : Groups} {name : String}
    (h : ∀ g ∈ groups, Text.sameName g.1 name = false) (value : String) :
    addHeader name value groups = groups ++ [(name, [value])] := by
  induction groups with
  | nil => rfl
  | cons g groups ih =>
      rw [List.forall_mem_cons] at h
      rw [addHeader, if_neg (by simp [h.1]), ih h.2]
      rfl

theorem addHeader_of_last {groups : Groups} {name : String}
    (h : ∀ g ∈ groups, Text.sameName g.1 name = false) (values : List String) (value : String) :
    addHeader name value (groups ++ [(name, values)]) = groups ++ [(name, values ++ [value])] := by
  induction groups with
  | nil => simp [addHeader]
  | cons g groups ih =>
      rw [List.forall_mem_cons] at h
      rw [List.cons_append, addHeader, if_neg (by simp [h.1]), ih h.2]
      rfl

theorem name_of_mem_addHeader {groups : Groups} {name value : String} {g : String × List String}
    (h : g ∈ addHeader name value groups) : (∃ g' ∈ groups, g'.1 = g.1) ∨ g.1 = name := by
  induction groups with
  | nil =>
      rw [addHeader, List.mem_singleton] at h
      exact Or.inr (by rw [h])
  | cons first groups ih =>
      rw [addHeader] at h
      split at h
      · rcases List.mem_cons.1 h with rfl | h
        · exact Or.inl ⟨first, by simp, rfl⟩
        · exact Or.inl ⟨g, by simp [h], rfl⟩
      · rcases List.mem_cons.1 h with heq | h
        · exact Or.inl ⟨first, by simp, by rw [heq]⟩
        · rcases ih h with ⟨g', hg', heq⟩ | heq
          · exact Or.inl ⟨g', by simp [hg'], heq⟩
          · exact Or.inr heq

theorem filled_addHeader {groups : Groups} (h : ∀ g ∈ groups, g.2 ≠ []) (name value : String) :
    ∀ g ∈ addHeader name value groups, g.2 ≠ [] := by
  induction groups with
  | nil => simp [addHeader]
  | cons first groups ih =>
      rw [List.forall_mem_cons] at h
      rw [addHeader]
      split
      · rw [List.forall_mem_cons]
        exact ⟨by simp, h.2⟩
      · rw [List.forall_mem_cons]
        exact ⟨h.1, ih h.2⟩

theorem distinct_addHeader {groups : Groups}
    (h : groups.Pairwise fun a b => Text.sameName a.1 b.1 = false) (name value : String) :
    (addHeader name value groups).Pairwise fun a b => Text.sameName a.1 b.1 = false := by
  induction groups with
  | nil => simp [addHeader]
  | cons first groups ih =>
      rw [List.pairwise_cons] at h
      rw [addHeader]
      split
      · rw [List.pairwise_cons]
        exact h
      · rename_i hother
        rw [List.pairwise_cons]
        refine ⟨?_, ih h.2⟩
        intro g hg
        rcases name_of_mem_addHeader hg with ⟨g', hg', heq⟩ | heq
        · rw [← heq]
          exact h.1 g' hg'
        · rw [heq]
          simpa using hother

def addAll (groups : Groups) (headers : List (String × String)) : Groups :=
  headers.foldl (fun groups h => addHeader h.1 h.2 groups) groups

theorem withHeaders_eq (d : Definition) (headers : List (String × String)) :
    d.withHeaders headers = { d with headers := addAll d.headers headers } := by
  induction headers generalizing d with
  | nil => rfl
  | cons h headers ih => exact ih (d.withHeader h.1 h.2)

/-- However headers are added, they are grouped. -/
theorem grouped_addAll {groups : Groups} (h : Grouped groups) (headers : List (String × String)) :
    Grouped (addAll groups headers) := by
  induction headers generalizing groups with
  | nil => exact h
  | cons header headers ih =>
      exact ih ⟨distinct_addHeader h.distinct header.1 header.2,
        filled_addHeader h.filled header.1 header.2⟩

theorem addAll_last {groups : Groups} {name : String}
    (h : ∀ g ∈ groups, Text.sameName g.1 name = false) (earlier values : List String) :
    addAll (groups ++ [(name, earlier)]) (values.map (name, ·)) =
      groups ++ [(name, earlier ++ values)] := by
  induction values generalizing earlier with
  | nil => simp [addAll]
  | cons value values ih =>
      have hrest := ih (earlier ++ [value])
      rw [List.append_assoc, List.singleton_append] at hrest
      rw [List.map_cons, addAll, List.foldl_cons, addHeader_of_last h]
      exact hrest

theorem addAll_group {groups : Groups} {g : String × List String} (hne : g.2 ≠ [])
    (h : ∀ other ∈ groups, Text.sameName other.1 g.1 = false) :
    addAll groups (g.2.map (g.1, ·)) = groups ++ [g] := by
  obtain ⟨name, values⟩ := g
  obtain ⟨value, values, rfl⟩ := List.exists_cons_of_ne_nil hne
  rw [List.map_cons, addAll, List.foldl_cons, addHeader_of_absent h]
  exact addAll_last h [value] values

theorem addAll_groups {groups more : Groups} (h : Grouped (groups ++ more)) :
    addAll groups (more.flatMap fun g => g.2.map (g.1, ·)) = groups ++ more := by
  induction more generalizing groups with
  | nil => simp [addAll]
  | cons g more ih =>
      have hnew : ∀ other ∈ groups, Text.sameName other.1 g.1 = false := by
        intro other hother
        exact (List.pairwise_append.1 h.distinct).2.2 other hother g (by simp)
      have hnext : Grouped ((groups ++ [g]) ++ more) := by
        rw [List.append_assoc]
        exact h
      have hall := ih hnext
      rw [List.append_assoc, List.singleton_append] at hall
      rw [List.flatMap_cons, addAll, List.foldl_append]
      have hgroup := addAll_group (h.filled g (by simp)) hnew
      rw [addAll] at hgroup
      rw [hgroup]
      exact hall

/-- Of groups with different names, at most one has a given name. -/
theorem filter_eq_of_perm {groups groups' : Groups} (h : groups.Perm groups')
    (hdistinct : groups.Pairwise fun a b => Text.sameName a.1 b.1 = false) (name : String) :
    groups.filter (fun g => Text.sameName g.1 name) =
      groups'.filter fun g => Text.sameName g.1 name := by
  have hperm := h.filter fun g => Text.sameName g.1 name
  cases hfound : groups.filter fun g => Text.sameName g.1 name with
  | nil =>
      rw [hfound] at hperm
      rw [hperm.symm.eq_nil]
  | cons g rest =>
      cases rest with
      | nil =>
          rw [hfound] at hperm
          rw [List.perm_singleton.1 hperm.symm]
      | cons g' rest =>
          have hpair := hdistinct.filter fun g => Text.sameName g.1 name
          have hg : g ∈ groups.filter fun g => Text.sameName g.1 name := by simp [hfound]
          have hg' : g' ∈ groups.filter fun g => Text.sameName g.1 name := by simp [hfound]
          rw [hfound, List.pairwise_cons] at hpair
          have hname := (List.mem_filter.1 hg).2
          have hname' := (List.mem_filter.1 hg').2
          rw [Text.sameName_symm] at hname'
          have hsame := Text.sameName_trans hname hname'
          rw [hpair.1 g' (by simp)] at hsame
          exact absurd hsame Bool.false_ne_true

/-- The groups as they come back: in ascending order of their names. -/
def sortedGroups (groups : Groups) : Groups :=
  (Ascending.sort (groups.map fun g => (g.1, Form.HeaderValue.ofValues g.2))).map fun h => (h.1, h.2.values)

theorem nodup_names {groups : Groups} (h : Grouped groups) : (groups.map Prod.fst).Nodup := by
  rw [List.Nodup, List.pairwise_map]
  refine h.distinct.imp ?_
  intro a b hab heq
  rw [heq, Text.sameName_refl] at hab
  exact Bool.false_ne_true hab.symm

theorem sortedGroups_perm {groups : Groups} (h : Grouped groups) :
    (sortedGroups groups).Perm groups := by
  have hnodup : ((groups.map fun g => (g.1, Form.HeaderValue.ofValues g.2)).map Prod.fst).Nodup := by
    rw [List.map_map]
    exact nodup_names h
  have hperm := (Ascending.sort_perm hnodup).map fun h => (h.1, h.2.values)
  rw [List.map_map] at hperm
  have hself : groups.map ((fun h : String × Form.HeaderValue => (h.1, h.2.values)) ∘
      fun g => (g.1, Form.HeaderValue.ofValues g.2)) = groups.map id :=
    List.map_congr_left fun g _ => by simp
  rw [hself, List.map_id] at hperm
  exact hperm

theorem grouped_sortedGroups {groups : Groups} (h : Grouped groups) :
    Grouped (sortedGroups groups) := by
  have hperm := sortedGroups_perm h
  refine ⟨?_, fun g hg => h.filled g (hperm.mem_iff.1 hg)⟩
  refine (hperm.pairwise_iff ?_).2 h.distinct
  intro a b hab
  rw [Text.sameName_symm]
  exact hab

theorem grouped_of_ofForm {form : Form.Response} {d : Definition} (h : ofForm form = .ok d) :
    Grouped d.headers := by
  obtain ⟨body, -, h⟩ := bind_eq_ok.1 h
  obtain rfl := pure_eq_ok.1 h
  rw [withHeaders_eq]
  exact grouped_addAll ⟨List.Pairwise.nil, by simp⟩ _

theorem body_toForm (d : Definition) : Body.ofForm d.toForm = .ok d.body := by
  unfold toForm
  simp only
  split
  · rename_i hbody
    rw [hbody]
    rfl
  · rename_i s hbody
    rw [hbody]
    rfl
  · rename_i v hbody
    rw [hbody]
    rfl
  · rename_i b hbody
    rw [hbody]
    simp only [Body.ofForm, Form.Response.empty, Base64.decode?_encode]
    rfl

theorem headersOfForm_toForm (d : Definition) :
    headersOfForm d.toForm = (sortedGroups d.headers).flatMap fun g => g.2.map (g.1, ·) := by
  have hheaders : d.toForm.headers.getD [] =
      Ascending.sort (d.headers.map fun g => (g.1, Form.HeaderValue.ofValues g.2)) := by
    have hfield : d.toForm.headers =
        let headers := Ascending.sort (d.headers.map fun g => (g.1, Form.HeaderValue.ofValues g.2))
        if headers.isEmpty then none else some headers := by
      unfold toForm
      cases d.body <;> rfl
    rw [hfield]
    simp only
    split
    · rename_i hempty
      rw [List.isEmpty_iff.1 hempty]
      rfl
    · rfl
  rw [headersOfForm, hheaders, sortedGroups, List.flatMap_map]

/-- A response is written in a form that compiles, and comes back with its headers sorted. -/
theorem ofForm_toForm {d : Definition} (h : Grouped d.headers) :
    ofForm d.toForm = .ok { d with headers := sortedGroups d.headers } := by
  refine bind_eq_ok.2 ⟨_, body_toForm d, ?_⟩
  have hstatus : d.toForm.statusCode.getD 200 = d.status := by
    unfold toForm
    cases d.body <;> rfl
  have hdelay : d.toForm.delay = d.delay := by
    unfold toForm
    cases d.body <;> rfl
  have hgroups : addAll [] ((sortedGroups d.headers).flatMap fun g => g.2.map (g.1, ·)) =
      [] ++ sortedGroups d.headers :=
    addAll_groups (by simpa using grouped_sortedGroups h)
  simp only [withHeaders_eq, headersOfForm_toForm, hstatus, hdelay, ofStatus, hgroups,
    List.nil_append]
  rfl

/-- The responses send the same status, the same body and, under each name, the same values. -/
structure Alike (a b : Definition) : Prop where
  status : a.message.status = b.message.status
  body : a.message.body = b.message.body
  values : ∀ name, a.message.valuesOf name = b.message.valuesOf name

theorem filter_flatMap_groups (groups : Groups) (name : String) :
    ((groups.flatMap fun g => g.2.map (g.1, ·)).filter fun h => Text.sameName h.1 name).map Prod.snd =
      (groups.filter fun g => Text.sameName g.1 name).flatMap Prod.snd := by
  induction groups with
  | nil => rfl
  | cons g groups ih =>
      rw [List.flatMap_cons, List.filter_append, List.map_append, ih, List.filter_cons]
      cases hname : Text.sameName g.1 name with
      | false => simp [List.filter_map, Function.comp_def, hname]
      | true => simp [List.filter_map, Function.comp_def, hname]

/-- Responses that differ in the order of their header groups only are alike. -/
theorem alike_of_perm {d : Definition} {groups : Groups} (h : groups.Perm d.headers)
    (hdistinct : groups.Pairwise fun a b => Text.sameName a.1 b.1 = false) :
    Alike { d with headers := groups } d := by
  obtain ⟨status, headers, body, delay⟩ := d
  have hgiven (name : String) :
      ((groups.flatMap fun g => g.2.map (g.1, ·)).filter fun h =>
          Text.sameName h.1 name).map Prod.snd =
        ((headers.flatMap fun g => g.2.map (g.1, ·)).filter fun h =>
          Text.sameName h.1 name).map Prod.snd := by
    rw [filter_flatMap_groups, filter_flatMap_groups, filter_eq_of_perm h hdistinct]
  have hhas : (Definition.mk status groups body delay).hasHeader "content-type" =
      (Definition.mk status headers body delay).hasHeader "content-type" := h.any_eq
  refine ⟨rfl, rfl, ?_⟩
  intro name
  unfold Message.valuesOf message headerList
  cases body with
  | json v =>
      simp only [hhas]
      split
      · exact hgiven name
      · rw [List.filter_append, List.filter_append, List.map_append, List.map_append]
        congr 1
        exact hgiven name
  | _ => exact hgiven name

end Definition

end Response

end Understudy
