import Understudy.Files.Mappings
import Understudy.Proofs.Error.Traversal

/-!
# Limits of what is read

A record is read by setting its fields one after another, so that whatever every field `Keeps` holds of the record in
the end. The numbers of a mapping are read within their limits, and so are those of all mappings of a text or of a
directory.
-/

namespace Understudy

open Traversal

namespace Reader

theorem ofOption_eq_ok {α : Type} {o : Option α} {a : α} : ofOption o = .ok a ↔ o = some a := by
  cases o <;> simp [ofOption, throw, throwThe, MonadExceptOf.throw, pure, Except.pure]

variable {τ : Type} [Tree τ]

theorem int_eq_ok {low high n : Int} {depth : Nat} {v : τ} (h : int low high depth v = .ok n) :
    low ≤ n ∧ n ≤ high := by
  obtain ⟨-, hn⟩ := Option.filter_eq_some_iff.1 (ofOption_eq_ok.1 h)
  simpa using hn

theorem nat_eq_ok {max n : Nat} {depth : Nat} {v : τ} (h : nat max depth v = .ok n) : n ≤ max := by
  obtain ⟨i, hi, rfl⟩ := map_eq_ok.1 h
  obtain ⟨-, hmax⟩ := int_eq_ok hi
  omega

theorem optional_eq_ok {α : Type} {read : Reader τ α} {depth : Nat} {v : τ} {o : Option α}
    (h : optional read depth v = .ok o) : ∀ a ∈ o, read depth v = .ok a := by
  unfold optional at h
  split at h
  · obtain rfl := pure_eq_ok.1 h
    simp
  · obtain ⟨b, hb, rfl⟩ := map_eq_ok.1 h
    rintro a ha
    obtain rfl := Option.some.inj ha
    exact hb

end Reader

namespace Field

variable {τ σ α : Type} {p : σ → Prop} {fields : List (Field τ σ)} {depth : Nat}

/-- A record with the property still has it when the field has been set. -/
def Keeps (p : σ → Prop) (f : Field τ σ) : Prop :=
  ∀ depth v r r', p r → f.set depth v r = .ok r' → p r'

theorem keeps_defaulted {name : String} {read : Reader τ α} {put : α → σ → σ}
    (h : ∀ depth v a, read depth v = .ok a → ∀ r, p r → p (put a r)) :
    (defaulted name read put).Keeps p := by
  intro depth v r r' hr hset
  obtain ⟨a, ha, rfl⟩ := map_eq_ok.1 hset
  exact h depth v a ha r hr

/-- A field is set alike, whether it may be left out or not. -/
theorem keeps_needed {name : String} {read : Reader τ α} {put : α → σ → σ}
    (h : ∀ depth v a, read depth v = .ok a → ∀ r, p r → p (put a r)) :
    (needed name read put).Keeps p :=
  show (defaulted name read put).Keeps p from keeps_defaulted h

theorem setItems_keeps (hfields : ∀ f ∈ fields, f.Keeps p) {vs : List τ} {r r' : σ} (hr : p r)
    (h : setItems depth fields r vs = .ok r') : p r' := by
  induction fields generalizing r vs with
  | nil =>
      cases vs with
      | nil =>
          obtain rfl := pure_eq_ok.1 h
          exact hr
      | cons v vs => exact absurd h throw_ne_ok
  | cons f fs ih =>
      rw [List.forall_mem_cons] at hfields
      cases vs with
      | nil =>
          rw [setItems] at h
          split at h
          · exact absurd h throw_ne_ok
          · exact ih hfields.2 hr h
      | cons v vs =>
          obtain ⟨r₁, hset, h⟩ := bind_eq_ok.1 h
          exact ih hfields.2 (hfields.1 depth v r r₁ hr hset) h

variable [Tree τ]

theorem keeps_maybe {name : String} {read : Reader τ α} {put : Option α → σ → σ}
    (h : ∀ o, (∀ a ∈ o, ∃ depth v, read depth v = .ok a) → ∀ r, p r → p (put o r)) :
    (maybe name read put).Keeps p :=
  keeps_defaulted fun depth v o ho =>
    h o fun a ha => ⟨depth, v, Reader.optional_eq_ok ho a ha⟩

theorem setMembers_keeps (hfields : ∀ f ∈ fields, f.Keeps p) {ms : List (String × τ)}
    {seen seen' : List String} {r r' : σ} (hr : p r)
    (h : setMembers fields depth seen r ms = .ok (seen', r')) : p r' := by
  induction ms generalizing seen r with
  | nil =>
      obtain rfl := congrArg Prod.snd (pure_eq_ok.1 h)
      exact hr
  | cons m ms ih =>
      obtain ⟨n, v⟩ := m
      rw [setMembers] at h
      split at h
      · split at h
        · exact absurd h throw_ne_ok
        · exact ih hr h
      · rename_i f hfind
        split at h
        · exact absurd h throw_ne_ok
        · obtain ⟨r₁, hset, h⟩ := bind_eq_ok.1 h
          exact ih (hfields f (List.mem_of_find?_eq_some hfind) depth v r r₁ hr hset) h

/-- What every field keeps holds of the record that is read, from an object as from an array. -/
theorem record_keeps (hfields : ∀ f ∈ fields, f.Keeps p) {start r : σ} (hstart : p start) {v : τ}
    (h : record fields start depth v = .ok r) : p r := by
  cases depth with
  | zero => exact absurd h throw_ne_ok
  | succ depth =>
      rw [record] at h
      split at h
      · obtain ⟨⟨seen, r'⟩, hset, h⟩ := bind_eq_ok.1 h
        have hr' := setMembers_keeps hfields hstart hset
        simp only at h
        split at h
        · exact absurd h throw_ne_ok
        · obtain rfl := pure_eq_ok.1 h
          exact hr'
      · exact setItems_keeps hfields hstart h
      · exact absurd h throw_ne_ok

end Field

namespace Form

/-- The numbers are within their limits: 32 bits with a sign, and 32 bits without. -/
structure Mapping.InRange (m : Mapping) : Prop where
  priority : ∀ n ∈ m.priority, -0x80000000 ≤ n ∧ n ≤ 0x7FFFFFFF
  timesInSameState : ∀ n ∈ m.timesInSameState, n ≤ 0xFFFFFFFF

variable {forms : List Mapping} {form : Mapping} {text : String}

theorem Mapping.keeps_inRange {τ : Type} [Tree τ] :
    ∀ f ∈ (Mapping.fields : List (Field τ Mapping)), f.Keeps Mapping.InRange := by
  simp only [Mapping.fields, List.forall_mem_cons]
  refine ⟨Field.keeps_maybe ?_, Field.keeps_maybe ?_, Field.keeps_maybe ?_, Field.keeps_maybe ?_,
    Field.keeps_maybe ?_, Field.keeps_maybe ?_, Field.keeps_maybe ?_, Field.keeps_maybe ?_,
    Field.keeps_defaulted ?_, Field.keeps_defaulted ?_, Field.keeps_maybe ?_, List.forall_mem_nil _⟩
  case refine_4 =>
    intro o ho m hm
    refine ⟨fun n hn => ?_, hm.timesInSameState⟩
    obtain ⟨depth, v, hread⟩ := ho n hn
    exact Reader.int_eq_ok hread
  case refine_8 =>
    intro o ho m hm
    refine ⟨hm.priority, fun n hn => ?_⟩
    obtain ⟨depth, v, hread⟩ := ho n hn
    exact Reader.nat_eq_ok hread
  -- the other fields are no numbers
  case refine_9 => exact fun _ _ _ _ m hm => ⟨hm.priority, hm.timesInSameState⟩
  case refine_10 => exact fun _ _ _ _ m hm => ⟨hm.priority, hm.timesInSameState⟩
  all_goals exact fun _ _ m hm => ⟨hm.priority, hm.timesInSameState⟩

theorem Mapping.inRange_of_read {τ : Type} [Tree τ] {depth : Nat} {v : τ}
    (h : Mapping.read depth v = .ok form) : form.InRange :=
  Field.record_keeps Mapping.keeps_inRange
    ⟨by simp [Mapping.empty], by simp [Mapping.empty]⟩ h

theorem Mapping.inRange_of_ofText (h : Mapping.ofText text = .ok form) : form.InRange := by
  obtain ⟨m, hread, h⟩ := bind_eq_ok.1 h
  have hm := Mapping.inRange_of_read (mapError_eq_ok.1 hread)
  split at h
  · obtain rfl := pure_eq_ok.1 h
    exact hm
  · exact absurd h throw_ne_ok

theorem forall_of_readMappings {p : Mapping → Prop}
    (hread : ∀ depth (v : Json.Written) form, Mapping.read depth v = .ok form → p form)
    (h : readMappings text = .ok forms) : ∀ form ∈ forms, p form := by
  unfold readMappings at h
  split at h
  · intro form hform
    obtain ⟨item, -, hitem⟩ := exists_of_mapM_eq_ok h hform
    exact hread _ _ form (mapError_eq_ok.1 hitem)
  · obtain ⟨m, hm, h⟩ := bind_eq_ok.1 h
    obtain rfl := pure_eq_ok.1 h
    exact List.forall_mem_singleton.2 (hread _ _ m (mapError_eq_ok.1 hm))
  · exact absurd h throw_ne_ok
  · exact absurd h throw_ne_ok

theorem inRange_of_readMappings (h : readMappings text = .ok forms) :
    ∀ form ∈ forms, form.InRange :=
  forall_of_readMappings (fun _ _ _ => Mapping.inRange_of_read) h

end Form

theorem readMappingFile_eq_ok {path : String} {content : Bytes} {forms : List Form.Mapping} :
    readMappingFile path content = .ok forms ↔
      ∃ text, Bytes.text? content = some text ∧ Form.readMappings text = .ok forms := by
  unfold readMappingFile
  cases Bytes.text? content with
  | none => simp [throw, throwThe, MonadExceptOf.throw]
  | some text => simp [mapError_eq_ok]

namespace FileStore

variable {files : FileStore} {directory : String} {forms : List Form.Mapping}

theorem loadMappings_eq_ok :
    files.loadMappings directory = .ok forms ↔
      files.isDirectory (FilePath.ofText directory) = true ∧
        ∃ found, ((files.filesIn (FilePath.ofText directory)).filter (isJsonFile ·.1)).mapM
            (fun file => readMappingFile (pathText directory file.1) file.2) = .ok found ∧
          found.flatten = forms := by
  unfold loadMappings
  simp only
  split
  · rename_i hdirectory
    rw [flatMapM_eq_ok, and_iff_right hdirectory]
  · rename_i hnone
    exact iff_of_false throw_ne_ok fun h => hnone h.1

theorem forall_of_loadMappings {p : Form.Mapping → Prop}
    (hread : ∀ depth (v : Json.Written) form, Form.Mapping.read depth v = .ok form → p form)
    (h : files.loadMappings directory = .ok forms) : ∀ form ∈ forms, p form := by
  obtain ⟨-, found, hfound, rfl⟩ := loadMappings_eq_ok.1 h
  intro form hform
  obtain ⟨forms, hforms, hform⟩ := List.mem_flatten.1 hform
  obtain ⟨file, -, hfile⟩ := exists_of_mapM_eq_ok hfound hforms
  obtain ⟨text, -, htext⟩ := readMappingFile_eq_ok.1 hfile
  exact Form.forall_of_readMappings hread htext form hform

/-- All mappings of a directory are within their limits. -/
theorem inRange_of_loadMappings (h : files.loadMappings directory = .ok forms) :
    ∀ form ∈ forms, form.InRange :=
  forall_of_loadMappings (fun _ _ _ => Form.Mapping.inRange_of_read) h

end FileStore

end Understudy
