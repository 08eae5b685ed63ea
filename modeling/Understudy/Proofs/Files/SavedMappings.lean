import Understudy.Proofs.Files.Mappings
import Understudy.Proofs.Form.Limits
import Understudy.Proofs.Mapping.Held

/-!
# Saving mappings and loading them

Mappings of different GUIDs are saved in files of different names, which a directory takes one after another. Loading
reads the files in the order of their names, and that is the order of the GUIDs as texts, because all of these are of
one length. What is loaded is what was saved exactly when no null is lost and no text nests too deep, as far as the
numbers of the mappings are read back from their texts.
-/

namespace Understudy

open Traversal
open Json (Legible)

theorem Text.append_lt_append_iff {as bs : List Char} (h : as.length = bs.length) (rest : List Char) :
    as ++ rest < bs ++ rest ↔ as < bs := by
  induction as generalizing bs with
  | nil =>
      obtain rfl := List.length_eq_zero_iff.1 h.symm
      simp
  | cons a as ih =>
      cases bs with
      | nil => exact absurd h (by simp)
      | cons b bs =>
          rw [List.cons_append, List.cons_append, List.cons_lt_cons_iff, List.cons_lt_cons_iff,
            ih (by simpa using h)]

/-- The names of mapping files stand in the order of their GUIDs. -/
theorem mappingFileName_le_iff (g g' : Guid) :
    mappingFileName g ≤ mappingFileName g' ↔ g.text ≤ g'.text := by
  have hname (g : Guid) : (mappingFileName g).toList = g.text.toList ++ ".json".toList := by
    simp [mappingFileName]
  rw [← not_lt, ← not_lt, String.lt_iff_toList_lt, String.lt_iff_toList_lt, hname, hname,
    Text.append_lt_append_iff (by rw [Guid.length_text, Guid.length_text])]

namespace Mapping

def file (m : Mapping) : String × Bytes :=
  (mappingFileName m.guid, Bytes.ofText m.toForm.toJson.pretty)

def byGuid (ms : List Mapping) : List Mapping :=
  ms.mergeSort fun a b => decide (a.guid.text ≤ b.guid.text)

end Mapping

namespace FileStore

def saveAll (directory : String) : List Form.Mapping → FileStore → Except Error FileStore
  | [], files => pure files
  | form :: forms, files => do
    let (_, files) ← form.save files directory
    saveAll directory forms files

variable {files : FileStore} {directory : String} {ms : List Mapping}

/-- Mappings of new and different GUIDs are saved behind the files that are there. -/
theorem exists_saveAll (hnodup : (ms.map Mapping.guid).Nodup)
    (h : ∀ m ∈ ms, files.Takes (FilePath.ofText directory) (mappingFileName m.guid)) :
    ∃ files', saveAll directory (ms.map Mapping.toForm) files = .ok files' ∧
      (files.isDirectory (FilePath.ofText directory) = true ∨ ms ≠ [] →
        files'.isDirectory (FilePath.ofText directory) = true) ∧
      files'.written (FilePath.ofText directory) =
        files.written (FilePath.ofText directory) ++ ms.map Mapping.file := by
  induction ms generalizing files with
  | nil => exact ⟨files, rfl, by simp, by simp⟩
  | cons m ms ih =>
      rw [List.map_cons, List.nodup_cons] at hnodup
      rw [List.forall_mem_cons] at h
      obtain ⟨next, hplace, hdirectory, hwritten, htakes⟩ := h.1.place m.file.2
      have hrest : ∀ other ∈ ms, next.Takes (FilePath.ofText directory) (mappingFileName other.guid) := by
        refine fun other hother => htakes _ (fun hname => hnodup.1 ?_) (h.2 other hother)
        rw [← mappingFileName_inj hname]
        exact List.mem_map_of_mem hother
      obtain ⟨files', hsave, hkept, hall⟩ := ih hnodup.2 hrest
      refine ⟨files', ?_, fun _ => hkept (Or.inl hdirectory), ?_⟩
      · exact bind_eq_ok.2 ⟨_, Form.Mapping.save_eq_of_place? rfl hplace, hsave⟩
      · rw [hall, hwritten, List.append_assoc]
        rfl

theorem loadMappings_of_written {forms : List Form.Mapping}
    (hdirectory : files.isDirectory (FilePath.ofText directory) = true)
    (hwritten : files.written (FilePath.ofText directory) = ms.map Mapping.file) :
    files.loadMappings directory = .ok forms ↔
      ∃ found, (Mapping.byGuid ms).mapM (fun m => Form.readMappings m.toForm.toJson.pretty) =
          .ok found ∧ found.flatten = forms := by
  have hfiles : (files.filesIn (FilePath.ofText directory)).filter (isJsonFile ·.1) =
      (Mapping.byGuid ms).map Mapping.file := by
    rw [filesIn_eq, hwritten, Mapping.byGuid, List.filter_eq_self.2]
    · refine (List.map_mergeSort fun a _ b _ => ?_).symm
      exact decide_eq_decide.2 (mappingFileName_le_iff a.guid b.guid).symm
    · intro file hfile
      rw [List.mem_mergeSort] at hfile
      obtain ⟨m, -, rfl⟩ := List.mem_map.1 hfile
      exact isJsonFile_mappingFileName m.guid
  rw [loadMappings_eq_ok, and_iff_right hdirectory, hfiles]
  simp only [mapM_eq_ok, List.forall₂_map_left_iff, readMappingFile_eq_ok, Mapping.file,
    Bytes.text?_ofText, Option.some.injEq, exists_eq_left']

end FileStore

namespace Form.Mapping

/-- Every number is read back from its text, however deep the form nests. -/
def NumbersRead (form : Form.Mapping) : Prop := ∃ depth, Legible depth form.toJson

theorem legible_of_readMappings {form : Form.Mapping} {forms : List Form.Mapping}
    (hnumbers : form.NumbersRead) (h : readMappings form.toJson.pretty = .ok forms) :
    Legible Json.maxDepth form.toJson := by
  obtain ⟨depth, hlegible⟩ := hnumbers
  cases hparse : Json.parse? form.toJson.pretty with
  | some v => exact Json.legible_of_parse? hlegible hparse
  | none =>
      rw [readMappings, hparse] at h
      exact absurd h throw_ne_ok

end Form.Mapping

namespace FileStore

/-- No null is left of the forms that are loaded. -/
theorem nullFree_of_loadMappings {files : FileStore} {directory : String}
    {forms : List Form.Mapping} (h : files.loadMappings directory = .ok forms) :
    ∀ form ∈ forms, form.NullFree :=
  forall_of_loadMappings (fun _ _ _ => Form.Mapping.nullFree_of_read) h

/--
Mappings of different GUIDs, compiled or recorded, are all saved in an empty directory. When their numbers are read
back from their texts, the directory is loaded as exactly their forms, in the order of the GUIDs, exactly when no null
stands in them where it is taken for no value and none nests deeper than texts may.
-/
theorem saveAll_load_iff {ms : List Mapping} (hmade : ∀ m ∈ ms, m.Made)
    (hnodup : (ms.map Mapping.guid).Nodup) {files : FileStore} {directory : String}
    (hvacant : files.IsVacant (FilePath.ofText directory))
    (hdirectory : files.isDirectory (FilePath.ofText directory) = true ∨ ms ≠ []) :
    ∃ files', saveAll directory (ms.map Mapping.toForm) files = .ok files' ∧
      ((∀ m ∈ ms, m.toForm.NumbersRead) →
        (files'.loadMappings directory = .ok ((Mapping.byGuid ms).map Mapping.toForm) ↔
          ∀ m ∈ ms, m.toForm.NullFree ∧ Legible Json.maxDepth m.toForm.toJson)) := by
  obtain ⟨files', hsave, hkept, hwritten⟩ := exists_saveAll hnodup fun m _ => hvacant.takes _
  rw [hvacant.written_eq, List.nil_append] at hwritten
  have hmem (m : Mapping) : m ∈ Mapping.byGuid ms ↔ m ∈ ms := List.mem_mergeSort
  refine ⟨files', hsave, fun hnumbers => ⟨fun hload m hm => ⟨?_, ?_⟩, fun h => ?_⟩⟩
  · exact nullFree_of_loadMappings hload _ (List.mem_map_of_mem ((hmem m).2 hm))
  · obtain ⟨found, hfound, -⟩ := (loadMappings_of_written (hkept hdirectory) hwritten).1 hload
    obtain ⟨forms, hforms⟩ := exists_ok_of_mapM_eq_ok hfound ((hmem m).2 hm)
    exact Form.Mapping.legible_of_readMappings (hnumbers m hm) hforms
  · rw [loadMappings_of_written (hkept hdirectory) hwritten]
    refine ⟨(Mapping.byGuid ms).map fun m => [m.toForm], ?_,
      by rw [← List.flatMap_def, ← List.map_eq_flatMap]⟩
    rw [mapM_eq_ok, List.forall₂_map_right_iff, List.forall₂_same]
    intro m hm
    obtain ⟨hnull, hlegible⟩ := h m ((hmem m).1 hm)
    exact Form.readMappings_pretty (Form.Mapping.storable_of_legible
      (hmade m ((hmem m).1 hm)).held_toForm hnull hlegible)

end FileStore

namespace Mapping

theorem held_orderForm {pattern : Json} (h : pattern.Free) (matcher : String) :
    (orderForm matcher pattern).Held := by
  constructor
  case inRange => constructor <;> simp [orderForm, Form.Mapping.empty]
  case request =>
    constructor
    case path =>
      intro value hvalue block hblock
      obtain rfl := Option.some.inj hvalue
      exact Form.Value.noConfusion hblock
    case body =>
      intro b hb
      obtain rfl := Option.some.inj hb
      refine ⟨fun m hm => ?_, by simp⟩
      obtain rfl := Option.some.inj hm
      refine ⟨fun v hv => ?_, by simp⟩
      obtain rfl := Option.some.inj hv
      exact h
    all_goals simp [orderForm, Form.Request.empty]
  case response => constructor <;> simp [orderForm, Form.Mapping.empty, Form.Response.empty]
  case updatedAt => simp [orderForm, Form.Mapping.empty]

theorem isClock_default : (default : Instant).IsClock := ⟨by decide +kernel, by decide⟩

theorem storable_orderMapping (s : String) : (orderMapping (.json (.string s))).toForm.Storable where
  priority := by simp [toForm, orderMapping]
  timesInSameState := by simp [toForm, orderMapping]
  request := by
    constructor
    case path =>
      intro value hvalue block hblock m hm
      obtain rfl := Option.some.inj hvalue
      obtain rfl := Form.Value.matchers.inj hblock
      obtain rfl := List.mem_singleton.1 hm
      exact Matcher.storable_of_texts (List.forall_mem_singleton.2 ⟨_, rfl⟩) 121
    case body =>
      intro b hb
      obtain rfl := Option.some.inj hb
      refine ⟨fun m hm => ?_, fun ms hms => absurd hms (Option.some_ne_none ms).symm⟩
      obtain rfl := Option.some.inj hm
      exact Matcher.storable_of_texts (List.forall_mem_singleton.2 ⟨_, rfl⟩) 122
    all_goals exact fun _ h => absurd h (Option.some_ne_none _).symm
  response := by
    constructor
    · intro n hn
      obtain rfl := Option.some.inj hn
      decide
    all_goals exact fun _ h => absurd h (Option.some_ne_none _).symm
  updatedAt := by
    intro t ht
    obtain rfl := Option.some.inj ht
    exact isClock_default

def tagRecording : Mapping :=
  ofRecorded (.forUrl "http://upstream") forwarder (ordersRequest "tag=a&tag=b" [] "") latinMessage
    (.made 0) default

end Mapping

namespace FileStore

theorem empty_isVacant (directory : String) :
    FileStore.empty.IsVacant (FilePath.ofText directory) := ⟨rfl, List.forall_mem_nil _⟩

open Mapping in
theorem orderMapping_loaded :
    (∀ m ∈ [tagRecording, orderMapping (.json (.string "paid"))],
        m.Made ∧ m.toForm.NullFree ∧ Legible Json.maxDepth m.toForm.toJson) ∧
      ∃ files, saveAll "mappings" [tagRecording.toForm, (orderMapping (.json (.string "paid"))).toForm]
          .empty = .ok files ∧
        files.loadMappings "mappings" =
          .ok [(orderMapping (.json (.string "paid"))).toForm, tagRecording.toForm] := by
  have hr : (ordersRequest "tag=a&tag=b" [] "").Assembled :=
    Request.assembled_ofUrl "http://h/orders?tag=a&tag=b" (by decide +kernel) _ _ _ _ _
  have hmade : ∀ m ∈ [tagRecording, orderMapping (.json (.string "paid"))], m.Made := by
    refine List.forall_mem_cons.2 ⟨?_, List.forall_mem_singleton.2 ?_⟩
    · refine .recorded ?_ hr isClock_default (ofExchange_eq_ok.2 ⟨by decide, rfl⟩)
      exact List.forall_mem_singleton.2 (List.forall_mem_singleton.2 (List.forall_mem_singleton.2 (.string "*")))
    · exact .compiled (held_orderForm (.string "paid") "JsonMatcher") isClock_default (ofForm_orderForm rfl)
  have hstorable : ∀ m ∈ [tagRecording, orderMapping (.json (.string "paid"))],
      m.toForm.NullFree ∧ Legible Json.maxDepth m.toForm.toJson := by
    intro m hm
    refine (Form.Mapping.storable_iff (hmade m hm).held_toForm).1 ?_
    rcases List.mem_pair.1 hm with rfl | rfl
    · refine storable_ofRecorded rfl hr (fun v hv => ?_) (by decide) forwarder _ isClock_default
      have hnone : (ordersRequest "tag=a&tag=b" [] "").content = none := by decide +kernel
      exact absurd (hnone.symm.trans hv) (Option.some_ne_none _).symm
    · exact storable_orderMapping "paid"
  obtain ⟨files, hsave, hload⟩ := saveAll_load_iff hmade (by decide) (empty_isVacant "mappings")
    (Or.inr (List.cons_ne_nil _ _))
  refine ⟨fun m hm => ⟨hmade m hm, hstorable m hm⟩, files, hsave, ?_⟩
  have horder : byGuid [tagRecording, orderMapping (.json (.string "paid"))] =
      [orderMapping (.json (.string "paid")), tagRecording] := by
    have hle : ¬ tagRecording.guid.text ≤ (orderMapping (.json (.string "paid"))).guid.text := by
      decide +kernel
    simp [byGuid, List.mergeSort, hle]
  rw [horder] at hload
  exact (hload fun m hm => ⟨_, (hstorable m hm).2⟩).2 hstorable

open Mapping in
/-- A pattern that reads as null is saved as null, and loaded as no pattern. -/
theorem nullPattern_lost :
    ofForm (orderForm "JsonMatcher" (.string "null")) default default =
        .ok (orderMapping (.json .null)) ∧
      ∃ files, saveAll "mappings" [(orderMapping (.json .null)).toForm] .empty = .ok files ∧
        files.loadMappings "mappings" ≠ .ok [(orderMapping (.json .null)).toForm] := by
  have hnodup : ([orderMapping (.json .null)].map Mapping.guid).Nodup := List.nodup_singleton _
  obtain ⟨files, hsave, -, -⟩ := exists_saveAll hnodup fun m _ =>
    (empty_isVacant "mappings").takes (mappingFileName m.guid)
  refine ⟨ofForm_orderForm rfl, files, hsave, fun hload => ?_⟩
  have hnull := nullFree_of_loadMappings hload _ (List.mem_singleton_self _)
  exact (hnull.request.body _ rfl).matcher _ rfl rfl

end FileStore

end Understudy
