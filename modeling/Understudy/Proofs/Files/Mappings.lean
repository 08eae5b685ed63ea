import Understudy.Files.Mappings
import Understudy.Proofs.Files.Directory
import Understudy.Proofs.Form.Reading
import Understudy.Proofs.Request.Assembled

/-!
# Mapping files are read back

A form that is saved in a vacant directory is all that is loaded from it: the file is the only one, its name has the
extension of mapping files, and its text is read back as the form.
-/

namespace Understudy

open Traversal

theorem isJsonFile_mappingFileName (guid : Guid) : isJsonFile (mappingFileName guid) = true := by
  have hname : (mappingFileName guid).toList = guid.text.toList ++ ".json".toList := by
    simp [mappingFileName]
  have hback : (mappingFileName guid).toList.reverse.takeWhile (· != '.') = ['n', 'o', 's', 'j'] := by
    rw [hname, List.reverse_append]
    rfl
  have hlength : (mappingFileName guid).length = 41 := by
    rw [← String.length_toList, hname, List.length_append, guid.length_text]
    rfl
  have hextension : extension? (mappingFileName guid) = some "json" := by
    unfold extension?
    simp only [hback, hlength]
    rfl
  rw [isJsonFile, hextension]
  decide

theorem mappingFileName_inj {g g' : Guid} (h : mappingFileName g = mappingFileName g') : g = g' := by
  have htext : g.text = g'.text := (String.append_left_inj ".json").1 h
  have hread : Guid.parse? g.text = some g' := by
    rw [htext]
    exact g'.parse?_text
  exact Option.some.inj (g.parse?_text.symm.trans hread)

theorem Form.Mapping.save_eq_of_place? {form : Form.Mapping} {guid : Guid}
    (hguid : form.guid = some guid) {files files' : FileStore} {directory : String}
    (h : files.place? (FilePath.ofText directory) (mappingFileName guid)
      (Bytes.ofText form.toJson.pretty) = some files') :
    form.save files directory = .ok (pathText directory (mappingFileName guid), files') := by
  unfold FileStore.place? at h
  rw [save, hguid]
  simp only [h]
  rfl

/-- A form that is saved in a vacant directory is the one that is loaded from it. -/
theorem Form.Mapping.load_save {form : Form.Mapping} {guid : Guid} (hguid : form.guid = some guid)
    (hform : form.Storable) {files : FileStore} {directory : String}
    (h : files.IsVacant (FilePath.ofText directory)) :
    ∃ files', form.save files directory =
        .ok (pathText directory (mappingFileName guid), files') ∧
      files'.isDirectory (FilePath.ofText directory) = true ∧
      files'.loadMappings directory = .ok [form] := by
  obtain ⟨files', hplace, hdirectory, hwritten, -⟩ :=
    (h.takes (mappingFileName guid)).place (Bytes.ofText form.toJson.pretty)
  have hfiles : files'.filesIn (FilePath.ofText directory) =
      [(mappingFileName guid, Bytes.ofText form.toJson.pretty)] := by
    rw [FileStore.filesIn_eq, hwritten, h.written_eq, List.nil_append, List.mergeSort_singleton]
  refine ⟨files', ?_, hdirectory, ?_⟩
  · exact save_eq_of_place? hguid hplace
  · have hread : readMappingFile (pathText directory (mappingFileName guid))
        (Bytes.ofText form.toJson.pretty) = .ok [form] := by
      rw [readMappingFile, Bytes.text?_ofText]
      exact mapError_eq_ok.2 (readMappings_pretty hform)
    rw [FileStore.loadMappings]
    simp only [hdirectory, hfiles, if_true, List.filter_cons, isJsonFile_mappingFileName,
      List.filter_nil, List.flatMapM, List.flatMapM.loop, hread]
    rfl

end Understudy
