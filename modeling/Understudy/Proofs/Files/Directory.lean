import Mathlib.Data.List.Basic
import Understudy.Files.Basic

/-!
# Files that are put into a directory

A directory `Takes` a name when it is there or can be made, and nothing stands under this name in it. A file of such a
name is put behind the files that were put there before, whatever other names the directory takes it still takes, and
nothing else changes. A directory in which nothing lies is vacant, and takes every name.
-/

namespace Understudy

namespace FileStore

theorem put_of_absent {path : FilePath} {nodes : List (FilePath × FileNode)}
    (h : ∀ entry ∈ nodes, entry.1 ≠ path) (node : FileNode) :
    put path node nodes = nodes ++ [(path, node)] := by
  induction nodes with
  | nil => rfl
  | cons entry nodes ih =>
      rw [List.forall_mem_cons] at h
      rw [put, if_neg (by simpa using h.1), ih h.2]
      rfl

/-- The file that an entry is in a directory, if it is one. -/
def fileIn (path : FilePath) (entry : FilePath × FileNode) : Option (String × Bytes) :=
  match entry.2, entry.1.getLast? with
  | .file content, some name => if entry.1.dropLast == path then some (name, content) else none
  | _, _ => none

/-- The files of a directory, in the order in which they were put there first. -/
def written (files : FileStore) (path : FilePath) : List (String × Bytes) :=
  files.nodes.filterMap (fileIn path)

theorem filesIn_eq (files : FileStore) (path : FilePath) :
    files.filesIn path = (files.written path).mergeSort fun a b => decide (a.1 ≤ b.1) := rfl

theorem fileIn_eq_some {path : FilePath} {entry : FilePath × FileNode} {file : String × Bytes} :
    fileIn path entry = some file ↔ entry = (path ++ [file.1], .file file.2) := by
  constructor
  · intro h
    unfold fileIn at h
    split at h
    · rename_i content name hnode hlast
      obtain ⟨hpath, hfile⟩ := Option.ite_none_right_eq_some.1 h
      obtain rfl := Option.some.inj hfile
      obtain ⟨front, hfront⟩ := List.getLast?_eq_some_iff.1 hlast
      rw [hfront, List.dropLast_concat, beq_iff_eq] at hpath
      exact Prod.ext (by rw [hfront, hpath]) hnode
    · exact absurd h (by simp)
  · rintro rfl
    simp [fileIn]

/-- Makes a directory where there is none, and writes a file into it. -/
def place? (files : FileStore) (path : FilePath) (name : String) (content : Bytes) :
    Option FileStore :=
  (files.makeDirectory? path).bind fun files => files.write? (path ++ [name]) content

/-- The directory is there or can be made, and the name is new in it. -/
structure Takes (files : FileStore) (path : FilePath) (name : String) : Prop where
  unblocked : files.isBlocked path = false
  absent : ∀ entry ∈ files.nodes, ¬ path ++ [name] <+: entry.1

variable {files : FileStore} {path : FilePath}

theorem exists_makeDirectory? (h : files.isBlocked path = false) :
    ∃ made, files.makeDirectory? path = some made ∧ made.isDirectory path = true ∧
      (made.nodes = files.nodes ∨ made.nodes = files.nodes ++ [(path, .directory)]) := by
  rw [makeDirectory?, if_neg (by simp [h])]
  split
  · rename_i hdirectory
    exact ⟨files, rfl, hdirectory, Or.inl rfl⟩
  · rename_i hnone
    -- nothing stands at the path: a directory would be there, and a file would block it
    have hnew : ∀ entry ∈ files.nodes, entry.1 ≠ path := by
      intro entry hentry heq
      have hnode : entry.2 = .directory := by
        by_contra hfile
        have hblocked : files.isBlocked path = true :=
          List.any_eq_true.2 ⟨entry, hentry, by simp [heq, hfile]⟩
        exact Bool.false_ne_true (h.symm.trans hblocked)
      refine hnone (Bool.or_eq_true_iff.2 (Or.inr (List.any_eq_true.2 ⟨entry, hentry, ?_⟩)))
      simp [heq, hnode]
    refine ⟨_, rfl, ?_, Or.inr (put_of_absent hnew .directory)⟩
    rw [put_of_absent hnew]
    refine Bool.or_eq_true_iff.2 (Or.inr (List.any_eq_true.2 ⟨_, List.mem_concat_self, ?_⟩))
    simp

/-- A file of a new name is all that is put into a directory, apart from the directory itself. -/
theorem Takes.exists_place? {name : String} (h : files.Takes path name) (content : Bytes) :
    ∃ files', files.place? path name content = some files' ∧ ∃ directory,
      (directory = [] ∨ directory = [(path, FileNode.directory)]) ∧
      files'.nodes = files.nodes ++ directory ++ [(path ++ [name], .file content)] := by
  obtain ⟨made, hmade, hdirectory, hnodes⟩ := exists_makeDirectory? h.unblocked
  have hnew : ∀ entry ∈ made.nodes, ¬ path ++ [name] <+: entry.1 := by
    rcases hnodes with hnodes | hnodes
    · rw [hnodes]
      exact h.absent
    · rw [hnodes, List.forall_mem_append, List.forall_mem_singleton]
      refine ⟨h.absent, fun hprefix => ?_⟩
      have hlength := hprefix.length_le
      rw [List.length_append] at hlength
      exact absurd hlength (by simp)
  -- a file is not written where a directory stands
  have hfree : made.isDirectory (path ++ [name]) = false := by
    rw [isDirectory, Bool.or_eq_false_iff]
    refine ⟨by simp, List.any_eq_false.2 fun entry hentry hany => hnew entry hentry ?_⟩
    simp only [Bool.or_eq_true, Bool.and_eq_true, beq_iff_eq, decide_eq_true_eq,
      List.isPrefixOf_iff_prefix] at hany
    rcases hany with ⟨heq, -⟩ | ⟨hunder, -⟩
    · exact heq ▸ List.prefix_rfl
    · exact hunder
  have hplace : files.place? path name content =
      some ⟨made.nodes ++ [(path ++ [name], .file content)]⟩ := by
    rw [place?, hmade, Option.bind_some, write?, hfree, List.dropLast_concat, hdirectory,
      put_of_absent fun entry hentry heq => hnew entry hentry (heq ▸ List.prefix_rfl)]
    rfl
  refine ⟨_, hplace, ?_⟩
  rcases hnodes with hnodes | hnodes
  · exact ⟨[], Or.inl rfl, by rw [hnodes, List.append_nil]⟩
  · exact ⟨_, Or.inr rfl, by rw [hnodes]⟩

/-- The file comes behind the others of the directory, which takes all other names as before. -/
theorem Takes.place {name : String} (h : files.Takes path name) (content : Bytes) :
    ∃ files', files.place? path name content = some files' ∧ files'.isDirectory path = true ∧
      files'.written path = files.written path ++ [(name, content)] ∧
      ∀ other, other ≠ name → files.Takes path other → files'.Takes path other := by
  obtain ⟨files', hplace, directory, hdirectory, hnodes⟩ := h.exists_place? content
  have hfile : fileIn path (path ++ [name], .file content) = some (name, content) :=
    fileIn_eq_some.2 rfl
  have hnone : directory.filterMap (fileIn path) = [] := by
    rcases hdirectory with rfl | rfl <;> simp [fileIn]
  have hlonger : path.length < (path ++ [name]).length := by simp
  refine ⟨files', hplace, ?_, ?_, fun other hne htakes => ⟨?_, ?_⟩⟩
  · rw [isDirectory, hnodes]
    refine Bool.or_eq_true_iff.2 (Or.inr (List.any_eq_true.2 ⟨_, List.mem_concat_self, ?_⟩))
    simp
  · rw [written, hnodes, List.filterMap_append, List.filterMap_append, hnone, List.append_nil,
      List.filterMap_cons_some hfile, List.filterMap_nil]
    rfl
  · rw [isBlocked, hnodes, List.any_append, List.any_append, Bool.or_eq_false_iff,
      Bool.or_eq_false_iff]
    refine ⟨⟨htakes.unblocked, ?_⟩, ?_⟩
    · rcases hdirectory with rfl | rfl <;> simp
    · simp only [List.any_cons, List.any_nil, Bool.or_false, Bool.and_eq_false_iff]
      refine Or.inl (Bool.eq_false_iff.2 fun hprefix => ?_)
      exact absurd (List.isPrefixOf_iff_prefix.1 hprefix).length_le (Nat.not_le.2 hlonger)
  · rw [hnodes, List.forall_mem_append, List.forall_mem_append, List.forall_mem_singleton]
    refine ⟨⟨htakes.absent, ?_⟩, fun hprefix => hne ?_⟩
    · rcases hdirectory with rfl | rfl
      · exact List.forall_mem_nil _
      · rw [List.forall_mem_singleton]
        intro hprefix
        exact absurd hprefix.length_le (by simp)
    · have heq : path ++ [other] = path ++ [name] := hprefix.eq_of_length (by simp)
      exact List.singleton_inj.1 (List.append_cancel_left heq)

/-- A file can be put into the directory, in which there is nothing yet. -/
structure IsVacant (files : FileStore) (path : FilePath) : Prop where
  unblocked : files.isBlocked path = false
  empty : ∀ entry ∈ files.nodes, ¬ (path <+: entry.1 ∧ path.length < entry.1.length)

theorem IsVacant.takes (h : files.IsVacant path) (name : String) : files.Takes path name where
  unblocked := h.unblocked
  absent := by
    intro entry hentry hprefix
    refine h.empty entry hentry ⟨(List.prefix_append path [name]).trans hprefix, ?_⟩
    exact Nat.lt_of_lt_of_le (by simp) hprefix.length_le

theorem IsVacant.written_eq (h : files.IsVacant path) : files.written path = [] := by
  rw [written, List.filterMap_eq_nil_iff]
  intro entry hentry
  rw [Option.eq_none_iff_forall_ne_some]
  intro file hfile
  rw [fileIn_eq_some] at hfile
  exact h.empty entry hentry (by simp [hfile])

end FileStore

end Understudy
