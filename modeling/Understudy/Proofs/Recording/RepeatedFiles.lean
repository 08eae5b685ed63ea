import Understudy.Proofs.Files.Directory
import Understudy.Proofs.Recording.Repetition
import Understudy.Proofs.Recording.Restart

/-!
# Files of an exchange that is recorded again and again

What tells that an exchange was recorded is a mapping in the registry, never a file. An exchange that is registered is
settled by its first call, so that a second file is never written. One that is only written to files is never settled
by its calls: each of them writes one more file.
-/

namespace Understudy

namespace Registry

section

variable (scenarios : ScenarioStore) (s : ProxySettings) (c : Call)

def Call.at (w : World) : Call := { c with world := w }

/-- The registry and the files around it, after a call at a time of the clock; a call that fails changes nothing. -/
def recordAt (state : Registry × World) (now : Instant) : Registry × World :=
  let w := { state.2 with now }
  match state.1.record scenarios s c.proxy c.directory w c.request c.response with
  | .ok (_, after) => after
  | .error _ => (state.1, w)

def recordOften (state : Registry × World) (times : List Instant) : Registry × World :=
  times.foldl (recordAt scenarios s c) state

end

variable {scenarios : ScenarioStore} {s : ProxySettings} {c : Call}

@[simp] theorem recordOften_nil (state : Registry × World) :
    recordOften scenarios s c state [] = state := rfl

@[simp] theorem recordOften_cons (state : Registry × World) (now : Instant) (times : List Instant) :
    recordOften scenarios s c state (now :: times) =
      recordOften scenarios s c (recordAt scenarios s c state now) times := rfl

variable {state : Registry × World}

theorem recordAt_of_settled (h : state.1.Settled scenarios s c) (now : Instant) :
    recordAt scenarios s c state now = (state.1, { state.2 with now }) := by
  rw [recordAt]
  rcases record_of_settled (c := c.at { state.2 with now }) h with hrecord | ⟨e, hrecord⟩
  · simp only [Call.at] at hrecord
    rw [hrecord]
  · simp only [Call.at] at hrecord
    rw [hrecord]

def madeAt (s : ProxySettings) (c : Call) (w : World) (now : Instant) : Mapping :=
  (c.at { w with now }).made s

theorem recordAt_of_not_settled (h : ¬ state.1.Settled scenarios s c) (now : Instant) :
    recordAt scenarios s c state now =
      (if s.saveMapping then state.1.register (madeAt s c state.2 now) now else state.1,
        { now
          guids := state.2.guids.next.2
          files :=
            if s.saveMappingToFile then
              saved state.2.files c.directory (madeAt s c state.2 now)
            else state.2.files }) := by
  have hrecord := record_of_not_settled (c := c.at { state.2 with now }) h
  simp only [Call.at] at hrecord
  rw [recordAt]
  simp only [hrecord]
  rfl

theorem recordOften_of_settled (h : state.1.Settled scenarios s c) (times : List Instant) :
    (recordOften scenarios s c state times).2.files = state.2.files := by
  induction times generalizing state with
  | nil => rfl
  | cons now times ih =>
      rw [recordOften_cons, recordAt_of_settled h]
      exact ih h

/-- A call that registers the exchange settles it. -/
theorem settled_recordAt (hsave : s.saveMapping = true) (hs : s.useDefinedRequestMatchers = false)
    (hr : c.request.Assembled) (now : Instant) :
    (recordAt scenarios s c state now).1.Settled scenarios s c := by
  by_cases h : state.1.Settled scenarios s c
  · rw [recordAt_of_settled h]
    exact h
  · rw [recordAt_of_not_settled h, if_pos hsave]
    exact settled_of_mem (c := c.at { state.2 with now }) hs hr (mem_put _ _)

/-- Of calls that register their exchange, none but the first writes a file. -/
theorem recordOften_of_saveMapping (hsave : s.saveMapping = true)
    (hs : s.useDefinedRequestMatchers = false) (hr : c.request.Assembled) (now : Instant)
    (times : List Instant) :
    (recordOften scenarios s c state (now :: times)).2.files =
      (recordAt scenarios s c state now).2.files := by
  rw [recordOften_cons]
  exact recordOften_of_settled (settled_recordAt hsave hs hr now) times

/-- The next GUIDs, so many of them, are not the same and name no files that are there. -/
structure Fits (w : World) (directory : String) (count : ℕ) : Prop where
  takes : ∀ i < count, w.files.Takes (FilePath.ofText directory)
    (mappingFileName (w.guids.guid (w.guids.drawn + i)))
  distinct : ∀ i < count, ∀ j < count,
    w.guids.guid (w.guids.drawn + i) = w.guids.guid (w.guids.drawn + j) → i = j

theorem length_filesIn (files : FileStore) (path : FilePath) :
    (files.filesIn path).length = (files.written path).length := by
  rw [FileStore.filesIn_eq, List.length_mergeSort]

/-- A call that writes a file leaves one more in the directory, and room for the files of all other GUIDs. -/
theorem recordAt_writes (hfile : s.saveMappingToFile = true)
    (h : ¬ state.1.Settled scenarios s c) {count : ℕ} (hfits : Fits state.2 c.directory (count + 1))
    (now : Instant) :
    (((recordAt scenarios s c state now).2.files.filesIn (FilePath.ofText c.directory)).length =
        (state.2.files.filesIn (FilePath.ofText c.directory)).length + 1) ∧
      Fits (recordAt scenarios s c state now).2 c.directory count := by
  obtain ⟨files, hplace, -, hwritten, hother⟩ := (hfits.takes 0 (Nat.succ_pos count)).place
    (Bytes.ofText (madeAt s c state.2 now).toForm.toJson.pretty)
  have hsaved : saved state.2.files c.directory (madeAt s c state.2 now) = files := by
    rw [saved, Form.Mapping.save_eq_of_place? rfl hplace]
  -- the GUID that a call draws is the first of those that come next
  have hshift (i : ℕ) : state.2.guids.next.2.guid (state.2.guids.next.2.drawn + i) =
      state.2.guids.guid (state.2.guids.drawn + (i + 1)) :=
    congrArg state.2.guids.guid (by rw [Nat.add_comm i 1, ← Nat.add_assoc]; rfl)
  rw [recordAt_of_not_settled h, if_pos hfile, hsaved]
  constructor
  · rw [length_filesIn, length_filesIn, hwritten, List.length_append]
    rfl
  · constructor
    · intro i hi
      rw [hshift]
      refine hother _ (fun hname => ?_) (hfits.takes (i + 1) (by omega))
      exact Nat.succ_ne_zero i
        (hfits.distinct (i + 1) (by omega) 0 (by omega) (mappingFileName_inj hname))
    · intro i hi j hj heq
      have hsucc := hfits.distinct (i + 1) (by omega) (j + 1) (by omega)
      rw [← hshift i, ← hshift j] at hsucc
      exact Nat.succ.inj (hsucc heq)

theorem length_recordOften_of_file (hfile : s.saveMappingToFile = true)
    (hsave : s.saveMapping = false) (h : ¬ state.1.Settled scenarios s c) {times : List Instant}
    (hfits : Fits state.2 c.directory times.length) :
    ((recordOften scenarios s c state times).2.files.filesIn
        (FilePath.ofText c.directory)).length =
      (state.2.files.filesIn (FilePath.ofText c.directory)).length + times.length := by
  induction times generalizing state with
  | nil => rfl
  | cons now times ih =>
      obtain ⟨hlength, hfits'⟩ := recordAt_writes hfile h hfits now
      have hsame : (recordAt scenarios s c state now).1 = state.1 := by
        rw [recordAt_of_not_settled h, hsave]
        rfl
      rw [recordOften_cons, ih (hsame ▸ h) hfits', hlength, List.length_cons]
      omega

/--
When the exchange is registered, no call but the first writes a file, and when it was settled before, none does. An
exchange that is new leaves one file in a directory with room for it when it is registered, and when it is not, as many
files as there are calls.
-/
theorem recordOften_files (hfile : s.saveMappingToFile = true)
    (hs : s.useDefinedRequestMatchers = false) (hr : c.request.Assembled) (state : Registry × World)
    (now : Instant) (times : List Instant) :
    (s.saveMapping = true →
      (recordOften scenarios s c state (now :: times)).2.files =
        (recordAt scenarios s c state now).2.files) ∧
    (state.1.Settled scenarios s c →
      (recordOften scenarios s c state (now :: times)).2.files = state.2.files) ∧
    (¬ state.1.Settled scenarios s c → Fits state.2 c.directory (times.length + 1) →
      ((recordOften scenarios s c state (now :: times)).2.files.filesIn
          (FilePath.ofText c.directory)).length =
        (state.2.files.filesIn (FilePath.ofText c.directory)).length +
          if s.saveMapping then 1 else times.length + 1) := by
  refine ⟨fun hsave => recordOften_of_saveMapping hsave hs hr now times,
    fun h => recordOften_of_settled h (now :: times), fun h hfits => ?_⟩
  cases hsave : s.saveMapping with
  | true =>
      rw [if_pos rfl, recordOften_of_saveMapping hsave hs hr]
      exact (recordAt_writes hfile h hfits now).1
  | false => exact length_recordOften_of_file hfile hsave h hfits

def ordersExchange : Call := { ordersCall 0 "tag=a" with response := Engine.varyMessage }

def keeping : ProxySettings := { Engine.filing with saveMapping := true }

theorem fits_emptyWorld {count : ℕ} (h : count ≤ 3) : Fits Engine.emptyWorld "mappings" count where
  takes i _ := (Engine.emptyWorld_isVacant "mappings").takes _
  distinct := by
    have hthree : ∀ i < 3, ∀ j < 3, Engine.emptyWorld.guids.guid (0 + i) =
        Engine.emptyWorld.guids.guid (0 + j) → i = j := by
      decide +kernel
    exact fun i hi j hj => hthree i (by omega) j (by omega)

theorem length_emptyWorld (directory : String) :
    (Engine.emptyWorld.files.filesIn (FilePath.ofText directory)).length = 0 := by
  rw [length_filesIn, (Engine.emptyWorld_isVacant directory).written_eq, List.length_nil]

theorem assembled_ordersExchange : ordersExchange.request.Assembled :=
  Request.assembled_ofUrl "http://h/orders?tag=a" (by decide +kernel) _ _ _ _ _

theorem not_settled_empty (hwants : s.wants c.request.method c.response.status = true)
    (hstatus : Response.isLegalStatus c.response.status = true) :
    ¬ Registry.empty.Settled scenarios s c := by
  rintro (h | h | ⟨d, hd, -⟩)
  · rw [hwants] at h
    exact Bool.noConfusion h
  · rw [hstatus] at h
    exact Bool.noConfusion h
  · exact List.not_mem_nil hd

/-- Three calls leave one file. -/
theorem ordersExchange_one_file :
    (recordOften .empty keeping ordersExchange (.empty, Engine.emptyWorld)
        [default, default, default]).2.files =
      (recordAt .empty keeping ordersExchange (.empty, Engine.emptyWorld) default).2.files ∧
    ((recordOften .empty keeping ordersExchange (.empty, Engine.emptyWorld)
      [default, default, default]).2.files.filesIn (FilePath.ofText "mappings")).length = 1 := by
  have hfile : keeping.saveMappingToFile = true := rfl
  have hdefined : keeping.useDefinedRequestMatchers = false := rfl
  obtain ⟨hsame, -, hcount⟩ := @recordOften_files .empty keeping ordersExchange hfile hdefined
    assembled_ordersExchange (Registry.empty, Engine.emptyWorld) default [default, default]
  have hopen : ¬ Registry.empty.Settled .empty keeping ordersExchange :=
    not_settled_empty (by decide +kernel) (by decide)
  refine ⟨hsame rfl, (hcount hopen (fits_emptyWorld le_rfl)).trans ?_⟩
  rw [length_emptyWorld]
  rfl

/-- An exchange that is only written to files leaves a second one when it comes again. -/
theorem ordersExchange_two_files :
    Engine.filing.saveMappingToFile = true ∧ Engine.filing.useDefinedRequestMatchers = false ∧
      ordersExchange.request.Assembled ∧ Fits Engine.emptyWorld "mappings" 2 ∧
      ((recordOften .empty Engine.filing ordersExchange (.empty, Engine.emptyWorld)
        [default, default]).2.files.filesIn (FilePath.ofText "mappings")).length = 2 := by
  have hopen : ¬ Registry.empty.Settled .empty Engine.filing ordersExchange :=
    not_settled_empty (by decide +kernel) (by decide)
  have hfits : Fits Engine.emptyWorld "mappings" 2 := fits_emptyWorld (by decide)
  have hcount := @length_recordOften_of_file .empty Engine.filing ordersExchange
    (Registry.empty, Engine.emptyWorld) rfl rfl hopen [default, default] hfits
  refine ⟨rfl, rfl, assembled_ordersExchange, hfits, hcount.trans ?_⟩
  rw [length_emptyWorld]
  rfl

end Registry

end Understudy
