import Understudy.Proofs.Scenario.Finished

/-!
# The count of answers in a state

A state that has to be answered in several times counts its answers in `timesInState`. All steps of a scenario share
this counter, each with a count of its own that it asks for, so that the counter may well be above what the next step
asks for. What bounds it is the step that was counted last: `lastCounted?` goes through a run and notes it. Steps for
other states and steps that finish the scenario come in between and leave the counter alone. Since the counts that are
asked for are words of 32 bits, the counter is one, and the next answer can always be added to it.
-/

namespace Understudy

namespace Scenario

/-- The step is counted in the state: it fits, and names a state to move to. -/
def counts (row : Scenario) (step : ScenarioStep) : Bool :=
  row.allows step && step.setStateTo.isSome

/-- A step that is counted starts the count anew, or leaves it below what the step asks for. -/
theorem timesInState_advance_of_counts {row : Scenario} {step : ScenarioStep}
    (h : row.counts step = true) :
    (row.advance step).timesInState = 0 ∨
      ∃ n ∈ step.timesInSameState, (row.advance step).timesInState < n := by
  obtain ⟨hfits, hnames⟩ := Bool.and_eq_true_iff.1 h
  obtain ⟨next, hset⟩ := Option.isSome_iff_exists.1 hnames
  cases hdue : step.timesInSameState.all (· ≤ row.timesInState + 1) with
  | true =>
      left
      rw [advance_of_due hfits hset hdue]
  | false =>
      right
      rw [advance_of_waits hfits hset hdue]
      cases hasked : step.timesInSameState with
      | none => exact absurd hdue (by simp [hasked])
      | some n => exact ⟨n, rfl, by simpa [hasked] using hdue⟩

theorem timesInState_advance_of_not_counts {row : Scenario} {step : ScenarioStep}
    (h : row.counts step = false) : (row.advance step).timesInState = row.timesInState := by
  cases hfits : row.allows step with
  | false => rw [advance_of_not_allows hfits]
  | true =>
      have hset : step.setStateTo = none := by simpa [counts, hfits] using h
      rw [advance_of_ends hfits hset]

end Scenario

namespace ScenarioStore

def counted? (s : ScenarioStore) (name : String) (op : Op) : Option ScenarioStep :=
  (op.stepIn? name).filter (s.row name).counts

/-- Of the steps that operations take in the scenario, the last one that was counted at its time. -/
def lastCounted? (name : String) : ScenarioStore → List Op → Option ScenarioStep
  | _, [] => none
  | s, op :: ops => (lastCounted? name (s.apply op) ops).or (s.counted? name op)

theorem mem_of_mem_lastCounted? {name : String} {s : ScenarioStore} {ops : List Op}
    {step : ScenarioStep} (h : step ∈ lastCounted? name s ops) : .advance step ∈ ops := by
  induction ops generalizing s with
  | nil => exact absurd h (by simp [lastCounted?])
  | cons op ops ih =>
      rw [lastCounted?, Option.mem_def, Option.or_eq_some_iff] at h
      rcases h with hlater | ⟨-, hfirst⟩
      · exact List.mem_cons_of_mem op (ih hlater)
      · have hstep : op.stepIn? name = some step := (Option.filter_eq_some_iff.1 hfirst).1
        cases op with
        | advance taken =>
            rw [Op.stepIn?, Option.ite_none_right_eq_some] at hstep
            rw [Option.some.inj hstep.2]
            exact List.mem_cons_self
        | reset => exact absurd hstep (by simp [Op.stepIn?])
        | resetScenario forgotten => exact absurd hstep (by simp [Op.stepIn?])

/-- What one operation does to the count of a scenario. -/
theorem timesInState_apply (s : ScenarioStore) (op : Op) (name : String) :
    ((s.apply op).row name).timesInState = 0 ∨
      (∃ step ∈ s.counted? name op, ∃ n ∈ step.timesInSameState,
        ((s.apply op).row name).timesInState < n) ∨
      (s.counted? name op = none ∧
        ((s.apply op).row name).timesInState = (s.row name).timesInState) := by
  cases hforgets : op.forgets name with
  | true =>
      left
      cases op with
      | advance step => exact absurd hforgets Bool.noConfusion
      | reset => rw [apply, row, get?_reset]; rfl
      | resetScenario forgotten =>
          rw [apply, row, get?_resetScenario, if_pos (beq_iff_eq.1 hforgets)]
          rfl
  | false =>
      rw [row_apply s hforgets]
      cases htaken : op.stepIn? name with
      | none => exact .inr (.inr ⟨by simp [counted?, htaken], rfl⟩)
      | some step =>
          cases hcounts : (s.row name).counts step with
          | false =>
              exact .inr (.inr ⟨by simp [counted?, htaken, hcounts],
                Scenario.timesInState_advance_of_not_counts hcounts⟩)
          | true =>
              rcases Scenario.timesInState_advance_of_counts hcounts with hzero | hbelow
              · exact .inl hzero
              · exact .inr (.inl ⟨step, by simp [counted?, htaken, hcounts], hbelow⟩)

/-- The count is zero, below what the step that was counted last asks for, or what it was when none was counted. -/
theorem timesInState_after (s : ScenarioStore) (ops : List Op) (name : String) :
    ((s.after ops).row name).timesInState = 0 ∨
      (∃ step ∈ lastCounted? name s ops, ∃ n ∈ step.timesInSameState,
        ((s.after ops).row name).timesInState < n) ∨
      (lastCounted? name s ops = none ∧
        ((s.after ops).row name).timesInState = (s.row name).timesInState) := by
  induction ops generalizing s with
  | nil => exact .inr (.inr ⟨rfl, rfl⟩)
  | cons op ops ih =>
      rw [after_cons, lastCounted?]
      rcases ih (s.apply op) with hzero | ⟨step, hstep, hbelow⟩ | ⟨hnone, hsame⟩
      · exact .inl hzero
      · exact .inr (.inl ⟨step, by rw [Option.mem_def.1 hstep]; rfl, hbelow⟩)
      · -- nothing was counted later, so that this operation decides
        rw [hnone, hsame, Option.none_or]
        exact timesInState_apply s op name

theorem toNat_ofNat_add_one {n : Nat} (h : n + 1 < UInt32.size) :
    (UInt32.ofNat n + 1).toNat = n + 1 := by
  rw [UInt32.toNat_add, UInt32.toNat_ofNat_of_lt' (Nat.lt_of_succ_lt h)]
  exact Nat.mod_eq_of_lt h

/--
After any operations on a new store the count of a scenario is zero or below what the step that was counted last asks
for. With counts of 32 bits it is therefore never the greatest of them, and adding one to it never goes around.
-/
theorem run_timesInState_lt (ops : List Op) (name : String)
    (hwidth : ∀ step, .advance step ∈ ops → ∀ n ∈ step.timesInSameState, n < UInt32.size) :
    (((run ops).row name).timesInState = 0 ∨
      ∃ step ∈ lastCounted? name empty ops, ∃ n ∈ step.timesInSameState,
        ((run ops).row name).timesInState < n) ∧
    ((run ops).row name).timesInState ≤ UInt32.size - 2 ∧
    (UInt32.ofNat ((run ops).row name).timesInState + 1).toNat =
      ((run ops).row name).timesInState + 1 := by
  have hbelow : ((run ops).row name).timesInState = 0 ∨
      ∃ step ∈ lastCounted? name empty ops, ∃ n ∈ step.timesInSameState,
        ((run ops).row name).timesInState < n := by
    rcases timesInState_after empty ops name with hzero | hlast | ⟨-, hsame⟩
    · exact .inl hzero
    · exact .inr hlast
    · exact .inl hsame
  have hroom : ((run ops).row name).timesInState + 1 < UInt32.size := by
    rcases hbelow with hzero | ⟨step, hstep, n, hn, hlt⟩
    · rw [hzero]
      decide
    · have hn := hwidth step (mem_of_mem_lastCounted? hstep) n hn
      omega
  exact ⟨hbelow, by omega, toNat_ofNat_add_one hroom⟩

def hurried : ScenarioStep := { opening with timesInSameState := some 3 }

def patient : ScenarioStep := { opening with timesInSameState := some 0xFFFFFFFF }

/-- Both are counted together; a stale step and one that finishes the scenario are not. -/
theorem patient_after_hurried :
    let ops : List Op := [.advance hurried, .advance patient, .advance closing,
      .advance { closing with whenStateIs := none }]
    lastCounted? "order" empty ops = some patient ∧
      ((run ops).row "order").timesInState = 2 ∧ 2 < 0xFFFFFFFF ∧
      (UInt32.ofNat ((run ops).row "order").timesInState + 1).toNat = 3 := by
  intro ops
  have hwidth : ∀ step, Op.advance step ∈ ops →
      ∀ n ∈ step.timesInSameState, n < UInt32.size := by
    simp [ops, hurried, patient, closing, opening, UInt32.size]
  have hlast : lastCounted? "order" empty ops = some patient := by decide
  have htimes : ((run ops).row "order").timesInState = 2 := by decide
  obtain ⟨hzero | ⟨step, hstep, n, hn, hlt⟩, -, hnext⟩ := run_timesInState_lt ops "order" hwidth
  · exact absurd hzero (by rw [htimes]; decide)
  · obtain rfl : patient = step := Option.some.inj (hlast.symm.trans hstep)
    obtain rfl : 0xFFFFFFFF = n := Option.some.inj hn
    rw [htimes] at hlt hnext
    exact ⟨hlast, htimes, hlt, by rw [htimes]; exact hnext⟩

end ScenarioStore

end Understudy
