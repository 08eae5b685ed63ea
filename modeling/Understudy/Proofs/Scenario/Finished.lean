import Mathlib.Data.List.Infix
import Understudy.Proofs.Scenario.History

/-!
# Finished scenarios

A live step without a state to move to finishes its scenario and leaves its state alone. A finished row is read like
any other: it stays finished until it is forgotten, and stays in its state for as long as no step takes it further.
Such a step has to wait for this very state and to name another one, so that a scenario whose mappings say nothing
about how to go on from there ends in it; where they do, the scenario goes on, and is still called finished.
-/

namespace Understudy

namespace Scenario

/-- The step takes the scenario to another state: it fits, is due, and names another one. -/
def isMovedBy (row : Scenario) (step : ScenarioStep) : Bool :=
  row.allows step && step.setStateTo.any (some · != row.nextState) &&
    step.timesInSameState.all (· ≤ row.timesInState + 1)

theorem advance_of_not_allows {row : Scenario} {step : ScenarioStep}
    (h : row.allows step = false) :
    row.advance step = { row with counter := row.counter + 1, started := true } := by
  have h' : Scenario.allows { row with counter := row.counter + 1, started := true } step =
      false := h
  simp [advance, h']

theorem nextState_advance (row : Scenario) (step : ScenarioStep) :
    (row.advance step).nextState =
      if row.isMovedBy step then step.setStateTo else row.nextState := by
  cases hfits : row.allows step with
  | false => simp [advance_of_not_allows hfits, isMovedBy, hfits]
  | true =>
      cases hset : step.setStateTo with
      | none => simp [advance_of_ends hfits hset, isMovedBy, hset]
      | some next =>
          cases hdue : step.timesInSameState.all (· ≤ row.timesInState + 1) with
          | false => simp [advance_of_waits hfits hset hdue, isMovedBy, hdue]
          | true =>
              -- a step that names the state it waits for moves nothing
              by_cases hsame : row.nextState = some next
              · simp [advance_of_due hfits hset hdue, isMovedBy, hset, hsame]
              · simp [advance_of_due hfits hset hdue, isMovedBy, hfits, hset, hdue, Ne.symm hsame]

theorem nextState_advance_eq_iff (row : Scenario) (step : ScenarioStep) :
    (row.advance step).nextState = row.nextState ↔ row.isMovedBy step = false := by
  rw [nextState_advance]
  cases hmoved : row.isMovedBy step with
  | false => simp
  | true =>
      have hother : step.setStateTo.any (some · != row.nextState) = true := by
        simp only [isMovedBy, Bool.and_eq_true] at hmoved
        exact hmoved.1.2
      obtain ⟨next, hnext, hne⟩ := (Option.any_eq_true _ _).1 hother
      simpa [hnext] using hne

/-- No step takes back that a scenario is finished. -/
theorem finished_advance {row : Scenario} (h : row.finished = true) (step : ScenarioStep) :
    (row.advance step).finished = true := by
  cases hfits : row.allows step with
  | false => simpa [advance_of_not_allows hfits] using h
  | true =>
      cases hset : step.setStateTo with
      | none => simp [advance_of_ends hfits hset]
      | some next =>
          cases hdue : step.timesInSameState.all (· ≤ row.timesInState + 1) with
          | false => simpa [advance_of_waits hfits hset hdue] using h
          | true => simpa [advance_of_due hfits hset hdue] using h

end Scenario

namespace ScenarioStore

def after (s : ScenarioStore) (ops : List Op) : ScenarioStore := ops.foldl apply s

@[simp] theorem after_nil (s : ScenarioStore) : s.after [] = s := rfl

@[simp] theorem after_cons (s : ScenarioStore) (op : Op) (ops : List Op) :
    s.after (op :: ops) = (s.apply op).after ops := rfl

/-- Of the operations that do not forget a scenario only its own steps change its row. -/
theorem row_apply (s : ScenarioStore) {op : Op} {name : String} (h : op.forgets name = false) :
    (s.apply op).row name =
      match op.stepIn? name with
      | some step => (s.row name).advance step
      | none => s.row name := by
  cases op with
  | advance step =>
      by_cases hname : step.scenario = name
      · subst hname
        simp [apply, Op.stepIn?, row_advance]
      · simp [apply, Op.stepIn?, hname, row, get?_advance]
  | reset => exact absurd h Bool.noConfusion
  | resetScenario forgotten =>
      have hname : ¬ forgotten = name := by simpa [Op.forgets] using h
      simp [apply, Op.stepIn?, row, get?_resetScenario, hname]

theorem finished_apply {s : ScenarioStore} {op : Op} {name : String}
    (h : op.forgets name = false) (hfinished : (s.row name).finished = true) :
    ((s.apply op).row name).finished = true := by
  rw [row_apply s h]
  cases op.stepIn? name with
  | none => exact hfinished
  | some step => exact Scenario.finished_advance hfinished step

theorem finished_after {s : ScenarioStore} {name : String} {ops : List Op}
    (hkept : ∀ op ∈ ops, op.forgets name = false) (h : (s.row name).finished = true) :
    ((s.after ops).row name).finished = true := by
  induction ops generalizing s with
  | nil => exact h
  | cons op ops ih =>
      rw [List.forall_mem_cons] at hkept
      exact ih hkept.2 (finished_apply hkept.1 h)

/-- None of the operations takes the scenario to another state at its time. -/
def RestsThrough (name : String) : ScenarioStore → List Op → Prop
  | _, [] => True
  | s, op :: ops =>
    (∀ step ∈ op.stepIn? name, (s.row name).isMovedBy step = false) ∧
      RestsThrough name (s.apply op) ops

theorem nextState_apply_eq_iff (s : ScenarioStore) {op : Op} {name : String}
    (h : op.forgets name = false) :
    ((s.apply op).row name).nextState = (s.row name).nextState ↔
      ∀ step ∈ op.stepIn? name, (s.row name).isMovedBy step = false := by
  rw [row_apply s h]
  cases op.stepIn? name with
  | none => simp
  | some step => simp [Scenario.nextState_advance_eq_iff]

/-- A scenario is in its state at every time of a run exactly when no operation of the run moves it. -/
theorem restsThrough_iff {s : ScenarioStore} {name : String} {ops : List Op}
    (hkept : ∀ op ∈ ops, op.forgets name = false) :
    RestsThrough name s ops ↔
      ∀ earlier, earlier <+: ops →
        ((s.after earlier).row name).nextState = (s.row name).nextState := by
  induction ops generalizing s with
  | nil =>
      refine iff_of_true trivial fun earlier h => ?_
      rw [List.prefix_nil.1 h, after_nil]
  | cons op ops ih =>
      rw [List.forall_mem_cons] at hkept
      rw [RestsThrough, ← nextState_apply_eq_iff s hkept.1, ih hkept.2]
      constructor
      · rintro ⟨hfirst, hrest⟩ earlier hearlier
        cases earlier with
        | nil => rfl
        | cons first earlier =>
            obtain ⟨rfl, hprefix⟩ := List.cons_prefix_cons.1 hearlier
            rw [after_cons, hrest earlier hprefix, hfirst]
      · intro h
        have hfirst : ((s.apply op).row name).nextState = (s.row name).nextState :=
          h [op] (List.cons_prefix_cons.2 ⟨rfl, List.nil_prefix⟩)
        refine ⟨hfirst, fun earlier hearlier => ?_⟩
        rw [hfirst]
        exact h (op :: earlier) (List.cons_prefix_cons.2 ⟨rfl, hearlier⟩)

theorem score_eq_zero_iff (s : ScenarioStore) (step : ScenarioStep) :
    (s.score step : Score) = Scale.zero ↔ (s.row step.scenario).nextState ≠ step.whenStateIs := by
  have hallows : s.allows step = ((s.row step.scenario).nextState == step.whenStateIs) := rfl
  rw [score, hallows]
  by_cases h : (s.row step.scenario).nextState = step.whenStateIs
  · rw [h, beq_self_eq_true]
    exact iff_of_false (by decide) (not_not.2 rfl)
  · rw [beq_eq_false_iff_ne.2 h]
    exact iff_of_true rfl h

theorem row_advance_of_ends {s : ScenarioStore} {step : ScenarioStep}
    (hlive : (s.score step : Score) = Scale.one) (hends : step.setStateTo = none) :
    ((s.advance step).2.row step.scenario).finished = true ∧
      ((s.advance step).2.row step.scenario).nextState = step.whenStateIs := by
  have hfits : (s.row step.scenario).allows step = true := (score_eq_one_iff s step).1 hlive
  rw [row_advance, Scenario.advance_of_ends hfits hends]
  exact ⟨rfl, beq_iff_eq.1 hfits⟩

/--
Once a step without a state to move to has finished a scenario in its state, the scenario stays finished until it is
forgotten. It stays in that state, with nothing for every step that waits for another one, exactly as long as no step
that waits for that very state takes it further; the first that does moves it, finished as it is.
-/
theorem finished_rests {s : ScenarioStore} {terminal : ScenarioStep}
    (hlive : (s.score terminal : Score) = Scale.one) (hends : terminal.setStateTo = none)
    {ops : List Op} (hkept : ∀ op ∈ ops, op.forgets terminal.scenario = false) :
    (∀ earlier, earlier <+: ops →
      (((s.advance terminal).2.after earlier).row terminal.scenario).finished = true) ∧
    (RestsThrough terminal.scenario (s.advance terminal).2 ops ↔
      ∀ earlier, earlier <+: ops →
        (((s.advance terminal).2.after earlier).row terminal.scenario).nextState =
            terminal.whenStateIs ∧
          ∀ step, step.scenario = terminal.scenario → step.whenStateIs ≠ terminal.whenStateIs →
            (((s.advance terminal).2.after earlier).score step : Score) = Scale.zero) ∧
    (∀ step, step.scenario = terminal.scenario →
      (((s.advance terminal).2.after ops).row terminal.scenario).isMovedBy step = true →
        (((s.advance terminal).2.after ops).advance step).1.nextState = step.setStateTo) := by
  obtain ⟨hfinished, hstate⟩ := row_advance_of_ends hlive hends
  refine ⟨?_, ?_, ?_⟩
  · intro earlier hearlier
    exact finished_after (fun op hop => hkept op (hearlier.subset hop)) hfinished
  · rw [restsThrough_iff hkept]
    refine forall₂_congr fun earlier _ => ?_
    rw [hstate]
    refine ⟨fun h => ⟨h, fun step hname hother => ?_⟩, And.left⟩
    rw [score_eq_zero_iff, hname, h]
    exact Ne.symm hother
  · intro step hname hmoved
    rw [advance, hname, Scenario.nextState_advance, if_pos hmoved]

def opening : ScenarioStep :=
  { scenario := "order", whenStateIs := none, setStateTo := some "paid", timesInSameState := none }

def closing : ScenarioStep :=
  { scenario := "order", whenStateIs := some "paid", setStateTo := none, timesInSameState := none }

def refund : ScenarioStep :=
  { scenario := "order", whenStateIs := some "paid", setStateTo := some "refunded"
    timesInSameState := none }

theorem closing_rests :
    let finished := ((run [.advance opening]).advance closing).2
    (finished.row "order").finished = true ∧
      ((finished.after [.advance opening, .advance closing]).row "order").nextState =
        some "paid" ∧
      ((finished.after [.advance opening, .advance closing]).score opening : Score) =
        Scale.zero := by
  have hlive : ((run [.advance opening]).score closing : Score) = Scale.one := by decide
  have hrests : RestsThrough "order" ((run [.advance opening]).advance closing).2
      [.advance opening, .advance closing] := by
    refine ⟨?_, ?_, trivial⟩ <;> decide
  have hkept : ∀ op ∈ [Op.advance opening, Op.advance closing], op.forgets "order" = false :=
    List.forall_mem_cons.2 ⟨rfl, List.forall_mem_singleton.2 rfl⟩
  obtain ⟨hfinished, hiff, -⟩ := finished_rests hlive rfl hkept
  obtain ⟨hstate, hscore⟩ := hiff.1 hrests _ List.prefix_rfl
  exact ⟨hfinished [] List.nil_prefix, hstate, hscore opening rfl (by decide)⟩

/-- A scenario that is called finished goes on to another state, and the steps for that state are live. -/
theorem refund_after_closing :
    let closed := run [.advance opening, .advance closing]
    let refunded := run [.advance opening, .advance closing, .advance refund]
    ((run []).score opening : Score) = Scale.one ∧
      ((run [.advance opening]).score closing : Score) = Scale.one ∧
      closing.setStateTo = none ∧ (closed.row "order").finished = true ∧
      (closed.row "order").nextState = some "paid" ∧
      (closed.score refund : Score) = Scale.one ∧
      (refunded.row "order").finished = true ∧
      (refunded.row "order").nextState = some "refunded" ∧
      (refunded.score { closing with whenStateIs := some "refunded" } : Score) = Scale.one := by
  decide

end ScenarioStore

end Understudy
