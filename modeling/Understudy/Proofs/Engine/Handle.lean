import Understudy.Engine.Handle

/-!
# What answering a request leaves behind

A mapping with a fixed response answers with it and changes nothing but the row of its scenario, the request log and
the source of GUIDs. `handleEach` answers one request again and again, each time in surroundings of its own.
-/

namespace Understudy

namespace Engine

variable {e : Engine} {r : Request}

@[simp] theorem advance_registry (e : Engine) (m : Mapping) : (e.advance m).registry = e.registry := by
  unfold advance
  split
  · rfl
  · rfl

theorem advance_of_step {m : Mapping} {step : ScenarioStep} (h : m.step? = some step) :
    (e.advance m).scenarios = (e.scenarios.advance step).2 := by
  rw [advance, h]

theorem logExchange_fst (e : Engine) (w : World) (r : Request) (response : Response.Message)
    (resolution : Resolution Score) :
    ∃ log, (e.logExchange w r response resolution).1 = { e with log } := by
  exact ⟨_, rfl⟩

/-- The mapping that matches answers, and then its scenario takes the step; what follows is logging. -/
theorem handle_of_matched {c : Candidate Score} (h : (e.resolve r).matched = some c) (w : World)
    (backend : Outbound → Reply) :
    (e.handle w backend r).response = (e.respond w backend c.mapping r).response ∧
      ∃ log, (e.handle w backend r).engine =
        { (e.respond w backend c.mapping r).engine.advance c.mapping with log } := by
  unfold handle
  simp only [h]
  cases c.mapping.isAdmin with
  | false => exact ⟨rfl, logExchange_fst _ _ _ _ _⟩
  | true => exact ⟨rfl, _, rfl⟩

theorem handle_of_fixed {c : Candidate Score} {d : Response.Definition} {step : ScenarioStep}
    (h : (e.resolve r).matched = some c) (hfixed : c.mapping.provider = .fixed d)
    (hstep : c.mapping.step? = some step) (w : World) (backend : Outbound → Reply) :
    (e.handle w backend r).response = d.message ∧
      (e.handle w backend r).engine.registry = e.registry ∧
      (e.handle w backend r).engine.scenarios = (e.scenarios.advance step).2 := by
  have hrespond : e.respond w backend c.mapping r =
      { response := d.message, engine := e, world := w } := by
    rw [respond, hfixed]
  obtain ⟨hresponse, log, hengine⟩ := handle_of_matched h w backend
  rw [hrespond] at hresponse hengine
  rw [hengine]
  exact ⟨hresponse, advance_registry e c.mapping, advance_of_step hstep⟩

/-- What a server finds around it when a request comes. -/
structure Moment where
  world : World
  backend : Outbound → Reply

def handleEach (r : Request) (e : Engine) : List Moment → List Response.Message × Engine
  | [] => ([], e)
  | now :: later =>
    let h := e.handle now.world now.backend r
    let (responses, last) := handleEach r h.engine later
    (h.response :: responses, last)

@[simp] theorem handleEach_nil (r : Request) (e : Engine) : handleEach r e [] = ([], e) := rfl

theorem handleEach_cons (r : Request) (e : Engine) (now : Moment) (later : List Moment) :
    handleEach r e (now :: later) =
      ((e.handle now.world now.backend r).response ::
          (handleEach r (e.handle now.world now.backend r).engine later).1,
        (handleEach r (e.handle now.world now.backend r).engine later).2) := rfl

end Engine

end Understudy
