import SteadyTask.Proofs.Activity.Attended
import SteadyTask.Simulation.Run

/-!
# The collaborators of a world

The models, the router and the tools of a world answer from scripts.  When a call is made its answer
is settled, and nothing of the world but its scripts has a part in it.  So they are collaborators
like any others: what they answer to a call depends on the calls before it.
-/

namespace SteadyTask.Simulation

/-- What the collaborators of a world have yet to answer, and what they were asked. -/
@[ext]
structure Scripts where
  clients : List (String × Llm.Client)
  router : InstalledRouter
  tools : List InstalledTool

namespace World

variable {α : Type} {w w' : World} {r : Request}

def scripts (w : World) : Scripts :=
  ⟨w.clients, w.router, w.tools⟩

def withScripts (w : World) (s : Scripts) : World :=
  { w with clients := s.clients, router := s.router, tools := s.tools }

/-! ## One call -/

/-- The world once a call is made, after which time the call is answered, and how. -/
def answerCall (w : World) (r : Request) (h : r.isCall = true) : World × Millis × r.Answer :=
  match r with
  | .ask client messages limit => w.askClient client messages limit
  | .consult limit => w.consultRouter limit
  | .useTool tool args limit => w.useTool tool args limit
  | .read _ _ | .readAll _ | .forget _ | .now | .mode | .pause _ | .startMonitor | .stopMonitor _
  | .evaluate _ | .reflect _ | .awaitReflections => nomatch h

/-- Whoever makes a call waits for an answer that is settled already. -/
theorem begin_call (p : Party) (h : r.isCall = true) (resume : r.Answer → Activity α) :
    w.begin p r resume =
      (w.answerCall r h).1.sleepThen p (w.answerCall r h).2.1 (resume (w.answerCall r h).2.2) := by
  cases r with
  | ask client messages limit => rfl
  | consult limit => rfl
  | useTool tool args limit => rfl
  | _ => cases h

theorem askClient_withScripts (client : String) (messages : List Llm.Message)
    (limit : Option Millis) :
    (w'.withScripts w.scripts).askClient client messages limit =
      (w'.withScripts (w.askClient client messages limit).1.scripts,
        (w.askClient client messages limit).2) := by
  unfold askClient
  dsimp only [withScripts, scripts]
  split <;> rfl

theorem consultRouter_withScripts (limit : Millis) :
    (w'.withScripts w.scripts).consultRouter limit =
      (w'.withScripts (w.consultRouter limit).1.scripts, (w.consultRouter limit).2) := by
  unfold consultRouter
  dsimp only [withScripts, scripts]
  split <;> rfl

theorem useTool_withScripts (tool : String) (args : Json.Value) (limit : Millis) :
    (w'.withScripts w.scripts).useTool tool args limit =
      (w'.withScripts (w.useTool tool args limit).1.scripts, (w.useTool tool args limit).2) := by
  unfold useTool
  dsimp only [withScripts, scripts]
  split
  · rfl
  · split <;> rfl

/-- A call is answered from the scripts, and changes nothing else. -/
theorem answerCall_withScripts (w w' : World) (h : r.isCall = true) :
    (w'.withScripts w.scripts).answerCall r h =
      (w'.withScripts (w.answerCall r h).1.scripts, (w.answerCall r h).2) := by
  cases r with
  | ask client messages limit => exact askClient_withScripts client messages limit
  | consult limit => exact consultRouter_withScripts limit
  | useTool tool args limit => exact useTool_withScripts tool args limit
  | _ => cases h

theorem withScripts_of_scripts (hScripts : w'.scripts = w.scripts) :
    w'.withScripts w.scripts = w' := by
  rw [← hScripts]
  rfl

/-! ## Calls one after another -/

/-- The world after a call. -/
def replayCall (w : World) (call : Call) : World :=
  if h : call.exchange.request.isCall = true then (w.answerCall call.exchange.request h).1 else w

/-- The world after calls, with nothing else done in it. -/
def replay (w : World) (calls : List Call) : World :=
  calls.foldl replayCall w

theorem replay_append_call (calls : List Call) (start took : Millis) (h : r.isCall = true)
    (answer : r.Answer) :
    w.replay (calls ++ [⟨start, took, r, answer⟩]) = ((w.replay calls).answerCall r h).1 := by
  rw [replay, List.foldl_append]
  exact dif_pos h

theorem scripts_replayCall (hScripts : w'.scripts = w.scripts) (call : Call) :
    (w'.replayCall call).scripts = (w.replayCall call).scripts := by
  unfold replayCall
  split
  · next hCall =>
      rw [← withScripts_of_scripts hScripts, answerCall_withScripts _ _ hCall]
      rfl
  · exact hScripts

/-- What calls leave of the scripts depends on the scripts. -/
theorem scripts_replay (hScripts : w'.scripts = w.scripts) (calls : List Call) :
    (w'.replay calls).scripts = (w.replay calls).scripts := by
  induction calls generalizing w w' with
  | nil => exact hScripts
  | cons call calls ih => exact ih (scripts_replayCall hScripts call)

/-- The models, the router and the tools of a world, as collaborators. -/
def collaborators (w : World) : Collaborators where
  ask calls _ client messages limit := ((w.replay calls).askClient client messages limit).2
  consult calls _ limit := ((w.replay calls).consultRouter limit).2
  useTool calls _ tool args limit := ((w.replay calls).useTool tool args limit).2

theorem answer_collaborators (calls : List Call) (now : Millis) (h : r.isCall = true) :
    w.collaborators.answer calls now r h = ((w.replay calls).answerCall r h).2 := by
  cases r with
  | ask client messages limit => rfl
  | consult limit => rfl
  | useTool tool args limit => rfl
  | _ => cases h

/-- Worlds with the same scripts have the same collaborators. -/
theorem collaborators_of_scripts (hScripts : w'.scripts = w.scripts) :
    w'.collaborators = w.collaborators := by
  have hAnswer (r : Request) (h : r.isCall = true) (calls : List Call) :
      ((w'.replay calls).answerCall r h).2 = ((w.replay calls).answerCall r h).2 := by
    rw [← withScripts_of_scripts (scripts_replay hScripts calls), answerCall_withScripts _ _ h]
  simp only [collaborators, Collaborators.mk.injEq]
  refine ⟨?_, ?_, ?_⟩
  · funext calls _ client messages limit
    exact hAnswer (.ask client messages limit) rfl calls
  · funext calls _ limit
    exact hAnswer (.consult limit) rfl calls
  · funext calls _ tool args limit
    exact hAnswer (.useTool tool args limit) rfl calls

/-- A world that has got as far as another one with calls makes the next one as the collaborators of
the other one answer it. -/
theorem begin_call_of_replay {w₀ : World} {calls : List Call}
    (hScripts : w.scripts = (w₀.replay calls).scripts) (p : Party) (h : r.isCall = true)
    (resume : r.Answer → Activity α) :
    let answered := w₀.collaborators.answer calls w.now r h
    let made : Call := ⟨w.now, answered.1, r, answered.2⟩
    w.begin p r resume =
      (w.withScripts (w₀.replay (calls ++ [made])).scripts).sleepThen p answered.1
        (resume answered.2) := by
  intro answered made
  have hAnswered : w.answerCall r h =
      (w.withScripts ((w₀.replay calls).answerCall r h).1.scripts, answered) := by
    have hSame := answerCall_withScripts (w₀.replay calls) w h
    rw [withScripts_of_scripts hScripts] at hSame
    rw [hSame, ← answer_collaborators calls w.now h]
  rw [begin_call p h, hAnswered, replay_append_call]

end World

end SteadyTask.Simulation
