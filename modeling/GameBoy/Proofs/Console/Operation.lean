import GameBoy.Console

/-!
# Histories of a console

A host asks seven things of a console, in any order and with any arguments. Each
is an operation with an answer; a history is a list of them, and the consoles that
can occur are those that some history of a new console leads to.
-/

namespace GameBoy

/-- What a host can ask of a console. -/
inductive Operation where
  | loadBootRom (image : Image)
  | loadCartridge (image : Image)
  | loadRam (data : Array Byte)
  | reset
  | step
  | renderFrame
  | setButton (button : Button) (pressed : Bool)

/-- What an operation answers, with the events on the way. -/
inductive Answer where
  | done
  | loaded (result : Except LoadError (List Event))
  | stepped (result : Except Fault Nat) (events : Array Event)
  | rendered (result : Except Fault Frame) (events : Array Event)

namespace Console

/-- The answer to a load, whether it was accepted or not. -/
def afterLoad (outcome : Except LoadError (List Event) × Console) : Answer × Console :=
  (.loaded outcome.1, outcome.2)

/-- The answer to a step. -/
def afterStep (outcome : Outcome Nat) : Answer × Console :=
  (.stepped outcome.result outcome.events, outcome.console)

/-- The answer to a frame: the last completed one, unless there was a fault. -/
def afterFrame (outcome : Outcome Unit) : Answer × Console :=
  (.rendered (outcome.result.map fun _ => outcome.console.frame) outcome.events,
    outcome.console)

/-- The answer to an operation, and the console after it. -/
def perform (console : Console) : Operation → Answer × Console
  | .loadBootRom image => afterLoad (console.attempt (installBootRom image))
  | .loadCartridge image => afterLoad (console.attempt (insertCartridge image))
  | .loadRam data => (.done, console.loadRam data)
  | .reset => (.done, console.reset)
  | .step => afterStep console.step
  | .renderFrame => afterFrame console.renderFrame
  | .setButton button pressed => (.done, console.setButton button pressed)

/-- The answers to a history, and the console after it. -/
def performAll (console : Console) : List Operation → List Answer × Console
  | [] => ([], console)
  | operation :: operations =>
    let (answer, console) := console.perform operation
    let (answers, console) := console.performAll operations
    (answer :: answers, console)

/-- The console that a history of a new console leads to. -/
def after (config : Config) (history : List Operation) : Console :=
  ((new config).performAll history).2

section

variable {console next : Console} {load : LoadM (List Event)}

/-- A load that is accepted is answered with its events. -/
theorem afterLoad_of_accept {events : List Event}
    (accepted : console.accept load = .ok (next, events)) :
    afterLoad (console.attempt load) = (.loaded (.ok events), next) := by
  rw [accept] at accepted
  generalize console.attempt load = outcome at accepted
  obtain ⟨reason | report, after⟩ := outcome
  · exact nomatch accepted
  · cases accepted
    rfl

/-- A load that is rejected is answered with the reason. -/
theorem fst_afterLoad_of_reject {error : LoadError}
    (rejected : console.accept load = .error error) :
    (afterLoad (console.attempt load)).1 = .loaded (.error error) := by
  rw [accept] at rejected
  generalize console.attempt load = outcome at rejected
  obtain ⟨reason | report, after⟩ := outcome
  · cases rejected
    rfl
  · exact nomatch rejected

end

/-- A frame ends where a step faults. -/
theorem runFrame_of_fault {console : Console} {fault : Fault}
    (failed : console.step.result = .error fault) (budget elapsed : Nat)
    (events : Array Event) :
    runFrame budget console elapsed events =
      { result := .error fault
        console := console.step.console
        events := events ++ console.step.events } := by
  fun_cases runFrame budget console elapsed events with
  | case1 outcome later other same =>
      cases failed.symm.trans same
      rfl
  | case2 outcome later cycles ran => exact nomatch failed.symm.trans ran
  | case3 outcome later cycles ran => exact nomatch failed.symm.trans ran
  | case4 outcome later cycles ran => exact nomatch failed.symm.trans ran

/-- A frame ends where one is complete or the cycles are used up, and goes on
otherwise. -/
theorem runFrame_of_ran {console : Console} {cycles : Nat}
    (ran : console.step.result = .ok cycles) (budget elapsed : Nat) (events : Array Event) :
    runFrame budget console elapsed events =
      (let after := console.step.console
      let events := events ++ console.step.events
      if after.board.lcd.frameReady then
        { result := .ok (), console := after.clearReady, events }
      else if budget ≤ elapsed + cycles ∧ after.board.lcd.enabled = false ∨
          giveUp budget ≤ elapsed + cycles then
        { result := .ok (), console := after, events }
      else runFrame budget after (elapsed + cycles) events) := by
  fun_cases runFrame budget console elapsed events with
  | case1 outcome later fault failed => exact nomatch ran.symm.trans failed
  | case2 outcome later other same lcd ready =>
      cases ran.symm.trans same
      exact (if_pos ready).symm
  | case3 outcome later other same now lcd unready spent =>
      cases ran.symm.trans same
      exact ((if_neg unready).trans (if_pos spent)).symm
  | case4 outcome later other same now lcd unready left =>
      cases ran.symm.trans same
      exact ((if_neg unready).trans (if_neg left)).symm

/-- What a step keeps, and what does not depend on whether a frame is ready, a frame
keeps. -/
theorem runFrame_keeps (Holds : Console → Prop)
    (step : ∀ console, Holds console → Holds console.step.console)
    (clearReady : ∀ console, Holds console → Holds console.clearReady) (budget : Nat)
    {console : Console} (holds : Holds console) (elapsed : Nat) (events : Array Event) :
    Holds (runFrame budget console elapsed events).console := by
  fun_induction runFrame budget console elapsed events with
  | case1 => exact step _ holds
  | case2 => exact clearReady _ (step _ holds)
  | case3 => exact step _ holds
  | case4 console elapsed events outcome _ cycles ran _ _ _ _ ih =>
      exact ih (step _ holds)

/-- What every operation keeps holds after a history. -/
theorem performAll_keeps (Holds : Console → Prop)
    (keeps : ∀ console operation, Holds console → Holds (console.perform operation).2)
    {console : Console} (holds : Holds console) (history : List Operation) :
    Holds (console.performAll history).2 := by
  induction history generalizing console with
  | nil => exact holds
  | cons operation operations ih => exact ih (keeps console operation holds)

end Console

end GameBoy
