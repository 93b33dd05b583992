import PromiseHttp.Promise.Machine

namespace PromiseHttp
namespace Promise

/-!
# Scripts

A script performs actions one after another and notes after each of them its result and what was
reported and logged on the way.  A panic ends its action only.
-/

/-- What is noted about one action of a script. -/
structure Note where
  result : Result
  reports : List (String × Report)
  logs : List LogEntry

namespace Scene

/-- Performs one action to its end. -/
def perform (scene : Scene) (action : Action) : Scene × Note :=
  let machine := (Machine.mk { scene with reports := [], logs := [] } (.perform action) []).finish
  let result := match machine.control with
    | .answer result => result
    | .panic text => .panicked text
    | _ => .blocked
  (machine.scene, ⟨result, machine.scene.reports, machine.scene.logs⟩)

/-- Performs actions one after another. -/
def performAll (scene : Scene) : List Action → List Note
  | [] => []
  | action :: rest =>
    let (scene, note) := scene.perform action
    note :: scene.performAll rest

end Scene

/-- The notes of a script that starts from nothing. -/
def runScript (script : List Action) : List Note :=
  Scene.empty.performAll script

end Promise
end PromiseHttp
