import QueryTrace.Session.Perform

/-!
# Running a session

The steps of a script are carried out in order, and each one leaves a note when it is done. A step
inside another one leaves its note at a greater depth. After the last step the remaining objects are
dropped.

Every step of the script is carried out at most once: a body is entered by its step, and a response
is taken from its queue before its steps are carried out. So the weight of the script bounds how
deep steps can stand inside one another, and how many responses are left for a stream that keeps
asking.
-/

namespace QueryTrace.Session

/-- Carries out steps at a depth. -/
def runSteps : Nat → Nat → List Step → Doing Unit
  | 0, _, _ => return ()
  | fuel + 1, depth, steps =>
    steps.forM fun step => do
      let result ← (step.perform (runSteps fuel (depth + 1)) (fuel + 1)).run
      note (.step step.verb depth result)

/-- A script and what it is run with. -/
structure Script where
  steps : List Step
  /-- Log events of the tracing layers are kept. -/
  logs : Bool := false
  /-- The provider that is used where none is named. -/
  provider : Provider := .inert
  /-- How many layers steps can put around an object, if that is bounded. -/
  room : Option Nat := none

namespace Script

/-- The world in which a script starts. -/
def initial (s : Script) : World Desk Note :=
  { logging := s.logs, program := { provider := s.provider, room := s.room } }

/-- Fuel for a script: more than the steps and the prepared responses in it. -/
def fuel (s : Script) : Nat :=
  Step.bodyWeight s.steps + 2

/-- All that happens in the session of a script. -/
def play (s : Script) : Doing Unit := do
  runSteps s.fuel 0 s.steps
  clear

def journal (s : Script) : List (Entry Note) :=
  (s.play.run s.initial).2.journal

end Script

end QueryTrace.Session
