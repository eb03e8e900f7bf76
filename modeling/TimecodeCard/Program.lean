import TimecodeCard.CommandLine

/-!
# The program

`Program.run` carries out one call of the program: it reads the arguments, runs the session and
says how the call ends (`Ending`), with its exit code, its lines of output and its line of
errors.
-/

namespace TimecodeCard

/-- How a call of the program ends. -/
inductive Ending
  /-- The session is over, with its report. -/
  | report (lines : List String)
  /-- The session is refused. -/
  | refusal (c : Complaint)
  /-- The arguments are not taken. -/
  | usage (p : CommandLine.UsageProblem)
  /-- A computation of the session had no result. -/
  | fault (f : Fault)
  deriving DecidableEq, Repr

namespace Ending

/-- The exit code. -/
def exitCode : Ending → Nat
  | .report _ => 0
  | .refusal _ | .usage _ => 1
  | .fault _ => 101

/-- The lines of output. -/
def output : Ending → List String
  | .report lines => lines
  | .refusal _ | .usage _ | .fault _ => []

/-- The line of errors. -/
def error? : Ending → Option String
  | .report _ => none
  | .refusal c => some c.sessionText
  | .usage p => some p.message
  | .fault .overflow => some "arithmetic overflow"
  | .fault .missingQuadlet => some "missing quadlet"

end Ending

namespace Program

/-- The end of the session of the settings. -/
def runSession (s : Settings) (now : Nat) : Ending :=
  match Session.run s now with
  | .finished report => .report report
  | .refused r => .refusal r.complaint
  | .faulted f => .fault f

/-- The end of a call with the arguments, at the given real time in nanoseconds. -/
def run (arguments : List String) (now : Nat) : Ending :=
  match CommandLine.parse arguments with
  | .error p => .usage p
  | .ok a => runSession a.settings now

/-- How long a call that ends so waits, in milliseconds, for its periods to take their real
time. -/
def waitMillis (arguments : List String) (ending : Ending) : Nat :=
  match ending, CommandLine.parse arguments with
  | .report _, .ok a =>
    if a.realtime then
      a.settings.periods * a.settings.periodSize * 1000 / max a.settings.rate 1
    else 0
  | _, _ => 0

end Program

end TimecodeCard
