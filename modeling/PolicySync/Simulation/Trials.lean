import PolicySync.Http.Retry
import PolicySync.Simulation.Clock

/-!
# Simulated attempts

Attempts whose outcomes are given beforehand, on a clock that moves only while one waits between
two attempts. After the last given outcome every attempt succeeds.
-/

namespace PolicySync.Simulation

/-- A question of a repeated attempt. -/
inductive Trial where
  | attempt
  | wait (milliseconds : Nat)

/-- How an attempt ends. -/
inductive TrialOutcome where
  | success
  | passing
  | fatal
  deriving DecidableEq, Repr

/-- What answers a question: how the attempt ended and its number. -/
abbrev Trial.Answer : Trial → Type
  | attempt => TrialOutcome × Nat
  | wait _ => Unit

/-- Why attempts have not succeeded. -/
inductive TrialError where
  /-- The attempt of this number has failed. -/
  | failed (number : Nat) (passing : Bool)
  | brokenDown
  deriving DecidableEq, Repr

/-- Whether the next attempt may succeed. -/
def TrialError.isPassing : TrialError → Bool
  | failed _ passing => passing
  | brokenDown => false

/-- The number of an attempt that succeeded, or that of one that failed. -/
def readTrial (answer : TrialOutcome × Nat) : Except TrialError Nat :=
  match answer.1 with
  | .success => .ok answer.2
  | .passing => .error (.failed answer.2 true)
  | .fatal => .error (.failed answer.2 false)

/-- Attempts so far and to come. -/
structure Trials where
  outcomes : List TrialOutcome
  now : Nat := 0
  /-- The times of the attempts so far, the latest first. -/
  times : List Nat := []

namespace Trials

/-- The answer to a question, and what is left to come. -/
def answer (trial : Trial) (t : Trials) : trial.Answer × Trials :=
  match trial with
  | .attempt =>
    ((t.outcomes.headD .success, t.times.length + 1),
      { t with outcomes := t.outcomes.tail, times := t.now :: t.times })
  | .wait milliseconds => ((), { t with now := alarm t.now milliseconds })

/-- The number of the attempt that succeeded, or why none has, with the times of all attempts. Every
outcome takes at most two questions, and one attempt more succeeds. -/
def run (policy : Http.RetryPolicy) (outcomes : List TrialOutcome) :
    Option (Except TrialError Nat × List Nat) :=
  let script : Script Trial Trial.Answer (Except TrialError Nat) :=
    Http.retry policy .attempt .wait readTrial TrialError.isPassing .brokenDown
  (script.run answer (2 * outcomes.length + 1) { outcomes }).map fun (result, t) =>
    (result, t.times.reverse)

end Trials

end PolicySync.Simulation
