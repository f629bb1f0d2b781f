/-!
# The Status of a Unit

A unit waits, runs and comes to an end, and never goes back. It may also end
without ever having run.

## Main definitions

* `Status`: The states of a unit.
* `Status.canAdvanceTo`: The steps between them.

## Theorems

* `Status.not_canAdvanceTo_of_isTerminal`: An end is final.
-/

namespace Vitae

/-- The states of a unit. -/
inductive Status where
  | pending
  | running
  | succeeded
  | failed
  | interrupted
deriving DecidableEq, Repr

namespace Status

/-- Every state, in order of reporting. -/
def all : List Status := [.pending, .running, .succeeded, .failed, .interrupted]

def name : Status → String
  | .pending => "pending"
  | .running => "running"
  | .succeeded => "succeeded"
  | .failed => "failed"
  | .interrupted => "interrupted"

def isTerminal : Status → Bool
  | .succeeded | .failed | .interrupted => true
  | .pending | .running => false

/-- Whether a unit may go from one state to another. -/
def canAdvanceTo (status next : Status) : Bool :=
  match status with
  | .pending => next != .pending
  | .running => next.isTerminal
  | _ => false

theorem not_canAdvanceTo_of_isTerminal {status : Status} (h : status.isTerminal = true)
    (next : Status) : status.canAdvanceTo next = false := by
  cases status <;> simp_all [isTerminal, canAdvanceTo]

end Status

end Vitae
