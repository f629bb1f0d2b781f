/-!
# Cancellation Tokens

A token is cancelled once and for all. A token can be the child of another one:
it can then be cancelled alone, and is cancelled along with its parent.

Whoever watches a token does so through a signal, which can be disarmed. A
disarmed signal never asks anyone to stop, whatever becomes of its token.

## Main definitions

* `Token`: A token with its ancestors.
* `Token.isCancelled`, `Token.cancel`, `Token.cancelRoot`: Its states.
* `Signal`: A token as seen by one who may ignore it.

## Theorems

* `Token.isCancelled_cancel`, `Token.isCancelled_cancelRoot`: Cancelling a
  token, or the one it stems from, is seen by the token.
-/

namespace Vitae

/-- A cancellation token with its ancestors. -/
inductive Token where
  | root (cancelled : Bool)
  | child (parent : Token) (cancelled : Bool)
deriving DecidableEq, Repr

namespace Token

/-- A token that has not been cancelled. -/
def fresh : Token := .root false

/-- Whether a token or any of its ancestors has been cancelled. -/
def isCancelled : Token → Bool
  | .root cancelled => cancelled
  | .child parent cancelled => cancelled || parent.isCancelled

def cancel : Token → Token
  | .root _ => .root true
  | .child parent _ => .child parent true

/-- A token after the one it stems from has been cancelled. -/
def cancelRoot : Token → Token
  | .root _ => .root true
  | .child parent cancelled => .child parent.cancelRoot cancelled

/-- Whether the token that a token stems from has been cancelled. -/
def rootCancelled : Token → Bool
  | .root cancelled => cancelled
  | .child parent _ => parent.rootCancelled

@[simp]
theorem isCancelled_cancel (token : Token) : token.cancel.isCancelled = true := by
  cases token <;> simp [cancel, isCancelled]

@[simp]
theorem isCancelled_cancelRoot (token : Token) : token.cancelRoot.isCancelled = true := by
  induction token with
  | root _ => rfl
  | child parent _ ih => simp [cancelRoot, isCancelled, ih]

end Token

/-- A token as seen by one who may ignore it. -/
structure Signal where
  token : Token
  /-- Whether the token is heeded. -/
  armed : Bool
deriving DecidableEq, Repr

def Signal.shouldStop (signal : Signal) : Bool :=
  signal.armed && signal.token.isCancelled

end Vitae
