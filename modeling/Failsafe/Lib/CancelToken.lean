import Mathlib.Data.List.Infix

/-!
Trees of cancellation tokens.

A token is the path from its root: `index :: parent` is a child of `parent`.
Cancelling a token cancels everything below it and nothing else.
-/

namespace Failsafe.Lib

abbrev Token := List Nat

/-- The tokens handed out so far and those on which `cancel` was called. -/
structure Tokens where
  next : Nat
  cancelled : List Token

namespace Tokens

def empty : Tokens :=
  { next := 0, cancelled := [] }

def new (tokens : Tokens) : Token × Tokens :=
  ([tokens.next], { tokens with next := tokens.next + 1 })

def child (tokens : Tokens) (parent : Token) : Token × Tokens :=
  (tokens.next :: parent, { tokens with next := tokens.next + 1 })

def cancel (tokens : Tokens) (token : Token) : Tokens :=
  { tokens with cancelled := token :: tokens.cancelled }

def isCancelled (tokens : Tokens) (token : Token) : Bool :=
  tokens.cancelled.any fun ancestor => ancestor.isSuffixOf token

variable {tokens : Tokens} {token other : Token}

theorem isCancelled_iff :
    tokens.isCancelled token = true ↔ ∃ ancestor ∈ tokens.cancelled, ancestor <:+ token := by
  simp [isCancelled]

@[simp] theorem cancelled_new : tokens.new.2.cancelled = tokens.cancelled := rfl

@[simp] theorem cancelled_child (parent : Token) :
    (tokens.child parent).2.cancelled = tokens.cancelled := rfl

/-- Cancelling reaches the token itself and its descendants, and no other. -/
theorem isCancelled_cancel_iff :
    (tokens.cancel other).isCancelled token = true ↔
      other <:+ token ∨ tokens.isCancelled token = true := by
  simp [isCancelled_iff, cancel]

end Tokens

end Failsafe.Lib
