import NestChart.Node

/-!
# NestChart.Nesting

The stack of open blocks. Closing a block when none is open leaves the stack alone and is an
anomaly; a stack with a base frame can be kept from losing it.
-/

namespace NestChart

/-- Open blocks, the innermost first. -/
structure Nesting (α : Type) where
  frames : List α
  deriving Repr, DecidableEq

namespace Nesting

variable {α : Type}

def empty : Nesting α := ⟨[]⟩

/-- One frame that stands for no block. -/
def withBase (base : α) : Nesting α := ⟨[base]⟩

def top? (s : Nesting α) : Option α := s.frames.head?

def push (s : Nesting α) (frame : α) : Nesting α := ⟨frame :: s.frames⟩

/-- What closing a block leaves: the frame it had, the stack and the anomaly met, if any. -/
structure Closed (α : Type) where
  frame? : Option α
  stack : Nesting α
  anomalies : List Anomaly

/-- Closes the innermost block; `line` is where the closer stands. -/
def close (s : Nesting α) (line : Nat) : Closed α :=
  match s.frames with
  | [] => ⟨none, s, [⟨line, .unmatchedCloser⟩]⟩
  | f :: rest => ⟨some f, ⟨rest⟩, []⟩

/-- Closes the innermost block unless only the base is left. -/
def closeAboveBase (s : Nesting α) : Option α × Nesting α :=
  match s.frames with
  | f :: g :: rest => (some f, ⟨g :: rest⟩)
  | _ => (none, s)

end Nesting
end NestChart
