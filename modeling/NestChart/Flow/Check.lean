import NestChart.Node

/-!
# NestChart.Flow.Check

A check of a flow against its source: spans lie in the source, lines never go back, and every text
is found in its span. Comments over several lines have lost their inner indentation and are only
checked for the first two.
-/

namespace NestChart.Flow

open Text

/-- What is wrong with a node. -/
inductive Fault
  | spanOutOfBounds
  | outOfSourceOrder
  | textNotInSpan
  deriving Repr, DecidableEq

/-- Drops whole characters of `n` bytes, or more if a character reaches past them. -/
def dropBytes : Nat → Chars → Chars
  | 0, cs => cs
  | _, [] => []
  | n + 1, c :: cs => dropBytes (n + 1 - c.utf8Size) cs
termination_by _ cs => cs.length

/-- Whole characters of `n` bytes, or more if a character reaches past them. -/
def takeBytes : Nat → Chars → Chars
  | 0, _ => []
  | _, [] => []
  | n + 1, c :: cs => c :: takeBytes (n + 1 - c.utf8Size) cs
termination_by _ cs => cs.length

/-- The text of a span of the source. -/
def slice (source : Chars) (s : Span) : Chars := takeBytes s.length (dropBytes s.start source)

/-- A comment that takes several lines. -/
def isMerged (n : Node) : Bool := n.category == .comment && n.text.contains '\n'

/-- What is wrong with a node that follows one on line `lastLine`. -/
def nodeFault? (source : Chars) (lastLine : Nat) (n : Node) : Option Fault :=
  if n.span.stop < n.span.start ∨ byteLength source < n.span.stop then some .spanOutOfBounds
  else if n.line < lastLine then some .outOfSourceOrder
  else if !isMerged n && !contains n.text (slice source n.span) then some .textNotInSpan
  else none

/-- The first fault among nodes that follow one on line `lastLine`. -/
def firstFault? (source : Chars) (lastLine : Nat) : List Node → Option Fault
  | [] => none
  | n :: ns =>
    match nodeFault? source lastLine n with
    | some fault => some fault
    | none => firstFault? source n.line ns

/-- The first fault of a flow. -/
def fault? (source : Chars) (f : Flow) : Option Fault := firstFault? source 0 f.nodes

end NestChart.Flow
