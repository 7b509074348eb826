/-!
# NestChart.Span

Byte ranges of a source. Every node keeps the span it was read from, so that a drawn box leads back
to its text. `cover` is the least span around two.
-/

namespace NestChart

/-- The bytes from `start` up to, and without, `stop`. -/
structure Span where
  start : Nat
  stop : Nat
  deriving Repr, DecidableEq

namespace Span

/-- Bytes in the span; none if it ends before it starts. -/
def length (s : Span) : Nat := s.stop - s.start

def isEmpty (s : Span) : Bool := s.length == 0

/-- The least span that holds both. -/
def cover (s t : Span) : Span := ⟨min s.start t.start, max s.stop t.stop⟩

/-- The covers of every beginning of a list of spans, the first span alone first. -/
def runningCovers : List Span → List Span
  | [] => []
  | s :: rest => s :: go s rest
where
  /-- The covers of `c` with every non-empty beginning of the list. -/
  go (c : Span) : List Span → List Span
    | [] => []
    | t :: rest => c.cover t :: go (c.cover t) rest

end Span
end NestChart
