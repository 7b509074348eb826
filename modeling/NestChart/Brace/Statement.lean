import NestChart.Brace.Scan
import NestChart.Text.Basic

/-!
# NestChart.Brace.Statement

Statements of a line. Each ends at a terminator outside literals and parentheses; the last may lack
one. Statements without content are dropped.
-/

namespace NestChart.Brace.Statement

open Text

/-- A statement, without outer blanks, and the byte of the line at which it begins. -/
structure Segment where
  start : Nat
  text : Chars
  deriving Repr, DecidableEq

/-- The byte after the last one of the statement. -/
def Segment.stop (s : Segment) : Nat := s.start + byteLength s.text

/-- Cuts after every terminator; `current` holds the piece read so far, last character first. -/
def piecesFrom (s : Scan) (current : Chars) : Chars → List Chars
  | [] => [current.reverse]
  | c :: cs =>
    if s.isTop && c == ';' then (c :: current).reverse :: piecesFrom (s.next c) [] cs
    else piecesFrom (s.next c) (c :: current) cs

/-- The pieces of a line up to and with each terminator, and what is left. -/
def pieces (text : Chars) : List Chars := piecesFrom .start [] text

/-- Trims and places consecutive pieces, the first of which begins at byte `start`. -/
def place (start : Nat) : List Chars → List Segment
  | [] => []
  | p :: ps =>
    let rest := place (start + byteLength p) ps
    let text := trim p
    if text = [] ∨ text = [';'] then rest
    else ⟨start + byteLength (p.takeWhile isBlank), text⟩ :: rest

/-- The statements of a line. -/
def segments (text : Chars) : List Segment := place 0 (pieces text)

end NestChart.Brace.Statement
