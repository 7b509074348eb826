import NestChart.Literal

/-!
# NestChart.Brace.Scan

Reading a line of code from left to right: which literal and how many parentheses are open. A
closing parenthesis without a partner is passed over.
-/

namespace NestChart.Brace

/-- What is open at a point of a line. -/
structure Scan where
  literal : Literal
  /-- Open parentheses. -/
  parens : Nat
  deriving Repr, DecidableEq

namespace Scan

/-- Nothing is open. -/
def start : Scan := ⟨.outside, 0⟩

/-- Code outside literals and parentheses. -/
def isTop (s : Scan) : Bool := s.literal == .outside && s.parens == 0

/-- What is open after one more character. -/
def next (s : Scan) (c : Char) : Scan where
  literal := s.literal.next c
  parens :=
    if s.literal ≠ .outside then s.parens
    else if c = '(' then s.parens + 1
    else if c = ')' then s.parens - 1
    else s.parens

/-- What is open after a text. -/
def after (s : Scan) (cs : List Char) : Scan := cs.foldl next s

@[simp] theorem after_nil (s : Scan) : s.after [] = s := rfl

@[simp] theorem after_cons (s : Scan) (c : Char) (cs : List Char) :
    s.after (c :: cs) = (s.next c).after cs := rfl

theorem after_append (s : Scan) (a b : List Char) :
    s.after (a ++ b) = (s.after a).after b := by
  simp [after, List.foldl_append]

end Scan
end NestChart.Brace
