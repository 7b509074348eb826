import NestChart.Literal
import NestChart.Text.Basic

/-!
# NestChart.Indent.Continuation

Logical lines that run over several physical ones: a bracket is open, or a backslash ends the line.
The lines that continue one carry no indentation of their own.
-/

namespace NestChart.Indent.Continuation

open Text

/-- What a character of code adds to the number of open brackets. -/
def bracketValue (c : Char) : Int :=
  if c = '(' ∨ c = '[' ∨ c = '\x7b' then 1
  else if c = ')' ∨ c = ']' ∨ c = '\x7d' then -1
  else 0

/-- Brackets opened less brackets closed, from a place in the line on. -/
def balanceFrom (l : Literal) : Chars → Int
  | [] => 0
  | c :: cs =>
    if l = .outside then
      if c = '#' then 0 else bracketValue c + balanceFrom (l.next c) cs
    else balanceFrom (l.next c) cs

/-- Brackets opened less brackets closed on a line, without those in literals and behind `#`. -/
def balance (text : Chars) : Int := balanceFrom .outside text

/-- The line ends with a backslash. -/
def isExplicit (text : Chars) : Bool := text.getLast? == some '\\'

end NestChart.Indent.Continuation
