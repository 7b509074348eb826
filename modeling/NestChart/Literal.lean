/-!
# NestChart.Literal

Where a left-to-right scan of code stands with respect to string and character literals. A quote
opens a literal that the same quote closes; inside, a backslash takes the next character with it.
-/

namespace NestChart

/-- A double or single quote. -/
def isQuote (c : Char) : Bool := c == '"' || c == '\''

/-- The place of a scan. -/
inductive Literal
  /-- In code. -/
  | outside
  /-- In a literal that `quote` closes. -/
  | inside (quote : Char)
  /-- In such a literal, just after a backslash. -/
  | escaped (quote : Char)
  deriving Repr, DecidableEq

namespace Literal

/-- The place after one more character. -/
def next : Literal → Char → Literal
  | outside, c => if isQuote c then inside c else outside
  | inside q, c => if c = '\\' then escaped q else if c = q then outside else inside q
  | escaped q, _ => inside q

/-- The place after a text. -/
def after (l : Literal) (cs : List Char) : Literal := cs.foldl next l

@[simp] theorem after_nil (l : Literal) : l.after [] = l := rfl

@[simp] theorem after_cons (l : Literal) (c : Char) (cs : List Char) :
    l.after (c :: cs) = (l.next c).after cs := rfl

theorem after_append (l : Literal) (a b : List Char) :
    l.after (a ++ b) = (l.after a).after b := by
  simp [after, List.foldl_append]

end Literal
end NestChart
