import NestChart.Brace.Classify
import NestChart.Indent.Classify
import NestChart.Language

/-!
# NestChart.Classify

The category of a line in either language, inside a comment or string and outside.
-/

namespace NestChart

/-- What earlier lines have left open. -/
inductive Surrounding
  | code
  | blockComment
  | string (style : Indent.QuoteStyle)
  deriving Repr, DecidableEq

/-- The category of a line; inside a comment or string everything is a comment. -/
def Language.classify (l : Language) (s : Surrounding) (text : Chars) : Category :=
  if s ≠ .code then .comment
  else
    match l with
    | .braces => Brace.classify text
    | .indentation => Indent.classify text

/-- The line opens a block. -/
def Language.opensBlock : Language → Chars → Bool
  | .braces => Brace.opensBlock
  | .indentation => Indent.opensBlock

/-- The line begins by closing a block; only braces do. -/
def Language.closesBlock : Language → Chars → Bool
  | .braces => Brace.closesBlock
  | .indentation => fun _ => false

end NestChart
