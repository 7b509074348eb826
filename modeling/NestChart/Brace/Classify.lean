import NestChart.Brace.Block
import NestChart.Brace.Comment
import NestChart.Brace.Shape
import NestChart.Node

/-!
# NestChart.Brace.Classify

The category of a trimmed line of a brace language, from its text alone.
-/

namespace NestChart.Brace

/-- The category of a line of code. -/
def classify (text : Chars) : Category :=
  if Comment.start text ≠ .none then .comment
  else if text.head? = some '#' then .directive
  else if Shape.isFlow text then
    if Shape.isControl text || (Shape.label? text).isSome then .controlHeader else .statement
  else if Shape.isPrototype text then .prototype
  else if Shape.isVariable text || Shape.isFunctionHead text then .declaration
  else .statement

/-- The line ends by opening a block. -/
def opensBlock (text : Chars) : Bool := (Block.beforeOpen? text).isSome

/-- The line begins by closing the innermost block. -/
def closesBlock (text : Chars) : Bool := (Block.afterClose? text).isSome

end NestChart.Brace
