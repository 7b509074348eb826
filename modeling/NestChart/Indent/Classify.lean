import NestChart.Indent.Quote
import NestChart.Indent.Shape
import NestChart.Node

/-!
# NestChart.Indent.Classify

The category of a trimmed line of an indentation language, from its text alone. Blocks open with a
colon and close by a return to an outer column, never by a mark.
-/

namespace NestChart.Indent

/-- The line is a comment to its end. -/
def isComment (text : Chars) : Bool := text.head? == some '#'

/-- The category of a line of code. -/
def classify (text : Chars) : Category :=
  if isComment text || (QuoteStyle.leading? text).isSome then .comment
  else if Shape.isImport text then .directive
  else if Shape.isDefinition text then .declaration
  else if Shape.isControl text then .controlHeader
  else .statement

/-- The line opens a block that the next lines belong to. -/
def opensBlock (text : Chars) : Bool := text.getLast? == some ':'

end NestChart.Indent
