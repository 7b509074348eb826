import NestChart.Brace.Builder
import NestChart.Classify
import NestChart.Indent.Builder

/-!
# NestChart.Reading

The flow of a source in either language.
-/

namespace NestChart.Language

/-- Reads a source into its flow. -/
def flow : Language → Chars → Flow
  | .braces => Brace.builder.flow
  | .indentation => Indent.builder.flow

/-- The depth after each physical line of a source. -/
def depths (l : Language) (source : Chars) : List Nat :=
  match l with
  | .braces => Brace.builder.depths Brace.builder.start (Line.ofSource source)
  | .indentation => Indent.builder.depths Indent.builder.start (Line.ofSource source)

end NestChart.Language
