import NestChart.Shape

/-!
# NestChart.Indent.Shape

Shapes of lines in an indentation language: control words, definitions and imports.
-/

namespace NestChart.Indent.Shape

open Text NestChart.Shape

def controlWords : List Chars :=
  ["if", "elif", "else", "for", "while", "try", "except", "finally", "with", "match", "case"].map
    String.toList

/-- The head of a branch, loop, handler or choice. -/
def isControl (text : Chars) : Bool :=
  startsWithAny controlWords text || startsWithPair "async".toList "for".toList text ||
    startsWithPair "async".toList "with".toList text

/-- The head of a function or class. -/
def isDefinition (text : Chars) : Bool :=
  startsWithAny ["def".toList, "class".toList] text ||
    startsWithPair "async".toList "def".toList text

/-- The line begins with the word and a blank. -/
def startsWithBlankAfter (word text : Chars) : Bool :=
  match after? word text with
  | some (c :: _) => isBlank c
  | _ => false

def isImport (text : Chars) : Bool :=
  startsWithBlankAfter "import".toList text || startsWithBlankAfter "from".toList text

end NestChart.Indent.Shape
