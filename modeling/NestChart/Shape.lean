import NestChart.Pattern

/-!
# NestChart.Shape

Words at the head of a line. A word counts only where no word character follows it; the words of a
phrase have blanks between them.
-/

namespace NestChart.Shape

open Text

/-- The text is over or goes on with something that is no word character. -/
def atWordEnd : Chars → Bool
  | [] => true
  | c :: _ => !isWord c

/-- The line begins with the word. -/
def startsWithWord (word text : Chars) : Bool :=
  match after? word text with
  | some rest => atWordEnd rest
  | none => false

/-- The line begins with one of the words. -/
def startsWithAny (words : List Chars) (text : Chars) : Bool :=
  words.any (startsWithWord · text)

/-- The line begins with the two words. -/
def startsWithPair (first second text : Chars) : Bool :=
  match after? first text with
  | some (c :: rest) => isBlank c && startsWithWord second (trimStart rest)
  | _ => false

end NestChart.Shape
