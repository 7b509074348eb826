import NestChart.Span
import NestChart.Text.Basic

/-!
# NestChart.Line

Physical lines of a source: number, place and text. A line's content is its text without the line
end; its trimmed span is where the content without outer blanks lies.
-/

namespace NestChart

/-- One physical line. -/
structure Line where
  /-- Lines are numbered from 1. -/
  number : Nat
  /-- Byte at which the line begins. -/
  start : Nat
  /-- The text with the line end that closes it. -/
  text : Chars
  deriving Repr, DecidableEq

namespace Line

open Text

/-- A carriage return or a line feed. -/
def isLineEnd (c : Char) : Bool := c == '\r' || c == '\n'

/-- The bytes of the line, line end included. -/
def span (l : Line) : Span := ⟨l.start, l.start + byteLength l.text⟩

/-- The text without the carriage returns and line feeds at its end. -/
def content (l : Line) : Chars := (l.text.reverse.dropWhile isLineEnd).reverse

/-- The content without outer blanks. -/
def trimmed (l : Line) : Chars := trim l.content

/-- Where the trimmed content lies; a blank line has an empty span at its start. -/
def trimmedSpan (l : Line) : Span :=
  if l.trimmed.isEmpty then ⟨l.start, l.start⟩
  else
    let start := l.start + byteLength (l.content.takeWhile isBlank)
    ⟨start, start + byteLength l.trimmed⟩

/-- Numbers and places consecutive texts, from line `number` at byte `start` on. -/
def locate (number start : Nat) : List Chars → List Line
  | [] => []
  | t :: rest => ⟨number, start, t⟩ :: locate (number + 1) (start + byteLength t) rest

/-- The physical lines of a source. -/
def ofSource (source : Chars) : List Line := locate 1 0 (physicalLines source)

end Line
end NestChart
