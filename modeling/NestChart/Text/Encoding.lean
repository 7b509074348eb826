import NestChart.Text.Basic

/-!
# NestChart.Text.Encoding

Texts as bytes: UTF-8 is the one encoding of files and uploads.
-/

namespace NestChart

/-- The content of a file or message. -/
abbrev Bytes := List UInt8

namespace Text

/-- The text that the bytes encode, if they are valid UTF-8. -/
def ofUtf8? (bytes : Bytes) : Option Chars :=
  (String.fromUTF8? ⟨bytes.toArray⟩).map String.toList

/-- The bytes of a text. -/
def toUtf8 (cs : Chars) : Bytes := (String.ofList cs).toUTF8.toList

end Text
end NestChart
