import NestChart.Path

/-!
# NestChart.Language

The languages that can be drawn, told apart by how they nest blocks, and the choice of one from a
file's extension.
-/

namespace NestChart

/-- How a source marks its blocks. -/
inductive Language
  /-- Between braces. -/
  | braces
  /-- By leading white space. -/
  | indentation
  deriving Repr, DecidableEq

/-- Why a file has no language. -/
inductive LanguageError
  | unsupported (extension : Chars)
  | missingExtension (path : Chars)
  deriving Repr, DecidableEq

def LanguageError.message : LanguageError → Chars
  | .unsupported extension => "unsupported file extension: .".toList ++ extension
  | .missingExtension path => "file has no extension: ".toList ++ path

namespace Language

def name : Language → Chars
  | braces => "C".toList
  | indentation => "Python".toList

/-- Whether a chart is split into titled sections. -/
def groupsSections : Language → Bool
  | braces => true
  | indentation => false

/-- The language of an extension, written in capital or small ASCII letters. -/
def ofExtension (extension : Chars) : Except LanguageError Language :=
  let small := extension.map Char.toLower
  if small = "c".toList || small = "h".toList then .ok braces
  else if small = "py".toList then .ok indentation
  else .error (.unsupported extension)

/-- The language of a file, from the extension of its name. -/
def ofPath (path : Chars) : Except LanguageError Language :=
  match Path.extension? path with
  | some extension => ofExtension extension
  | none => .error (.missingExtension path)

end Language
end NestChart
