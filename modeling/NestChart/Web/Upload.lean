import NestChart.Chart
import NestChart.Web.Form

/-!
# NestChart.Web.Upload

The file of an upload form: which part it is, and whether it can be drawn. The cheapest reason for
a refusal comes first: the name, its extension, the size, the encoding. The chart is drawn last, in
a task of its own, which can break off.
-/

namespace NestChart.Web

open Text

/-- Why an upload is refused. -/
inductive UploadError
  | missingFile
  | missingFilename
  | language (e : LanguageError)
  | tooLarge (limit : Nat)
  | notUtf8
  /-- The form could not be read up to the end of its file. -/
  | form (e : FormError)
  /-- The task that draws the chart broke off. -/
  | render (cause : Chars)
  deriving Repr, DecidableEq

namespace UploadError

def message : UploadError → Chars
  | missingFile => "no file was uploaded".toList
  | missingFilename => "the uploaded file has no name".toList
  | language e => e.message
  | tooLarge limit =>
    "file exceeds the ".toList ++ Nat.toDigits 10 limit ++ " byte upload limit".toList
  | notUtf8 => "file is not valid UTF-8".toList
  | form e => "malformed upload: ".toList ++ e.message
  | render cause => "rendering failed: ".toList ++ cause

/-- The status of the answer. -/
def status : UploadError → Nat
  | tooLarge _ => 413
  | form e => e.status
  | render _ => 500
  | _ => 400

end UploadError

namespace Upload

/-- The name of the part that holds the file. -/
def fieldName : Chars := "file".toList

/-- The file that a form holds. -/
structure File where
  name : Chars
  content : Bytes
  deriving Repr, DecidableEq

/-- A file has a name. -/
def checkName : Option Chars → Except UploadError Chars
  | none => .error .missingFilename
  | some name => if name.isEmpty then .error .missingFilename else .ok name

/-- The file of a form. Other parts are passed over, and nothing is read behind it. -/
def file : Form → Except UploadError File
  | .ended => .error .missingFile
  | .broken e => .error (.form e)
  | .part name? filename? content rest =>
    if name? = some fieldName then do
      let name ← checkName filename?
      match content with
      | .ok bytes => return ⟨name, bytes⟩
      | .error e => throw (.form e)
    else file rest

/-- The language and the source of a file. -/
def decode (f : File) (limit : Nat) : Except UploadError (Language × Chars) :=
  match Language.ofPath f.name with
  | .error e => .error (.language e)
  | .ok language =>
    if limit < f.content.length then .error (.tooLarge limit)
    else
      match ofUtf8? f.content with
      | none => .error .notUtf8
      | some source => .ok (language, source)

/-- The chart of a file. If the task that draws it breaks off, `failure` is told of it. -/
def chart (failure : Chars) (settings : Settings) (limit : Nat) (f : File) :
    Except UploadError Chars := do
  let (language, source) ← decode f limit
  match Chart.render? language settings source with
  | some markup => return markup
  | none => throw (.render failure)

end Upload
end NestChart.Web
