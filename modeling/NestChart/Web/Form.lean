import NestChart.Text.Encoding

/-!
# NestChart.Web.Form

An upload form as it is read: one part after another. A form can turn out to be broken at any place,
between two parts or in the content of one.
-/

namespace NestChart.Web

/-- One part of a form. -/
structure Part where
  name? : Option Chars
  filename? : Option Chars
  content : Bytes
  deriving Repr, DecidableEq

/-- Why a form cannot be read on: the status of the answer, and what is told of it. -/
structure FormError where
  status : Nat
  message : Chars
  deriving Repr, DecidableEq

/-- A form, part by part. The names of a part are known before its content is read. -/
inductive Form
  /-- There is no further part. -/
  | ended
  | broken (e : FormError)
  | part (name? filename? : Option Chars) (content : Except FormError Bytes) (rest : Form)
  deriving Repr

end NestChart.Web
