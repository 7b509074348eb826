import NestChart.Literal
import NestChart.Text.Basic

/-!
# NestChart.Brace.Comment

Comments of a brace language: `//` to the end of the line and `/*` up to `*/`. A line can be a
comment, open one that later lines continue, or carry one behind its code.
-/

namespace NestChart.Brace.Comment

open Text

/-- What a line that is not inside a comment does. -/
inductive Start
  /-- It is not a comment line. -/
  | none
  /-- It is a comment that ends on the line. -/
  | singleLine
  /-- It opens a comment that later lines continue. -/
  | opens
  deriving Repr, DecidableEq

/-- Whether the line closes an open comment. -/
def closes (text : Chars) : Bool := contains ['*', '/'] text

/-- What a line does, from how it begins. -/
def start (text : Chars) : Start :=
  match text with
  | '/' :: '/' :: _ => .singleLine
  | '/' :: '*' :: rest => if closes rest then .singleLine else .opens
  | _ => .none

/-- A comment mark stands at the head of the text. -/
def isMark : Chars → Bool
  | '/' :: '/' :: _ => true
  | '/' :: '*' :: _ => true
  | _ => false

/-- Cuts the text before its first comment mark outside literals. -/
def cutFrom (l : Literal) : Chars → Option (Chars × Chars)
  | [] => .none
  | c :: cs =>
    if l = .outside && isMark (c :: cs) then some ([], c :: cs)
    else (cutFrom (l.next c) cs).map fun r => (c :: r.1, r.2)

/-- The code of a line and the comment behind it. A comment that begins the line is no such
comment. -/
def cut? : Chars → Option (Chars × Chars)
  | [] => .none
  | c :: cs => (cutFrom (Literal.outside.next c) cs).map fun r => (c :: r.1, r.2)

theorem cutFrom_append {l : Literal} {text code comment : Chars}
    (h : cutFrom l text = some (code, comment)) : code ++ comment = text ∧ comment ≠ [] := by
  induction text generalizing l code with
  | nil => simp [cutFrom] at h
  | cons c cs ih =>
    unfold cutFrom at h
    split at h
    · cases h; simp
    · obtain ⟨r, hr, he⟩ := Option.map_eq_some_iff.1 h
      cases he
      have := ih hr
      simp [this.1, this.2]

theorem cut?_append {text code comment : Chars} (h : cut? text = some (code, comment)) :
    code ++ comment = text ∧ code ≠ [] ∧ comment ≠ [] := by
  cases text with
  | nil => simp [cut?] at h
  | cons c cs =>
    obtain ⟨r, hr, he⟩ := Option.map_eq_some_iff.1 h
    cases he
    have := cutFrom_append hr
    simp [this.1, this.2]

end NestChart.Brace.Comment
