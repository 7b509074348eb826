import NestChart.Brace.Scan
import NestChart.Text.Basic

/-!
# NestChart.Brace.Block

Braces as the ends of blocks. A brace opens or closes a block unless it lies in a literal, in
parentheses or in an initializer. `cut?` finds where such a brace stands inside a line, so that
each part has its brace at an end.
-/

namespace NestChart.Brace.Block

open Text

/-- What follows a closing brace at the head of the text. -/
def afterClose? : Chars → Option Chars
  | '}' :: cs => some (trimStart cs)
  | _ => none

/-- What precedes an opening brace at the end of the text. -/
def beforeOpen? (text : Chars) : Option Chars := (beforeLast? '{' text).map trimEnd

/-- The text is an opening brace and nothing else. -/
def isLoneOpen (text : Chars) : Bool := text == ['{']

/-- What is open at a point of a line, with the initializers around it. -/
structure Position where
  scan : Scan
  /-- Braces of initializers that are open. -/
  initializers : Nat
  /-- The last character of code that is not blank. -/
  last? : Option Char
  deriving Repr, DecidableEq

namespace Position

def start : Position := ⟨.start, 0, none⟩

/-- A brace here begins an initializer or lies in one. -/
def inInitializer (p : Position) : Bool := p.initializers > 0 || p.last? == some '='

/-- The position after one more character. -/
def next (p : Position) (c : Char) : Position where
  scan := p.scan.next c
  initializers :=
    if !p.scan.isTop then p.initializers
    else if c = '{' && p.inInitializer then p.initializers + 1
    else if c = '}' then p.initializers - 1
    else p.initializers
  last? := if p.scan.literal ≠ .outside || isBlank c then p.last? else some c

/-- An opening brace here opens a block. -/
def opensBlock (p : Position) (c : Char) : Bool :=
  c == '{' && p.scan.isTop && !p.inInitializer

/-- A closing brace here closes a block. -/
def closesBlock (p : Position) (c : Char) : Bool :=
  c == '}' && p.scan.isTop && p.initializers == 0

end Position

/-- Cuts after the first opening brace that is not the last character, or before the first closing
brace that is not the first one, whichever comes first. -/
def cutFrom (p : Position) (isFirst : Bool) : Chars → Option (Chars × Chars)
  | [] => none
  | c :: cs =>
    if p.opensBlock c && !cs.isEmpty then some ([c], cs)
    else if p.closesBlock c && !isFirst then some ([], c :: cs)
    else (cutFrom (p.next c) false cs).map fun r => (c :: r.1, r.2)

/-- Where a line with a brace inside it falls into two. -/
def cut? (text : Chars) : Option (Chars × Chars) := cutFrom .start true text

theorem cutFrom_append {p : Position} {isFirst : Bool} {text left right : Chars}
    (h : cutFrom p isFirst text = some (left, right)) :
    left ++ right = text ∧ right ≠ [] ∧ (isFirst = true → left ≠ []) := by
  induction text generalizing p isFirst left with
  | nil => simp [cutFrom] at h
  | cons c cs ih =>
    unfold cutFrom at h
    split at h
    · rename_i hc
      cases h
      simp only [Bool.and_eq_true, Bool.not_eq_true', List.isEmpty_eq_false_iff] at hc
      simp [hc.2]
    · split at h
      · rename_i hc
        cases h
        simp only [Bool.and_eq_true, Bool.not_eq_true'] at hc
        simp [hc.2]
      · obtain ⟨r, hr, he⟩ := Option.map_eq_some_iff.1 h
        cases he
        have := ih hr
        simp [this.1, this.2.1]

theorem cut?_append {text left right : Chars} (h : cut? text = some (left, right)) :
    left ++ right = text ∧ left ≠ [] ∧ right ≠ [] := by
  have := cutFrom_append h
  exact ⟨this.1, this.2.2 rfl, this.2.1⟩

theorem length_afterClose?_lt {text rest : Chars} (h : afterClose? text = some rest) :
    rest.length < text.length := by
  unfold afterClose? at h
  split at h
  · cases h
    exact Nat.lt_succ_of_le (length_trimStart_le _)
  · cases h

end NestChart.Brace.Block
