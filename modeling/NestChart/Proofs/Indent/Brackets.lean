import NestChart.Indent.Continuation
import NestChart.Proofs.Indent.Lexing

/-!
# NestChart.Proofs.Indent.Brackets

Which brackets of a line count. Two scans tell the code of a line from its strings: the one that
looks for a triple-quoted string left open, and the one that balances the brackets, which takes a
marker for an empty literal and the first quote of another one. They agree on what is code as long
as no quote stands alone in a triple-quoted string of its kind, and then the balance is that of the
code that the first scan sees (`balance_agrees`).
-/

namespace NestChart.Indent

open Text

def opensBracket (c : Char) : Bool := c == '(' || c == '[' || c == '\x7b'

def closesBracket (c : Char) : Bool := c == ')' || c == ']' || c == '\x7d'

/-- Brackets opened less brackets closed in a text that is all code. -/
def bracketExcess (code : Chars) : Int := code.countP opensBracket - code.countP closesBracket

theorem bracketValue_eq (c : Char) : Continuation.bracketValue c =
    (if opensBracket c then 1 else 0) - (if closesBracket c then 1 else 0) := by
  by_cases ho : c = '(' ∨ c = '[' ∨ c = '\x7b'
  · rcases ho with rfl | rfl | rfl <;> rfl
  by_cases hc : c = ')' ∨ c = ']' ∨ c = '\x7d'
  · rcases hc with rfl | rfl | rfl <;> rfl
  · have ho' : opensBracket c = false := by simpa [opensBracket, and_assoc] using ho
    have hc' : closesBracket c = false := by simpa [closesBracket, and_assoc] using hc
    simp only [Continuation.bracketValue, ho, hc, ho', hc', if_false, Bool.false_eq_true]
    rfl

theorem bracketExcess_cons (c : Char) (cs : Chars) :
    bracketExcess (c :: cs) = Continuation.bracketValue c + bracketExcess cs := by
  rw [bracketValue_eq]
  simp only [bracketExcess, List.countP_cons]
  split <;> split <;> omega

theorem bracketValue_of_isQuote {c : Char} (h : isQuote c = true) :
    Continuation.bracketValue c = 0 := by
  obtain ⟨style, rfl⟩ := isQuote_iff.1 h
  cases style <;> rfl

/-! ## The code of a line -/

namespace QuoteScan

/-- The characters that the scan reads as code; the quotes that begin a string and the sign that
begins a comment are among them. -/
def codeFrom (s : QuoteScan) (skip : Nat) : Chars → Chars
  | [] => []
  | c :: cs =>
    if skip = 0 ∧ s = code then c :: codeFrom (s.step skip c cs).1 (s.step skip c cs).2 cs
    else codeFrom (s.step skip c cs).1 (s.step skip c cs).2 cs

/-- A quote in a triple-quoted string of its kind. -/
def isOwnQuote : QuoteScan → Char → Bool
  | triple style, c => c == style.quote
  | _, _ => false

/-- At every character that the scan reads, but for the quotes of the triple-quoted string it is in,
the balance is in code just if the scan is. -/
def Agrees (s : QuoteScan) (skip : Nat) (l : Literal) : Chars → Prop
  | [] => True
  | c :: cs =>
    (skip = 0 → s.isOwnQuote c = false → (s = code ↔ l = .outside)) ∧
      Agrees (s.step skip c cs).1 (s.step skip c cs).2 (l.next c) cs

end QuoteScan

namespace Lexing

/-- The character is read as code. -/
def isCode : Lexing → Char → Bool
  | code, _ => true
  | opened style, c => c != style.quote
  | _, _ => false

def codeFrom (y : Lexing) : Chars → Chars
  | [] => []
  | c :: cs => if y.isCode c then c :: (y.next c).codeFrom cs else (y.next c).codeFrom cs

/-- The character stands behind an odd number of quotes that have not closed the string. -/
def isLone : Lexing → Char → Bool
  | long style quotes, c => quotes % 2 == 1 && c != style.quote
  | _, _ => false

/-- A quote stands alone in a triple-quoted string of its kind, with text behind it. -/
def hasLoneQuote (y : Lexing) : Chars → Bool
  | [] => false
  | c :: cs => y.isLone c || (y.next c).hasLoneQuote cs

theorem isCode_of_passes {y : Lexing} {c : Char} (h : y.passes c = true) : y.isCode c = false := by
  cases y <;> simp_all [passes, isCode]

theorem isLone_of_passes {y : Lexing} {c : Char} (h : y.passes c = true) : y.isLone c = false := by
  cases y <;> simp_all [passes, isLone]

theorem codeFrom_comment (cs : Chars) : comment.codeFrom cs = [] := by
  induction cs with
  | nil => rfl
  | cons c cs ih => exact ih

theorem hasLoneQuote_comment (cs : Chars) : comment.hasLoneQuote cs = false := by
  induction cs with
  | nil => rfl
  | cons c cs ih => exact ih

/-! ## Quotes taken one by one -/

/-- Where a scan stands that takes the quotes one by one. -/
def literal : Lexing → Literal
  | opening style | short style => .inside style.quote
  | shortEscaped style | longEscaped style => .escaped style.quote
  | long style quotes => if quotes % 2 = 0 then .inside style.quote else .outside
  | _ => .outside

theorem literal_fromCode (c : Char) : (fromCode c).literal = Literal.outside.next c := by
  cases hc : isQuote c with
  | true =>
    obtain ⟨style, rfl⟩ := isQuote_iff.1 hc
    simp only [fromCode_quote, literal, Literal.next, style.isQuote_quote, if_true]
  | false =>
    rw [fromCode_of_not_isQuote hc, Literal.next, hc]
    split <;> rfl

theorem literal_fromShort (style : QuoteStyle) (c : Char) :
    (fromShort style c).literal = (Literal.inside style.quote).next c := by
  rw [fromShort, Literal.next]
  split
  · rfl
  · split <;> rfl

variable {y : Lexing} {c : Char} {cs : Chars} {style : QuoteStyle} {quotes : Nat}

theorem literal_long_of_even (h : quotes % 2 = 0) :
    (long style quotes).literal = .inside style.quote := if_pos h

theorem literal_long_of_odd (h : quotes % 2 = 1) : (long style quotes).literal = .outside :=
  if_neg (by omega)

/-- Among the quotes of a string every other one opens, so that an even number of them leaves one
inside. -/
theorem literal_next_long (h : (long style quotes).isLone c = false) :
    ((long style quotes).next c).literal = (long style quotes).literal.next c := by
  obtain heven | hodd := Nat.mod_two_eq_zero_or_one quotes
  · rw [literal_long_of_even heven, Literal.next, next]
    split
    · rfl
    by_cases hc : c = style.quote
    · rw [if_pos hc, if_pos hc]
      split
      · rfl
      · exact literal_long_of_odd (by omega)
    · rw [if_neg hc, if_neg hc]
      rfl
  · have hc : c = style.quote := by simpa [isLone, hodd] using h
    subst hc
    rw [literal_long_of_odd hodd, Literal.next, style.isQuote_quote, if_pos rfl,
      next_long_quote style (by omega)]
    exact literal_long_of_even (by omega)

theorem literal_next (hy : y ≠ comment) (h : y.isLone c = false) :
    (y.next c).literal = y.literal.next c := by
  cases y with
  | code => exact literal_fromCode c
  | comment => exact absurd rfl hy
  | opening style =>
    by_cases hc : c = style.quote
    · subst hc
      simp [next, literal, Literal.next, style.quote_ne_backslash]
    · rw [next, if_neg hc]
      exact literal_fromShort style c
  | opened style =>
    by_cases hc : c = style.quote
    · subst hc
      simp [next, literal, Literal.next, style.isQuote_quote]
    · rw [next, if_neg hc]
      exact literal_fromCode c
  | short style => exact literal_fromShort style c
  | shortEscaped style => rfl
  | long style quotes => exact literal_next_long h
  | longEscaped style => rfl

/-- But for quotes, what is read as code stands outside the literals. -/
theorem isCode_iff (hy : y ≠ comment) (h : y.isLone c = false) (hc : isQuote c = false) :
    y.isCode c = true ↔ y.literal = .outside := by
  have hq := QuoteStyle.ne_quote hc
  cases y with
  | comment => exact absurd rfl hy
  | long style quotes =>
    have heven : quotes % 2 = 0 := by
      simpa [isLone, hq style] using h
    simp [isCode, literal_long_of_even heven]
  | _ => simp [isCode, literal, hq]

theorem fromCode_eq_comment_iff : fromCode c = comment ↔ c = '#' := by
  constructor
  · intro h
    unfold fromCode at h
    repeat' split at h
    all_goals first | assumption | cases h
  · rintro rfl
    rfl

theorem fromShort_ne_comment (style : QuoteStyle) (c : Char) : fromShort style c ≠ comment := by
  unfold fromShort
  repeat' split
  all_goals simp

/-- Only its sign begins a comment, and only in code. -/
theorem next_eq_comment_iff (hy : y ≠ comment) :
    y.next c = comment ↔ c = '#' ∧ y.isCode c = true := by
  cases y with
  | code => simp [next, isCode, fromCode_eq_comment_iff]
  | comment => exact absurd rfl hy
  | opening style =>
    by_cases hc : c = style.quote
    · simp [next, isCode, hc]
    · simp [next, isCode, hc, fromShort_ne_comment]
  | opened style =>
    by_cases hc : c = style.quote
    · simp [next, isCode, hc]
    · simp [next, isCode, hc, fromCode_eq_comment_iff]
  | short style => simp [next, isCode, fromShort_ne_comment]
  | long style quotes =>
    have hne : (long style quotes).next c ≠ comment := by
      simp only [next]
      repeat' split
      all_goals simp
    simp [isCode, hne]
  | shortEscaped style | longEscaped style => simp [next, isCode]

theorem bracketExcess_codeFrom_cons (y : Lexing) (c : Char) (cs : Chars) :
    bracketExcess (y.codeFrom (c :: cs)) =
      (if y.isCode c then Continuation.bracketValue c else 0) +
        bracketExcess ((y.next c).codeFrom cs) := by
  rw [codeFrom]
  split
  · exact bracketExcess_cons c _
  · rw [Int.zero_add]

theorem balanceFrom_literal_cons (hy : y ≠ comment) (h : y.isLone c = false)
    (hnext : y.next c ≠ comment) :
    Continuation.balanceFrom y.literal (c :: cs) =
      (if y.isCode c then Continuation.bracketValue c else 0) +
        Continuation.balanceFrom (y.next c).literal cs := by
  rw [literal_next hy h, Continuation.balanceFrom]
  cases hq : isQuote c with
  | true =>
    have hsign : c ≠ '#' := by
      rintro rfl
      cases hq
    simp only [if_neg hsign, bracketValue_of_isQuote hq, Int.zero_add, ite_self]
  | false =>
    have hcode := isCode_iff hy h hq
    by_cases hout : y.literal = .outside
    · have hsign : c ≠ '#' := fun hc => hnext ((next_eq_comment_iff hy).2 ⟨hc, hcode.2 hout⟩)
      rw [if_pos hout, if_neg hsign, if_pos (hcode.2 hout)]
    · rw [if_neg hout, if_neg (mt hcode.1 hout), Int.zero_add]

/-- Without a quote that stands alone the balance is that of the code. -/
theorem balanceFrom_literal (hy : y ≠ comment) (h : y.hasLoneQuote cs = false) :
    Continuation.balanceFrom y.literal cs = bracketExcess (y.codeFrom cs) := by
  induction cs generalizing y with
  | nil => rfl
  | cons c cs ih =>
    obtain ⟨hc, hcs⟩ : y.isLone c = false ∧ (y.next c).hasLoneQuote cs = false := by
      simpa only [hasLoneQuote, Bool.or_eq_false_iff] using h
    by_cases hnext : y.next c = comment
    · -- Behind the sign of a comment the balance stops, and nothing is code.
      obtain ⟨rfl, hcode⟩ := (next_eq_comment_iff hy).1 hnext
      have hout : y.literal = .outside := (isCode_iff hy hc rfl).1 hcode
      rw [bracketExcess_codeFrom_cons, hcode, hnext, codeFrom_comment, hout]
      rfl
    · rw [balanceFrom_literal_cons hy hc hnext, ih hnext hcs, bracketExcess_codeFrom_cons]

end Lexing

/-! ## The scan -/

namespace Meets

variable {x : QuoteScan} {skip : Nat} {y : Lexing} {c : Char} {cs : Chars} {l : Literal}

theorem isCode_iff (h : Meets x skip y (c :: cs)) :
    y.isCode c = true ↔ skip = 0 ∧ x = .code := by
  cases h with
  | code => simp [Lexing.isCode]
  | @opened style _ h =>
    have hc : c ≠ style.quote := by
      rintro rfl
      exact h (by simp)
    simp [Lexing.isCode, hc]
  | opening => simp [Lexing.isCode]
  | short => simp [Lexing.isCode]
  | long => simp [Lexing.isCode]
  | skipped hp => simp [Lexing.isCode_of_passes hp]

theorem codeFrom_eq (h : Meets x skip y cs) : x.codeFrom skip cs = y.codeFrom cs := by
  induction cs generalizing x skip y with
  | nil => rfl
  | cons c cs ih =>
    rw [QuoteScan.codeFrom, Lexing.codeFrom, ih h.step]
    simp only [h.isCode_iff]

theorem agrees_of_comment (h : Meets x skip .comment cs) : x.Agrees skip l cs := by
  induction cs generalizing x skip l with
  | nil => trivial
  | cons c cs ih =>
    refine ⟨?_, ih h.step⟩
    cases h with
    | skipped => nofun

theorem agrees_head_iff (h : Meets x skip y (c :: cs)) (hy : y ≠ .comment) :
    (skip = 0 → x.isOwnQuote c = false → (x = .code ↔ y.literal = .outside)) ↔
      y.isLone c = false := by
  cases h with
  | code => simp [Lexing.literal, Lexing.isLone]
  | opened => simp [Lexing.literal, Lexing.isLone]
  | opening => simp [Lexing.literal, Lexing.isLone]
  | short => simp [Lexing.literal, Lexing.isLone]
  | @long style quotes =>
    by_cases hc : c = style.quote
    · simp [QuoteScan.isOwnQuote, Lexing.isLone, hc]
    · obtain heven | hodd := Nat.mod_two_eq_zero_or_one quotes
      · simp [QuoteScan.isOwnQuote, Lexing.isLone, Lexing.literal_long_of_even, hc, heven]
      · simp [QuoteScan.isOwnQuote, Lexing.isLone, Lexing.literal_long_of_odd, hc, hodd]
  | skipped hp => simp [Lexing.isLone_of_passes hp]

theorem agrees_iff (h : Meets x skip y cs) (hy : y ≠ .comment) :
    x.Agrees skip y.literal cs ↔ y.hasLoneQuote cs = false := by
  induction cs generalizing x skip y with
  | nil => simp [QuoteScan.Agrees, Lexing.hasLoneQuote]
  | cons c cs ih =>
    rw [QuoteScan.Agrees, h.agrees_head_iff hy, Lexing.hasLoneQuote, Bool.or_eq_false_iff]
    refine and_congr_right fun hc => ?_
    rw [← Lexing.literal_next hy hc]
    by_cases hcomment : y.next c = .comment
    · have hmeets := h.step
      rw [Meets.Steps, hcomment] at hmeets
      rw [hcomment]
      simp only [hmeets.agrees_of_comment, Lexing.hasLoneQuote_comment]
    · exact ih h.step hcomment

end Meets

/-- The two scans of a line agree on what is code just if no quote stands alone in a triple-quoted
string of its kind, and then the balance counts the brackets that the first scan reads as code. -/
theorem balance_agrees (text : Chars) :
    (QuoteScan.code.Agrees 0 .outside text ↔ Lexing.code.hasLoneQuote text = false) ∧
      (Lexing.code.hasLoneQuote text = false →
        Continuation.balance text = bracketExcess (QuoteScan.code.codeFrom 0 text)) := by
  have hcode : Lexing.code ≠ .comment := by decide
  refine ⟨Meets.code.agrees_iff hcode, fun h => ?_⟩
  rw [Meets.code.codeFrom_eq]
  exact Lexing.balanceFrom_literal hcode h

/-- Quotes of the other kind, two together and one behind a backslash, with brackets between them. -/
theorem balance_agrees_of_pairs :
    let text := "f(\"\"\"it's (\"\" [ \\\"( \"\"\", '\x7b' # )".toList
    QuoteStyle.leftOpen? text = none ∧ Lexing.code.hasLoneQuote text = false ∧
      QuoteScan.code.Agrees 0 .outside text ∧
      Continuation.balance text = bracketExcess (QuoteScan.code.codeFrom 0 text) := by
  intro text
  have h : Lexing.code.hasLoneQuote text = false := by decide
  exact ⟨by decide, h, (balance_agrees text).1.2 h, (balance_agrees text).2 h⟩

/-- A bracket between two quotes that stand alone is text, and the balance counts it. -/
theorem lone_quotes_count_bracket :
    let text := "\"\"\"a \"(\" b\"\"\"".toList
    QuoteStyle.leftOpen? text = none ∧ bracketExcess (QuoteScan.code.codeFrom 0 text) = 0 ∧
      Continuation.balance text = 1 := by
  decide

end NestChart.Indent
