import NestChart.Indent.Quote
import NestChart.Line
import NestChart.Proofs.Text.Trim

/-!
# NestChart.Proofs.Indent.Lexing

Strings as Python lexes them, one character at a time over the whole source: a literal may be of one
or of three quotes, a backslash keeps the next character from closing it, and only the long kind
runs over line ends. The scan of one line looks three characters ahead instead and passes over what
it has recognised. The two meet at every character (`Meets`), so on a line that begins in code the
scan finds the string that Python leaves open (`QuoteStyle.leftOpen?_trimmed`).
-/

namespace NestChart.Indent

open Text

/-- The quote that the style is named after. -/
def QuoteStyle.quote : QuoteStyle → Char
  | double => '"'
  | single => '\''

theorem QuoteStyle.isQuote_quote (style : QuoteStyle) : isQuote style.quote = true := by
  cases style <;> rfl

theorem isQuote_iff {c : Char} : isQuote c = true ↔ ∃ style : QuoteStyle, c = style.quote := by
  constructor
  · intro h
    have h : c = '"' ∨ c = '\'' := by simpa [isQuote] using h
    rcases h with rfl | rfl
    · exact ⟨.double, rfl⟩
    · exact ⟨.single, rfl⟩
  · rintro ⟨style, rfl⟩
    exact style.isQuote_quote

theorem QuoteStyle.ne_quote {c : Char} (h : isQuote c = false) (style : QuoteStyle) :
    c ≠ style.quote := by
  rintro rfl
  rw [style.isQuote_quote] at h
  cases h

theorem isQuote_of_isBlank {c : Char} (h : isBlank c = true) : isQuote c = false := by
  cases hc : isQuote c with
  | false => rfl
  | true =>
    obtain ⟨style, rfl⟩ := isQuote_iff.1 hc
    cases style <;> cases h

/-- Where the lexing stands. The braces of a formatted string are text like the rest of it. -/
inductive Lexing
  | code
  | comment
  /-- Behind a first quote. -/
  | opening (style : QuoteStyle)
  /-- Behind two quotes: an empty literal, unless a third follows. -/
  | opened (style : QuoteStyle)
  /-- In a literal of one quote. -/
  | short (style : QuoteStyle)
  | shortEscaped (style : QuoteStyle)
  /-- In a literal of three quotes, behind some that may turn out to close it. -/
  | long (style : QuoteStyle) (quotes : Nat)
  | longEscaped (style : QuoteStyle)
  deriving Repr, DecidableEq

namespace Lexing

def fromCode (c : Char) : Lexing :=
  if c = '"' then opening .double
  else if c = '\'' then opening .single
  else if c = '#' then comment
  else code

theorem fromCode_quote (style : QuoteStyle) : fromCode style.quote = opening style := by
  cases style <;> rfl

theorem fromCode_of_not_isQuote {c : Char} (h : isQuote c = false) :
    fromCode c = if c = '#' then comment else code := by
  have hd : c ≠ '"' := QuoteStyle.ne_quote h .double
  have hs : c ≠ '\'' := QuoteStyle.ne_quote h .single
  simp only [fromCode, hd, hs, if_false]

def fromShort (style : QuoteStyle) (c : Char) : Lexing :=
  if c = '\\' then shortEscaped style else if c = style.quote then code else short style

def next : Lexing → Char → Lexing
  | code, c => fromCode c
  | comment, _ => comment
  | opening style, c => if c = style.quote then opened style else fromShort style c
  | opened style, c => if c = style.quote then long style 0 else fromCode c
  | short style, c => fromShort style c
  | shortEscaped style, _ => short style
  | long style quotes, c =>
    if c = '\\' then longEscaped style
    else if c = style.quote then (if quotes = 2 then code else long style (quotes + 1))
    else long style 0
  | longEscaped style, _ => long style 0

def after (x : Lexing) (cs : Chars) : Lexing := cs.foldl next x

@[simp] theorem after_nil (x : Lexing) : x.after [] = x := rfl

@[simp] theorem after_cons (x : Lexing) (c : Char) (cs : Chars) :
    x.after (c :: cs) = (x.next c).after cs := rfl

theorem after_append (x : Lexing) (a b : Chars) : x.after (a ++ b) = (x.after a).after b := by
  simp [after, List.foldl_append]

/-- A line end closes a comment, and a short literal unless a backslash stands before it. -/
def endLine : Lexing → Lexing
  | shortEscaped style => short style
  | long style _ | longEscaped style => long style 0
  | _ => code

def pass (x : Lexing) (l : Line) : Lexing := (x.after l.content).endLine

/-- The triple-quoted string that is open. -/
def string? : Lexing → Option QuoteStyle
  | long style _ | longEscaped style => some style
  | _ => none

theorem string?_endLine (x : Lexing) : x.endLine.string? = x.string? := by
  cases x <;> rfl

/-- What a scan that has recognised a comment, an escape or a marker may pass over. -/
def passes : Lexing → Char → Bool
  | comment, _ | shortEscaped _, _ | longEscaped _, _ => true
  | opening style, c | opened style, c | long style _, c => c == style.quote
  | _, _ => false

/-- Only quotes open and close strings. -/
theorem string?_next (x : Lexing) {c : Char} (hc : isQuote c = false) :
    (x.next c).string? = x.string? := by
  have hq := QuoteStyle.ne_quote hc
  cases x <;> simp only [next, fromCode_of_not_isQuote hc, fromShort, hq, if_false]
  all_goals (repeat' split) <;> rfl

theorem string?_after (x : Lexing) {cs : Chars} (h : ∀ c ∈ cs, isQuote c = false) :
    (x.after cs).string? = x.string? := by
  induction cs generalizing x with
  | nil => rfl
  | cons c cs ih =>
    rw [after_cons, ih _ fun d hd => h d (by simp [hd]), string?_next x (h c (by simp))]

end Lexing

/-! ## The scan of a line -/

namespace QuoteStyle

theorem marker_eq (style : QuoteStyle) :
    style.marker = [style.quote, style.quote, style.quote] := by
  cases style <;> rfl

theorem leading?_eq_some {style : QuoteStyle} {text : Chars} :
    leading? text = some style ↔ style.marker <+: text := by
  constructor
  · intro h
    unfold leading? at h
    split at h <;> cases h <;> exact ⟨_, rfl⟩
  · rintro ⟨rest, rfl⟩
    cases style <;> rfl

theorem quote_ne_backslash (style : QuoteStyle) : style.quote ≠ '\\' := by
  cases style <;> decide

end QuoteStyle

namespace Lexing

theorem next_long_quote (style : QuoteStyle) {quotes : Nat} (h : quotes ≠ 2) :
    (long style quotes).next style.quote = long style (quotes + 1) := by
  simp [next, style.quote_ne_backslash, h]

theorem next_long_two (style : QuoteStyle) : (long style 2).next style.quote = code := by
  simp [next, style.quote_ne_backslash]

end Lexing

namespace QuoteScan

/-- Where the scan stands behind a character, and how many characters it passes over from there. -/
def step (s : QuoteScan) (skip : Nat) (c : Char) (cs : Chars) : QuoteScan × Nat :=
  match skip with
  | k + 1 => (s, k)
  | 0 =>
    match s with
    | code =>
      match QuoteStyle.leading? (c :: cs) with
      | some style => (triple style, 2)
      | none => if c = '#' then (code, cs.length) else (if isQuote c then plain c else code, 0)
    | plain q => if c = '\\' then (s, 1) else (if c = q then code else s, 0)
    | triple style =>
      if c = '\\' then (s, 1)
      else if style.marker.isPrefixOf (c :: cs) then (code, 2)
      else (s, 0)

theorem finish_length (s : QuoteScan) (cs : Chars) : s.finish cs.length cs = s := by
  induction cs with
  | nil => rfl
  | cons c cs ih => exact ih

theorem finish_cons (s : QuoteScan) (skip : Nat) (c : Char) (cs : Chars) :
    s.finish skip (c :: cs) = (s.step skip c cs).1.finish (s.step skip c cs).2 cs := by
  cases skip with
  | succ k => rfl
  | zero =>
    cases s with
    | code =>
      rw [finish, step]
      cases QuoteStyle.leading? (c :: cs) with
      | some style => rfl
      | none =>
        by_cases hc : c = '#'
        · simp only [hc, if_true, finish_length]
        · simp only [hc, if_false]
    | plain q => simp only [finish, step]; split <;> rfl
    | triple style => simp only [finish, step]; (repeat' split) <;> rfl

end QuoteScan

/-- The scan of a line that is to pass over `skip` characters and the lexing of the source stand at
the same place, with `text` in front of them. -/
inductive Meets : QuoteScan → Nat → Lexing → Chars → Prop
  | code {text} : Meets .code 0 .code text
  /-- The scan has closed an empty literal. -/
  | opened {style text} (h : ¬ [style.quote] <+: text) : Meets .code 0 (.opened style) text
  /-- The scan has seen that no marker begins here. -/
  | opening {style text} (h : ¬ [style.quote, style.quote] <+: text) :
      Meets (.plain style.quote) 0 (.opening style) text
  | short {style text} : Meets (.plain style.quote) 0 (.short style) text
  /-- The scan has seen that the last quotes do not begin a marker. -/
  | long {style quotes text} (hq : quotes ≤ 2)
      (h : quotes = 0 ∨ ¬ List.replicate (3 - quotes) style.quote <+: text) :
      Meets (.triple style) 0 (.long style quotes) text
  | skipped {x skip y c text} (hp : y.passes c = true) (h : Meets x skip (y.next c) text) :
      Meets x (skip + 1) y (c :: text)
  | stop {x skip y} (h : x.open? = y.string?) : Meets x skip y []

namespace Meets

variable {x : QuoteScan} {skip : Nat} {y : Lexing} {c : Char} {cs : Chars} {style : QuoteStyle}

theorem string : Meets (.triple style) 0 (.long style 0) cs := .long (Nat.zero_le 2) (.inl rfl)

/-- A backslash takes the next character with it, if there is one on the line. -/
theorem escape (h : x.open? = y.string?) (hp : ∀ d, y.passes d = true)
    (hnext : ∀ d ds, Meets x 0 (y.next d) ds) : Meets x 1 y cs := by
  cases cs with
  | nil => exact .stop h
  | cons d ds => exact .skipped (hp d) (hnext d ds)

theorem comment (cs : Chars) : Meets .code cs.length .comment cs := by
  induction cs with
  | nil => exact .stop rfl
  | cons c cs ih => exact .skipped rfl ih

end Meets

/-- After one character the two meet again. -/
def Meets.Steps (x : QuoteScan) (skip : Nat) (y : Lexing) (c : Char) (cs : Chars) : Prop :=
  Meets (x.step skip c cs).1 (x.step skip c cs).2 (y.next c) cs

namespace Meets

theorem steps_code (hnext : y.next c = Lexing.fromCode c) : Steps .code 0 y c cs := by
  rw [Steps, hnext]
  cases h : QuoteStyle.leading? (c :: cs) with
  | some style =>
    obtain ⟨rest, hrest⟩ := QuoteStyle.leading?_eq_some.1 h
    have hstep : QuoteScan.code.step 0 c cs = (.triple style, 2) := by
      simp only [QuoteScan.step, h]
    rw [hstep]
    cases style <;> cases hrest <;> exact .skipped rfl (.skipped rfl .string)
  | none =>
    cases hc : isQuote c with
    | true =>
      obtain ⟨style, rfl⟩ := isQuote_iff.1 hc
      have hmarker : ¬ [style.quote, style.quote] <+: cs := by
        intro hq
        have hsome : QuoteStyle.leading? (style.quote :: cs) = some style := by
          rw [QuoteStyle.leading?_eq_some, QuoteStyle.marker_eq, List.cons_prefix_cons]
          exact ⟨rfl, hq⟩
        rw [h] at hsome
        cases hsome
      have hstep : QuoteScan.code.step 0 style.quote cs = (.plain style.quote, 0) := by
        simp only [QuoteScan.step, h, hc, if_true]
        rw [if_neg]
        cases style <;> decide
      rw [hstep, Lexing.fromCode_quote]
      exact .opening hmarker
    | false =>
      rw [Lexing.fromCode_of_not_isQuote hc]
      simp only [QuoteScan.step, h, hc]
      split
      · exact .comment cs
      · exact .code

theorem steps_plain (hnext : y.next c = Lexing.fromShort style c) :
    Steps (.plain style.quote) 0 y c cs := by
  simp only [Steps, hnext, Lexing.fromShort, QuoteScan.step]
  split
  · exact escape rfl (fun _ => rfl) fun _ _ => .short
  split
  · exact .code
  · exact .short

theorem steps_triple {quotes : Nat} (hq : quotes ≤ 2)
    (h : quotes = 0 ∨ ¬ List.replicate (3 - quotes) style.quote <+: c :: cs) :
    Steps (.triple style) 0 (.long style quotes) c cs := by
  simp only [Steps, QuoteScan.step, Lexing.next]
  split
  · exact escape rfl (fun _ => rfl) fun _ _ => .string
  split
  · rename_i hmarker
    rw [List.isPrefixOf_iff_prefix, QuoteStyle.marker_eq] at hmarker
    have hzero : quotes = 0 := by
      refine h.resolve_right (not_not_intro (List.IsPrefix.trans ?_ hmarker))
      refine ⟨List.replicate quotes style.quote, ?_⟩
      rw [List.replicate_append_replicate, Nat.sub_add_cancel (by omega)]
      rfl
    obtain ⟨rest, hrest⟩ := hmarker
    cases hrest
    subst hzero
    rw [if_pos rfl, if_neg (by decide)]
    refine .skipped (beq_self_eq_true _) ?_
    rw [Lexing.next_long_quote style (by decide)]
    refine .skipped (beq_self_eq_true _) ?_
    rw [Lexing.next_long_two]
    exact .code
  rename_i hmarker
  rw [List.isPrefixOf_iff_prefix, QuoteStyle.marker_eq] at hmarker
  split
  · rename_i hc
    subst hc
    obtain rfl | rfl | rfl : quotes = 0 ∨ quotes = 1 ∨ quotes = 2 := by omega
    · exact .long (by omega) (.inr (by simpa [List.replicate] using hmarker))
    · exact .long (by omega) (.inr (by simpa [List.replicate] using h))
    · simp at h
  · exact .string

theorem step (h : Meets x skip y (c :: cs)) : Steps x skip y c cs := by
  cases h with
  | code => exact steps_code rfl
  | @opened style _ h =>
    refine steps_code (if_neg ?_)
    rintro rfl
    exact h (by simp)
  | @opening style _ h =>
    by_cases hc : c = style.quote
    · subst hc
      have hstep : (QuoteScan.plain style.quote).step 0 style.quote cs = (.code, 0) := by
        simp [QuoteScan.step, style.quote_ne_backslash]
      rw [Steps, hstep, Lexing.next, if_pos rfl]
      exact .opened (by simpa using h)
    · exact steps_plain (if_neg hc)
  | short => exact steps_plain rfl
  | long hq h => exact steps_triple hq h
  | skipped _ h => exact h

theorem open?_eq (h : Meets x skip y cs) : (x.finish skip cs).open? = (y.after cs).string? := by
  induction cs generalizing x skip y with
  | nil => cases h <;> first | rfl | assumption
  | cons c cs ih => rw [QuoteScan.finish_cons, ih h.step, Lexing.after_cons]

end Meets

/-! ## Whole lines -/

/-- A string whose marker does not occur on the line stays open. -/
theorem QuoteScan.finish_triple {style : QuoteStyle} {text : Chars}
    (h : style.closes text = false) (skip : Nat) :
    (QuoteScan.triple style).finish skip text = .triple style := by
  induction text generalizing skip with
  | nil => rfl
  | cons c cs ih =>
    obtain ⟨hmarker, hcs⟩ : style.marker.isPrefixOf (c :: cs) = false ∧ style.closes cs = false := by
      simpa only [QuoteStyle.closes, contains, Bool.or_eq_false_iff] using h
    cases skip with
    | zero =>
      simp only [finish, hmarker, Bool.false_eq_true, if_false]
      split
      · exact ih hcs 1
      · exact ih hcs 0
    | succ skip => exact ih hcs skip

namespace Lexing

theorem next_blank_code {c : Char} (h : isBlank c = true) : code.next c = code := by
  have hc : c ≠ '#' := ne_of_isBlank h rfl
  rw [next, fromCode_of_not_isQuote (isQuote_of_isBlank h), if_neg hc]

theorem next_long {style : QuoteStyle} {c : Char} (hq : isQuote c = false) (hb : c ≠ '\\') :
    (long style 0).next c = long style 0 := by
  rw [next, if_neg hb, if_neg (QuoteStyle.ne_quote hq style)]

theorem after_eq_self {x : Lexing} {cs : Chars} (h : ∀ c ∈ cs, x.next c = x) : x.after cs = x := by
  induction cs with
  | nil => rfl
  | cons c cs ih => rw [after_cons, h c (by simp), ih fun d hd => h d (by simp [hd])]

/-- Blanks around the text of a line do not count. -/
theorem string?_pass {x : Lexing} (hx : ∀ c, isBlank c = true → x.next c = x) (l : Line) :
    (x.pass l).string? = (x.after l.trimmed).string? := by
  obtain ⟨blanks, hl, hb⟩ := exists_trim_append l.content
  have hlead : x.after (l.content.takeWhile isBlank) = x :=
    after_eq_self fun c hc => hx c (isBlank_of_mem_takeWhile hc)
  rw [pass, string?_endLine, ← hl, after_append, after_append, hlead,
    string?_after _ fun c hc => isQuote_of_isBlank (hb c hc)]
  rfl

/-- A line that begins inside a string begins behind no quote of its own. -/
theorem eq_long_of_string? {x : Lexing} {l : Line} {style : QuoteStyle}
    (h : (x.pass l).string? = some style) : x.pass l = long style 0 := by
  rw [pass] at h ⊢
  cases hx : x.after l.content <;> rw [hx] at h <;> cases h <;> rfl

/-- A string whose marker does not occur on the line is open behind it. -/
theorem string?_pass_of_not_closes {style : QuoteStyle} {l : Line}
    (h : style.closes l.trimmed = false) : ((long style 0).pass l).string? = some style := by
  rw [string?_pass, ← Meets.string.open?_eq, QuoteScan.finish_triple h]
  · rfl
  · intro c hc
    exact next_long (isQuote_of_isBlank hc) (ne_of_isBlank hc rfl)

end Lexing

/-- The scan of a line that begins in code finds the string that is open behind it. -/
theorem QuoteStyle.leftOpen?_trimmed (l : Line) :
    leftOpen? l.trimmed = (Lexing.code.pass l).string? := by
  rw [leftOpen?, Meets.code.open?_eq, Lexing.string?_pass fun c => Lexing.next_blank_code]

end NestChart.Indent
