import NestChart.Shape

/-!
# NestChart.Brace.Shape

Shapes of lines in a brace language: control words, labels, and the forms of prototypes, variables
and function heads.
-/

namespace NestChart.Brace.Shape

open Text NestChart.Shape

/-! ## Control -/

def controlWords : List Chars :=
  ["if", "for", "while", "else", "switch", "do"].map String.toList

/-- Words that leave the line of control. -/
def jumpWords : List Chars :=
  ["return", "case", "default", "goto", "break", "continue"].map String.toList

/-- The head of a branch, loop or choice. -/
def isControl (text : Chars) : Bool := startsWithAny controlWords text

/-- A line whose first word can begin no declaration. -/
def isFlow (text : Chars) : Bool := startsWithAny (controlWords ++ jumpWords) text

/-- An `if`, after an `else` or not: a head that an `else` can answer. -/
def isIf (text : Chars) : Bool :=
  startsWithWord "if".toList text || startsWithPair "else".toList "if".toList text

def isElse (text : Chars) : Bool := startsWithWord "else".toList text

def isSwitch (text : Chars) : Bool := startsWithWord "switch".toList text

/-! ## Labels -/

/-- Cuts after the first colon outside single quotes. `quoted` says that a quote is open and `any`
that something stands before the colon. -/
def labelFrom (quoted any : Bool) : Chars → Option (Chars × Chars)
  | [] => none
  | c :: cs =>
    if !quoted && c = ':' then if any then some ([c], cs) else none
    else (labelFrom (if c = '\'' then !quoted else quoted) true cs).map fun r => (c :: r.1, r.2)

/-- Cuts after the colon of a `case` label. Blanks follow the word, and then at least one more
character, which may be a blank too, precedes the colon. -/
def caseLabel? (text : Chars) : Option (Chars × Chars) :=
  match after? "case".toList text with
  | some (c :: rest) =>
    if isBlank c then (labelFrom false false rest).map fun r => ("case".toList ++ c :: r.1, r.2)
    else none
  | _ => none

/-- Cuts after the colon of a `default` label. -/
def defaultLabel? (text : Chars) : Option (Chars × Chars) :=
  match after? "default".toList text with
  | some rest =>
    match trimStart rest with
    | ':' :: tail => some ("default".toList ++ rest.takeWhile isBlank ++ [':'], tail)
    | _ => none
  | none => none

/-- Cuts after the label that begins the line. -/
def cutLabel? (text : Chars) : Option (Chars × Chars) :=
  match caseLabel? text with
  | some r => some r
  | none => defaultLabel? text

/-- A label of a choice and what follows it on the line, without leading blanks. -/
def label? (text : Chars) : Option (Chars × Chars) :=
  (cutLabel? text).map fun r => (r.1, trimStart r.2)

theorem labelFrom_append {quoted any : Bool} {text label rest : Chars}
    (h : labelFrom quoted any text = some (label, rest)) : label ++ rest = text := by
  induction text generalizing quoted any label with
  | nil => simp [labelFrom] at h
  | cons c cs ih =>
    unfold labelFrom at h
    split at h
    · split at h
      · cases h; rfl
      · cases h
    · obtain ⟨r, hr, he⟩ := Option.map_eq_some_iff.1 h
      cases he
      simp [ih hr]

theorem caseLabel?_append {text label rest : Chars} (h : caseLabel? text = some (label, rest)) :
    label ++ rest = text ∧ label ≠ [] := by
  unfold caseLabel? at h
  split at h
  · rename_i c tail ha
    split at h
    · obtain ⟨r, hr, he⟩ := Option.map_eq_some_iff.1 h
      cases he
      have hl := labelFrom_append hr
      have := after?_append ha
      refine ⟨?_, by simp⟩
      rw [← this, ← hl]
      simp
    · cases h
  · cases h

theorem defaultLabel?_append {text label rest : Chars}
    (h : defaultLabel? text = some (label, rest)) : label ++ rest = text ∧ label ≠ [] := by
  unfold defaultLabel? at h
  split at h
  · rename_i after ha
    split at h
    · rename_i tail ht
      cases h
      have h1 := after?_append ha
      have h2 : after.takeWhile isBlank ++ after.dropWhile isBlank = after :=
        List.takeWhile_append_dropWhile
      refine ⟨?_, by simp⟩
      rw [← h1]
      conv => rhs; rw [← h2, show after.dropWhile isBlank = ':' :: rest from ht]
      simp
    · cases h
  · cases h

theorem length_label?_lt {text label rest : Chars} (h : label? text = some (label, rest)) :
    rest.length < text.length := by
  obtain ⟨⟨a, b⟩, hr, he⟩ := Option.map_eq_some_iff.1 h
  have key : a ++ b = text ∧ a ≠ [] := by
    unfold cutLabel? at hr
    split at hr
    · rename_i r hc
      cases hr
      exact caseLabel?_append hc
    · exact defaultLabel?_append hr
  cases he
  have h1 : (trimStart b).length ≤ b.length := length_trimStart_le b
  have h2 := List.length_pos_iff.2 key.2
  have h3 := congrArg List.length key.1
  simp only [List.length_append] at h3
  show (trimStart b).length < text.length
  omega

/-! ## Declarations -/

open Pattern

def words : Pattern := plus (one .word)

def blanks : Pattern := star (one .blank)

/-- A type, stars and blanks, a name, and a parenthesis that holds none of `forbidden`. -/
def callForm (forbidden : Chars) : Pattern :=
  inOrder [star (one (.either .word .blank)), words, plus (one (.either .blank (.only '*'))), words,
    blanks, lit '(', star (one (.except forbidden)), lit ')']

/-- A function head closed by a terminator. -/
def prototypeForm : Pattern := inOrder [callForm [';', '{'], blanks, lit ';', blanks]

/-- A function head, with or without the brace that opens its body. -/
def functionForm : Pattern :=
  inOrder [callForm [';', '{', '}'], blanks, opt (lit '{'), blanks]

/-- A name with any number of array sizes. -/
def declarator : Pattern :=
  inOrder [words, star (inOrder [blanks, lit '[', star (one (.except [']'])), lit ']'])]

/-- A type, declarators with commas between them, and perhaps a value. -/
def variableForm : Pattern :=
  inOrder [plus (inOrder [words, plus (one .blank)]), star (lit '*'), blanks, declarator,
    star (inOrder [blanks, lit ',', blanks, star (lit '*'), blanks, declarator]), blanks,
    opt (inOrder [lit '=', star (one (.except ['\n']))]), lit ';', blanks]

/-- Memory is requested as a value. -/
def allocationForm : Pattern :=
  inOrder (lit '=' :: blanks :: "malloc".toList.map lit)

def isPrototype (text : Chars) : Bool :=
  prototypeForm.accepts text && !allocationForm.occurs text

def isVariable (text : Chars) : Bool := variableForm.accepts text

def isFunctionHead (text : Chars) : Bool := functionForm.accepts text

end NestChart.Brace.Shape
