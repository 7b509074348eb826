import NestChart.Proofs.Brace.Parts

/-!
# NestChart.Proofs.Brace.CaseLabel

Where the label of a choice ends. Statements and braces are looked for outside literals, and a quote
behind a backslash does not end a literal there. The search for the colon of a label counts quotes
and knows no backslash, so each escaped quote turns its reading over: it finds the colon exactly if
an even number of escaped quotes stands before it and before each colon in a literal
(`label_ends_at_colon_iff`).
-/

namespace NestChart.Brace

open Text

/-! ## Labels made of literals -/

/-- The inside of a literal in single quotes. A backslash takes the next character with it. -/
inductive LiteralBody : Chars → Prop
  | nil : LiteralBody []
  | char {c : Char} {cs : Chars} (hq : c ≠ '\'') (hb : c ≠ '\\') (h : LiteralBody cs) :
      LiteralBody (c :: cs)
  | escape (c : Char) {cs : Chars} (h : LiteralBody cs) : LiteralBody ('\\' :: c :: cs)

/-- Literals in single quotes and characters that are no quote, no backslash and no colon. -/
inductive LabelText : Chars → Prop
  | nil : LabelText []
  | char {c : Char} {cs : Chars} (hq : isQuote c = false) (hb : c ≠ '\\') (hc : c ≠ ':')
      (h : LabelText cs) : LabelText (c :: cs)
  | literal {body cs : Chars} (hbody : LiteralBody body) (h : LabelText cs) :
      LabelText ('\'' :: (body ++ '\'' :: cs))

/-- Literals are closed at the end, and no colon, double quote or backslash stands outside them. -/
def EnclosedFrom (l : Literal) : Chars → Prop
  | [] => l = .outside
  | c :: cs => (l = .outside → c ≠ '"' ∧ c ≠ '\\' ∧ c ≠ ':') ∧ EnclosedFrom (l.next c) cs

theorem LiteralBody.enclosedFrom {body cs : Chars} (h : LiteralBody body)
    (hcs : EnclosedFrom .outside cs) : EnclosedFrom (.inside '\'') (body ++ '\'' :: cs) := by
  induction h with
  | nil => exact ⟨nofun, hcs⟩
  | @char c _ hq hb _ ih =>
    refine ⟨nofun, ?_⟩
    have hnext : (Literal.inside '\'').next c = .inside '\'' := by simp [Literal.next, hq, hb]
    rw [hnext]
    exact ih
  | escape c _ ih => exact ⟨nofun, nofun, ih⟩

theorem LabelText.enclosedFrom {text : Chars} (h : LabelText text) :
    EnclosedFrom .outside text := by
  induction h with
  | nil => rfl
  | @char c _ hq hb hc _ ih =>
    have hdouble : c ≠ '"' := by
      rintro rfl
      cases hq
    refine ⟨fun _ => ⟨hdouble, hb, hc⟩, ?_⟩
    have hnext : Literal.outside.next c = .outside := by simp [Literal.next, hq]
    rw [hnext]
    exact ih
  | literal hbody _ ih => exact ⟨fun _ => by decide, hbody.enclosedFrom ih⟩

/-- Cuts after the first colon outside literals. -/
def firstColon? (l : Literal) : Chars → Option (Chars × Chars)
  | [] => none
  | c :: cs =>
    if l = .outside ∧ c = ':' then some ([c], cs)
    else (firstColon? (l.next c) cs).map fun r => (c :: r.1, r.2)

theorem EnclosedFrom.firstColon? {l : Literal} {text : Chars} (h : EnclosedFrom l text)
    (rest : Chars) :
    firstColon? l (text ++ ':' :: rest) = some (text ++ [':'], rest) := by
  induction text generalizing l with
  | nil =>
    obtain rfl : l = .outside := h
    rfl
  | cons c cs ih =>
    have hc : ¬(l = .outside ∧ c = ':') := fun hc => (h.1 hc.1).2.2 hc.2
    rw [List.cons_append, Brace.firstColon?, if_neg hc, ih h.2]
    rfl

/-! ## Escaped quotes -/

/-- Single quotes behind a backslash in a literal. -/
def escapedQuotes (l : Literal) : Chars → Nat
  | [] => 0
  | c :: cs =>
    (if l = .escaped '\'' ∧ c = '\'' then 1 else 0) + escapedQuotes (l.next c) cs

theorem escapedQuotes_append (l : Literal) (a b : Chars) :
    escapedQuotes l (a ++ b) = escapedQuotes l a + escapedQuotes (l.after a) b := by
  induction a generalizing l with
  | nil => simp [escapedQuotes]
  | cons c a ih => simp [escapedQuotes, ih, Nat.add_assoc]

namespace Shape

/-- How a count of quotes takes a place of the scan that has passed `escapes` escaped quotes. -/
def countsQuoted (l : Literal) (escapes : Nat) : Bool :=
  decide (l ≠ .outside) != decide (escapes % 2 = 1)

theorem countsQuoted_iff {l : Literal} (h : l ≠ .outside) (escapes : Nat) :
    countsQuoted l escapes = true ↔ escapes % 2 = 0 := by
  simp [countsQuoted, h]

/-- The scan is in code or in a literal in single quotes. -/
def IsSingle (l : Literal) : Prop := l = .outside ∨ l = .inside '\'' ∨ l = .escaped '\''

theorem IsSingle.next {l : Literal} (h : IsSingle l) {c : Char} (hc : l = .outside → c ≠ '"') :
    IsSingle (l.next c) := by
  rcases h with rfl | rfl | rfl
  · have hd := hc rfl
    by_cases hs : c = '\''
    · exact .inr (.inl (by simp [Literal.next, isQuote, hs]))
    · exact .inl (by simp [Literal.next, isQuote, hd, hs])
  · simp only [Literal.next]
    split
    · exact .inr (.inr rfl)
    · split
      · exact .inl rfl
      · exact .inr (.inl rfl)
  · exact .inr (.inl rfl)

/-- Each single quote turns the count over. One that is not escaped moves the scan as well, and the
others leave their mark in the number of escaped quotes. -/
theorem countsQuoted_next {l : Literal} (h : IsSingle l) {c : Char} (hc : l = .outside → c ≠ '"')
    (escapes : Nat) :
    countsQuoted (l.next c) (escapes + if l = .escaped '\'' ∧ c = '\'' then 1 else 0) =
      if c = '\'' then !countsQuoted l escapes else countsQuoted l escapes := by
  by_cases hs : c = '\''
  · subst hs
    rcases h with rfl | rfl | rfl
    · simp [countsQuoted, Literal.next, isQuote]
    · simp [countsQuoted, Literal.next]
    · rcases Nat.mod_two_eq_zero_or_one escapes with he | he
      · simp [countsQuoted, Literal.next, Nat.add_mod, he]
      · simp [countsQuoted, Literal.next, Nat.add_mod, he]
  · have hnext : l.next c = .outside ↔ l = .outside := by
      rcases h with rfl | rfl | rfl
      · simp [Literal.next, isQuote, hc rfl, hs]
      · by_cases hb : c = '\\' <;> simp [Literal.next, hb, hs]
      · simp [Literal.next]
    simp [countsQuoted, hnext, hs]

theorem forall_colon_cons_iff {c : Char} {cs : Chars} {P : Chars → Prop} :
    (∀ front back, c :: cs = front ++ ':' :: back → P front) ↔
      (c = ':' → P []) ∧ ∀ front back, cs = front ++ ':' :: back → P (c :: front) := by
  constructor
  · intro h
    refine ⟨?_, ?_⟩
    · rintro rfl
      exact h [] cs rfl
    · rintro front back rfl
      exact h (c :: front) back rfl
  · rintro ⟨hnil, hcons⟩ front back he
    cases front with
    | nil => exact hnil (List.cons.inj he).1
    | cons d front =>
      obtain ⟨rfl, hcs⟩ := List.cons.inj he
      exact hcons front back hcs

theorem map_cons_eq_some_iff {c : Char} {r : Option (Chars × Chars)} {a b : Chars} :
    r.map (fun r => (c :: r.1, r.2)) = some (c :: a, b) ↔ r = some (a, b) := by
  cases r <;> simp [Prod.ext_iff]

/-- From any place of the scan on, the colon behind the text is found exactly if the count of quotes
agrees with the scan there and at each colon before it. -/
theorem labelFrom_append_colon_iff {l : Literal} {text : Chars} (hl : IsSingle l)
    (h : EnclosedFrom l text) (escapes : Nat) (any : Bool) (hany : any = true ∨ text ≠ [])
    (rest : Chars) :
    labelFrom (countsQuoted l escapes) any (text ++ ':' :: rest) = some (text ++ [':'], rest) ↔
      (escapes + escapedQuotes l text) % 2 = 0 ∧
        ∀ front back, text = front ++ ':' :: back → (escapes + escapedQuotes l front) % 2 = 0 := by
  induction text generalizing l escapes any with
  | nil =>
    obtain rfl : l = .outside := h
    obtain rfl : any = true := by simpa using hany
    rcases Nat.mod_two_eq_zero_or_one escapes with he | he
    · simp [labelFrom, countsQuoted, escapedQuotes, he]
    · -- The colon is passed over, so the label found is longer.
      have hlong : labelFrom true true rest ≠ some ([], rest) := by
        intro hlabel
        have hlast := getLast?_of_labelFrom hlabel
        cases hlast
      simpa [labelFrom, countsQuoted, escapedQuotes, he] using hlong
  | cons c cs ih =>
    have hnext := countsQuoted_next hl (fun ho => (h.1 ho).1) escapes
    have hsingle := hl.next fun ho => (h.1 ho).1
    have ih := ih hsingle h.2 (escapes + if l = .escaped '\'' ∧ c = '\'' then 1 else 0) true
      (.inl rfl)
    rw [hnext] at ih
    simp only [forall_colon_cons_iff, escapedQuotes, ← Nat.add_assoc, Nat.add_zero]
    rw [List.cons_append, labelFrom]
    -- A colon in the text stands in a literal.
    have hquoted : c = ':' → (countsQuoted l escapes = true ↔ escapes % 2 = 0) :=
      fun hc => countsQuoted_iff (fun ho => (h.1 ho).2.2 hc) escapes
    by_cases hfound : (!countsQuoted l escapes && decide (c = ':')) = true
    · rw [if_pos hfound]
      simp only [Bool.and_eq_true, Bool.not_eq_true', decide_eq_true_eq] at hfound
      obtain ⟨hcount, hc⟩ := hfound
      constructor
      · intro he
        cases any <;> simp at he
      · rintro ⟨-, hcolon, -⟩
        rw [(hquoted hc).2 (hcolon hc)] at hcount
        cases hcount
    · rw [if_neg hfound, List.cons_append, map_cons_eq_some_iff, ih]
      have heven : c = ':' → escapes % 2 = 0 := by
        intro hc
        exact (hquoted hc).1 (by simpa [hc] using hfound)
      constructor
      · rintro ⟨hend, hcolons⟩
        exact ⟨hend, heven, hcolons⟩
      · rintro ⟨hend, -, hcolons⟩
        exact ⟨hend, hcolons⟩

theorem label?_case (text : Chars) :
    label? ("case ".toList ++ text) =
      (labelFrom false false text).map fun r => ("case ".toList ++ r.1, trimStart r.2) := by
  have hcase : caseLabel? ("case ".toList ++ text) =
      (labelFrom false false text).map fun r => ("case ".toList ++ r.1, r.2) := rfl
  have hdefault : defaultLabel? ("case ".toList ++ text) = none := rfl
  rw [label?, cutLabel?, hcase]
  cases labelFrom false false text with
  | none => exact congrArg _ hdefault
  | some r => rfl

/-- What is cut off tells what is left. -/
theorem label?_case_eq_some_iff {text rest : Chars} :
    label? ("case ".toList ++ (text ++ ':' :: rest)) =
        some ("case ".toList ++ (text ++ [':']), trimStart rest) ↔
      labelFrom false false (text ++ ':' :: rest) = some (text ++ [':'], rest) := by
  rw [label?_case, Option.map_eq_some_iff]
  constructor
  · rintro ⟨⟨label, behind⟩, hlabel, he⟩
    obtain rfl : label = text ++ [':'] := by simpa using congrArg Prod.fst he
    have happend := labelFrom_append hlabel
    rw [List.append_assoc, List.singleton_append, List.append_cancel_left_eq] at happend
    rw [hlabel, (List.cons.inj happend).2]
  · intro hlabel
    exact ⟨_, hlabel, rfl⟩

end Shape

/-- The label of a choice, made of literals and other characters, ends at the colon behind it, which
is the first one outside literals. It is cut off there exactly if the number of escaped quotes
before that colon and before each colon in a literal is even, so always if there are none. -/
theorem label_ends_at_colon_iff {text : Chars} (h : LabelText text) (hn : text ≠ [])
    (rest : Chars) :
    firstColon? .outside ("case ".toList ++ (text ++ ':' :: rest)) =
        some ("case ".toList ++ (text ++ [':']), rest) ∧
      (Shape.label? ("case ".toList ++ (text ++ ':' :: rest)) =
          some ("case ".toList ++ (text ++ [':']), trimStart rest) ↔
        escapedQuotes .outside text % 2 = 0 ∧
          ∀ front back, text = front ++ ':' :: back → escapedQuotes .outside front % 2 = 0) ∧
      (escapedQuotes .outside text = 0 →
        Shape.label? ("case ".toList ++ (text ++ ':' :: rest)) =
          some ("case ".toList ++ (text ++ [':']), trimStart rest)) := by
  have hlabel :=
    Shape.labelFrom_append_colon_iff (.inl rfl) h.enclosedFrom 0 false (.inr hn) rest
  have hstart : Shape.countsQuoted .outside 0 = false := rfl
  rw [hstart] at hlabel
  simp only [Nat.zero_add] at hlabel
  rw [Shape.label?_case_eq_some_iff, hlabel]
  refine ⟨?_, Iff.rfl, ?_⟩
  · have hword : LabelText ("case ".toList ++ text) :=
      .char rfl (by decide) (by decide) (.char rfl (by decide) (by decide)
        (.char rfl (by decide) (by decide) (.char rfl (by decide) (by decide)
          (.char rfl (by decide) (by decide) h))))
    have hfirst := hword.enclosedFrom.firstColon? rest
    rwa [List.append_assoc, List.append_assoc] at hfirst
  · intro hnone
    refine ⟨by rw [hnone], ?_⟩
    rintro front back rfl
    rw [escapedQuotes_append] at hnone
    omega

/-- A colon and a backslash in literals. -/
theorem label_ends_at_colon_of_literals :
    let text := "':' + '\\\\'".toList
    LabelText text ∧ text ≠ [] ∧
      Shape.label? ("case ".toList ++ (text ++ ':' :: " n++;".toList)) =
        some ("case ':' + '\\\\':".toList, "n++;".toList) := by
  intro text
  have hcolon : LiteralBody [':'] := .char (by decide) (by decide) .nil
  have hbackslash : LiteralBody ['\\', '\\'] := .escape '\\' .nil
  have h : LabelText text :=
    .literal hcolon (.char rfl (by decide) (by decide) (.char rfl (by decide) (by decide)
      (.char rfl (by decide) (by decide) (.literal hbackslash .nil))))
  have hn : text ≠ [] := by decide
  exact ⟨h, hn, (label_ends_at_colon_iff h hn " n++;".toList).2.2 (by decide)⟩

/-- Behind an escaped quote the count never finds the end of the literal, and there is no label. -/
theorem escaped_quote_hides_label :
    let text := "'\\''".toList
    LabelText text ∧ text ≠ [] ∧
      firstColon? .outside ("case ".toList ++ (text ++ ':' :: " n++;".toList)) =
        some ("case '\\'':".toList, " n++;".toList) ∧
      Shape.label? ("case ".toList ++ (text ++ ':' :: " n++;".toList)) = none := by
  intro text
  have hquote : LiteralBody ['\\', '\''] := .escape '\'' .nil
  exact ⟨.literal hquote .nil, by decide, by decide, by decide⟩

end NestChart.Brace
