import NestChart.Proofs.Brace.Parts
import NestChart.Proofs.Builder

/-!
# NestChart.Proofs.Brace.Clean

Lines whose braces all are ends of blocks. `BraceClean` says it by one scan of the line; the parts
that such a line falls into are brace-clean again, and one that does not fall apart has at most one
brace, at its end (`BraceLast`).
-/

namespace NestChart.Brace

open Text

def isBrace (c : Char) : Bool := c == '{' || c == '}'

/-- The braces of a text, in order. -/
def bracesIn (text : Chars) : Chars := text.filter isBrace

/-- Neither a comment mark nor a directive mark stands in the text, be it code or literal. -/
structure Unmarked (text : Chars) : Prop where
  no_hash : '#' ∉ text
  no_line_mark : contains ['/', '/'] text = false
  no_block_mark : contains ['/', '*'] text = false

/-- Read on from a point of a line, where `last?` is the last character that is no blank: every
brace lies outside literals and parentheses, and no opening brace begins a value. -/
def cleanFrom (s : Scan) (last? : Option Char) : Chars → Bool
  | [] => true
  | c :: cs =>
    (!isBrace c || s.isTop) && !(c == '{' && last? == some '=') &&
      cleanFrom (s.next c) (if isBlank c then last? else some c) cs

/-- Every brace of the text is the end of a block, and nothing is a comment or a directive. -/
structure BraceClean (text : Chars) : Prop extends Unmarked text where
  scan : cleanFrom .start none text = true

instance (text : Chars) : Decidable (Unmarked text) :=
  decidable_of_iff
    ('#' ∉ text ∧ contains ['/', '/'] text = false ∧ contains ['/', '*'] text = false)
    ⟨fun ⟨h, hl, hb⟩ => ⟨h, hl, hb⟩, fun ⟨h, hl, hb⟩ => ⟨h, hl, hb⟩⟩

instance (text : Chars) : Decidable (BraceClean text) :=
  decidable_of_iff (Unmarked text ∧ cleanFrom .start none text = true)
    ⟨fun ⟨h, hs⟩ => ⟨h, hs⟩, fun ⟨h, hs⟩ => ⟨h, hs⟩⟩

/-! ## Scanning -/

theorem isBrace_of_isBlank {c : Char} (h : isBlank c = true) : isBrace c = false := by
  simp only [isBrace, Bool.or_eq_false_iff, beq_eq_false_iff_ne]
  exact ⟨ne_of_isBlank h (by decide), ne_of_isBlank h (by decide)⟩

theorem bracesIn_append (a b : Chars) : bracesIn (a ++ b) = bracesIn a ++ bracesIn b :=
  List.filter_append ..

theorem bracesIn_of_blank {blanks : Chars} (h : ∀ c ∈ blanks, isBlank c = true) :
    bracesIn blanks = [] := by
  simp only [bracesIn, List.filter_eq_nil_iff, Bool.not_eq_true]
  exact fun c hc => isBrace_of_isBlank (h c hc)

@[simp] theorem bracesIn_trimStart (cs : Chars) : bracesIn (trimStart cs) = bracesIn cs := by
  have h := bracesIn_append (cs.takeWhile isBlank) (trimStart cs)
  rwa [takeWhile_append_trimStart, bracesIn_of_blank fun _ => isBlank_of_mem_takeWhile,
    List.nil_append, eq_comm] at h

@[simp] theorem bracesIn_trimEnd (cs : Chars) : bracesIn (trimEnd cs) = bracesIn cs := by
  obtain ⟨blanks, he, hb⟩ := exists_trimEnd_append cs
  have h := bracesIn_append (trimEnd cs) blanks
  rwa [he, bracesIn_of_blank hb, List.append_nil, eq_comm] at h

namespace Scan

theorem isTop_iff {s : Scan} : s.isTop = true ↔ s = .start := by
  obtain ⟨literal, parens⟩ := s
  simp [isTop, start]

theorem isQuote_of_isBlank {c : Char} (h : isBlank c = true) : isQuote c = false := by
  simp only [isQuote, Bool.or_eq_false_iff, beq_eq_false_iff_ne]
  exact ⟨ne_of_isBlank h (by decide), ne_of_isBlank h (by decide)⟩

theorem outside_next_of_isBlank {c : Char} (h : isBlank c = true) :
    Literal.outside.next c = .outside := by
  simp [Literal.next, isQuote_of_isBlank h]

theorem outside_after_of_blank {blanks : Chars} (h : ∀ c ∈ blanks, isBlank c = true) :
    Literal.outside.after blanks = .outside := by
  induction blanks with
  | nil => rfl
  | cons c cs ih =>
    rw [Literal.after_cons, outside_next_of_isBlank (h c (by simp))]
    exact ih fun d hd => h d (by simp [hd])

theorem next_of_isBlank {c : Char} (h : isBlank c = true) : start.next c = .start := by
  have ho : c ≠ '(' := ne_of_isBlank h (by decide)
  have hc : c ≠ ')' := ne_of_isBlank h (by decide)
  simp [next, start, outside_next_of_isBlank h, ho, hc]

theorem after_of_blank {blanks : Chars} (h : ∀ c ∈ blanks, isBlank c = true) :
    start.after blanks = .start := by
  induction blanks with
  | nil => rfl
  | cons c cs ih =>
    rw [after_cons, next_of_isBlank (h c (by simp))]
    exact ih fun d hd => h d (by simp [hd])

end Scan

/-- A line is cut where nothing is open. -/
theorem Block.after_of_cutFrom {p : Position} {isFirst : Bool} {text left right : Chars}
    (h : cutFrom p isFirst text = some (left, right)) : p.scan.after left = .start := by
  induction text generalizing p isFirst left with
  | nil => simp [cutFrom] at h
  | cons c cs ih =>
    unfold cutFrom at h
    split at h
    · rename_i hc
      cases h
      simp only [Position.opensBlock, Bool.and_eq_true, beq_iff_eq] at hc
      obtain ⟨⟨⟨rfl, ht⟩, -⟩, -⟩ := hc
      rw [Scan.isTop_iff.1 ht]
      rfl
    · split at h
      · rename_i hc
        cases h
        simp only [Position.closesBlock, Bool.and_eq_true] at hc
        exact Scan.isTop_iff.1 hc.1.1.2
      · obtain ⟨r, hr, he⟩ := Option.map_eq_some_iff.1 h
        cases he
        exact (ih hr : (p.next c).scan.after r.1 = .start)

theorem Block.after_of_cut? {text left right : Chars} (h : cut? text = some (left, right)) :
    Scan.start.after left = .start :=
  after_of_cutFrom h

/-- A line is cut behind an opening brace or before a closing one. -/
theorem Block.exists_of_cutFrom {p : Position} {isFirst : Bool} {text left right : Chars}
    (h : cutFrom p isFirst text = some (left, right)) :
    (∃ front, left = front ++ ['{']) ∨ ∃ back, right = '}' :: back := by
  induction text generalizing p isFirst left with
  | nil => simp [cutFrom] at h
  | cons c cs ih =>
    unfold cutFrom at h
    split at h
    · rename_i hc
      cases h
      simp only [Position.opensBlock, Bool.and_eq_true, beq_iff_eq] at hc
      exact .inl ⟨[], by rw [hc.1.1.1]; rfl⟩
    · split at h
      · rename_i hc
        cases h
        simp only [Position.closesBlock, Bool.and_eq_true, beq_iff_eq] at hc
        exact .inr ⟨cs, by rw [hc.1.1.1]⟩
      · obtain ⟨r, hr, he⟩ := Option.map_eq_some_iff.1 h
        cases he
        rcases ih hr with ⟨front, hf⟩ | hb
        · exact .inl ⟨c :: front, by rw [hf]; rfl⟩
        · exact .inr hb

/-! ## Parts of a clean text -/

section CleanFrom

variable {s : Scan} {last? : Option Char} {a b : Chars}

theorem cleanFrom_cons {c : Char} {cs : Chars} :
    cleanFrom s last? (c :: cs) = true ↔
      (isBrace c = true → s.isTop = true) ∧ ¬(c = '{' ∧ last? = some '=') ∧
        cleanFrom (s.next c) (if isBlank c then last? else some c) cs = true := by
  rw [cleanFrom]
  simp only [Bool.and_eq_true, Bool.or_eq_true, Bool.not_eq_true', Bool.and_eq_false_iff,
    beq_eq_false_iff_ne, and_assoc]
  refine and_congr ?_ (and_congr ?_ Iff.rfl)
  · cases isBrace c <;> simp
  · exact Decidable.not_and_iff_or_not.symm

theorem cleanFrom_left (h : cleanFrom s last? (a ++ b) = true) : cleanFrom s last? a = true := by
  induction a generalizing s last? with
  | nil => rfl
  | cons c a ih =>
    obtain ⟨ht, hv, h⟩ := cleanFrom_cons.1 h
    exact cleanFrom_cons.2 ⟨ht, hv, ih h⟩

/-- What stands in front can only spoil a text. -/
theorem cleanFrom_none (h : cleanFrom s last? a = true) : cleanFrom s none a = true := by
  induction a generalizing s last? with
  | nil => rfl
  | cons c a ih =>
    obtain ⟨ht, hv, h⟩ := cleanFrom_cons.1 h
    refine cleanFrom_cons.2 ⟨ht, by simp, ?_⟩
    by_cases hb : isBlank c = true
    · rw [if_pos hb] at h ⊢
      exact ih h
    · rwa [if_neg hb] at h ⊢

theorem cleanFrom_right (h : cleanFrom s last? (a ++ b) = true) :
    cleanFrom (s.after a) none b = true := by
  induction a generalizing s last? with
  | nil => exact cleanFrom_none h
  | cons c a ih => exact ih (cleanFrom_cons.1 h).2.2

end CleanFrom

theorem classify_ne_comment {text : Chars} (h : Comment.start text = .none) :
    classify text ≠ .comment := by
  unfold classify
  rw [if_neg (by simp [h])]
  repeat' split
  all_goals simp

theorem classify_ne_directive {text : Chars} (h : Comment.start text = .none)
    (hd : isDirective text = false) : classify text ≠ .directive := by
  unfold classify
  rw [if_neg (by simp [h]), if_neg (by simpa [isDirective] using hd)]
  repeat' split
  all_goals simp

namespace Unmarked

variable {text : Chars}

theorem uncommented (h : Unmarked text) : Uncommented text := ⟨h.no_line_mark, h.no_block_mark⟩

theorem of_standsAt {part : Chars} {i : Nat} (h : Unmarked text) (hp : StandsAt text part i) :
    Unmarked part :=
  have hu := h.uncommented.of_standsAt hp
  ⟨fun hm => h.no_hash (hp.mem hm), hu.no_line_mark, hu.no_block_mark⟩

theorem isDirective (h : Unmarked text) : isDirective text = false := by
  cases text with
  | nil => rfl
  | cons c cs =>
    have hc : c ≠ '#' := fun he => h.no_hash (by simp [he])
    simp [Brace.isDirective, hc]

theorem classify_ne_comment (h : Unmarked text) : classify text ≠ .comment :=
  Brace.classify_ne_comment h.uncommented.start

theorem classify_ne_directive (h : Unmarked text) : classify text ≠ .directive :=
  Brace.classify_ne_directive h.uncommented.start h.isDirective

end Unmarked

namespace BraceClean

variable {a b text : Chars}

theorem left (h : BraceClean (a ++ b)) : BraceClean a :=
  ⟨h.of_standsAt (.left a b), cleanFrom_left h.scan⟩

/-- What follows a point where nothing is open. -/
theorem right (h : BraceClean (a ++ b)) (ha : Scan.start.after a = .start) : BraceClean b := by
  have hs := cleanFrom_right h.scan
  rw [ha] at hs
  exact ⟨h.of_standsAt (.right a b), hs⟩

theorem trimEnd (h : BraceClean text) : BraceClean (trimEnd text) := by
  obtain ⟨blanks, he, -⟩ := exists_trimEnd_append text
  rw [← he] at h
  exact h.left

theorem trimStart (h : BraceClean text) : BraceClean (trimStart text) := by
  rw [← takeWhile_append_trimStart text] at h
  exact h.right (Scan.after_of_blank fun _ => isBlank_of_mem_takeWhile)

theorem trimStart_append (h : BraceClean (a ++ b)) : BraceClean (Text.trimStart a ++ b) := by
  rw [← takeWhile_append_trimStart a, List.append_assoc] at h
  exact h.right (Scan.after_of_blank fun _ => isBlank_of_mem_takeWhile)

/-- A line is clean without its end and its outer blanks. -/
theorem trimmed {l : Line} (h : BraceClean l.text) : BraceClean l.trimmed := by
  have hc : BraceClean l.content := by
    rw [← l.content_append] at h
    exact h.left
  exact hc.trimStart.trimEnd

end BraceClean

/-! ## Texts with a brace at the end only -/

/-- No comment, no directive, and no brace but an opening one at the end. -/
structure BraceLast (text : Chars) : Prop extends Unmarked text where
  no_closer : '}' ∉ text
  opener_last : '{' ∉ text.dropLast

/-- What a position knows of the last character, when the whole text knows `last?`. A literal never
ends with a value sign, for its quote comes behind it. -/
def Block.Position.Sees (p : Block.Position) (last? : Option Char) : Prop :=
  p.initializers = 0 ∧ (p.last? = some '=' → p.scan.literal = .outside ∧ last? = some '=')

theorem Block.Position.Sees.not_inInitializer {p : Block.Position} {last? : Option Char}
    (h : p.Sees last?) (hv : last? ≠ some '=') : p.inInitializer = false := by
  have hl : p.last? ≠ some '=' := fun he => hv (h.2 he).2
  simp [inInitializer, h.1, hl]

/-- A character that begins no value is seen as it is. -/
theorem Block.Position.Sees.next {p : Block.Position} {last? : Option Char} {c : Char}
    (h : p.Sees last?) (hv : ¬(c = '{' ∧ last? = some '=')) :
    (p.next c).Sees (if isBlank c then last? else some c) := by
  constructor
  · simp only [Position.next]
    split
    · exact h.1
    split
    · rename_i hc
      simp only [Bool.and_eq_true, decide_eq_true_eq] at hc
      rw [h.not_inInitializer fun he => hv ⟨hc.1, he⟩] at hc
      exact absurd hc.2 (by simp)
    split
    · rw [h.1]
    · exact h.1
  · intro he
    simp only [Position.next] at he ⊢
    by_cases ho : p.scan.literal = .outside
    · by_cases hb : isBlank c = true
      · simp only [ho, hb, ne_eq, not_true, decide_false, Bool.or_true, if_true] at he ⊢
        exact ⟨by rw [Scan.next, ho, Scan.outside_next_of_isBlank hb], (h.2 he).2⟩
      · simp only [ho, hb, ne_eq, not_true, decide_false, Bool.or_false] at he ⊢
        cases he
        exact ⟨by simp [Scan.next, ho, Literal.next, isQuote], rfl⟩
    · simp only [ho, ne_eq, not_false_eq_true, decide_true, Bool.true_or, if_true] at he
      exact absurd (h.2 he).1 ho

/-- A clean text that is not cut has no brace inside. -/
theorem no_brace_of_cutFrom {p : Block.Position} {isFirst : Bool} {last? : Option Char}
    {text : Chars} (h : cleanFrom p.scan last? text = true) (hp : p.Sees last?)
    (hf : isFirst = true → text.head? ≠ some '}') (hc : Block.cutFrom p isFirst text = none) :
    '}' ∉ text ∧ '{' ∉ text.dropLast := by
  induction text generalizing p isFirst last? with
  | nil => simp
  | cons c cs ih =>
    obtain ⟨ht, hv, hs⟩ := cleanFrom_cons.1 h
    unfold Block.cutFrom at hc
    split at hc
    · cases hc
    rename_i ho
    split at hc
    · cases hc
    rename_i hcl
    have hopen : c = '{' → cs = [] := by
      rintro rfl
      have htop := ht rfl
      have hinit := hp.not_inInitializer fun he => hv ⟨rfl, he⟩
      simpa [Block.Position.opensBlock, htop, hinit] using ho
    have hclose : c ≠ '}' := by
      rintro rfl
      have htop := ht rfl
      have hfirst : isFirst = true := by
        simpa [Block.Position.closesBlock, htop, hp.1] using hcl
      exact hf hfirst rfl
    obtain ⟨h1, h2⟩ := ih (p := p.next c) hs (hp.next hv) (by simp) (Option.map_eq_none_iff.1 hc)
    refine ⟨by simp [Ne.symm hclose, h1], ?_⟩
    cases cs with
    | nil => simp
    | cons d cs =>
      have hne : c ≠ '{' := fun he => by cases hopen he
      rw [List.dropLast_cons_cons, List.mem_cons, not_or]
      exact ⟨Ne.symm hne, h2⟩

theorem BraceClean.braceLast {text : Chars} (h : BraceClean text) (hu : Undivided text) :
    BraceLast text := by
  obtain ⟨h1, h2⟩ := no_brace_of_cutFrom (p := .start) h.scan ⟨rfl, by simp [Block.Position.start]⟩
    (fun _ => Block.afterClose?_eq_none.1 hu.no_closer) hu.no_brace
  exact ⟨h.toUnmarked, h1, h2⟩

namespace BraceLast

variable {text : Chars}

theorem blockCut? (h : BraceLast text) : Block.cut? text = none :=
  Block.cutFrom_of_not_mem h.no_closer h.opener_last

theorem right {a b : Chars} (h : BraceLast (a ++ b)) : BraceLast b where
  toUnmarked := h.of_standsAt (.right a b)
  no_closer hm := h.no_closer (List.mem_append_right a hm)
  opener_last := by
    have ho := h.opener_last
    by_cases hb : b = []
    · simp [hb]
    · rw [List.dropLast_append_of_ne_nil hb] at ho
      exact fun hm => ho (List.mem_append_right a hm)

theorem trimStart (h : BraceLast text) : BraceLast (trimStart text) := by
  rw [← takeWhile_append_trimStart text] at h
  exact h.right

theorem bracesIn_of_not_mem (ho : '{' ∉ text) (hc : '}' ∉ text) : bracesIn text = [] := by
  simp only [Brace.bracesIn, List.filter_eq_nil_iff, isBrace, Bool.or_eq_true, beq_iff_eq, not_or]
  intro c hm
  constructor
  · rintro rfl
    exact ho hm
  · rintro rfl
    exact hc hm

/-- The one brace that may be left is the one that is taken off the end. -/
theorem bracesIn (h : BraceLast text) :
    bracesIn text = if (splitOpener text).2 then ['{'] else [] := by
  rcases text.eq_nil_or_concat with rfl | ⟨front, last, rfl⟩
  · rfl
  rw [List.concat_eq_append] at h ⊢
  have ho := h.opener_last
  rw [List.dropLast_concat] at ho
  by_cases hl : last = '{'
  · subst hl
    have hc : '}' ∉ front := fun hm => h.no_closer (by simp [hm])
    rw [splitOpener_concat, bracesIn_append, bracesIn_of_not_mem ho hc]
    rfl
  · rw [splitOpener_of_getLast? (by simpa using hl)]
    exact bracesIn_of_not_mem (by simp [ho, Ne.symm hl]) h.no_closer

/-- A label does not end with a brace, so it has none. -/
theorem bracesIn_label {label behind : Chars} (h : BraceLast (label ++ behind))
    (hl : label.getLast? = some ':') : Brace.bracesIn label = [] := by
  obtain ⟨front, rfl⟩ := List.getLast?_eq_some_iff.1 hl
  have ho := h.opener_last
  have hc := h.no_closer
  rw [List.append_assoc, List.dropLast_append_of_ne_nil (by simp)] at ho
  refine bracesIn_of_not_mem ?_ ?_
  · simpa using fun hm => ho (List.mem_append_left _ hm)
  · exact fun hm => hc (List.mem_append_left _ hm)

end BraceLast
end NestChart.Brace
