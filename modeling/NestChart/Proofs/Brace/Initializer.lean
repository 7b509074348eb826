import NestChart.Proofs.Brace.Level

/-!
# NestChart.Proofs.Brace.Initializer

Braces of initializers. A line passes over the braces of an initializer, but it knows of one only
from the `=` on the same line, and it takes any opening brace at its end for that of a block. So
lines can be read for other braces than their text holds. `blocks_kept_iff` says when this does no
harm: the braces that the lines are read for must be balanced, and they are if the text is balanced
and each line closes the initializers that it opens and passes over.
-/

namespace NestChart.Brace

open Text

/-! ## Code without marks -/

/-- Read on from a point: no comment mark and no directive mark stands outside literals. -/
def codeFrom (l : Literal) : Chars → Bool
  | [] => true
  | c :: cs =>
    !(l = .outside && (Comment.isMark (c :: cs) || c == '#')) && codeFrom (l.next c) cs

/-- Nothing outside literals begins a comment or a directive. -/
def IsCode (text : Chars) : Prop := codeFrom .outside text = true

instance (text : Chars) : Decidable (IsCode text) :=
  inferInstanceAs (Decidable (codeFrom .outside text = true))

section CodeFrom

variable {l : Literal} {a b : Chars}

theorem codeFrom_cons {c : Char} {cs : Chars} :
    codeFrom l (c :: cs) = true ↔
      (l = .outside → Comment.isMark (c :: cs) = false ∧ c ≠ '#') ∧ codeFrom (l.next c) cs = true := by
  rw [codeFrom, Bool.and_eq_true]
  refine and_congr ?_ Iff.rfl
  by_cases hl : l = .outside
  · simp [hl]
  · simp [hl]

theorem Comment.isMark_left (h : isMark a = true) : isMark (a ++ b) = true := by
  unfold isMark at h
  split at h
  · rfl
  · rfl
  · cases h

theorem codeFrom_left (h : codeFrom l (a ++ b) = true) : codeFrom l a = true := by
  induction a generalizing l with
  | nil => rfl
  | cons c a ih =>
    obtain ⟨hc, h⟩ := codeFrom_cons.1 h
    refine codeFrom_cons.2 ⟨fun hl => ⟨?_, (hc hl).2⟩, ih h⟩
    cases hm : Comment.isMark (c :: a) with
    | false => rfl
    | true =>
      have hboth : Comment.isMark (c :: a ++ b) = false := (hc hl).1
      rw [Comment.isMark_left hm] at hboth
      cases hboth

theorem codeFrom_right (h : codeFrom l (a ++ b) = true) : codeFrom (l.after a) b = true := by
  induction a generalizing l with
  | nil => exact h
  | cons c a ih => exact ih (codeFrom_cons.1 h).2

theorem Comment.cutFrom_of_codeFrom (h : codeFrom l a = true) : cutFrom l a = none := by
  induction a generalizing l with
  | nil => rfl
  | cons c a ih =>
    obtain ⟨hc, h⟩ := codeFrom_cons.1 h
    have hmark : (l = .outside && isMark (c :: a)) = false := by
      by_cases hl : l = .outside
      · rw [(hc hl).1, Bool.and_false]
      · simp [hl]
    rw [cutFrom, hmark, ih h]
    rfl

end CodeFrom

theorem Scan.literal_after (s : Scan) (cs : Chars) : (s.after cs).literal = s.literal.after cs := by
  induction cs generalizing s with
  | nil => rfl
  | cons c cs ih => exact ih (s.next c)

namespace IsCode

variable {a b text : Chars}

theorem isMark (h : IsCode text) : Comment.isMark text = false := by
  cases text with
  | nil => rfl
  | cons c cs => exact ((codeFrom_cons.1 h).1 rfl).1

theorem start (h : IsCode text) : Comment.start text = .none := Comment.start_eq_none.2 h.isMark

theorem isDirective (h : IsCode text) : isDirective text = false := by
  cases text with
  | nil => rfl
  | cons c cs => simpa [Brace.isDirective] using ((codeFrom_cons.1 h).1 rfl).2

theorem cut? (h : IsCode text) : Comment.cut? text = none := by
  cases text with
  | nil => rfl
  | cons c cs =>
    rw [Comment.cut?, Comment.cutFrom_of_codeFrom (codeFrom_cons.1 h).2]
    rfl

theorem left (h : IsCode (a ++ b)) : IsCode a := codeFrom_left h

theorem right (h : IsCode (a ++ b)) (ha : Literal.outside.after a = .outside) : IsCode b := by
  have hb := codeFrom_right h
  rwa [ha] at hb

theorem trimEnd (h : IsCode text) : IsCode (trimEnd text) := by
  obtain ⟨blanks, he, -⟩ := exists_trimEnd_append text
  rw [← he] at h
  exact h.left

theorem trimStart (h : IsCode text) : IsCode (trimStart text) := by
  rw [← takeWhile_append_trimStart text] at h
  exact h.right (Scan.outside_after_of_blank fun _ => isBlank_of_mem_takeWhile)

theorem behind_closer {cs : Chars} (h : IsCode ('}' :: cs)) : IsCode (Text.trimStart cs) :=
  (h.right (a := ['}']) rfl).trimStart

/-- What follows a cut before or behind a brace. -/
theorem behind_cut (h : IsCode (a ++ b)) (hb : Block.cut? (a ++ b) = some (a, b)) : IsCode b := by
  refine h.right ?_
  rw [show Literal.outside = Scan.start.literal from rfl, ← Scan.literal_after,
    Block.after_of_cut? hb]

end IsCode

/-- Code without labels opens no comment. -/
theorem State.comment?_run_of_isCode {text : Chars} {start : Nat} (h : IsCode text)
    (hl : (Parts.ofText text start).hasLabel = false) {s : State} (hs : s.comment? = none)
    (line : Nat) : (run line (.ofText text start) s).state.comment? = none := by
  induction text using Parts.ofText_induction generalizing s start with
  | nil =>
    rw [Parts.ofText_nil]
    exact hs
  | closer cs ih =>
    rw [Parts.ofText_closer rfl] at hl ⊢
    exact ih h.behind_closer hl (by simp [hs])
  | opener =>
    rw [Parts.ofText_opener]
    exact hs
  | directive text hd =>
    rw [h.isDirective] at hd
    cases hd
  | beside text code behind hbare hm =>
    rw [h.cut?] at hm
    cases hm
  | both text left right hbare hm hb ihl ihr =>
    rw [Parts.ofText_both hbare hm hb] at hl ⊢
    rw [Parts.hasLabel, Bool.or_eq_false_iff] at hl
    obtain ⟨rfl, -, -⟩ := Block.cut?_append hb
    exact ihr (h.behind_cut hb).trimStart hl.2 (ihl h.left.trimEnd hl.1 hs)
  | undivided text hu =>
    rw [Parts.ofText_undivided hu] at hl ⊢
    cases hk : classify text with
    | comment => exact absurd hk (classify_ne_comment h.start)
    | directive => exact absurd hk (classify_ne_directive h.start h.isDirective)
    | controlHeader =>
      rw [hk] at hl
      cases hlabel : Shape.label? text with
      | some r =>
        rw [hlabel] at hl
        cases hl
      | none =>
        simp only [run, placeHeader, Step.emit]
        split
        · simp [hs]
        · simp [hs]
    | statement =>
      simp only [run, placeStatements, openBlockIf_comment?]
      split
      · exact hs
      · exact hs
    | prototype => simp [run, placeDeclaration, Step.emit, openBlockIf_comment?, hs]
    | declaration => simp [run, placeDeclaration, Step.emit, openBlockIf_comment?, hs]

/-! ## Scans backwards -/

namespace Scan

/-- Quotes alone open literals. -/
def Quoted (s : Scan) : Prop :=
  ∀ q, s.literal = .inside q ∨ s.literal = .escaped q → isQuote q = true

theorem start_quoted : start.Quoted := by simp [Quoted, start]

theorem Quoted.next {s : Scan} (h : s.Quoted) (c : Char) : (s.next c).Quoted := by
  intro q hq
  rw [show (s.next c).literal = s.literal.next c from rfl] at hq
  cases hl : s.literal with
  | outside =>
    rw [hl] at hq
    cases hc : isQuote c with
    | true =>
      have hcq : c = q := by simpa [Literal.next, hc] using hq
      rw [← hcq, hc]
    | false => simp [Literal.next, hc] at hq
  | inside p =>
    have hpq : p = q := by
      rw [hl, Literal.next] at hq
      split at hq
      · simpa using hq
      split at hq
      · simp at hq
      · simpa using hq
    exact hpq ▸ h p (.inl hl)
  | escaped p =>
    have hpq : p = q := by simpa [hl, Literal.next] using hq
    exact hpq ▸ h p (.inr hl)

/-- Only quotes and parentheses lead back to where nothing is open. -/
theorem Quoted.isTop_of_next {s : Scan} (h : s.Quoted) {c : Char} (hc : isQuote c = false)
    (ho : c ≠ '(') (hcl : c ≠ ')') (ht : (s.next c).isTop = true) : s.isTop = true := by
  simp only [isTop, Bool.and_eq_true, beq_iff_eq, Scan.next] at ht ⊢
  obtain ⟨hl, hp⟩ := ht
  have hout : s.literal = .outside := by
    cases hs : s.literal with
    | outside => rfl
    | inside q =>
      have hne : c ≠ q := by
        rintro rfl
        rw [h c (.inl hs)] at hc
        cases hc
      rw [hs, Literal.next, if_neg hne] at hl
      split at hl <;> cases hl
    | escaped q =>
      rw [hs] at hl
      cases hl
  simpa [hout, ho, hcl] using hp

end Scan

/-! ## Braces that a line is read for -/

namespace Block
namespace Position

/-- A brace here begins or ends a block: it lies neither in an initializer nor in a literal or
parentheses, or it is an opening one with nothing but blanks, `cs`, behind it. -/
def reads (p : Position) (c : Char) (cs : Chars) : Bool :=
  p.opensBlock c || p.closesBlock c || (c == '{' && cs.all isBlank)

/-- Neither position can be told from the other by what follows. -/
structure Alike (p q : Position) : Prop where
  scan : p.scan = q.scan
  initializers : p.initializers = q.initializers
  value : (p.last? == some '=') = (q.last? == some '=')

namespace Alike

variable {p q : Position}

theorem inInitializer (h : Alike p q) : p.inInitializer = q.inInitializer := by
  rw [Position.inInitializer, Position.inInitializer, h.initializers, h.value]

theorem reads (h : Alike p q) (c : Char) (cs : Chars) : p.reads c cs = q.reads c cs := by
  rw [Position.reads, Position.reads, opensBlock, opensBlock, closesBlock, closesBlock, h.scan,
    h.initializers, h.inInitializer]

theorem next (h : Alike p q) (c : Char) : Alike (p.next c) (q.next c) where
  scan := by rw [Position.next, Position.next, h.scan]
  initializers := by
    simp only [Position.next, h.scan, h.initializers, h.inInitializer]
  value := by
    simp only [Position.next, h.scan]
    split
    · exact h.value
    · rfl

end Alike

/-- Behind a brace that begins or ends a block nothing is open, as at the start of a line. -/
theorem alike_of_opensBlock {p : Position} {c : Char} (h : p.opensBlock c = true) :
    Alike (p.next c) .start := by
  simp only [opensBlock, inInitializer, Bool.and_eq_true, beq_iff_eq, Bool.not_eq_true',
    Bool.or_eq_false_iff, decide_eq_false_iff_not] at h
  obtain ⟨⟨rfl, htop⟩, hzero, hvalue⟩ := h
  have hscan := Scan.isTop_iff.1 htop
  constructor
  · rw [Position.next, hscan]
    rfl
  · have hnone : p.initializers = 0 := by omega
    simp [Position.next, htop, inInitializer, hnone, hvalue, start]
  · simp [Position.next, hscan, Scan.start, isBlank, start]

theorem alike_of_closesBlock {p : Position} {c : Char} (h : p.closesBlock c = true) :
    Alike (p.next c) .start := by
  simp only [closesBlock, Bool.and_eq_true, beq_iff_eq] at h
  obtain ⟨⟨rfl, htop⟩, hzero⟩ := h
  have hscan := Scan.isTop_iff.1 htop
  constructor
  · rw [Position.next, hscan]
    rfl
  · simp [Position.next, htop, hzero, start]
  · simp [Position.next, hscan, Scan.start, isBlank, start]

theorem alike_of_isBlank {c : Char} (h : isBlank c = true) : Alike (Position.start.next c) .start := by
  have ho : c ≠ '{' := ne_of_isBlank h (by decide)
  have hc : c ≠ '}' := ne_of_isBlank h (by decide)
  constructor
  · exact Scan.next_of_isBlank h
  · simp [Position.next, start, ho, hc]
  · simp [Position.next, start, h]

end Position

/-- The braces by which a line opens and closes blocks, read on from a point. -/
def bracesFrom (p : Position) : Chars → Chars
  | [] => []
  | c :: cs => if p.reads c cs then c :: bracesFrom (p.next c) cs else bracesFrom (p.next c) cs

section BracesFrom

variable {p q : Position}

theorem bracesFrom_of_alike (h : p.Alike q) (text : Chars) :
    bracesFrom p text = bracesFrom q text := by
  induction text generalizing p q with
  | nil => rfl
  | cons c cs ih => rw [bracesFrom, bracesFrom, h.reads, ih (h.next c)]

theorem Position.reads_of_not_isBrace {c : Char} (h : isBrace c = false) (p : Position)
    (cs : Chars) : p.reads c cs = false := by
  simp only [isBrace, Bool.or_eq_false_iff] at h
  simp [Position.reads, Position.opensBlock, Position.closesBlock, h.1, h.2]

theorem bracesFrom_of_blank {blanks : Chars} (h : ∀ c ∈ blanks, isBlank c = true) (p : Position) :
    bracesFrom p blanks = [] := by
  induction blanks generalizing p with
  | nil => rfl
  | cons c cs ih =>
    rw [bracesFrom, Position.reads_of_not_isBrace (isBrace_of_isBlank (h c (by simp))), if_neg (by simp)]
    exact ih (fun d hd => h d (by simp [hd])) _

theorem bracesFrom_append_blanks {blanks : Chars} (h : ∀ c ∈ blanks, isBlank c = true)
    (p : Position) (text : Chars) : bracesFrom p (text ++ blanks) = bracesFrom p text := by
  induction text generalizing p with
  | nil => exact bracesFrom_of_blank h p
  | cons c cs ih =>
    have hreads : p.reads c (cs ++ blanks) = p.reads c cs := by
      have hall : blanks.all isBlank = true := List.all_eq_true.2 h
      rw [Position.reads, Position.reads, List.all_append, hall, Bool.and_true]
    rw [List.cons_append, bracesFrom, bracesFrom, hreads, ih]

theorem bracesFrom_trimEnd (p : Position) (text : Chars) :
    bracesFrom p (trimEnd text) = bracesFrom p text := by
  obtain ⟨blanks, he, hb⟩ := exists_trimEnd_append text
  rw [← bracesFrom_append_blanks hb, he]

theorem bracesFrom_blanks_append {blanks : Chars} (h : ∀ c ∈ blanks, isBlank c = true)
    (text : Chars) : bracesFrom .start (blanks ++ text) = bracesFrom .start text := by
  induction blanks with
  | nil => rfl
  | cons c cs ih =>
    have hc := h c (by simp)
    rw [List.cons_append, bracesFrom, Position.reads_of_not_isBrace (isBrace_of_isBlank hc),
      if_neg (by simp), bracesFrom_of_alike (Position.alike_of_isBlank hc)]
    exact ih fun d hd => h d (by simp [hd])

theorem bracesFrom_trimStart (text : Chars) :
    bracesFrom .start (trimStart text) = bracesFrom .start text := by
  have hblanks : ∀ c ∈ text.takeWhile isBlank, isBlank c = true :=
    fun _ => isBlank_of_mem_takeWhile
  rw [← bracesFrom_blanks_append hblanks, takeWhile_append_trimStart]

theorem bracesFrom_closer (cs : Chars) :
    bracesFrom .start ('}' :: cs) = '}' :: bracesFrom .start (trimStart cs) := by
  rw [bracesFrom_trimStart]
  exact congrArg (List.cons '}') (bracesFrom_of_alike (Position.alike_of_closesBlock rfl) cs)

theorem not_closesBlock {isFirst : Bool} {c : Char} {cs : Chars}
    (hf : isFirst = true → (c :: cs).head? ≠ some '}')
    (h : ¬(p.closesBlock c && !isFirst) = true) : p.closesBlock c = false := by
  cases hc : p.closesBlock c with
  | false => rfl
  | true =>
    have hfirst : isFirst = true := by simpa [hc] using h
    simp only [Position.closesBlock, Bool.and_eq_true, beq_iff_eq] at hc
    exact absurd (congrArg some hc.1.1) (hf hfirst)

/-- A text that is not cut is read for a brace at its end only. -/
theorem bracesFrom_of_not_cut {isFirst : Bool} {text : Chars}
    (h : cutFrom p isFirst text = none) (hf : isFirst = true → text.head? ≠ some '}')
    (he : SolidEnd text) :
    bracesFrom p text = if text.getLast? = some '{' then ['{'] else [] := by
  induction text generalizing p isFirst with
  | nil => rfl
  | cons c cs ih =>
    unfold cutFrom at h
    split at h
    · cases h
    rename_i hopen
    split at h
    · cases h
    rename_i hclose
    have hcloses : p.closesBlock c = false := not_closesBlock hf hclose
    cases cs with
    | nil =>
      have hreads : p.reads c [] = (c == '{') := by
        rw [Position.reads, hcloses, Position.opensBlock]
        cases c == '{' <;> simp
      rw [bracesFrom, hreads]
      by_cases hc : c = '{'
      · simp [hc, bracesFrom]
      · simp [hc, bracesFrom]
    | cons d cs =>
      have hopens : p.opensBlock c = false := by simpa using hopen
      have hlast : (d :: cs).all isBlank = false := by
        obtain ⟨z, hz⟩ := Option.ne_none_iff_exists'.1
          (show (d :: cs).getLast? ≠ none by simp)
        have hsolid := he z (by rw [List.getLast?_cons_cons]; exact hz)
        rw [List.all_eq_false]
        exact ⟨z, List.mem_of_getLast? hz, by simp [hsolid]⟩
      have hreads : p.reads c (d :: cs) = false := by
        rw [Position.reads, hopens, hcloses, hlast, Bool.and_false]
        rfl
      rw [bracesFrom, hreads, List.getLast?_cons_cons]
      exact ih (Option.map_eq_none_iff.1 h) (by simp) (SolidEnd.append_right (a := [c]) he)

/-- A cut that only blanks precede finds nothing open where the blanks begin. -/
theorem top_of_cutFrom_blank {isFirst : Bool} {text left right : Chars}
    (hp : p.scan.Quoted) (h : cutFrom p isFirst text = some (left, right))
    (hb : ∀ c ∈ left, isBlank c = true) : p.scan.isTop = true ∧ p.initializers = 0 := by
  induction text generalizing p isFirst left with
  | nil => cases h
  | cons c cs ih =>
    unfold cutFrom at h
    split at h
    · rename_i hopen
      cases h
      simp only [Position.opensBlock, Bool.and_eq_true, beq_iff_eq] at hopen
      have hblank := hb c (by simp)
      rw [hopen.1.1.1] at hblank
      cases hblank
    · split at h
      · rename_i hclose
        simp only [Position.closesBlock, Bool.and_eq_true, beq_iff_eq] at hclose
        exact ⟨hclose.1.1.2, hclose.1.2⟩
      · obtain ⟨r, hr, he⟩ := Option.map_eq_some_iff.1 h
        cases he
        have hblank := hb c (by simp)
        obtain ⟨htop, hzero⟩ := ih (p := p.next c) (hp.next c) hr fun d hd => hb d (by simp [hd])
        have ho : c ≠ '{' := ne_of_isBlank hblank (by decide)
        have hc : c ≠ '}' := ne_of_isBlank hblank (by decide)
        refine ⟨hp.isTop_of_next (Scan.isQuote_of_isBlank hblank)
          (ne_of_isBlank hblank (by decide)) (ne_of_isBlank hblank (by decide)) htop, ?_⟩
        simpa [Position.next, ho, hc] using hzero

/-- A brace that is passed over has more than blanks between it and the next cut. -/
theorem not_blank_of_cutFrom {cs left right : Chars} (hp : p.scan.Quoted)
    (ho : p.opensBlock '{' = false) (h : cutFrom (p.next '{') false cs = some (left, right)) :
    left.all isBlank = false := by
  rw [← Bool.not_eq_true, List.all_eq_true]
  intro hb
  obtain ⟨htop, hzero⟩ := top_of_cutFrom_blank (p := p.next '{') (hp.next '{') h hb
  have htop : p.scan.isTop = true :=
    hp.isTop_of_next (by decide) (by decide) (by decide) htop
  have hin : p.inInitializer = true := by
    cases hi : p.inInitializer with
    | true => rfl
    | false => simp [Position.opensBlock, htop, hi] at ho
  simp [Position.next, htop, hin] at hzero

/-- Where a line is cut, it is read for the braces of either side. -/
theorem bracesFrom_of_cut {isFirst : Bool} {text left right : Chars}
    (hp : p.scan.Quoted) (h : cutFrom p isFirst text = some (left, right))
    (hf : isFirst = true → text.head? ≠ some '}') :
    bracesFrom p text = bracesFrom p left ++ bracesFrom .start right := by
  induction text generalizing p isFirst left with
  | nil => cases h
  | cons c cs ih =>
    unfold cutFrom at h
    split at h
    · rename_i hopen
      cases h
      simp only [Bool.and_eq_true] at hopen
      have hreads : ∀ more, p.reads c more = true := by simp [Position.reads, hopen.1]
      rw [bracesFrom, bracesFrom, hreads, hreads,
        bracesFrom_of_alike (Position.alike_of_opensBlock hopen.1)]
      rfl
    rename_i hopen
    split at h
    · rename_i hclose
      cases h
      simp only [Bool.and_eq_true] at hclose
      have hc : c = '}' := by
        have hbrace := hclose.1
        simp only [Position.closesBlock, Bool.and_eq_true, beq_iff_eq] at hbrace
        exact hbrace.1.1
      have hreads : p.reads c cs = true := by simp [Position.reads, hclose.1]
      rw [hc] at hclose hreads ⊢
      rw [bracesFrom_closer, bracesFrom_trimStart, bracesFrom, bracesFrom, hreads,
        bracesFrom_of_alike (Position.alike_of_closesBlock hclose.1)]
      rfl
    rename_i hclose
    obtain ⟨r, hr, he⟩ := Option.map_eq_some_iff.1 h
    cases he
    have hopens : p.opensBlock c = false := by
      have hn : cs ≠ [] := by
        rintro rfl
        cases hr
      simpa [hn] using hopen
    have hcloses : p.closesBlock c = false := not_closesBlock hf hclose
    have hreads : p.reads c cs = p.reads c r.1 := by
      by_cases hc : c = '{'
      · subst hc
        -- Neither the cut nor the line lies right behind this brace.
        have hleft := not_blank_of_cutFrom hp hopens hr
        have hcs : cs.all isBlank = false := by
          rw [← (cutFrom_append hr).1, List.all_append, hleft, Bool.false_and]
        rw [Position.reads, Position.reads, hleft, hcs]
      · have hne : (c == '{') = false := beq_false_of_ne hc
        rw [Position.reads, Position.reads, hne, Bool.false_and, Bool.false_and]
    rw [bracesFrom, bracesFrom, hreads, ih (p := p.next c) (hp.next c) hr (by simp)]
    split
    · rfl
    · rfl

end BracesFrom
end Block

/-- A line of code without labels opens and closes blocks by the braces that it is read for. -/
theorem braces_of_isCode {text : Chars} {start : Nat} (h : IsCode text) (he : SolidEnd text)
    (hl : (Parts.ofText text start).hasLabel = false) :
    (Parts.ofText text start).braces = Block.bracesFrom .start text := by
  induction text using Parts.ofText_induction generalizing start with
  | nil =>
    rw [Parts.ofText_nil]
    rfl
  | closer cs ih =>
    rw [Parts.ofText_closer rfl] at hl ⊢
    have hend : SolidEnd (trimStart cs) := solidEnd_trimStart (SolidEnd.append_right (a := ['}']) he)
    rw [Parts.braces, ih h.behind_closer hend hl, Block.bracesFrom_closer]
  | opener =>
    rw [Parts.ofText_opener]
    rfl
  | directive text hd =>
    rw [h.isDirective] at hd
    cases hd
  | beside text code behind hbare hm =>
    rw [h.cut?] at hm
    cases hm
  | both text left right hbare hm hb ihl ihr =>
    rw [Parts.ofText_both hbare hm hb] at hl ⊢
    rw [Parts.hasLabel, Bool.or_eq_false_iff] at hl
    have hfirst : true = true → text.head? ≠ some '}' := fun _ =>
      Block.afterClose?_eq_none.1 hbare.no_closer
    have hbraces := Block.bracesFrom_of_cut Scan.start_quoted hb hfirst
    obtain ⟨rfl, -, -⟩ := Block.cut?_append hb
    rw [Parts.braces, ihl h.left.trimEnd (solidEnd_trimEnd left) hl.1,
      ihr (h.behind_cut hb).trimStart (solidEnd_trimStart he.append_right) hl.2,
      Block.bracesFrom_trimEnd, Block.bracesFrom_trimStart]
    exact hbraces.symm
  | undivided text hu =>
    have hfirst : true = true → text.head? ≠ some '}' := fun _ =>
      Block.afterClose?_eq_none.1 hu.no_closer
    have hopens : Block.bracesFrom .start text = if (splitOpener text).2 then ['{'] else [] := by
      rw [Block.bracesFrom_of_not_cut hu.no_brace hfirst he]
      by_cases hlast : text.getLast? = some '{'
      · obtain ⟨front, rfl⟩ := List.getLast?_eq_some_iff.1 hlast
        rw [splitOpener_concat, if_pos hlast]
        rfl
      · rw [splitOpener_of_getLast? hlast, if_neg hlast]
        rfl
    rw [hopens]
    rw [Parts.ofText_undivided hu] at hl ⊢
    cases hk : classify text with
    | comment => exact absurd hk (classify_ne_comment h.start)
    | directive => exact absurd hk (classify_ne_directive h.start h.isDirective)
    | controlHeader =>
      rw [hk] at hl
      cases hlabel : Shape.label? text with
      | some r =>
        rw [hlabel] at hl
        cases hl
      | none => rfl
    | _ => rfl

/-! ## Braces that a line passes over -/

/-- The braces outside literals. -/
def codeBracesFrom (l : Literal) : Chars → Chars
  | [] => []
  | c :: cs =>
    if l = .outside && isBrace c then c :: codeBracesFrom (l.next c) cs
    else codeBracesFrom (l.next c) cs

/-- Read on from a point with `k` braces open that were passed over: each brace that the line passes
over is matched on the line, none is open where the line is read for a brace, and no literal is open
at the end. -/
def Block.pairedFrom (p : Block.Position) (k : Nat) : Chars → Bool
  | [] => p.scan.literal = .outside && k == 0
  | c :: cs =>
    if p.reads c cs then p.scan.literal = .outside && k == 0 && pairedFrom (p.next c) 0 cs
    else if p.scan.literal = .outside && isBrace c then
      if c = '{' then pairedFrom (p.next c) (k + 1) cs
      else k != 0 && pairedFrom (p.next c) (k - 1) cs
    else pairedFrom (p.next c) k cs

section Paired

variable {l : Literal} {p : Block.Position} {k n : Nat} {text : Chars}

theorem codeBracesFrom_append (a b : Chars) :
    codeBracesFrom l (a ++ b) = codeBracesFrom l a ++ codeBracesFrom (l.after a) b := by
  induction a generalizing l with
  | nil => rfl
  | cons c a ih =>
    rw [List.cons_append, codeBracesFrom, codeBracesFrom, ih]
    split
    · rfl
    · rfl

theorem codeBracesFrom_of_blank {blanks : Chars} (h : ∀ c ∈ blanks, isBlank c = true) :
    codeBracesFrom l blanks = [] := by
  induction blanks generalizing l with
  | nil => rfl
  | cons c cs ih =>
    rw [codeBracesFrom, isBrace_of_isBlank (h c (by simp)), Bool.and_false, if_neg (by simp)]
    exact ih fun d hd => h d (by simp [hd])

theorem after_of_pairedFrom (h : Block.pairedFrom p k text = true) :
    p.scan.literal.after text = .outside := by
  induction text generalizing p k with
  | nil =>
    rw [Block.pairedFrom, Bool.and_eq_true, decide_eq_true_eq] at h
    exact h.1
  | cons c cs ih =>
    have hnext : (p.next c).scan.literal = p.scan.literal.next c := rfl
    rw [Literal.after_cons, ← hnext]
    unfold Block.pairedFrom at h
    split at h
    · rw [Bool.and_eq_true] at h
      exact ih h.2
    split at h
    · split at h
      · exact ih h
      · rw [Bool.and_eq_true] at h
        exact ih h.2
    · exact ih h

/-- Braces that are matched where they are passed over do not count. -/
theorem levelAfter?_of_pairedFrom (h : Block.pairedFrom p k text = true) :
    levelAfter? (n + k) (codeBracesFrom p.scan.literal text) =
      levelAfter? n (Block.bracesFrom p text) := by
  induction text generalizing p k n with
  | nil =>
    simp only [Block.pairedFrom, Bool.and_eq_true, beq_iff_eq] at h
    rw [h.2]
    rfl
  | cons c cs ih =>
    have hnext : (p.next c).scan.literal = p.scan.literal.next c := rfl
    unfold Block.pairedFrom at h
    rw [codeBracesFrom, Block.bracesFrom, ← hnext]
    split at h
    · -- A brace that the line is read for counts on both sides, with nothing open between them.
      rename_i hreads
      simp only [Bool.and_eq_true, decide_eq_true_eq, beq_iff_eq] at h
      obtain ⟨⟨hout, rfl⟩, h⟩ := h
      have hbrace : isBrace c = true := by
        cases hb : isBrace c with
        | true => rfl
        | false =>
          rw [Block.Position.reads_of_not_isBrace hb] at hreads
          cases hreads
      rw [if_pos hreads, hout, hbrace, if_pos (by decide), Nat.add_zero, levelAfter?, levelAfter?]
      simp only [← ih h, Nat.add_zero]
    rename_i hreads
    rw [if_neg hreads]
    split at h
    · rename_i hbrace
      rw [if_pos hbrace]
      split at h
      · rename_i hc
        subst hc
        exact ih h
      · rename_i hc
        simp only [Bool.and_eq_true, bne_iff_ne] at h
        obtain ⟨m, rfl⟩ := Nat.exists_eq_succ_of_ne_zero h.1
        have hcloser : c = '}' := by
          simp only [isBrace, Bool.and_eq_true, Bool.or_eq_true, beq_iff_eq] at hbrace
          exact hbrace.2.resolve_left hc
        subst hcloser
        exact ih h.2
    · rename_i hbrace
      rw [if_neg hbrace]
      exact ih h

end Paired

/-! ## Lines -/

/-- The line closes what it opens and passes over. -/
def Block.Paired (text : Chars) : Prop := Block.pairedFrom .start 0 text = true

instance (text : Chars) : Decidable (Block.Paired text) :=
  inferInstanceAs (Decidable (Block.pairedFrom .start 0 text = true))

theorem codeBraces_trimmed {l : Line} (h : Block.Paired l.trimmed) :
    codeBracesFrom .outside l.text = codeBracesFrom .outside l.trimmed ∧
      Literal.outside.after l.text = .outside := by
  obtain ⟨blanks, he, hb⟩ := l.exists_trimmed_append
  have hstart : Literal.outside.after (l.content.takeWhile isBlank) = .outside :=
    Scan.outside_after_of_blank fun _ => isBlank_of_mem_takeWhile
  have hafter : Literal.outside.after l.trimmed = .outside := after_of_pairedFrom h
  constructor
  · rw [← he, codeBracesFrom_append, codeBracesFrom_append, hstart,
      codeBracesFrom_of_blank hb, codeBracesFrom_of_blank fun _ => isBlank_of_mem_takeWhile,
      List.append_nil, List.nil_append]
  · rw [← he, Literal.after_append, Literal.after_append, hstart, hafter,
      Scan.outside_after_of_blank hb]

/-- On lines that close what they pass over, the level is that of the whole text. -/
theorem levelAfter?_of_paired {ls : List Line} (h : ∀ l ∈ ls, Block.Paired l.trimmed) (n : Nat) :
    levelAfter? n (codeBracesFrom .outside (ls.flatMap Line.text)) =
      levelAfter? n (ls.flatMap fun l => Block.bracesFrom .start l.trimmed) := by
  induction ls generalizing n with
  | nil => rfl
  | cons l ls ih =>
    have hl := h l (by simp)
    obtain ⟨htext, hafter⟩ := codeBraces_trimmed hl
    have hline : levelAfter? n (codeBracesFrom .outside l.trimmed) =
        levelAfter? n (Block.bracesFrom .start l.trimmed) := levelAfter?_of_pairedFrom hl
    rw [List.flatMap_cons, List.flatMap_cons, codeBracesFrom_append, hafter, htext,
      levelAfter?_append, levelAfter?_append, hline]
    simp only [ih fun k hk => h k (by simp [hk])]

/-- Lines of code without labels, such as those of an initializer, leave the blocks around them as
they are, in every state that can be reached outside comments, exactly if the braces that the lines
are read for are balanced. Those of a balanced text are, if each line closes what it opens and
passes over. -/
theorem blocks_kept_iff {ls : List Line} (hcode : ∀ l ∈ ls, IsCode l.trimmed)
    (hlabel : ∀ l ∈ ls, (Parts.ofText l.trimmed l.trimmedSpan.start).hasLabel = false) :
    let read := ls.flatMap fun l => Block.bracesFrom .start l.trimmed
    ((∀ before : List Line,
        let s := (builder.run builder.start before).state
        let x := builder.run s ls
        s.pending = 0 → s.comment? = none →
          x.state.depth = s.depth ∧ x.state.frames = s.frames ∧ x.flow.anomalies = []) ↔
      levelAfter? 0 read = some 0) ∧
    ((∀ l ∈ ls, Block.Paired l.trimmed) →
      levelAfter? 0 (codeBracesFrom .outside (ls.flatMap Line.text)) = some 0 →
        levelAfter? 0 read = some 0) := by
  intro read
  have hcomment : ∀ l ∈ ls, ∀ t : State, t.comment? = none →
      (t.push l).state.comment? = none := by
    intro l hl t ht
    rw [State.push_eq_run ht]
    exact State.comment?_run_of_isCode (hcode l hl) (hlabel l hl) ht l.number
  have hread : ls.flatMap blockBraces = read := by
    refine congrArg List.flatten (List.map_congr_left fun l hl => ?_)
    exact braces_of_isCode (hcode l hl) l.trimmed_trimmed.solidEnd (hlabel l hl)
  refine ⟨⟨?_, ?_⟩, ?_⟩
  · -- From the first state on no block is open, so every closer too many is an anomaly.
    intro h
    obtain ⟨-, hframes, hquiet⟩ := h [] rfl rfl
    have hframes : (builder.run State.start ls).state.frames = State.start.frames := hframes
    have hlevel := levelAfter?_of_run (s := State.start) rfl hcomment hquiet
    rw [hread, hframes] at hlevel
    exact hlevel
  · intro h before s x _ hs
    rw [← hread] at h
    obtain ⟨hinside, hquiet, -⟩ := inside_of_run hs (State.inside_self s) hcomment (.inr hlabel) h
    obtain ⟨hframes, hdepth⟩ := hinside.zero
    exact ⟨hdepth, congrArg Nesting.mk hframes, hquiet⟩
  · intro hpaired hbalanced
    rw [← levelAfter?_of_paired hpaired 0]
    exact hbalanced

/-- A table with its own braces on lines of their own, or behind a value sign on one line. -/
theorem blocks_kept_of_table :
    let ls : List Line :=
      [⟨1, 0, "struct S t[2] = \x7b\n".toList⟩,
        ⟨2, 18, "  \x7b 1, f(\"\x7d /*\") \x7d, \x7b .x = \x7b 2 \x7d,\n".toList⟩,
        ⟨3, 50, "  3 \x7d, \x7d;\n".toList⟩]
    (∀ l ∈ ls, IsCode l.trimmed) ∧ (∀ l ∈ ls, Block.Paired l.trimmed) ∧
      levelAfter? 0 (codeBracesFrom .outside (ls.flatMap Line.text)) = some 0 ∧
      ∀ before : List Line,
        let s := (builder.run builder.start before).state
        let x := builder.run s ls
        s.pending = 0 → s.comment? = none →
          x.state.depth = s.depth ∧ x.state.frames = s.frames ∧ x.flow.anomalies = [] := by
  intro ls
  have hcode : ∀ l ∈ ls, IsCode l.trimmed := by decide
  have hlabel : ∀ l ∈ ls, (Parts.ofText l.trimmed l.trimmedSpan.start).hasLabel = false := by
    decide +kernel
  have hpaired : ∀ l ∈ ls, Block.Paired l.trimmed := by decide
  have hbalanced : levelAfter? 0 (codeBracesFrom .outside (ls.flatMap Line.text)) = some 0 := by
    decide
  obtain ⟨hkept, hread⟩ := blocks_kept_iff hcode hlabel
  exact ⟨hcode, hpaired, hbalanced, hkept.2 (hread hpaired hbalanced)⟩

/-- The first line knows that its brace is that of an initializer, and the second does not: it ends a
block that was never begun. -/
theorem broken_initializer_closes_block :
    let ls : List Line := [⟨1, 0, "int a[] = \x7b 1,\n".toList⟩, ⟨2, 15, "2 \x7d;\n".toList⟩]
    (∀ l ∈ ls, IsCode l.trimmed) ∧
      (∀ l ∈ ls, (Parts.ofText l.trimmed l.trimmedSpan.start).hasLabel = false) ∧
      levelAfter? 0 (codeBracesFrom .outside (ls.flatMap Line.text)) = some 0 ∧
      (builder.run builder.start ls).flow.anomalies = [⟨2, .unmatchedCloser⟩] ∧
      let s := (builder.run builder.start [⟨1, 0, "void f(void) \x7b\n".toList⟩]).state
      s.depth = 1 ∧ (builder.run s ls).state.depth = 0 ∧
        (builder.run s ls).state.frames ≠ s.frames := by
  decide +kernel

end NestChart.Brace
