import NestChart.Proofs.Brace.Tree

/-!
# NestChart.Proofs.Brace.Braceless

Statements nested without braces, and which `if` an `else` answers. A statement is printed one head,
`else` or simple line after the other (`Braceless.lines`); its outline says at which depth each lies.
`flow_of_braceless` proves that the lines, however they are indented, are read back as the outline,
and that every `else` lies at the depth of the nearest `if` above it that no other `else` answers.

The invariant is exact: `Waits` holds the places of the `if`s among the heads that wait, and a
statement hands on those of its own that end with it (`Braceless.openIfs`).
-/

namespace NestChart.Brace

open Text NestChart.Shape

/-! ## Lines -/

/-- A line without braces and comment marks. -/
structure Unbraced (text : Chars) : Prop extends Uncommented text where
  trimmed : Trimmed text
  no_opener : '{' ∉ text
  no_closer : '}' ∉ text

/-- The head of an `if`. -/
structure IfHead (text : Chars) : Prop extends Unbraced text where
  word : startsWithWord "if".toList text = true
  not_complete : text.getLast? ≠ some ';'

/-- The head of a `for` or `while` loop. -/
structure LoopHead (text : Chars) : Prop extends Unbraced text where
  word : startsWithAny ["for".toList, "while".toList] text = true
  not_complete : text.getLast? ≠ some ';'

/-- One statement or more, and nothing else. -/
structure Simple (text : Chars) : Prop extends Unbraced text where
  category : classify text = .statement
  segments : Statement.segments text ≠ []

section Decidable

variable (text : Chars)

instance : Decidable (Unbraced text) :=
  decidable_of_iff ((contains ['/', '/'] text = false ∧ contains ['/', '*'] text = false) ∧
      Trimmed text ∧ '{' ∉ text ∧ '}' ∉ text)
    ⟨fun ⟨⟨h1, h2⟩, h3, h4, h5⟩ => ⟨⟨h1, h2⟩, h3, h4, h5⟩,
      fun ⟨⟨h1, h2⟩, h3, h4, h5⟩ => ⟨⟨h1, h2⟩, h3, h4, h5⟩⟩

instance : Decidable (IfHead text) :=
  decidable_of_iff (Unbraced text ∧ startsWithWord "if".toList text = true ∧
      text.getLast? ≠ some ';')
    ⟨fun ⟨h1, h2, h3⟩ => ⟨h1, h2, h3⟩, fun ⟨h1, h2, h3⟩ => ⟨h1, h2, h3⟩⟩

instance : Decidable (LoopHead text) :=
  decidable_of_iff (Unbraced text ∧ startsWithAny ["for".toList, "while".toList] text = true ∧
      text.getLast? ≠ some ';')
    ⟨fun ⟨h1, h2, h3⟩ => ⟨h1, h2, h3⟩, fun ⟨h1, h2, h3⟩ => ⟨h1, h2, h3⟩⟩

instance : Decidable (Simple text) :=
  decidable_of_iff (Unbraced text ∧ classify text = .statement ∧ Statement.segments text ≠ [])
    ⟨fun ⟨h1, h2, h3⟩ => ⟨h1, h2, h3⟩, fun ⟨h1, h2, h3⟩ => ⟨h1, h2, h3⟩⟩

end Decidable

variable {text : Chars}

theorem Unbraced.plain (h : Unbraced text) (hd : isDirective text = false) : Plain text where
  trimmed := h.trimmed
  no_comment := h.cut?
  no_opener := h.no_opener
  no_closer := h.no_closer
  not_directive := hd
  not_comment := h.start

namespace IfHead

theorem isControl (h : IfHead text) : Shape.isControl text = true :=
  List.any_eq_true.2 ⟨"if".toList, by decide, h.word⟩

theorem head (h : IfHead text) : Head text :=
  .of_isControl (h.plain (Shape.isDirective_of_isControl h.isControl)) h.isControl h.not_complete

theorem isIf (h : IfHead text) : Shape.isIf text = true := by
  rw [Shape.isIf, h.word]
  rfl

/-- An `if` is neither an `else` nor a `switch`. -/
theorem other_words (h : IfHead text) :
    Shape.isElse text = false ∧ Shape.isSwitch text = false := by
  obtain ⟨rest, rfl, -⟩ := exists_of_startsWithWord h.word
  exact ⟨rfl, rfl⟩

end IfHead

namespace LoopHead

theorem isControl (h : LoopHead text) : Shape.isControl text = true := by
  obtain ⟨w, hw, h⟩ := List.any_eq_true.1 h.word
  refine List.any_eq_true.2 ⟨w, ?_, h⟩
  simp only [List.mem_cons, List.not_mem_nil, or_false] at hw
  rcases hw with rfl | rfl <;> decide

theorem head (h : LoopHead text) : Head text :=
  .of_isControl (h.plain (Shape.isDirective_of_isControl h.isControl)) h.isControl h.not_complete

/-- A loop is neither an `if` nor an `else` nor a `switch`. -/
theorem other_words (h : LoopHead text) :
    Shape.isIf text = false ∧ Shape.isElse text = false ∧ Shape.isSwitch text = false := by
  obtain ⟨w, hw, rest, rfl⟩ := exists_of_startsWithAny h.word
  simp only [List.mem_cons, List.not_mem_nil, or_false] at hw
  rcases hw with rfl | rfl
  · exact ⟨rfl, rfl, rfl⟩
  · exact ⟨rfl, rfl, rfl⟩

end LoopHead

theorem head_else : Head "else".toList := by decide

theorem Simple.plain (h : Simple text) : Plain text := by
  refine h.toUnbraced.plain ?_
  have hc := h.category
  unfold classify at hc
  split at hc
  · cases hc
  · split at hc
    · cases hc
    · rename_i hd
      simpa [isDirective] using hd

/-! ## Statements -/

/-- One statement with the heads before it. -/
inductive Braceless
  | simple (text : Chars)
  | loop (head : Chars) (body : Braceless)
  | ifThen (head : Chars) (body : Braceless)
  | ifElse (head : Chars) (body other : Braceless)

namespace Braceless

/-- The printed lines, without indentation. -/
def lines : Braceless → List Chars
  | simple text => [text]
  | loop head body => head :: body.lines
  | ifThen head body => head :: body.lines
  | ifElse head body other => head :: (body.lines ++ "else".toList :: other.lines)

/-- Heads and simple statements in order, each with its depth if the statement lies at `depth`. -/
def outline : Braceless → Nat → List (Chars × Nat × Category)
  | simple text, depth => (Statement.segments text).map fun s => (s.text, depth, .statement)
  | loop head body, depth => (head, depth, .controlHeader) :: body.outline (depth + 1)
  | ifThen head body, depth => (head, depth, .controlHeader) :: body.outline (depth + 1)
  | ifElse head body other, depth =>
    (head, depth, .controlHeader) ::
      (body.outline (depth + 1) ++
        ("else".toList, depth, .controlHeader) :: other.outline (depth + 1))

/-- The statement ends with an `if` that has no `else`; an `else` behind it would answer that. -/
def endsInIf : Braceless → Bool
  | simple _ => false
  | loop _ body => body.endsInIf
  | ifThen _ _ => true
  | ifElse _ _ other => other.endsInIf

def Valid : Braceless → Prop
  | simple text => Simple text
  | loop head body => LoopHead head ∧ body.Valid
  | ifThen head body => IfHead head ∧ body.Valid
  | ifElse head body other => IfHead head ∧ (body.endsInIf = false ∧ body.Valid) ∧ other.Valid

def decideValid : (t : Braceless) → Decidable t.Valid
  | simple text => inferInstanceAs (Decidable (Simple text))
  | loop head body =>
    have := body.decideValid
    inferInstanceAs (Decidable (LoopHead head ∧ body.Valid))
  | ifThen head body =>
    have := body.decideValid
    inferInstanceAs (Decidable (IfHead head ∧ body.Valid))
  | ifElse head body other =>
    have := body.decideValid
    have := other.decideValid
    inferInstanceAs (Decidable
      (IfHead head ∧ (body.endsInIf = false ∧ body.Valid) ∧ other.Valid))

instance (t : Braceless) : Decidable t.Valid := t.decideValid

/-- Behind the statement an `else` can answer these of its `if`s; `pending` heads stand before it. -/
def openIfs : Braceless → Nat → List Nat
  | simple _, _ => []
  | loop _ body, pending => body.openIfs (pending + 1)
  | ifThen _ body, pending => body.openIfs (pending + 1) ++ [pending]
  | ifElse _ _ other, pending => other.openIfs (pending + 1)

theorem openIfs_eq_nil {t : Braceless} (h : t.endsInIf = false) (pending : Nat) :
    t.openIfs pending = [] := by
  induction t generalizing pending with
  | simple => rfl
  | loop head body ih => exact ih h _
  | ifThen => cases h
  | ifElse head body other _ ih => exact ih h _

end Braceless

/-! ## Reading the lines -/

namespace State

/-- Heads wait, and these `if`s are among them, the latest first. -/
structure Waits (frames : List Frame) (depth pending : Nat) (ifs : List Nat) (s : State) : Prop
    extends Awaits frames depth pending s where
  pendingIfs_eq : s.pendingIfs = ifs

/-- No head waits, and an `else` can answer these `if`s, the latest first. -/
structure Served (frames : List Frame) (depth : Nat) (ifs : List Nat) (s : State) : Prop
    extends Waits frames depth 0 [] s where
  danglingIfs_eq : s.danglingIfs = ifs

namespace Waits

variable {s : State} {frames : List Frame} {depth pending : Nat} {ifs : List Nat} {text : Chars}

/-- A head other than an `else` gives up what could be answered. -/
theorem answerIf (h : Waits frames depth pending ifs s) (he : Shape.isElse text = false) :
    Waits frames depth pending ifs (s.answerIf text) := by
  rw [answerIf_of_no_dangling fun ht => absurd ht (by simp [he])]
  exact ⟨⟨h.frames_eq, h.depth_eq, h.pending_eq, h.no_switch, h.no_comment⟩, h.pendingIfs_eq⟩

theorem loop (h : Waits frames depth pending ifs s) (ht : LoopHead text) :
    Yields s [text] [(text, depth + pending, .controlHeader)]
      (Waits frames depth (pending + 1) ifs) := by
  obtain ⟨hif, helse, hswitch⟩ := ht.other_words
  have hs := h.answerIf helse
  refine (hs.head ht.head hswitch).mono ?_
  rintro t ⟨ht, hifs⟩
  refine ⟨ht, ?_⟩
  rw [hifs, hif]
  exact hs.pendingIfs_eq

theorem ifThen (h : Waits frames depth pending ifs s) (ht : IfHead text) :
    Yields s [text] [(text, depth + pending, .controlHeader)]
      (Waits frames depth (pending + 1) (pending :: ifs)) := by
  obtain ⟨helse, hswitch⟩ := ht.other_words
  have hs := h.answerIf helse
  refine (hs.head ht.head hswitch).mono ?_
  rintro t ⟨hw, hifs⟩
  refine ⟨hw, ?_⟩
  rw [hifs, ht.isIf, hs.pendingIfs_eq]
  rfl

theorem simple (h : Waits frames depth pending ifs s) (ht : Simple text) :
    Yields s [text] ((Braceless.simple text).outline (depth + pending))
      (Served frames depth ifs) := by
  refine (h.statements ht.plain ht.category ht.segments).mono ?_
  rintro t ⟨hw, hnone, hifs⟩
  exact ⟨⟨hw, hnone⟩, hifs.trans h.pendingIfs_eq⟩

end Waits

/-- An `else` goes back to the latest `if` it can answer; the heads before that wait again. -/
theorem Served.answer {s : State} {frames : List Frame} {depth pending : Nat} {ifs : List Nat}
    (h : Served frames depth (pending :: ifs) s) :
    Yields s ["else".toList] [("else".toList, depth + pending, .controlHeader)]
      (Waits frames depth (pending + 1) ifs) := by
  have hanswer : s.answerIf "else".toList =
      { s with pending := pending, pendingIfs := ifs, danglingIfs := [] } := by
    have helse : Shape.isElse "else".toList = true := by decide
    simp only [State.answerIf, h.pending_eq, helse, h.danglingIfs_eq]
    rfl
  have hs : Awaits frames depth pending (s.answerIf "else".toList) := by
    rw [hanswer]
    exact ⟨h.frames_eq, h.depth_eq, rfl, h.no_switch, h.no_comment⟩
  refine (hs.head head_else (by decide)).mono ?_
  rintro t ⟨ht, hifs⟩
  refine ⟨ht, ?_⟩
  rw [hifs, show Shape.isIf "else".toList = false by decide, hanswer]
  rfl

end State

namespace Braceless

open State (Waits Served Yields)

/-- A statement is shown below the heads that wait, and serves them. -/
theorem reads (t : Braceless) (h : t.Valid) {s : State} {frames : List Frame}
    {depth pending : Nat} {ifs : List Nat} (hs : Waits frames depth pending ifs s) :
    Yields s t.lines (t.outline (depth + pending))
      (Served frames depth (t.openIfs pending ++ ifs)) := by
  induction t generalizing s pending ifs with
  | simple text => exact hs.simple h
  | loop head body ih =>
    obtain ⟨hh, hb⟩ := h
    exact (hs.loop hh).cons fun t ht => ih hb ht
  | ifThen head body ih =>
    obtain ⟨hh, hb⟩ := h
    have hbody := (hs.ifThen hh).cons fun t ht => ih hb ht
    rwa [List.append_cons] at hbody
  | ifElse head body other ihb iho =>
    obtain ⟨hh, ⟨hclosed, hb⟩, ho⟩ := h
    refine (hs.ifThen hh).cons fun t ht => ?_
    have hbody := ihb hb ht
    -- No `if` of the body can be answered, so the `else` finds the head of this statement.
    rw [openIfs_eq_nil hclosed, List.nil_append] at hbody
    exact hbody.append fun u hu => hu.answer.cons fun v hv => iho ho hv

/-- Statements one behind the other. -/
theorem reads_all (ts : List Braceless) (h : ∀ t ∈ ts, t.Valid) {s : State}
    {frames : List Frame} {depth : Nat} (hs : Waits frames depth 0 [] s) :
    Yields s (ts.flatMap lines) (ts.flatMap (outline · depth)) (Waits frames depth 0 []) := by
  induction ts generalizing s with
  | nil => exact .nil hs
  | cons t ts ih =>
    have ht := t.reads (h t (by simp)) hs
    exact ht.append fun u hu => ih (fun v hv => h v (by simp [hv])) hu.toWaits

end Braceless

/-! ## The nearest `if` -/

def isElseEntry (e : Chars × Nat × Category) : Bool :=
  e.1 == "else".toList && e.2.2 == .controlHeader

def isIfEntry (e : Chars × Nat × Category) : Bool :=
  startsWithWord "if".toList e.1 && e.2.2 == .controlHeader

/-- The depth of the first `if` upwards for which no `else` is left; `answers` of them are. -/
def nearestIf (answers : Nat) : List (Chars × Nat × Category) → Option Nat
  | [] => none
  | e :: above =>
    if isElseEntry e then nearestIf (answers + 1) above
    else if isIfEntry e then
      match answers with
      | 0 => some e.2.1
      | k + 1 => nearestIf k above
    else nearestIf answers above

section NearestIf

variable {e : Chars × Nat × Category} (answers : Nat) (above : List (Chars × Nat × Category))

theorem nearestIf_else (he : isElseEntry e = true) :
    nearestIf answers (e :: above) = nearestIf (answers + 1) above := by
  simp [nearestIf, he]

theorem nearestIf_found (he : isElseEntry e = false) (hi : isIfEntry e = true) :
    nearestIf 0 (e :: above) = some e.2.1 := by
  simp [nearestIf, he, hi]

theorem nearestIf_answered (he : isElseEntry e = false) (hi : isIfEntry e = true) :
    nearestIf (answers + 1) (e :: above) = nearestIf answers above := by
  simp [nearestIf, he, hi]

theorem nearestIf_other (h : isElseEntry e = false ∧ isIfEntry e = false) :
    nearestIf answers (e :: above) = nearestIf answers above := by
  simp [nearestIf, h.1, h.2]

theorem nearestIf_others {entries : List (Chars × Nat × Category)}
    (h : ∀ e ∈ entries, isElseEntry e = false ∧ isIfEntry e = false) :
    nearestIf answers (entries ++ above) = nearestIf answers above := by
  induction entries with
  | nil => rfl
  | cons e entries ih =>
    rw [List.cons_append, nearestIf_other _ _ (h e (by simp))]
    exact ih fun f hf => h f (by simp [hf])

end NearestIf

/-- Behind `above`, every `else` lies at the depth of the nearest `if` that no other `else`
answers. -/
def AnswersNearest (above shown : List (Chars × Nat × Category)) : Prop :=
  ∀ before e behind, shown = before ++ e :: behind → isElseEntry e = true →
    nearestIf 0 (above ++ before).reverse = some e.2.1

namespace AnswersNearest

variable {above a b : List (Chars × Nat × Category)}

theorem of_no_else (h : ∀ e ∈ a, isElseEntry e = false) : AnswersNearest above a := by
  intro before e behind he hElse
  have hmem : e ∈ a := by simp [he]
  rw [h e hmem] at hElse
  cases hElse

theorem append (ha : AnswersNearest above a) (hb : AnswersNearest (above ++ a) b) :
    AnswersNearest above (a ++ b) := by
  intro before e behind he hElse
  rcases List.append_eq_append_iff.1 he with ⟨more, rfl, hb'⟩ | ⟨more, ha', he'⟩
  · have := hb more e behind hb' hElse
    rwa [List.append_assoc] at this
  · cases more with
    | nil =>
      rw [List.append_nil] at ha'
      have := hb [] e behind (by simpa using he'.symm) hElse
      rwa [List.append_nil, ha'] at this
    | cons f more =>
      obtain ⟨rfl, -⟩ : e = f ∧ behind = more ++ b := by simpa using he'
      exact ha before e more ha' hElse

theorem cons {e : Chars × Nat × Category}
    (he : isElseEntry e = true → nearestIf 0 above.reverse = some e.2.1)
    (ha : AnswersNearest (above ++ [e]) a) : AnswersNearest above (e :: a) := by
  refine append (a := [e]) ?_ ha
  intro before f behind hf hElse
  obtain ⟨rfl, rfl, -⟩ : before = [] ∧ e = f ∧ behind = [] := by
    cases before with
    | nil => simpa using hf
    | cons => simp at hf
  rw [List.append_nil]
  exact he hElse

theorem cons_other {e : Chars × Nat × Category} (he : isElseEntry e = false)
    (ha : AnswersNearest (above ++ [e]) a) : AnswersNearest above (e :: a) := by
  refine cons ?_ ha
  intro hElse
  rw [he] at hElse
  cases hElse

end AnswersNearest

theorem isElseEntry_else (depth : Nat) :
    isElseEntry ("else".toList, depth, .controlHeader) = true := rfl

theorem IfHead.isElseEntry {text : Chars} (h : IfHead text) (depth : Nat) :
    isElseEntry (text, depth, .controlHeader) = false := by
  obtain ⟨rest, rfl, -⟩ := exists_of_startsWithWord h.word
  rfl

theorem IfHead.isIfEntry {text : Chars} (h : IfHead text) (depth : Nat) :
    isIfEntry (text, depth, .controlHeader) = true := by
  rw [Brace.isIfEntry, h.word]
  rfl

theorem LoopHead.no_entry {text : Chars} (h : LoopHead text) (depth : Nat) :
    isElseEntry (text, depth, .controlHeader) = false ∧
      isIfEntry (text, depth, .controlHeader) = false := by
  obtain ⟨w, hw, rest, rfl⟩ := exists_of_startsWithAny h.word
  simp only [List.mem_cons, List.not_mem_nil, or_false] at hw
  rcases hw with rfl | rfl
  · exact ⟨rfl, rfl⟩
  · exact ⟨rfl, rfl⟩

namespace Braceless

theorem no_entry_of_mem_simple {text : Chars} {depth : Nat} {e : Chars × Nat × Category}
    (h : e ∈ (simple text).outline depth) : isElseEntry e = false ∧ isIfEntry e = false := by
  obtain ⟨s, -, rfl⟩ := List.mem_map.1 h
  simp [isElseEntry, isIfEntry]

/-- A statement that does not end with an `if` has as many `else`s as `if`s, paired inside it. -/
theorem nearestIf_outline {t : Braceless} (h : t.Valid) (hclosed : t.endsInIf = false)
    (depth answers : Nat) (above : List (Chars × Nat × Category)) :
    nearestIf answers ((t.outline depth).reverse ++ above) = nearestIf answers above := by
  induction t generalizing depth answers above with
  | simple text =>
    refine nearestIf_others answers above ?_
    intro e he
    exact no_entry_of_mem_simple (List.mem_reverse.1 he)
  | loop head body ih =>
    obtain ⟨hh, hb⟩ := h
    rw [outline, List.reverse_cons, List.append_assoc, ih hb hclosed]
    exact nearestIf_other _ _ (hh.no_entry depth)
  | ifThen => cases hclosed
  | ifElse head body other ihb iho =>
    obtain ⟨hh, ⟨hbclosed, hb⟩, ho⟩ := h
    have hrev : ((ifElse head body other).outline depth).reverse ++ above =
        (other.outline (depth + 1)).reverse ++ ("else".toList, depth, .controlHeader) ::
          ((body.outline (depth + 1)).reverse ++ (head, depth, .controlHeader) :: above) := by
      simp [outline]
    rw [hrev, iho ho hclosed, nearestIf_else _ _ (isElseEntry_else depth), ihb hb hbclosed]
    exact nearestIf_answered _ _ (hh.isElseEntry depth) (hh.isIfEntry depth)

theorem answersNearest (t : Braceless) (h : t.Valid) (depth : Nat)
    (above : List (Chars × Nat × Category)) : AnswersNearest above (t.outline depth) := by
  induction t generalizing depth above with
  | simple text => exact .of_no_else fun e he => (no_entry_of_mem_simple he).1
  | loop head body ih =>
    obtain ⟨hh, hb⟩ := h
    exact .cons_other (hh.no_entry depth).1 (ih hb _ _)
  | ifThen head body ih =>
    obtain ⟨hh, hb⟩ := h
    exact .cons_other (hh.isElseEntry depth) (ih hb _ _)
  | ifElse head body other ihb iho =>
    obtain ⟨hh, ⟨hclosed, hb⟩, ho⟩ := h
    refine .cons_other (hh.isElseEntry depth) ?_
    refine (ihb hb _ _).append (.cons ?_ (iho ho _ _))
    intro _
    rw [List.reverse_append, nearestIf_outline hb hclosed, List.reverse_append,
      List.reverse_singleton]
    exact nearestIf_found _ (hh.isElseEntry depth) (hh.isIfEntry depth)

theorem answersNearest_all (ts : List Braceless) (h : ∀ t ∈ ts, t.Valid) (depth : Nat)
    (above : List (Chars × Nat × Category)) :
    AnswersNearest above (ts.flatMap (outline · depth)) := by
  induction ts generalizing above with
  | nil => exact .of_no_else (by simp)
  | cons t ts ih =>
    exact (t.answersNearest (h t (by simp)) depth above).append
      (ih (fun u hu => h u (by simp [hu])) _)

/-- Reading statements without braces, whatever stands before and behind them on their lines, shows
their heads, `else`s and simple statements in order, each at its depth, and reports nothing; every
`else` lies at the depth of the nearest `if` that no other `else` answers. -/
theorem flow_of_braceless (ts : List Braceless) (h : ∀ t ∈ ts, t.Valid) {source : Chars}
    (hs : (Line.ofSource source).map Line.trimmed = ts.flatMap lines) :
    (builder.flow source).outline = ts.flatMap (outline · 0) ∧
      (builder.flow source).anomalies = [] ∧
      AnswersNearest [] (builder.flow source).outline := by
  have hstart : State.Waits [] 0 0 [] State.start := ⟨⟨rfl, rfl, rfl, rfl, rfl⟩, rfl⟩
  obtain ⟨hshown, hquiet, hend⟩ := reads_all ts h hstart _ hs
  have hflow := flow_eq_run hend.no_comment
  have houtline : (builder.flow source).outline = ts.flatMap (outline · 0) := by
    rw [hflow]
    exact hshown
  refine ⟨houtline, ?_, ?_⟩
  · rw [hflow]
    exact hquiet
  · rw [houtline]
    exact answersNearest_all ts h 0 []

/-- The first `else` answers the inner `if` through a loop, the second one the outer `if`. -/
theorem flow_of_braceless_nested :
    let ts : List Braceless :=
      [.ifElse "if (a)".toList
        (.loop "for (;;)".toList
          (.ifElse "if (b)".toList (.simple "x(); y();".toList) (.simple "n++;".toList)))
        (.ifThen "if (c)".toList (.loop "while (d)".toList (.simple "m--;".toList))),
      .simple "z();".toList]
    let source := ("if (a)\n  for (;;)\n    if (b)\n      x(); y();\n    else\n      n++;\n" ++
      "else\n if (c)\n\twhile (d)\nm--;\nz();\n").toList
    (∀ t ∈ ts, t.Valid) ∧ (Line.ofSource source).map Line.trimmed = ts.flatMap lines ∧
      (builder.flow source).outline =
        [("if (a)".toList, 0, .controlHeader), ("for (;;)".toList, 1, .controlHeader),
          ("if (b)".toList, 2, .controlHeader), ("x();".toList, 3, .statement),
          ("y();".toList, 3, .statement), ("else".toList, 2, .controlHeader),
          ("n++;".toList, 3, .statement), ("else".toList, 0, .controlHeader),
          ("if (c)".toList, 1, .controlHeader), ("while (d)".toList, 2, .controlHeader),
          ("m--;".toList, 3, .statement), ("z();".toList, 0, .statement)] ∧
      AnswersNearest [] (builder.flow source).outline := by
  intro ts source
  have hv : ∀ t ∈ ts, t.Valid := by decide +kernel
  have hs : (Line.ofSource source).map Line.trimmed = ts.flatMap lines := by decide +kernel
  obtain ⟨houtline, -, hnearest⟩ := flow_of_braceless ts hv hs
  refine ⟨hv, hs, houtline.trans ?_, hnearest⟩
  decide +kernel

end Braceless
end NestChart.Brace
