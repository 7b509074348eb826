import NestChart.Proofs.Brace.Clean
import NestChart.Proofs.Brace.Layout
import NestChart.Proofs.Brace.Place

/-!
# NestChart.Proofs.Brace.Breaks

Where lines end does not matter around braces. A clean line does what its pieces do on lines of
their own, when it is broken after each opening brace and on both sides of each closing one; and a
brace behind a head does what it does on the next line (`push_agrees_with_breaks`).
-/

namespace NestChart

open Text

/-- What the lines hold without outer blanks; blank lines are left out. -/
def Line.contents (ls : List Line) : List Chars := (ls.map Line.trimmed).filter (· ≠ [])

namespace Line

theorem contents_cons (l : Line) (ls : List Line) :
    contents (l :: ls) = (if l.trimmed = [] then [] else [l.trimmed]) ++ contents ls := by
  by_cases h : l.trimmed = [] <;> simp [contents, h]

theorem exists_of_contents_append {ls : List Line} {as bs : List Chars}
    (h : contents ls = as ++ bs) :
    ∃ ks ms, ls = ks ++ ms ∧ contents ks = as ∧ contents ms = bs := by
  obtain ⟨front, back, hm, rfl, rfl⟩ := List.filter_eq_append_iff.1 h
  obtain ⟨ks, ms, rfl, rfl, rfl⟩ := List.map_eq_append_iff.1 hm
  exact ⟨ks, ms, rfl, rfl, rfl⟩

end Line

namespace Brace

/-! ## Breaking a text at its braces -/

/-- Breaks a text after each opening brace and on both sides of each closing one; `current` holds
the piece read so far, last character first. -/
def breakFrom (current : Chars) : Chars → List Chars
  | [] => [current.reverse]
  | c :: cs =>
    if c = '{' then (c :: current).reverse :: breakFrom [] cs
    else if c = '}' then current.reverse :: [c] :: breakFrom [] cs
    else breakFrom (c :: current) cs

/-- The pieces of a list without their outer blanks; blank ones are left out. -/
def solid (pieces : List Chars) : List Chars := (pieces.map trim).filter (· ≠ [])

/-- The pieces of a text that is broken at its braces. -/
def bracePieces (text : Chars) : List Chars := solid (breakFrom [] text)

theorem solid_append (ps qs : List Chars) : solid (ps ++ qs) = solid ps ++ solid qs := by
  simp [solid]

theorem solid_singleton (p : Chars) : solid [p] = if trim p = [] then [] else [trim p] := by
  by_cases h : trim p = [] <;> simp [solid, h]

/-- What a text is broken into does not depend on what follows it, but for its last piece. -/
theorem exists_breakFrom_append (current front : Chars) :
    ∃ done last, ∀ rest, breakFrom current (front ++ rest) = done ++ breakFrom last rest := by
  induction front generalizing current with
  | nil => exact ⟨[], current, fun _ => rfl⟩
  | cons c cs ih =>
    by_cases ho : c = '{'
    · obtain ⟨done, last, h⟩ := ih []
      refine ⟨(c :: current).reverse :: done, last, fun rest => ?_⟩
      rw [List.cons_append, breakFrom, if_pos ho, h, List.cons_append]
    by_cases hc : c = '}'
    · obtain ⟨done, last, h⟩ := ih []
      refine ⟨current.reverse :: [c] :: done, last, fun rest => ?_⟩
      rw [List.cons_append, breakFrom, if_neg ho, if_pos hc, h, List.cons_append, List.cons_append]
    · obtain ⟨done, last, h⟩ := ih (c :: current)
      refine ⟨done, last, fun rest => ?_⟩
      rw [List.cons_append, breakFrom, if_neg ho, if_neg hc, h]

theorem breakFrom_of_not_mem {front : Chars} (ho : '{' ∉ front) (hc : '}' ∉ front)
    (current rest : Chars) :
    breakFrom current (front ++ rest) = breakFrom (front.reverse ++ current) rest := by
  induction front generalizing current with
  | nil => rfl
  | cons c cs ih =>
    simp only [List.mem_cons, not_or] at ho hc
    rw [List.cons_append, breakFrom, if_neg (Ne.symm ho.1), if_neg (Ne.symm hc.1), ih ho.2 hc.2]
    simp

/-! ## Blanks around a text -/

section Blanks

variable {blanks : Chars}

theorem breakFrom_of_blank (h : ∀ c ∈ blanks, isBlank c = true) (current rest : Chars) :
    breakFrom current (blanks ++ rest) = breakFrom (blanks.reverse ++ current) rest := by
  refine breakFrom_of_not_mem ?_ ?_ current rest
  · exact fun hm => ne_of_isBlank (h _ hm) (by decide) rfl
  · exact fun hm => ne_of_isBlank (h _ hm) (by decide) rfl

theorem solid_breakFrom_append (h : ∀ c ∈ blanks, isBlank c = true) (current text : Chars) :
    solid (breakFrom (current ++ blanks) text) = solid (breakFrom current text) := by
  have hr : ∀ c ∈ blanks.reverse, isBlank c = true := fun c hc => h c (List.mem_reverse.1 hc)
  have hpiece : ∀ piece : Chars, trim (piece ++ blanks).reverse = trim piece.reverse := by
    intro piece
    rw [List.reverse_append, trim_blanks_append hr]
  induction text generalizing current with
  | nil => simp only [breakFrom, solid_singleton, hpiece]
  | cons c cs ih =>
    simp only [breakFrom, ← List.cons_append]
    split
    · simp only [solid, List.map_cons, hpiece]
    split
    · simp only [solid, List.map_cons, hpiece]
    · exact ih (c :: current)

theorem bracePieces_blanks_append (h : ∀ c ∈ blanks, isBlank c = true) (text : Chars) :
    bracePieces (blanks ++ text) = bracePieces text := by
  have hr : ∀ c ∈ blanks.reverse, isBlank c = true := fun c hc => h c (List.mem_reverse.1 hc)
  have hs := solid_breakFrom_append hr [] text
  rw [bracePieces, breakFrom_of_blank h, List.append_nil]
  rwa [List.nil_append] at hs

theorem bracePieces_append_blanks (h : ∀ c ∈ blanks, isBlank c = true) (text : Chars) :
    bracePieces (text ++ blanks) = bracePieces text := by
  obtain ⟨done, last, hbreak⟩ := exists_breakFrom_append [] text
  have hlast : breakFrom last blanks = [last.reverse ++ blanks] := by
    have := breakFrom_of_blank h last []
    simpa [breakFrom] using this
  have htext := hbreak []
  rw [List.append_nil] at htext
  rw [bracePieces, bracePieces, hbreak, htext, hlast, breakFrom, solid_append, solid_append,
    solid_singleton, solid_singleton, trim_append_blanks h]

end Blanks

@[simp] theorem bracePieces_trimStart (text : Chars) :
    bracePieces (trimStart text) = bracePieces text := by
  have h : ∀ c ∈ text.takeWhile isBlank, isBlank c = true := fun _ => isBlank_of_mem_takeWhile
  rw [← bracePieces_blanks_append h, takeWhile_append_trimStart]

@[simp] theorem bracePieces_trimEnd (text : Chars) :
    bracePieces (trimEnd text) = bracePieces text := by
  obtain ⟨blanks, he, hb⟩ := exists_trimEnd_append text
  rw [← bracePieces_append_blanks hb, he]

theorem bracePieces_trimmed (l : Line) : bracePieces l.trimmed = bracePieces l.text := by
  obtain ⟨blanks, he, hb⟩ := l.exists_trimmed_append
  rw [← he, bracePieces_append_blanks hb,
    bracePieces_blanks_append fun _ => isBlank_of_mem_takeWhile]

/-! ## Pieces and cuts -/

theorem bracePieces_closer (cs : Chars) :
    bracePieces ('}' :: cs) = ['}'] :: bracePieces (trimStart cs) := by
  rw [bracePieces_trimStart]
  rfl

theorem bracePieces_opener_append (front back : Chars) :
    bracePieces (front ++ '{' :: back) = bracePieces (front ++ ['{']) ++ bracePieces back := by
  obtain ⟨done, last, h⟩ := exists_breakFrom_append [] front
  have hback : breakFrom last ('{' :: back) = [('{' :: last).reverse] ++ breakFrom [] back := rfl
  have hend : breakFrom last ['{'] = [('{' :: last).reverse] ++ [[]] := rfl
  have hnone : solid [[]] = [] := rfl
  simp only [bracePieces, h, hback, hend, solid_append, hnone, List.append_nil, List.append_assoc]

theorem bracePieces_append_closer (front back : Chars) :
    bracePieces (front ++ '}' :: back) = bracePieces front ++ bracePieces ('}' :: back) := by
  obtain ⟨done, last, h⟩ := exists_breakFrom_append [] front
  have hback : breakFrom last ('}' :: back) = [last.reverse] ++ ['}'] :: breakFrom [] back := rfl
  have hclose : bracePieces ('}' :: back) = solid (['}'] :: breakFrom [] back) := rfl
  have hfront := h []
  rw [List.append_nil] at hfront
  rw [hclose, bracePieces, bracePieces, h, hback, hfront, breakFrom, solid_append, solid_append,
    solid_append, List.append_assoc]

theorem bracePieces_of_cut? {text left right : Chars} (h : Block.cut? text = some (left, right)) :
    bracePieces text = bracePieces left ++ bracePieces right := by
  obtain ⟨rfl, -, -⟩ := Block.cut?_append h
  rcases Block.exists_of_cutFrom h with ⟨front, rfl⟩ | ⟨back, rfl⟩
  · rw [List.append_assoc]
    exact bracePieces_opener_append front right
  · exact bracePieces_append_closer left back

/-- A text with a brace at its end at most is one piece. -/
theorem bracePieces_of_braceLast {text : Chars} (h : BraceLast text) (ht : Trimmed text)
    (hn : text ≠ []) : bracePieces text = [text] := by
  have hone : solid [text] = [text] := by
    rw [Trimmed] at ht
    rw [solid_singleton, ht, if_neg hn]
  rcases text.eq_nil_or_concat with rfl | ⟨front, last, rfl⟩
  · exact absurd rfl hn
  rw [List.concat_eq_append] at h hone ⊢
  have hc := h.no_closer
  have ho := h.opener_last
  rw [List.dropLast_concat] at ho
  simp only [List.mem_append, List.mem_singleton, not_or] at hc
  rw [bracePieces, breakFrom_of_not_mem ho hc.1, List.append_nil, breakFrom, breakFrom, breakFrom,
    if_neg (Ne.symm hc.2), List.reverse_cons, List.reverse_reverse]
  split
  · rw [← List.singleton_append, solid_append, hone]
    rfl
  · exact hone

/-! ## Lines of one piece -/

namespace State

variable {s : State}

theorem run_of_contents_nil {ls : List Line} (h : Line.contents ls = []) (s : State) :
    builder.run s ls = .goto s := by
  induction ls with
  | nil => rfl
  | cons l ls ih =>
    rw [Line.contents_cons, List.append_eq_nil_iff] at h
    have hl : l.trimmed = [] := by simpa using h.1
    rw [Builder.run_cons, show builder.push s l = s.push l from rfl, push_of_blank hl,
      Step.goto_andThen, ih h.2]

theorem run_of_contents_singleton {ls : List Line} {text : Chars} (hs : s.comment? = none)
    (h : Line.contents ls = [text]) :
    ∃ line start, builder.run s ls = run line (.ofText text start) s := by
  induction ls with
  | nil => cases h
  | cons l ls ih =>
    rw [Line.contents_cons] at h
    rw [Builder.run_cons, show builder.push s l = s.push l from rfl]
    by_cases hl : l.trimmed = []
    · rw [if_pos hl] at h
      rw [push_of_blank hl, Step.goto_andThen]
      exact ih h
    · rw [if_neg hl] at h
      obtain ⟨rfl, hnone⟩ := List.cons.inj h
      refine ⟨l.number, l.trimmedSpan.start, ?_⟩
      rw [push_of_ne_nil hs hl, funext fun t => run_of_contents_nil hnone t]
      exact Step.andThen_goto _

theorem agrees_of_contents_singleton {ls : List Line} {text : Chars} (hu : Uncommented text)
    (ht : Trimmed text) (hs : s.comment? = none) (h : Line.contents ls = [text])
    (line start : Nat) : Agrees (run line (.ofText text start) s) (builder.run s ls) := by
  obtain ⟨line', start', hrun⟩ := run_of_contents_singleton hs h
  rw [hrun]
  exact run_agrees hu ht hs line line' start start'

/-! ## A clean line and its pieces -/

theorem closer_agrees (s : State) (line line' : Nat) :
    Agrees (s.closeBlock line) (s.closeBlock line') := by
  simp only [closeBlock, Nesting.close]
  split <;> exact ⟨rfl, rfl, rfl⟩

/-- A clean text does what its pieces do on lines of their own. -/
theorem run_agrees_with_pieces {text : Chars} (hclean : BraceClean text) (ht : Trimmed text)
    (hs : s.comment? = none) {ls : List Line} (hls : Line.contents ls = bracePieces text)
    (line start : Nat) : Agrees (run line (.ofText text start) s) (builder.run s ls) := by
  -- Each cut of the text is also a break, so the pieces of its sides are the pieces of the text. A
  -- scan that begins anew behind a cut finds nothing open there, as the scan of the whole does.
  induction text using Parts.ofText_induction generalizing start s ls with
  | nil =>
    rw [Parts.ofText_nil, run_of_contents_nil hls]
    exact .refl _
  | closer cs ih =>
    rw [bracePieces_closer, ← List.singleton_append] at hls
    obtain ⟨ks, ms, rfl, hks, hms⟩ := Line.exists_of_contents_append hls
    obtain ⟨line', start', hrun⟩ := run_of_contents_singleton hs hks
    have hclose : run line' (.ofText ['}'] start') s = s.closeBlock line' := by
      rw [Parts.ofText_lone_closer]
      exact Step.andThen_goto _
    have hclosed : (s.closeBlock line).state.comment? = none := hs
    have hcs : BraceClean (trimStart cs) := (BraceClean.right (a := ['}']) hclean rfl).trimStart
    have hc : Block.afterClose? ('}' :: cs) = some (trimStart cs) := rfl
    rw [Parts.ofText_closer hc, Builder.run_append, hrun, hclose]
    exact (closer_agrees s line line').andThen
      (ih hcs (Trimmed.trimStart_right (a := ['}']) ht) hclosed hms _)
  | opener => exact agrees_of_contents_singleton hclean.uncommented ht hs hls line start
  | directive text hd =>
    rw [hclean.isDirective] at hd
    cases hd
  | beside text code behind _ hm =>
    rw [hclean.uncommented.cut?] at hm
    cases hm
  | both text left right hbare hm hb ihl ihr =>
    rw [bracePieces_of_cut? hb, ← bracePieces_trimEnd left, ← bracePieces_trimStart right] at hls
    obtain ⟨ks, ms, rfl, hks, hms⟩ := Line.exists_of_contents_append hls
    rw [Parts.ofText_both hbare hm hb, Builder.run_append]
    have hafter := Block.after_of_cut? hb
    obtain ⟨rfl, -, -⟩ := Block.cut?_append hb
    have hleft := hclean.left.trimEnd
    have hcomment := comment?_run hleft.uncommented ht.trimEnd_left hs line start
    exact (ihl hleft ht.trimEnd_left hs hks start).andThen
      (ihr (hclean.right hafter).trimStart ht.trimStart_right hcomment hms _)
  | undivided text hu =>
    rw [bracePieces_of_braceLast (hclean.braceLast hu) ht hu.ne_nil] at hls
    exact agrees_of_contents_singleton hclean.uncommented ht hs hls line start

/-! ## A brace behind a head -/

/-- Heads that wait and blocks count alike. -/
theorem openBlock_awaitBody (s : State) {text : Chars} (h : isComplete text = false) :
    (s.awaitBody text).openBlock =
      openBlock { s with opensSwitch := Shape.isSwitch text, pending := s.pending + 1 } := by
  simp only [awaitBody, h, Bool.false_eq_true, if_false]
  split <;> rfl

theorem run_opening_agrees {text : Chars} (h : Head text ∨ FunctionHead text) (s : State)
    (line line' line'' start start' start'' : Nat) :
    Agrees (run line (.ofText (text ++ [' ', '{']) start) s)
      ((run line' (.ofText text start') s).andThen
        (run line'' (.ofText ['{'] start''))) := by
  rw [Parts.ofText_opener]
  rcases h with h | h
  · rw [h.ofText_opening, h.ofText]
    refine ⟨?_, ?_, rfl⟩
    · exact openBlock_awaitBody _ h.not_isComplete
    · simp [run, placeHeader, Step.andThen, Step.emit, Step.goto, Flow.outline, State.node]
  · rw [h.ofText_opening, h.ofText]
    exact ⟨rfl, rfl, rfl⟩

end State

/-- Where the lines end around braces does not matter, in any state without an open comment. -/
theorem push_agrees_with_breaks {s : State} (hs : s.comment? = none) :
    (∀ (l : Line) (ls : List Line), BraceClean l.text → Line.contents ls = bracePieces l.text →
      Agrees (s.push l) (builder.run s ls)) ∧
    ∀ (head : Chars) (l : Line) (ls : List Line), Trimmed head → Unmarked head → '{' ∉ head →
      '}' ∉ head →
      (classify head = .controlHeader ∧ Shape.label? head = none ∧ head.getLast? ≠ some ';' ∨
        classify head = .declaration ∧ Shape.isFunctionHead head = true) →
      l.trimmed = head ++ [' ', '{'] → Line.contents ls = [head, ['{']] →
      Agrees (s.push l) (builder.run s ls) := by
  constructor
  · intro l ls hclean hls
    rw [← bracePieces_trimmed] at hls
    by_cases hn : l.trimmed = []
    · rw [hn] at hls
      rw [State.push_of_blank hn, State.run_of_contents_nil hls]
      exact .refl _
    · rw [State.push_of_ne_nil hs hn]
      exact State.run_agrees_with_pieces hclean.trimmed l.trimmed_trimmed hs hls _ _
  · intro head l ls ht hu ho hc hkind hl hls
    have hplain : Plain head :=
      ⟨ht, hu.uncommented.cut?, ho, hc, hu.isDirective, hu.uncommented.start⟩
    have hhead : Head head ∨ FunctionHead head := by
      rcases hkind with ⟨hk, hlabel, hlast⟩ | ⟨hk, hform⟩
      · exact .inl ⟨hplain, hk, hlabel, hlast⟩
      · exact .inr ⟨hplain, hk, hform⟩
    rw [← List.singleton_append] at hls
    obtain ⟨ks, ms, rfl, hks, hms⟩ := Line.exists_of_contents_append hls
    obtain ⟨line, start, hrun⟩ := State.run_of_contents_singleton hs hks
    have hcomment := State.comment?_run hu.uncommented ht hs line start
    obtain ⟨line', start', hrun'⟩ := State.run_of_contents_singleton hcomment hms
    have hn : l.trimmed ≠ [] := by simp [hl]
    rw [State.push_of_ne_nil hs hn, hl, Builder.run_append, hrun, Step.andThen, hrun']
    exact State.run_opening_agrees hhead s _ _ _ _ _ _

/-- A branch with a block inside its block, and a function, behind the head of a `switch`. -/
theorem push_agrees_with_breaks_else :
    let s : State := ⟨⟨[⟨1, none⟩]⟩, 2, 1, [0], [], true, none⟩
    let branch : Line := ⟨7, 90, "\x7d else \x7b if (f(\")\")) \x7b b(); \x7d c(); \x7d\r\n".toList⟩
    let pieces : List Line :=
      [⟨1, 0, ['}']⟩, ⟨2, 2, "  else \x7b".toList⟩, ⟨3, 4, "if (f(\")\")) \x7b".toList⟩,
        ⟨4, 9, "b();".toList⟩, ⟨5, 20, []⟩, ⟨6, 21, "\t\x7d".toList⟩, ⟨7, 24, "c();".toList⟩,
        ⟨8, 29, ['}']⟩]
    let head := "int f(void)".toList
    let function : Line := ⟨3, 40, "  int f(void) \x7b\n".toList⟩
    let parts : List Line := [⟨3, 40, "int f(void)\n".toList⟩, ⟨4, 52, "\x7b\n".toList⟩]
    s.comment? = none ∧
      (BraceClean branch.text ∧ Line.contents pieces = bracePieces branch.text ∧
        Agrees (s.push branch) (builder.run s pieces) ∧
        (s.push branch).state = ⟨⟨[]⟩, 1, 0, [], [], false, none⟩ ∧
        (s.push branch).flow.outline =
          [("else".toList, 1, .controlHeader), ("if (f(\")\"))".toList, 2, .controlHeader),
            ("b();".toList, 3, .statement), ("c();".toList, 2, .statement)]) ∧
      Trimmed head ∧ Unmarked head ∧ '{' ∉ head ∧ '}' ∉ head ∧
        (classify head = .declaration ∧ Shape.isFunctionHead head = true) ∧
        function.trimmed = head ++ [' ', '{'] ∧ Line.contents parts = [head, ['{']] ∧
        Agrees (s.push function) (builder.run s parts) ∧
        (s.push function).state =
          ⟨⟨[⟨2, some 3⟩, ⟨1, none⟩]⟩, 3, 0, [], [], false, none⟩ ∧
        (s.push function).flow.outline = [(head, 3, .declaration)] := by
  intro s branch pieces head function parts
  have hs : s.comment? = none := rfl
  have hclean : BraceClean branch.text := by decide
  have hpieces : Line.contents pieces = bracePieces branch.text := by decide
  have ht : Trimmed head := by decide
  have hu : Unmarked head := by decide
  have ho : '{' ∉ head := by decide
  have hc : '}' ∉ head := by decide
  have hkind : classify head = .declaration ∧ Shape.isFunctionHead head = true := by decide
  have hfunction : function.trimmed = head ++ [' ', '{'] := by decide
  have hparts : Line.contents parts = [head, ['{']] := by decide
  obtain ⟨hbreaks, hbehind⟩ := push_agrees_with_breaks hs
  exact ⟨hs, ⟨hclean, hpieces, hbreaks _ _ hclean hpieces, by decide +kernel, by decide +kernel⟩,
    ht, hu, ho, hc, hkind, hfunction, hparts,
    hbehind _ _ _ ht hu ho hc (.inr hkind) hfunction hparts, by decide +kernel, by decide +kernel⟩

end Brace
end NestChart
