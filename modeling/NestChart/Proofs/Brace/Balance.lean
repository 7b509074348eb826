import NestChart.Proofs.Brace.Clean
import NestChart.Proofs.Brace.Stack

/-!
# NestChart.Proofs.Brace.Balance

Blocks and braces. A counter reads the braces of each line one by one (`counter`); on brace-clean
lines the builder opens and closes exactly as the counter counts. First each part of a line is shown
to open and close by its braces (`run_counts`), whatever the text; then the parts of a clean line
are shown to hold its braces in order (`braces_ofText`).
-/

namespace NestChart.Brace

open Text

/-! ## Counting -/

/-- The number of open blocks after one character; a closer without an open block is an anomaly. -/
def readBrace (line blocks : Nat) (c : Char) : Step Nat :=
  if c = '{' then .goto (blocks + 1)
  else if c = '}' then
    match blocks with
    | 0 => ⟨0, .ofAnomaly ⟨line, .unmatchedCloser⟩⟩
    | n + 1 => .goto n
  else .goto blocks

def readBraces (line blocks : Nat) : Chars → Step Nat
  | [] => .goto blocks
  | c :: cs => (readBrace line blocks c).andThen fun n => readBraces line n cs

/-- Counts the open blocks of a source by its braces alone. -/
def counter : Builder Nat where
  start := 0
  push n l := readBraces l.number n l.text
  finish _ := .empty
  depth := id

theorem readBraces_append (line blocks : Nat) (a b : Chars) :
    readBraces line blocks (a ++ b) =
      (readBraces line blocks a).andThen fun n => readBraces line n b := by
  induction a generalizing blocks with
  | nil => simp [readBraces]
  | cons c a ih => simp [readBraces, ih, Step.andThen_assoc]

theorem readBrace_of_not_isBrace {c : Char} (h : isBrace c = false) (line blocks : Nat) :
    readBrace line blocks c = .goto blocks := by
  simp only [isBrace, Bool.or_eq_false_iff, beq_eq_false_iff_ne] at h
  simp [readBrace, h.1, h.2]

theorem readBraces_bracesIn (line blocks : Nat) (text : Chars) :
    readBraces line blocks (bracesIn text) = readBraces line blocks text := by
  induction text generalizing blocks with
  | nil => rfl
  | cons c cs ih =>
    cases hc : isBrace c with
    | true =>
      rw [show bracesIn (c :: cs) = c :: bracesIn cs by simp [bracesIn, hc]]
      simp only [readBraces, ih]
    | false =>
      rw [show bracesIn (c :: cs) = bracesIn cs by simp [bracesIn, hc], ih, readBraces,
        readBrace_of_not_isBrace hc, Step.goto_andThen]

/-! ## Parts by their braces -/

/-- The braces by which the parts of a line open and close blocks. -/
def Parts.braces : Parts → Chars
  | .nothing => []
  | .closer rest => '}' :: rest.braces
  | .opener => ['{']
  | .comment _ => []
  | .directive _ => []
  | .header _ opens => if opens then ['{'] else []
  | .label _ rest => rest.braces
  | .declaration _ _ opens => if opens then ['{'] else []
  | .statements _ opens => if opens then ['{'] else []
  | .both left right => left.braces ++ right.braces
  | .beside code _ => code.braces

/-- The builder has as many blocks open as the counter, and both have met the same anomalies. -/
structure Counts (x : Step State) (y : Step Nat) : Prop where
  blocks : x.state.frames.frames.length = y.state
  anomalies : x.flow.anomalies = y.flow.anomalies

namespace Counts

theorem andThen {x : Step State} {y : Step Nat} {f : State → Step State} {g : Nat → Step Nat}
    (h : Counts x y) (hf : Counts (f x.state) (g x.state.frames.frames.length)) :
    Counts (x.andThen f) (y.andThen g) := by
  rw [h.blocks] at hf
  exact ⟨hf.blocks, by simp [Step.andThen, h.anomalies, hf.anomalies]⟩

/-- A step that leaves the blocks alone. -/
theorem quiet {s : State} {x : Step State} (hf : x.state.frames = s.frames)
    (ha : x.flow.anomalies = []) : Counts x (.goto s.frames.frames.length) :=
  ⟨by rw [hf]; rfl, ha⟩

/-- A step that may open a block in the end. -/
theorem openBlockIf {s t : State} (opens : Bool) (line : Nat) {f : Flow} (hf : t.frames = s.frames)
    (ha : f.anomalies = []) :
    Counts ⟨t.openBlockIf opens, f⟩
      (readBraces line s.frames.frames.length (if opens then ['{'] else [])) := by
  cases opens with
  | true => exact ⟨by rw [← hf]; rfl, ha⟩
  | false => exact quiet hf ha

end Counts

namespace State

theorem closeBlock_counts (s : State) (line : Nat) :
    Counts (s.closeBlock line) (readBrace line s.frames.frames.length '}') := by
  obtain ⟨⟨frames⟩, _⟩ := s
  cases frames with
  | nil => exact ⟨rfl, rfl⟩
  | cons f fs => exact ⟨rfl, rfl⟩

theorem placeComment_counts (s : State) (p : Piece) (depth line : Nat) :
    Counts (s.placeComment p depth line) (.goto s.frames.frames.length) := by
  unfold placeComment
  split
  · exact .quiet rfl rfl
  · exact .quiet rfl rfl

theorem placeHeader_counts (s : State) (p : Piece) (opens : Bool) (line : Nat) :
    Counts (s.placeHeader p opens line)
      (readBraces line s.frames.frames.length (if opens then ['{'] else [])) := by
  cases opens with
  | true => exact ⟨by simp [placeHeader, Step.emit, Nesting.push]; rfl, rfl⟩
  | false => exact .quiet (by simp [placeHeader, Step.emit]) rfl

theorem placeLabel_counts (s : State) (p : Piece) (line : Nat) :
    Counts (s.placeLabel p line) (.goto s.frames.frames.length) := by
  unfold placeLabel
  split
  · exact .quiet rfl rfl
  · exact .quiet rfl rfl

/-- A line opens and closes blocks by the braces of its parts. -/
theorem run_counts (line : Nat) (parts : Parts) (s : State) :
    Counts (run line parts s) (readBraces line s.frames.frames.length parts.braces) := by
  induction parts generalizing s with
  | nothing => exact .quiet rfl rfl
  | closer rest ih => exact (closeBlock_counts s line).andThen (ih _)
  | opener => exact ⟨rfl, rfl⟩
  | comment p => exact placeComment_counts s p _ line
  | directive p => exact .quiet rfl rfl
  | header p opens => exact placeHeader_counts s p opens line
  | label p rest ih =>
    have := (placeLabel_counts s p line).andThen (f := run line rest)
      (g := fun n => readBraces line n rest.braces) (ih _)
    rwa [Step.goto_andThen] at this
  | declaration category p opens => exact .openBlockIf opens line rfl rfl
  | statements ps opens =>
    refine .openBlockIf opens line ?_ rfl
    split <;> rfl
  | both left right ihl ihr =>
    rw [Parts.braces, readBraces_append]
    exact (ihl s).andThen (ihr _)
  | beside code behind ih =>
    obtain ⟨depth, hd⟩ : ∃ depth, run line (.beside code behind) s =
        (run line code s).andThen (placeComment behind depth line) := ⟨_, rfl⟩
    have := (ih s).andThen (g := Step.goto) (placeComment_counts _ behind depth line)
    rwa [Step.andThen_goto, ← hd] at this

end State

/-! ## The braces of a clean line -/

theorem braces_of_braceLast {text : Chars} (h : BraceLast text) (start : Nat) :
    (Parts.ofText text start).braces = bracesIn text := by
  induction text using Parts.ofText_induction generalizing start with
  | nil =>
    rw [Parts.ofText_nil]
    rfl
  | closer cs => exact absurd List.mem_cons_self h.no_closer
  | opener =>
    rw [Parts.ofText_opener]
    rfl
  | directive text hd =>
    rw [h.isDirective] at hd
    cases hd
  | beside text code behind _ hm =>
    rw [h.uncommented.cut?] at hm
    cases hm
  | both text left right _ _ hb =>
    rw [h.blockCut?] at hb
    cases hb
  | undivided text hu ih =>
    rw [Parts.ofText_undivided hu]
    cases hk : classify text with
    | comment => exact absurd hk h.classify_ne_comment
    | directive => exact absurd hk h.classify_ne_directive
    | controlHeader =>
      cases hl : Shape.label? text with
      | some r =>
        -- A label reads quotes in its own way, so what follows it need not be clean; it still has
        -- no brace but at its end.
        obtain ⟨label, rest⟩ := r
        obtain ⟨behind, rfl, rfl, hlast⟩ := Shape.label?_eq_some hl
        rw [bracesIn_append, h.bracesIn_label hlast, List.nil_append, ← bracesIn_trimStart]
        exact ih _ _ hl h.right.trimStart _
      | none => exact h.bracesIn.symm
    | _ => exact h.bracesIn.symm

/-- A clean line opens and closes by its braces, in their order. -/
theorem braces_ofText {text : Chars} (h : BraceClean text) (start : Nat) :
    (Parts.ofText text start).braces = bracesIn text := by
  induction text using Parts.ofText_induction generalizing start with
  | nil =>
    rw [Parts.ofText_nil]
    rfl
  | closer cs ih =>
    have hcs : BraceClean cs := BraceClean.right (a := ['}']) h rfl
    rw [Parts.ofText_closer rfl, Parts.braces, ih hcs.trimStart, bracesIn_trimStart]
    rfl
  | opener =>
    rw [Parts.ofText_opener]
    rfl
  | directive text hd =>
    rw [h.isDirective] at hd
    cases hd
  | beside text code behind _ hm =>
    rw [h.uncommented.cut?] at hm
    cases hm
  | both text left right hbare hm hb ihl ihr =>
    rw [Parts.ofText_both hbare hm hb, Parts.braces]
    obtain ⟨rfl, -, -⟩ := Block.cut?_append hb
    have hr := h.right (Block.after_of_cut? hb)
    rw [ihl h.left.trimEnd, ihr hr.trimStart, bracesIn_trimEnd, bracesIn_trimStart, bracesIn_append]
  | undivided text hu => exact braces_of_braceLast (h.braceLast hu) start

/-! ## Lines -/

theorem bracesIn_trimmed (l : Line) : bracesIn l.trimmed = bracesIn l.text := by
  obtain ⟨blanks, he, hb⟩ := l.exists_trimmed_append
  rw [← he, bracesIn_append, bracesIn_append, bracesIn_of_blank fun _ => isBlank_of_mem_takeWhile,
    bracesIn_of_blank hb, List.append_nil, List.nil_append]

/-- On a clean line outside comments the builder opens and closes as the counter counts. -/
theorem push_counts {s : State} {l : Line} (hs : s.comment? = none) (hl : BraceClean l.text) :
    Counts (s.push l) (readBraces l.number s.frames.frames.length l.text) := by
  rw [← readBraces_bracesIn, ← bracesIn_trimmed, State.push_eq_run hs,
    ← braces_ofText hl.trimmed l.trimmedSpan.start]
  exact State.run_counts _ _ _

theorem run_counts {s : State} {ls : List Line} (hs : s.comment? = none)
    (hls : ∀ l ∈ ls, BraceClean l.text) :
    Counts (builder.run s ls) (counter.run s.frames.frames.length ls) := by
  induction ls generalizing s with
  | nil => exact .quiet rfl rfl
  | cons l ls ih =>
    have hl := hls l (by simp)
    exact (push_counts hs hl).andThen
      (ih (State.comment?_push hs hl.trimmed.uncommented) fun m hm => hls m (by simp [hm]))

/-- After any brace-clean lines, balanced or not: as many blocks are open as the braces leave open,
each closer without an open block is one anomaly on its line, in order, and nothing else is; and the
depth is 0 exactly when no block is open. -/
theorem blocks_eq_count (ls : List Line) (hls : ∀ l ∈ ls, BraceClean l.text) :
    let reached := builder.run builder.start ls
    let counted := counter.run counter.start ls
    reached.state.frames.frames.length = counted.state ∧
      reached.flow.anomalies = counted.flow.anomalies ∧
      (builder.depth reached.state = 0 ↔ counted.state = 0) := by
  have hc : Counts (builder.run builder.start ls) (counter.run counter.start ls) :=
    run_counts (s := .start) rfl hls
  have hs := stacked_of_run State.start_stacked ls
  refine ⟨hc.blocks, hc.anomalies, ?_⟩
  rw [← hc.blocks, List.length_eq_zero_iff]
  exact hs.depth_eq_zero_iff

/-- Closers without a block on the first and the last line, parentheses in literals, and a block
inside a block on one line. -/
theorem blocks_eq_count_unbalanced :
    let ls : List Line :=
      [⟨1, 0, "\x7d if (f(\")\")) \x7b\n".toList⟩,
        ⟨2, 16, "  g('\\''); \x7b h(); \x7d \x7d\n".toList⟩,
        ⟨3, 38, "\x7d do \x7b\n".toList⟩]
    let reached := builder.run builder.start ls
    (∀ l ∈ ls, BraceClean l.text) ∧
      reached.state.frames.frames.length = 1 ∧
      reached.flow.anomalies = [⟨1, .unmatchedCloser⟩, ⟨3, .unmatchedCloser⟩] ∧
      builder.depth reached.state ≠ 0 := by
  intro ls reached
  have hls : ∀ l ∈ ls, BraceClean l.text := by decide
  obtain ⟨hb, ha, hd⟩ := blocks_eq_count ls hls
  refine ⟨hls, hb.trans (by decide), ha.trans (by decide), ?_⟩
  rw [ne_eq, hd]
  decide

end NestChart.Brace
