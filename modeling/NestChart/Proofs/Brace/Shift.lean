import NestChart.Proofs.Brace.Place
import NestChart.Proofs.Shift

/-!
# NestChart.Proofs.Brace.Shift

A brace language further down in a source. A text falls into the same parts (`Parts.ofText_shift`),
each part does the same (`run_shift`), and so does a line (`push_shift`). Only an open comment
remembers where it stands, so a state is shifted with its comment.
-/

namespace NestChart.Brace

open Text

section Shift

variable (k n : Nat)

/-! ## Parts further down -/

def Piece.shift (p : Piece) : Piece := ⟨p.text, p.start + n⟩

theorem Piece.span_shift (p : Piece) : (p.shift n).span = p.span.shift n := by
  simp only [span, shift, Span.shift, Nat.add_right_comm]

/-- The same parts, all of them `n` bytes further down. -/
def Parts.shift : Parts → Parts
  | .nothing => .nothing
  | .closer rest => .closer rest.shift
  | .opener => .opener
  | .comment p => .comment (p.shift n)
  | .directive p => .directive (p.shift n)
  | .header p opens => .header (p.shift n) opens
  | .label p rest => .label (p.shift n) rest.shift
  | .declaration category p opens => .declaration category (p.shift n) opens
  | .statements ps opens => .statements (ps.map (Piece.shift n)) opens
  | .both left right => .both left.shift right.shift
  | .beside code behind => .beside code.shift (behind.shift n)

theorem Parts.ofText_shift (text : Chars) (start : Nat) :
    ofText text (start + n) = (ofText text start).shift n := by
  induction text using ofText_induction generalizing start with
  | nil => rw [ofText_nil, ofText_nil, shift]
  | closer cs ih =>
    have hc : Block.afterClose? ('}' :: cs) = some (trimStart cs) := rfl
    rw [ofText_closer hc, ofText_closer hc, shift, ← ih, Nat.add_right_comm]
  | opener => rw [ofText_opener, ofText_opener, shift]
  | directive text hd =>
    rw [ofText_directive hd, ofText_directive hd]
    rfl
  | beside text code behind hbare hm ih =>
    rw [ofText_beside hbare hm, ofText_beside hbare hm, shift, ← ih, Piece.shift,
      Nat.add_right_comm]
  | both text left right hbare hm hb ihl ihr =>
    rw [ofText_both hbare hm hb, ofText_both hbare hm hb, shift, ← ihl, ← ihr, Nat.add_right_comm]
  | undivided text hu ih =>
    rw [ofText_undivided hu, ofText_undivided hu]
    cases classify text with
    | controlHeader =>
      cases hl : Shape.label? text with
      | none => rfl
      | some r =>
        obtain ⟨label, rest⟩ := r
        simp only [shift, ← ih label rest hl, Piece.shift, Nat.add_right_comm]
    | statement =>
      simp only [shift, List.map_map, Nat.add_right_comm start n]
      rfl
    | _ => rfl

/-! ## States further down -/

def OpenComment.shift (c : OpenComment) : OpenComment :=
  { c with line := c.line + k, span := c.span.shift n }

theorem OpenComment.node_shift (c : OpenComment) : (c.shift k n).node = c.node.shift k n := rfl

theorem OpenComment.extend_shift (c : OpenComment) (text : Chars) (span : Span) :
    (c.shift k n).extend text (span.shift n) = (c.extend text span).shift k n := by
  simp only [extend, shift, Span.cover, Span.shift, Nat.add_min_add_right, Nat.add_max_add_right]

namespace State

/-- The state with its open comment further down. -/
def shift (s : State) : State := s.setComment (s.comment?.map (OpenComment.shift k n))

variable (s : State) (line : Nat)

@[simp] theorem shift_effectiveDepth : (s.shift k n).effectiveDepth = s.effectiveDepth := rfl

@[simp] theorem shift_comment? :
    (s.shift k n).comment? = s.comment?.map (OpenComment.shift k n) := rfl

/-- An operation that leaves the comment alone does the same further down. -/
theorem shift_comm {f : State → State} (hf : ∀ s c, f (s.setComment c) = (f s).setComment c) :
    f (s.shift k n) = (f s).shift k n := by
  have hc : (f s).comment? = s.comment? := by
    rw [show f s = (f s).setComment s.comment? from hf s s.comment?]
    rfl
  rw [shift, shift, hf, hc]

theorem node_shift (p : Piece) (depth : Nat) (category : Category) :
    node (p.shift n) depth category (line + k) = (node p depth category line).shift k n := by
  rw [node, Piece.span_shift]
  rfl

theorem openBlockIf_shift (opens : Bool) :
    (s.shift k n).openBlockIf opens = (s.openBlockIf opens).shift k n := by
  cases opens <;> rfl

theorem closeBlock_shift :
    (s.shift k n).closeBlock (line + k) = (s.closeBlock line).shift k n (shift k n) := by
  have hframes : (s.shift k n).frames = s.frames := rfl
  simp only [closeBlock, Nesting.close, hframes]
  cases s.frames.frames <;> rfl

theorem placeComment_shift (p : Piece) (depth : Nat) :
    (s.shift k n).placeComment (p.shift n) depth (line + k) =
      (s.placeComment p depth line).shift k n (shift k n) := by
  have htext : (p.shift n).text = p.text := rfl
  simp only [placeComment, htext, Piece.span_shift, node_shift]
  split <;> rfl

theorem placeHeader_shift (p : Piece) (opens : Bool) :
    (s.shift k n).placeHeader (p.shift n) opens (line + k) =
      (s.placeHeader p opens line).shift k n (shift k n) := by
  have htext : (p.shift n).text = p.text := rfl
  have hanswer : (s.shift k n).answerIf p.text = (s.answerIf p.text).shift k n :=
    s.shift_comm k n fun u c => answerIf_setComment u c p.text
  have hawait : ((s.answerIf p.text).shift k n).awaitBody p.text =
      ((s.answerIf p.text).awaitBody p.text).shift k n :=
    shift_comm k n _ fun u c => awaitBody_setComment u c p.text
  simp only [placeHeader, htext, hanswer, hawait, node_shift, shift_effectiveDepth]
  cases opens <;> rfl

theorem placeLabel_shift (p : Piece) :
    (s.shift k n).placeLabel (p.shift n) (line + k) =
      (s.placeLabel p line).shift k n (shift k n) := by
  have hframes : (s.shift k n).frames = s.frames := rfl
  unfold placeLabel
  rw [hframes, node_shift, shift_effectiveDepth]
  split
  · rw [node_shift]
    rfl
  · rfl

theorem placeDeclaration_shift (category : Category) (p : Piece) (opens : Bool) :
    (s.shift k n).placeDeclaration category (p.shift n) opens (line + k) =
      (s.placeDeclaration category p opens line).shift k n (shift k n) := by
  simp only [placeDeclaration, node_shift, shift_effectiveDepth]
  cases opens <;> rfl

theorem placeStatements_shift (ps : List Piece) (opens : Bool) :
    (s.shift k n).placeStatements (ps.map (Piece.shift n)) opens (line + k) =
      (s.placeStatements ps opens line).shift k n (shift k n) := by
  have hserved : (if ps.isEmpty then s.shift k n else (s.shift k n).completeChain) =
      (if ps.isEmpty then s else s.completeChain).shift k n := by
    split <;> rfl
  have hnodes : (ps.map (Piece.shift n)).map (node · s.effectiveDepth .statement (line + k)) =
      (ps.map (node · s.effectiveDepth .statement line)).map (Node.shift k n) := by
    rw [List.map_map, List.map_map]
    exact List.map_congr_left fun p _ => node_shift k n line p _ _
  simp only [placeStatements, List.isEmpty_map, hserved, hnodes, shift_effectiveDepth,
    openBlockIf_shift]
  rfl

theorem besideDepth_shift (x : Step State) :
    besideDepth (x.shift k n (shift k n)) = besideDepth x := by
  simp only [besideDepth, Step.shift, Flow.shift, List.head?_map]
  cases x.flow.nodes.head? <;> rfl

/-- Parts further down do the same further down. -/
theorem run_shift (parts : Parts) :
    run (line + k) (parts.shift n) (s.shift k n) = (run line parts s).shift k n (shift k n) := by
  induction parts generalizing s with
  | nothing => rfl
  | closer rest ih =>
    rw [Parts.shift, run, run, closeBlock_shift]
    exact Step.shift_andThen k n ih
  | opener => rfl
  | comment p => exact placeComment_shift k n s line p _
  | directive p =>
    rw [Parts.shift, run, run, node_shift]
    rfl
  | header p opens => exact placeHeader_shift k n s line p opens
  | label p rest ih =>
    rw [Parts.shift, run, run, placeLabel_shift]
    exact Step.shift_andThen k n ih
  | declaration category p opens => exact placeDeclaration_shift k n s line category p opens
  | statements ps opens => exact placeStatements_shift k n s line ps opens
  | both left right ihl ihr =>
    rw [Parts.shift, run, run, ihl]
    exact Step.shift_andThen k n ihr
  | beside code behind ih =>
    rw [Parts.shift, run_beside, run_beside, ih, besideDepth_shift]
    exact Step.shift_andThen k n fun t => placeComment_shift k n t line behind _

theorem continueComment_shift (c : OpenComment) (text : Chars) (span : Span) :
    (s.shift k n).continueComment (c.shift k n) text (span.shift n) =
      (s.continueComment c text span).shift k n (shift k n) := by
  simp only [continueComment, OpenComment.extend_shift, OpenComment.node_shift]
  split <;> rfl

/-- A line further down does the same further down. -/
theorem push_shift (l : Line) :
    (s.shift k n).push (l.shift k n) = (s.push l).shift k n (shift k n) := by
  by_cases hn : l.trimmed = []
  · have hn' : (l.shift k n).trimmed = [] := hn
    rw [push_of_blank hn, push_of_blank hn', Step.shift_goto]
  have hstart : (l.shift k n).trimmedSpan.start = l.trimmedSpan.start + n := by
    rw [Line.shift_trimmedSpan]
    rfl
  cases hs : s.comment? with
  | none =>
    have hs' : (s.shift k n).comment? = none := by rw [shift_comment?, hs, Option.map_none]
    rw [push_of_ne_nil hs hn, push_of_ne_nil hs' (by simpa using hn), hstart, Line.shift_trimmed,
      Line.shift_number, Parts.ofText_shift, run_shift]
  | some c =>
    simp only [push, Line.shift_trimmed, List.isEmpty_iff, hn, if_false, shift_comment?, hs,
      Option.map_some, Line.shift_trimmedSpan]
    exact continueComment_shift k n s c _ _

theorem finish_shift : (s.shift k n).finish = s.finish.shift k n := by
  rw [finish, finish, shift_comment?]
  cases s.comment? <;> rfl

end State

end Shift

/-- A source behind one that leaves nothing open adds what it adds alone, further down. -/
theorem flow_append {first rest : Chars} (hends : EndsLine first)
    (hopen : (builder.run .start (Line.ofSource first)).state = .start) :
    builder.flow (first ++ rest) = builder.flow first ++
      (builder.flow rest).shift (Line.ofSource first).length (byteLength first) :=
  builder.flow_append hends hopen rfl rfl (fun l _ s => State.push_shift _ _ s l)
    (State.finish_shift _ _)

end NestChart.Brace
