import NestChart.Proofs.Brace.Run

/-!
# NestChart.Proofs.Brace.Stack

The open blocks and the depth always fit together: each block begins deeper than the one around it,
and the depth lies above them all. `push_framesBelow` keeps that for every line, so a state is at
depth 0 exactly when no block is open.
-/

namespace NestChart.Brace

/-- The frames of open blocks, the innermost first, lie one below the other and below the depth. In
the body of a `switch` the depth is that of the labels or of their statements. -/
inductive FramesBelow : List Frame → Nat → Prop
  | nil : FramesBelow [] 0
  | cons {f : Frame} {fs : List Frame} {depth : Nat} (restore_lt : f.restore < depth)
      (labels : ∀ labels ∈ f.labels?, f.restore < labels ∧ (depth = labels ∨ depth = labels + 1))
      (outer : FramesBelow fs f.restore) : FramesBelow (f :: fs) depth

theorem FramesBelow.depth_eq_zero_iff {fs : List Frame} {depth : Nat} (h : FramesBelow fs depth) :
    depth = 0 ↔ fs = [] := by
  cases h with
  | nil => simp
  | cons restore_lt =>
    simp only [reduceCtorEq, iff_false]
    omega

namespace State

/-- The open blocks and the depth of a state fit together. -/
def Stacked (s : State) : Prop := FramesBelow s.frames.frames s.depth

theorem start_stacked : Stacked .start := FramesBelow.nil

namespace Stacked

variable {s : State}

/-- Only frames and depth count. -/
theorem congr {t : State} (h : s.Stacked) (hf : t.frames = s.frames) (hd : t.depth = s.depth) :
    t.Stacked := by
  rwa [Stacked, hf, hd]

theorem openBlock (h : s.Stacked) : s.openBlock.Stacked := by
  have hpos : 1 ≤ s.blockLevels := Nat.le_max_right _ _
  have hlt : s.depth < s.depth + s.blockLevels := Nat.lt_add_of_pos_right hpos
  refine FramesBelow.cons hlt ?_ h
  intro labels hl
  simp only [Option.mem_def] at hl
  split at hl
  · cases hl
    exact ⟨hlt, .inl rfl⟩
  · cases hl

theorem openBlockIf (opens : Bool) (h : s.Stacked) : (s.openBlockIf opens).Stacked := by
  cases opens
  · exact h
  · exact h.openBlock

theorem closeBlock (h : s.Stacked) (line : Nat) : (s.closeBlock line).state.Stacked := by
  obtain ⟨⟨frames⟩, depth, _⟩ := s
  cases h with
  | nil => exact .nil
  | cons _ _ outer => exact outer

theorem placeComment (h : s.Stacked) (p : Piece) (depth line : Nat) :
    (s.placeComment p depth line).state.Stacked := by
  unfold State.placeComment
  split
  · exact h
  · exact h

theorem placeHeader (h : s.Stacked) (p : Piece) (opens : Bool) (line : Nat) :
    (s.placeHeader p opens line).state.Stacked := by
  cases opens
  · exact h.congr (by simp [State.placeHeader, Step.emit]) (by simp [State.placeHeader, Step.emit])
  · have := h.congr (answerIf_frames s p.text) (answerIf_depth s p.text)
    exact openBlock (s := { s.answerIf p.text with
      opensSwitch := Shape.isSwitch p.text, pending := (s.answerIf p.text).pending + 1 }) this

theorem placeLabel (h : s.Stacked) (p : Piece) (line : Nat) :
    (s.placeLabel p line).state.Stacked := by
  unfold State.placeLabel
  split
  · rename_i labels hl
    obtain ⟨⟨frames⟩, depth, _⟩ := s
    cases h with
    | nil => cases hl
    | cons _ hlabels outer =>
      obtain ⟨hlt, -⟩ := hlabels labels hl
      refine FramesBelow.cons (Nat.lt_succ_of_lt hlt) ?_ outer
      intro labels' hl'
      cases hl.symm.trans hl'
      exact ⟨hlt, .inr rfl⟩
  · exact h

theorem placeStatements (h : s.Stacked) (ps : List Piece) (opens : Bool) (line : Nat) :
    (s.placeStatements ps opens line).state.Stacked := by
  refine openBlockIf opens ?_
  split
  · exact h
  · exact h

/-- Every part of a line keeps blocks and depth together. -/
theorem run (h : s.Stacked) (line : Nat) (parts : Parts) :
    (State.run line parts s).state.Stacked := by
  induction parts generalizing s with
  | nothing => exact h
  | closer rest ih => exact ih (h.closeBlock line)
  | opener => exact h.openBlock
  | comment p => exact h.placeComment p _ line
  | directive p => exact h
  | header p opens => exact h.placeHeader p opens line
  | label p rest ih => exact ih (h.placeLabel p line)
  | declaration category p opens => exact openBlockIf (s := s.settle) opens h
  | statements ps opens => exact h.placeStatements ps opens line
  | both left right ihl ihr => exact ihr (ihl h)
  | beside code behind ih => exact (ih h).placeComment behind _ line

theorem push (h : s.Stacked) (l : Line) : (s.push l).state.Stacked := by
  unfold State.push
  split
  · exact h
  split
  · unfold continueComment
    split
    · exact h
    · exact h
  · exact h.run l.number _

end Stacked
end State

/-- After any lines. -/
theorem stacked_of_run {s : State} (h : s.Stacked) (ls : List Line) :
    (builder.run s ls).state.Stacked :=
  builder.state_of_run (fun _ l hs => hs.push l) h ls

end NestChart.Brace
