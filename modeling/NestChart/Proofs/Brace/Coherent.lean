import NestChart.Proofs.Brace.Stack

/-!
# NestChart.Proofs.Brace.Coherent

What the fields of a state promise each other. `Stacked` is the half about open blocks and depth;
`Chained` is the half about heads: an `if` waits or can be answered, never both, and the lists of
them grow strictly. Each operation keeps both halves, so every state that lines lead to is
`Coherent` (`coherent_of_run`).
-/

namespace NestChart.Brace

/-! ## Open blocks, read off one by one -/

namespace FramesBelow

variable {fs : List Frame} {depth : Nat}

theorem restore_lt_of_mem (h : FramesBelow fs depth) : ∀ f ∈ fs, f.restore < depth := by
  induction h with
  | nil => simp
  | cons restore_lt _ _ ih =>
    intro g hg
    rcases List.mem_cons.1 hg with rfl | hg
    · exact restore_lt
    · have := ih g hg
      omega

theorem pairwise_restore (h : FramesBelow fs depth) :
    (fs.map Frame.restore).Pairwise (· > ·) := by
  induction h with
  | nil => exact .nil
  | cons _ _ outer ih =>
    refine List.pairwise_cons.2 ⟨?_, ih⟩
    intro restore hr
    obtain ⟨g, hg, rfl⟩ := List.mem_map.1 hr
    exact outer.restore_lt_of_mem g hg

theorem restore_bottom (h : FramesBelow fs depth) : ∀ f ∈ fs.getLast?, f.restore = 0 := by
  induction h with
  | nil => simp
  | @cons f fs _ _ _ outer ih =>
    intro g hg
    cases fs with
    | nil =>
      cases hg
      exact outer.depth_eq_zero_iff.2 rfl
    | cons => exact ih g (by simpa [List.getLast?_cons] using hg)

/-- Each frame beside the level at which the next inner block began, or the depth for the
innermost. -/
theorem labels_of_mem_zip (h : FramesBelow fs depth) :
    ∀ p ∈ fs.zip (depth :: fs.map Frame.restore), ∀ labels ∈ p.1.labels?,
      p.1.restore < labels ∧ (p.2 = labels ∨ p.2 = labels + 1) := by
  induction h with
  | nil => simp
  | cons _ labels _ ih =>
    intro p hp
    rw [List.map_cons, List.zip_cons_cons, List.mem_cons] at hp
    rcases hp with rfl | hp
    · exact labels
    · exact ih p hp

end FramesBelow

/-! ## Waiting heads -/

namespace State

/-- The `if`s among the heads that wait, and those that an `else` may answer, the latest first. -/
structure Chained (s : State) : Prop where
  pendingIfs : s.pendingIfs.Pairwise (· > ·)
  pendingIfs_lt : ∀ i ∈ s.pendingIfs, i < s.pending
  danglingIfs : s.danglingIfs.Pairwise (· > ·)
  served : s.danglingIfs ≠ [] → s.pending = 0 ∧ s.pendingIfs = []

theorem answerIf_danglingIfs (s : State) (text : Chars) : (s.answerIf text).danglingIfs = [] := by
  unfold answerIf
  split
  · split
    · rfl
    · assumption
  · rfl

namespace Chained

variable {s : State}

/-- Without an `if` that can be answered only the waiting ones count. -/
theorem of_pending (hp : s.pendingIfs.Pairwise (· > ·)) (hlt : ∀ i ∈ s.pendingIfs, i < s.pending)
    (hd : s.danglingIfs = []) : s.Chained where
  pendingIfs := hp
  pendingIfs_lt := hlt
  danglingIfs := by simp [hd]
  served := by simp [hd]

theorem settle (s : State) : s.settle.Chained := of_pending .nil (by simp) rfl

/-- The open comment does not count. -/
theorem setComment (h : s.Chained) (c : Option OpenComment) : { s with comment? := c }.Chained :=
  ⟨h.pendingIfs, h.pendingIfs_lt, h.danglingIfs, h.served⟩

theorem openBlock (s : State) : s.openBlock.Chained := settle _

theorem closeBlock (s : State) (line : Nat) : (s.closeBlock line).state.Chained := settle _

theorem openBlockIf (opens : Bool) (h : s.Chained) : (s.openBlockIf opens).Chained := by
  cases opens with
  | true => exact openBlock s
  | false => exact h

/-- The waiting `if`s become those that can be answered. -/
theorem completeChain (hp : s.pendingIfs.Pairwise (· > ·)) : s.completeChain.Chained where
  pendingIfs := .nil
  pendingIfs_lt := by simp [State.completeChain]
  danglingIfs := hp
  served := fun _ => ⟨rfl, rfl⟩

/-- The heads that waited before the `if` that is answered wait again. -/
theorem answerIf (h : s.Chained) (text : Chars) : (s.answerIf text).Chained := by
  unfold State.answerIf
  split
  · split
    · rename_i waiting outer hd
      obtain ⟨hlt, hp⟩ := List.pairwise_cons.1 (hd ▸ h.danglingIfs)
      exact of_pending hp hlt rfl
    · exact h
  · exact of_pending h.pendingIfs h.pendingIfs_lt rfl

/-- An `if` stands behind all heads that wait, so it comes after their `if`s. -/
theorem awaitBody (h : s.Chained) (hd : s.danglingIfs = []) (text : Chars) :
    (s.awaitBody text).Chained := by
  have hif : (s.pending :: s.pendingIfs).Pairwise (· > ·) :=
    List.pairwise_cons.2 ⟨h.pendingIfs_lt, h.pendingIfs⟩
  have hlt : ∀ i ∈ s.pendingIfs, i < s.pending + 1 := by
    intro i hi
    have := h.pendingIfs_lt i hi
    omega
  have hiflt : ∀ i ∈ s.pending :: s.pendingIfs, i < s.pending + 1 := by
    intro i hi
    rcases List.mem_cons.1 hi with rfl | hi
    · exact Nat.lt_succ_self _
    · exact hlt i hi
  unfold State.awaitBody
  split
  · split
    · exact completeChain hif
    · exact of_pending hif hiflt hd
  · split
    · exact completeChain h.pendingIfs
    · exact of_pending h.pendingIfs hlt hd

theorem placeComment (h : s.Chained) (p : Piece) (depth line : Nat) :
    (s.placeComment p depth line).state.Chained := by
  unfold State.placeComment
  split
  · exact h.setComment _
  · exact h

theorem placeHeader (h : s.Chained) (p : Piece) (opens : Bool) (line : Nat) :
    (s.placeHeader p opens line).state.Chained := by
  cases opens with
  | true => exact openBlock _
  | false => exact (h.answerIf p.text).awaitBody (answerIf_danglingIfs s p.text) p.text

theorem placeLabel (h : s.Chained) (p : Piece) (line : Nat) :
    (s.placeLabel p line).state.Chained := by
  unfold State.placeLabel
  split
  · exact settle _
  · exact h

theorem placeStatements (h : s.Chained) (ps : List Piece) (opens : Bool) (line : Nat) :
    (s.placeStatements ps opens line).state.Chained := by
  refine openBlockIf opens ?_
  split
  · exact h
  · exact completeChain h.pendingIfs

/-- Every part of a line keeps the order of the heads. -/
theorem run (h : s.Chained) (line : Nat) (parts : Parts) :
    (State.run line parts s).state.Chained := by
  induction parts generalizing s with
  | nothing => exact h
  | closer rest ih => exact ih (closeBlock s line)
  | opener => exact openBlock s
  | comment p => exact h.placeComment p _ line
  | directive p => exact h
  | header p opens => exact h.placeHeader p opens line
  | label p rest ih => exact ih (h.placeLabel p line)
  | declaration category p opens => exact openBlockIf opens (settle s)
  | statements ps opens => exact h.placeStatements ps opens line
  | both left right ihl ihr => exact ihr (ihl h)
  | beside code behind ih => exact (ih h).placeComment behind _ line

theorem push (h : s.Chained) (l : Line) : (s.push l).state.Chained := by
  unfold State.push
  split
  · exact h
  split
  · unfold continueComment
    split
    · exact h.setComment _
    · exact h.setComment _
  · exact h.run l.number _

end Chained

theorem start_chained : Chained .start := Chained.of_pending .nil (by simp [start]) rfl

/-! ## All fields together -/

/-- What the fields of a state promise each other. Frames and `if`s are listed the latest first. -/
structure Coherent (s : State) : Prop where
  frames_eq_nil_iff : s.frames.frames = [] ↔ s.depth = 0
  restores : (s.frames.frames.map Frame.restore).Pairwise (· > ·)
  restore_bottom : ∀ f ∈ s.frames.frames.getLast?, f.restore = 0
  restore_top : ∀ f ∈ s.frames.frames.head?, f.restore < s.depth
  /-- The body of a `switch` lies deeper than what is around it, and what lies in it is a label or
  one level deeper. -/
  labels : ∀ p ∈ s.frames.frames.zip (s.depth :: s.frames.frames.map Frame.restore),
    ∀ labels ∈ p.1.labels?, p.1.restore < labels ∧ (p.2 = labels ∨ p.2 = labels + 1)
  chained : s.Chained

theorem coherent (s : State) (hs : s.Stacked) (hc : s.Chained) : s.Coherent where
  frames_eq_nil_iff := hs.depth_eq_zero_iff.symm
  restores := hs.pairwise_restore
  restore_bottom := hs.restore_bottom
  restore_top f hf := hs.restore_lt_of_mem f (List.mem_of_mem_head? hf)
  labels := hs.labels_of_mem_zip
  chained := hc

end State

/-- After any lines the fields of the state fit together. -/
theorem coherent_of_run (ls : List Line) : (builder.run builder.start ls).state.Coherent := by
  have hc := builder.state_of_run (P := State.Chained) (fun _ l h => h.push l)
    State.start_chained ls
  exact State.coherent _ (stacked_of_run State.start_stacked ls) hc

end NestChart.Brace
