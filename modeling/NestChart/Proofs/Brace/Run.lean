import NestChart.Brace.Builder
import NestChart.Proofs.Brace.Parts
import NestChart.Proofs.Builder

/-!
# NestChart.Proofs.Brace.Run

What the parts of one line do to the state. Each operation touches few fields; the lemmas beside it
say which values the others keep. `run_shows` is the frame of a whole line: it shows only its own
pieces, on its own line, and leaves open at most one of them.
-/

namespace NestChart.Brace

open Text

namespace State

/-! ## Fields behind each operation -/

section Fields

variable (s : State) (text : Chars) (line : Nat)

@[simp] theorem settle_frames : s.settle.frames = s.frames := rfl
@[simp] theorem settle_depth : s.settle.depth = s.depth := rfl
@[simp] theorem settle_pending : s.settle.pending = 0 := rfl
@[simp] theorem settle_pendingIfs : s.settle.pendingIfs = [] := rfl
@[simp] theorem settle_danglingIfs : s.settle.danglingIfs = [] := rfl
@[simp] theorem settle_opensSwitch : s.settle.opensSwitch = s.opensSwitch := rfl
@[simp] theorem settle_comment? : s.settle.comment? = s.comment? := rfl

@[simp] theorem completeChain_frames : s.completeChain.frames = s.frames := rfl
@[simp] theorem completeChain_depth : s.completeChain.depth = s.depth := rfl
@[simp] theorem completeChain_pending : s.completeChain.pending = 0 := rfl
@[simp] theorem completeChain_opensSwitch : s.completeChain.opensSwitch = s.opensSwitch := rfl
@[simp] theorem completeChain_comment? : s.completeChain.comment? = s.comment? := rfl

@[simp] theorem openBlock_frames :
    s.openBlock.frames =
      s.frames.push ⟨s.depth, if s.opensSwitch then some (s.depth + s.blockLevels) else none⟩ := rfl
@[simp] theorem openBlock_depth : s.openBlock.depth = s.depth + s.blockLevels := rfl
@[simp] theorem openBlock_pending : s.openBlock.pending = 0 := rfl
@[simp] theorem openBlock_opensSwitch : s.openBlock.opensSwitch = false := rfl
@[simp] theorem openBlock_comment? : s.openBlock.comment? = s.comment? := rfl

@[simp] theorem closeBlock_nodes : (s.closeBlock line).flow.nodes = [] := rfl
@[simp] theorem closeBlock_comment? : (s.closeBlock line).state.comment? = s.comment? := rfl

@[simp] theorem answerIf_frames : (s.answerIf text).frames = s.frames := by
  unfold answerIf
  split
  · split <;> rfl
  · rfl

@[simp] theorem answerIf_depth : (s.answerIf text).depth = s.depth := by
  unfold answerIf
  split
  · split <;> rfl
  · rfl

@[simp] theorem answerIf_comment? : (s.answerIf text).comment? = s.comment? := by
  unfold answerIf
  split
  · split <;> rfl
  · rfl

@[simp] theorem awaitBody_frames : (s.awaitBody text).frames = s.frames := by
  unfold awaitBody
  split <;> split <;> rfl

@[simp] theorem awaitBody_depth : (s.awaitBody text).depth = s.depth := by
  unfold awaitBody
  split <;> split <;> rfl

@[simp] theorem awaitBody_comment? : (s.awaitBody text).comment? = s.comment? := by
  unfold awaitBody
  split <;> split <;> rfl

theorem openBlockIf_comment? (opens : Bool) : (s.openBlockIf opens).comment? = s.comment? := by
  cases opens <;> rfl

end Fields

/-! ## Comments behind code -/

/-- The depth of a comment behind code: that of the first node shown, or what comes next if there is
none. -/
def besideDepth (shown : Step State) : Nat :=
  match shown.flow.nodes.head? with
  | some first => first.depth
  | none => shown.state.effectiveDepth

theorem besideDepth_eq_outline (x : Step State) :
    besideDepth x = (x.flow.outline.head?.map fun n => n.2.1).getD x.state.effectiveDepth := by
  rw [besideDepth, Flow.outline]
  cases x.flow.nodes <;> rfl

theorem run_beside (s : State) (line : Nat) (code : Parts) (comment : Piece) :
    run line (.beside code comment) s =
      (run line code s).andThen
        (placeComment comment (besideDepth (run line code s)) line) := rfl

/-! ## What a line may show -/

/-- The step shows pieces of the list only, on line `line`; a comment that it leaves open was open
before or is one of the pieces. -/
structure Shows (line : Nat) (ps : List Piece) (s : State) (x : Step State) : Prop where
  node : ∀ n ∈ x.flow.nodes, n.line = line ∧ ∃ p ∈ ps, n.text = p.text ∧ n.span = p.span
  anomaly : ∀ a ∈ x.flow.anomalies, a = ⟨line, .unmatchedCloser⟩
  comment : x.state.comment? = s.comment? ∨
    ∃ p ∈ ps, Comment.start p.text = .opens ∧
      ∃ depth, x.state.comment? = some ⟨[p.text], depth, line, p.span⟩

namespace Shows

variable {line : Nat} {ps qs : List Piece} {s : State}

theorem goto {t : State} (h : t.comment? = s.comment?) : Shows line ps s (.goto t) :=
  ⟨by simp [Step.goto], by simp [Step.goto], .inl h⟩

theorem emit {t : State} {p : Piece} (depth : Nat) (category : Category) (hp : p ∈ ps)
    (h : t.comment? = s.comment?) :
    Shows line ps s (.emit t (State.node p depth category line)) := by
  refine ⟨?_, by simp [Step.emit], .inl h⟩
  intro n hn
  simp only [Step.emit, Flow.nodes_ofNode, List.mem_singleton] at hn
  subst hn
  exact ⟨rfl, p, hp, rfl, rfl⟩

theorem andThen {x : Step State} {f : State → Step State} (hx : Shows line ps s x)
    (hf : Shows line qs x.state (f x.state)) : Shows line (ps ++ qs) s (x.andThen f) where
  node n hn := by
    simp only [Step.andThen, Flow.nodes_append, List.mem_append] at hn
    rcases hn with hn | hn
    · obtain ⟨hl, p, hp, h⟩ := hx.node n hn
      exact ⟨hl, p, List.mem_append_left qs hp, h⟩
    · obtain ⟨hl, p, hp, h⟩ := hf.node n hn
      exact ⟨hl, p, List.mem_append_right ps hp, h⟩
  anomaly a ha := by
    simp only [Step.andThen, Flow.anomalies_append, List.mem_append] at ha
    rcases ha with ha | ha
    · exact hx.anomaly a ha
    · exact hf.anomaly a ha
  comment := by
    rcases hf.comment with h | ⟨p, hp, h⟩
    · rcases hx.comment with h' | ⟨p, hp, ho, h'⟩
      · exact .inl (h.trans h')
      · exact .inr ⟨p, List.mem_append_left qs hp, ho, by simpa [Step.andThen, h] using h'⟩
    · exact .inr ⟨p, List.mem_append_right ps hp, h⟩

end Shows

theorem closeBlock_shows (s : State) (line : Nat) : Shows line [] s (s.closeBlock line) where
  node n hn := by simp at hn
  anomaly a ha := by
    unfold closeBlock Nesting.close at ha
    split at ha <;> simp_all
  comment := .inl rfl

theorem placeComment_shows (s : State) (p : Piece) (depth line : Nat) :
    Shows line [p] s (s.placeComment p depth line) := by
  unfold placeComment
  split
  · rename_i ho
    exact ⟨by simp [Step.goto], by simp [Step.goto], .inr ⟨p, by simp, ho, depth, rfl⟩⟩
  · exact .emit depth .comment (by simp) rfl

theorem placeHeader_shows (s : State) (p : Piece) (opens : Bool) (line : Nat) :
    Shows line [p] s (s.placeHeader p opens line) := by
  unfold placeHeader
  refine .emit _ .controlHeader (by simp) ?_
  cases opens <;> simp

theorem placeLabel_shows (s : State) (p : Piece) (line : Nat) :
    Shows line [p] s (s.placeLabel p line) := by
  unfold placeLabel
  split
  · exact .emit _ .controlHeader (by simp) rfl
  · exact .emit _ .controlHeader (by simp) rfl

theorem placeStatements_shows (s : State) (ps : List Piece) (opens : Bool) (line : Nat) :
    Shows line ps s (s.placeStatements ps opens line) where
  node n hn := by
    simp only [placeStatements, List.mem_map] at hn
    obtain ⟨p, hp, rfl⟩ := hn
    exact ⟨rfl, p, hp, rfl, rfl⟩
  anomaly a ha := by simp [placeStatements] at ha
  comment := by
    left
    simp only [placeStatements, openBlockIf_comment?]
    split <;> simp

/-- Outside comments a line is read part by part. -/
theorem push_of_ne_nil {s : State} {l : Line} (hs : s.comment? = none) (hn : l.trimmed ≠ []) :
    s.push l = run l.number (.ofText l.trimmed l.trimmedSpan.start) s := by
  simp [push, hs, hn]

theorem push_of_blank {l : Line} (h : l.trimmed = []) (s : State) : s.push l = .goto s := by
  simp [push, h]

/-- Blank or not, a line outside comments is read by its parts. -/
theorem push_eq_run {s : State} {l : Line} (hs : s.comment? = none) :
    s.push l = run l.number (.ofText l.trimmed l.trimmedSpan.start) s := by
  by_cases hn : l.trimmed = []
  · rw [push_of_blank hn, hn, Parts.ofText_nil]
    rfl
  · exact push_of_ne_nil hs hn

/-- A line shows its own pieces only. -/
theorem run_shows (line : Nat) (parts : Parts) (s : State) :
    Shows line parts.pieces s (run line parts s) := by
  induction parts generalizing s with
  | nothing => exact .goto rfl
  | closer rest ih => exact (closeBlock_shows s line).andThen (ih _)
  | opener => exact .goto rfl
  | comment p => exact placeComment_shows s p _ line
  | directive p => exact .emit _ .directive (by simp [Parts.pieces]) rfl
  | header p opens => exact placeHeader_shows s p opens line
  | label p rest ih => exact (placeLabel_shows s p line).andThen (ih _)
  | declaration category p opens =>
    exact .emit _ category (by simp [Parts.pieces]) (by simp [openBlockIf_comment?])
  | statements ps opens => exact placeStatements_shows s ps opens line
  | both left right ihl ihr => exact (ihl s).andThen (ihr _)
  | beside code behind ih => exact (ih s).andThen (placeComment_shows _ behind _ line)

/-- A text without a comment mark opens no comment. -/
theorem comment?_run {text : Chars} (h : Uncommented text) (ht : Trimmed text) {s : State}
    (hs : s.comment? = none) (line start : Nat) :
    (run line (.ofText text start) s).state.comment? = none := by
  rcases (run_shows line (.ofText text start) s).comment with hc | ⟨p, hp, ho, -⟩
  · exact hc.trans hs
  · rw [h.start_of_mem_pieces ht hp] at ho
    cases ho

theorem comment?_push {s : State} {l : Line} (hs : s.comment? = none)
    (hl : Uncommented l.trimmed) : (s.push l).state.comment? = none := by
  rw [push_eq_run hs]
  exact comment?_run hl l.trimmed_trimmed hs _ _

end State

/-- Nothing is added behind the last line if no comment is open there. -/
theorem flow_eq_run {source : Chars}
    (h : (builder.run builder.start (Line.ofSource source)).state.comment? = none) :
    builder.flow source = (builder.run builder.start (Line.ofSource source)).flow := by
  have hfinish : builder.finish (builder.run builder.start (Line.ofSource source)).state =
      .empty := by
    rw [show builder.finish = State.finish from rfl, State.finish, h]
  rw [Builder.flow, hfinish, Flow.append_empty]

end NestChart.Brace
