import NestChart.Proofs.Brace.Run
import NestChart.Proofs.WellFormed

/-!
# NestChart.Proofs.Brace.WellFormed

The flow of a brace language keeps its promises. A comment over several lines is shown late, under
the line on which it began; `State.floor` is the line below which nothing more can be shown, and
`State.Reads` is what holds of state and flow after each line.
-/

namespace NestChart.Brace

open Text

theorem Piece.Fits.wellFormed {p : Piece} {l : Line} {source before after : Chars}
    (hp : p.Fits l.trimmed l.trimmedSpan.start) (h : l.Follows source before after)
    (hne : l.trimmed ≠ []) (depth : Nat) (category : Category) :
    Node.WellFormed source (State.node p depth category l.number) := by
  obtain ⟨⟨i, hi, hs⟩, ht, hn⟩ := hp
  have := h.node_wellFormed hne hi ht hn depth category
  rwa [← hs] at this

/-- What an open comment has read so far, when the source has been read up to byte `stop`. -/
structure OpenComment.WellFormed (source : Chars) (stop : Nat) (c : OpenComment) : Prop where
  runs : Runs source c.span c.lines.reverse
  isLineText : ∀ t ∈ c.lines, IsLineText t
  line_eq : c.line = lineAt source c.span.start
  stop_le : c.span.stop ≤ stop

theorem OpenComment.WellFormed.node {source : Chars} {stop : Nat} {c : OpenComment}
    (h : c.WellFormed source stop) : Node.WellFormed source c.node := by
  rw [OpenComment.node, h.line_eq]
  exact Node.wellFormed_of_runs h.runs (fun t ht => h.isLineText t (by simpa using ht)) (.inl rfl)

/-- A piece that opens a comment is its first line. -/
theorem Piece.Fits.openComment {p : Piece} {l : Line} {source before after : Chars}
    (hp : p.Fits l.trimmed l.trimmedSpan.start) (h : l.Follows source before after)
    (hne : l.trimmed ≠ []) (depth : Nat) :
    OpenComment.WellFormed source (byteLength (before ++ l.text))
      ⟨[p.text], depth, l.number, p.span⟩ := by
  obtain ⟨⟨i, hi, hs⟩, ht, hn⟩ := hp
  have hstop := h.trimmedSpan_stop_le hne
  have hle := hi.stop_le
  rw [Line.trimmedSpan_of_ne_nil hne] at hstop hs
  simp only at hstop hs
  exact {
    runs := by simpa [Piece.span, hs, Line.trimmedSpan_of_ne_nil hne] using h.runs hne hi
    isLineText := by simpa using h.isLineText hi ht hn
    line_eq := by
      rw [← h.lineAt_trimmedSpan_add hne hi, Line.trimmedSpan_of_ne_nil hne, Piece.span, hs]
    stop_le := by
      simp only [Piece.span]
      omega }

/-- One more line goes into an open comment. -/
theorem OpenComment.WellFormed.extend {l : Line} {source before after : Chars} {c : OpenComment}
    (hc : c.WellFormed source (byteLength before)) (h : l.Follows source before after)
    (hne : l.trimmed ≠ []) :
    (c.extend l.trimmed l.trimmedSpan).WellFormed source (byteLength (before ++ l.text)) := by
  have hapart : c.span.stop ≤ l.trimmedSpan.start :=
    Nat.le_trans hc.stop_le h.le_trimmedSpan_start
  have hcover : c.span.cover l.trimmedSpan =
      ⟨c.span.start, l.trimmedSpan.start + byteLength l.trimmed⟩ := by
    have := hc.runs.start_le_stop
    rw [Line.trimmedSpan_of_ne_nil hne] at hapart ⊢
    simp only [Span.cover, Span.mk.injEq] at hapart ⊢
    omega
  exact {
    runs := by
      simpa [OpenComment.extend, hcover] using hc.runs.concat (h.standsAt_trimmedSpan hne) hapart
    isLineText := by
      intro t ht
      rw [OpenComment.extend, List.mem_cons] at ht
      rcases ht with rfl | ht
      · exact h.isLineText (.refl _) l.trimmed_trimmed hne
      · exact hc.isLineText t ht
    line_eq := by
      rw [OpenComment.extend, hcover]
      exact hc.line_eq
    stop_le := by
      have := h.trimmedSpan_stop_le hne
      rw [Line.trimmedSpan_of_ne_nil hne] at this
      rw [OpenComment.extend, hcover, Line.trimmedSpan_of_ne_nil hne]
      exact this }

/-- The line below which a state shows nothing more, when line `next` comes next. -/
def State.floor (s : State) (next : Nat) : Nat :=
  match s.comment? with
  | some c => c.line
  | none => next

/-- The state `s` and the flow `f` behind the part `before` of the source. -/
structure State.Reads (source before : Chars) (s : State) (f : Flow) : Prop where
  node : ∀ n ∈ f.nodes, n.WellFormed source
  node_lines : Ascends (s.floor (before.count '\n' + 1)) (f.nodes.map (·.line))
  anomaly_lines : Ascends (s.floor (before.count '\n' + 1)) (f.anomalies.map (·.line))
  anomaly_kind : ∀ a ∈ f.anomalies, a.kind = .unmatchedCloser
  comment : ∀ c ∈ s.comment?,
    c.WellFormed source (byteLength before) ∧ c.line ≤ before.count '\n' + 1

namespace State.Reads

variable {source before after : Chars} {l : Line} {s : State} {f : Flow}

/-- A line that shows nothing keeps the floor. -/
theorem push_blank (h : Reads source before s f) :
    Reads source (before ++ l.text) s f := by
  have hcount : before.count '\n' ≤ (before ++ l.text).count '\n' := by
    rw [List.count_append]
    omega
  have hfloor : s.floor (before.count '\n' + 1) ≤ s.floor ((before ++ l.text).count '\n' + 1) := by
    unfold floor
    split <;> omega
  exact {
    node := h.node
    node_lines := h.node_lines.mono hfloor
    anomaly_lines := h.anomaly_lines.mono hfloor
    anomaly_kind := h.anomaly_kind
    comment := by
      intro c hc
      obtain ⟨⟨hr, ht, hl, hs⟩, hle⟩ := h.comment c hc
      have : byteLength before ≤ byteLength (before ++ l.text) := by simp
      exact ⟨⟨hr, ht, hl, by omega⟩, by omega⟩ }

/-- A line of code: what it shows and what it leaves open bear its number. -/
theorem push_code (h : Reads source before s f) (hl : l.Follows source before after)
    (hne : l.trimmed ≠ []) (hnone : s.comment? = none) {ps : List Piece} {x : Step State}
    (hps : ∀ p ∈ ps, p.Fits l.trimmed l.trimmedSpan.start) (hx : Shows l.number ps s x) :
    Reads source (before ++ l.text) x.state (f ++ x.flow) := by
  have hcount : l.number ≤ (before ++ l.text).count '\n' + 1 := by
    rw [hl.number_eq, List.count_append]
    omega
  have hopen : ∀ c ∈ x.state.comment?,
      ∃ p ∈ ps, ∃ depth, c = ⟨[p.text], depth, l.number, p.span⟩ := by
    intro c hc
    rcases hx.comment with hs | ⟨p, hp, -, depth, hs⟩
    · rw [hs, hnone] at hc
      cases hc
    · rw [hs] at hc
      cases hc
      exact ⟨p, hp, depth, rfl⟩
  have hfloor : s.floor (before.count '\n' + 1) = l.number := by
    rw [floor, hnone, hl.number_eq]
  have hfloor' : l.number ≤ x.state.floor ((before ++ l.text).count '\n' + 1) := by
    unfold floor
    split
    · rename_i c hc
      obtain ⟨_, _, _, rfl⟩ := hopen c hc
      exact Nat.le_refl _
    · exact hcount
  exact {
    node := by
      intro n hn
      rw [Flow.nodes_append, List.mem_append] at hn
      rcases hn with hn | hn
      · exact h.node n hn
      · obtain ⟨hnl, p, hp, ht, hs⟩ := hx.node n hn
        obtain ⟨text, depth, category, line, span⟩ := n
        cases hnl
        cases ht
        cases hs
        exact (hps p hp).wellFormed hl hne depth category
    node_lines := by
      rw [Flow.nodes_append, List.map_append]
      refine h.node_lines.append ?_ (Nat.le_of_eq hfloor) hfloor'
      intro k hk
      obtain ⟨n, hn, rfl⟩ := List.mem_map.1 hk
      exact (hx.node n hn).1
    anomaly_lines := by
      rw [Flow.anomalies_append, List.map_append]
      refine h.anomaly_lines.append ?_ (Nat.le_of_eq hfloor) hfloor'
      intro k hk
      obtain ⟨a, ha, rfl⟩ := List.mem_map.1 hk
      rw [hx.anomaly a ha]
    anomaly_kind := by
      intro a ha
      rw [Flow.anomalies_append, List.mem_append] at ha
      rcases ha with ha | ha
      · exact h.anomaly_kind a ha
      · rw [hx.anomaly a ha]
    comment := by
      intro c hc
      obtain ⟨p, hp, depth, rfl⟩ := hopen c hc
      exact ⟨(hps p hp).openComment hl hne depth, hcount⟩ }

/-- A line inside an open comment: the comment is shown, or goes on. -/
theorem push_comment (h : Reads source before s f) (hl : l.Follows source before after)
    (hne : l.trimmed ≠ []) {c : OpenComment} (hc : s.comment? = some c) :
    Reads source (before ++ l.text) (s.continueComment c l.trimmed l.trimmedSpan).state
      (f ++ (s.continueComment c l.trimmed l.trimmedSpan).flow) := by
  obtain ⟨hcw, hle⟩ := h.comment c hc
  have hw := hcw.extend hl hne
  have hcount : c.line ≤ (before ++ l.text).count '\n' + 1 := by
    rw [List.count_append]
    omega
  -- The comment keeps the line on which it began, and nothing else can be shown while it is open.
  have hfloor : s.floor (before.count '\n' + 1) = c.line := by rw [floor, hc]
  have hlines := h.node_lines
  have halines := h.anomaly_lines
  rw [hfloor] at hlines halines
  unfold continueComment
  split
  · exact {
      node := by
        intro n hn
        simp only [Step.emit, Flow.nodes_append, Flow.nodes_ofNode, List.mem_append,
          List.mem_singleton] at hn
        rcases hn with hn | rfl
        · exact h.node n hn
        · exact hw.node
      node_lines := by
        simp only [Step.emit, Flow.nodes_append, Flow.nodes_ofNode, List.map_append]
        exact hlines.append (n := c.line) (by simp [OpenComment.node, OpenComment.extend])
          (Nat.le_refl _) hcount
      anomaly_lines := by simpa [Step.emit, floor] using halines.mono hcount
      anomaly_kind := by simpa [Step.emit] using h.anomaly_kind
      comment := by simp [Step.emit] }
  · exact {
      node := by simpa [Step.goto] using h.node
      node_lines := by simpa [Step.goto, floor, OpenComment.extend] using hlines
      anomaly_lines := by simpa [Step.goto, floor, OpenComment.extend] using halines
      anomaly_kind := by simpa [Step.goto] using h.anomaly_kind
      comment := by
        intro d hd
        simp only [Step.goto, Option.mem_def, Option.some.injEq] at hd
        subst hd
        exact ⟨hw, hcount⟩ }

theorem push (h : Reads source before s f) (hl : l.Follows source before after) :
    Reads source (before ++ l.text) (s.push l).state (f ++ (s.push l).flow) := by
  unfold State.push
  split
  · simpa [Step.goto] using h.push_blank
  · rename_i hne
    have hne : l.trimmed ≠ [] := by simpa using hne
    split
    · rename_i c hc
      exact h.push_comment hl hne hc
    · rename_i hnone
      exact h.push_code hl hne hnone
        (fun p hp => Parts.fits_of_mem_pieces l.trimmed_trimmed hp) (run_shows _ _ s)

end State.Reads

/-- Before the first line. -/
theorem State.Reads.start (source : Chars) : State.Reads source [] .start .empty where
  node := by simp
  node_lines := ascends_nil _
  anomaly_lines := ascends_nil _
  anomaly_kind := by simp
  comment := by simp [State.start]

/-- A comment that is open at the end is shown and reported behind everything else. -/
theorem State.Reads.finish {source : Chars} {s : State} {f : Flow}
    (h : State.Reads source source s f) : (f ++ s.finish).WellFormed source := by
  have hkind : ∀ a ∈ f.anomalies, a.kind ≠ .unterminatedComment := by
    intro a ha hk
    rw [h.anomaly_kind a ha] at hk
    cases hk
  unfold State.finish
  split
  · rename_i c hc
    have hlines := h.node_lines
    have halines := h.anomaly_lines
    rw [State.floor, hc] at hlines halines
    have hnodes : Ascends c.line ((f.nodes ++ [c.node]).map (·.line)) := by
      rw [List.map_append]
      exact hlines.append (n := c.line) (by simp [OpenComment.node]) (Nat.le_refl _)
        (Nat.le_refl _)
    have hanomalies : Ascends c.line
        ((f.anomalies ++ [Anomaly.mk c.line .unterminatedComment]).map (·.line)) := by
      rw [List.map_append]
      exact halines.append (n := c.line) (by simp) (Nat.le_refl _) (Nat.le_refl _)
    refine Flow.wellFormed_of_ascends ?_ hnodes hanomalies ?_
    · intro n hn
      rw [Flow.nodes_append, List.mem_append, List.mem_singleton] at hn
      rcases hn with hn | rfl
      · exact h.node n hn
      · exact (h.comment c hc).1.node
    · rw [Flow.anomalies_append, List.dropLast_concat]
      exact hkind
  · rw [Flow.append_empty]
    exact Flow.wellFormed_of_ascends h.node h.node_lines h.anomaly_lines fun a ha =>
      hkind a ((List.dropLast_sublist _).mem ha)

theorem builder_wellFormed (source : Chars) : (builder.flow source).WellFormed source :=
  (@Builder.run_ofSource _ builder source (State.Reads source) _ (State.Reads.start source)
    fun _ _ _ _ _ hl h => h.push hl).finish

end NestChart.Brace
