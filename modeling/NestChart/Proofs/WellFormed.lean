import NestChart.Proofs.Builder

/-!
# NestChart.Proofs.WellFormed

What a flow promises about its source. `Node.WellFormed` ties a node to its span and its line, and
`Flow.WellFormed` adds the order of nodes and anomalies. A node that is part of one line, or made of
several lines one behind the other, keeps its promises whatever builds it.
-/

namespace NestChart

open Text

/-- What a node promises about the source it was read from. -/
structure Node.WellFormed (source : Chars) (n : Node) : Prop where
  text_ne_nil : n.text ≠ []
  trimmed : Trimmed n.text
  start_le_stop : n.span.start ≤ n.span.stop
  stop_le : n.span.stop ≤ byteLength source
  line_eq : n.line = lineAt source n.span.start
  /-- A text on one line is what the source holds in the span. -/
  slice_eq : '\n' ∉ n.text → Flow.slice source n.span = n.text
  /-- Only comments take several lines. -/
  comment : '\n' ∈ n.text → n.category = .comment
  /-- The lines of the text fill the span from its start to its end, up to the gaps between them. -/
  runs : Runs source n.span n.textLines

/-- What a flow promises about its source. -/
structure Flow.WellFormed (source : Chars) (f : Flow) : Prop where
  node : ∀ n ∈ f.nodes, n.WellFormed source
  node_lines : f.nodes.Pairwise fun n m => n.line ≤ m.line
  anomaly_lines : f.anomalies.Pairwise fun a b => a.line ≤ b.line
  /-- Only the last anomaly can be a comment or string that never ends. -/
  unterminated : ∀ a ∈ f.anomalies.dropLast, a.kind ≠ .unterminatedComment

/-! ## Lines that never go back -/

/-- Line numbers that never go back, up to a bound. -/
def Ascends (bound : Nat) (ls : List Nat) : Prop := ls.Pairwise (· ≤ ·) ∧ ∀ k ∈ ls, k ≤ bound

theorem ascends_nil (bound : Nat) : Ascends bound [] := ⟨.nil, by simp⟩

/-- What is added bears one line between the bounds. -/
theorem Ascends.append {bound bound' n : Nat} {ls ms : List Nat} (h : Ascends bound ls)
    (hms : ∀ k ∈ ms, k = n) (hn : bound ≤ n) (hb : n ≤ bound') : Ascends bound' (ls ++ ms) := by
  have hconst : ms.Pairwise (· ≤ ·) :=
    List.pairwise_iff_forall_sublist.2 fun {a b} hab => by
      have := hms a (hab.mem (by simp))
      have := hms b (hab.mem (by simp))
      omega
  refine ⟨List.pairwise_append.2 ⟨h.1, hconst, ?_⟩, ?_⟩
  · intro a ha b hb'
    have := h.2 a ha
    have := hms b hb'
    omega
  · intro k hk
    rw [List.mem_append] at hk
    rcases hk with hk | hk
    · have := h.2 k hk
      omega
    · have := hms k hk
      omega

theorem Ascends.mono {bound bound' : Nat} {ls : List Nat} (h : Ascends bound ls)
    (hb : bound ≤ bound') : Ascends bound' ls :=
  ⟨h.1, fun k hk => Nat.le_trans (h.2 k hk) hb⟩

/-- Lines that ascend are in order, and an anomaly of the end can only be the last. -/
theorem Flow.wellFormed_of_ascends {source : Chars} {f : Flow} {bound bound' : Nat}
    (hnode : ∀ n ∈ f.nodes, n.WellFormed source) (hnodes : Ascends bound (f.nodes.map (·.line)))
    (hanomalies : Ascends bound' (f.anomalies.map (·.line)))
    (hend : ∀ a ∈ f.anomalies.dropLast, a.kind ≠ .unterminatedComment) : f.WellFormed source where
  node := hnode
  node_lines := List.pairwise_map.1 hnodes.1
  anomaly_lines := List.pairwise_map.1 hanomalies.1
  unterminated := hend

/-! ## Nodes of whole lines -/

/-- A text that can be one line of a node. -/
structure IsLineText (text : Chars) : Prop where
  ne_nil : text ≠ []
  trimmed : Trimmed text
  no_newline : '\n' ∉ text

theorem joinLines_ne_nil {text : Chars} (texts : List Chars) (h : text ≠ []) :
    joinLines (text :: texts) ≠ [] := by
  cases texts with
  | nil => rwa [joinLines_singleton]
  | cons => simp [joinLines_cons_cons]

theorem solidStart_joinLines {text : Chars} (texts : List Chars) (h : IsLineText text) :
    SolidStart (joinLines (text :: texts)) := by
  cases texts with
  | nil => simpa [joinLines_singleton] using h.trimmed.solidStart
  | cons =>
    rw [joinLines_cons_cons]
    exact solidStart_append h.ne_nil h.trimmed.solidStart

theorem solidEnd_joinLines {texts : List Chars} (h : ∀ t ∈ texts, IsLineText t) :
    SolidEnd (joinLines texts) := by
  induction texts with
  | nil => simp [joinLines, SolidEnd]
  | cons t texts ih =>
    cases texts with
    | nil => simpa [joinLines_singleton] using (h t (by simp)).trimmed.solidEnd
    | cons u texts =>
      rw [joinLines_cons_cons, List.append_cons]
      exact solidEnd_append (joinLines_ne_nil texts (h u (by simp)).ne_nil)
        (ih fun v hv => h v (by simp [hv]))

/-- A node whose lines run through its span keeps its promises. -/
theorem Node.wellFormed_of_runs {source : Chars} {span : Span} {texts : List Chars} {depth : Nat}
    {category : Category} (hr : Runs source span texts) (ht : ∀ t ∈ texts, IsLineText t)
    (hc : category = .comment ∨ ∃ t, texts = [t]) :
    Node.WellFormed source ⟨joinLines texts, depth, category, lineAt source span.start, span⟩ := by
  have hsplit := splitLines_joinLines hr.ne_nil fun t h => (ht t h).no_newline
  obtain ⟨text, rest, rfl⟩ := List.exists_cons_of_ne_nil hr.ne_nil
  exact {
    text_ne_nil := joinLines_ne_nil rest (ht text (by simp)).ne_nil
    trimmed := trimmed_iff.2 ⟨solidStart_joinLines rest (ht text (by simp)), solidEnd_joinLines ht⟩
    start_le_stop := hr.start_le_stop
    stop_le := hr.stop_le
    line_eq := rfl
    slice_eq := by
      intro hn
      cases hr with
      | last h => simpa [joinLines_singleton] using slice_of_standsAt h
      | next _ _ hrest =>
        obtain ⟨u, us, rfl⟩ := List.exists_cons_of_ne_nil hrest.ne_nil
        simp [joinLines_cons_cons] at hn
    comment := by
      intro hn
      rcases hc with hc | ⟨_, he⟩
      · exact hc
      · cases he
        exact absurd (by simpa [joinLines_singleton] using hn) (ht text (by simp)).no_newline
    runs := by rwa [Node.textLines, hsplit] }

/-- What a part of a line promises if it is shown on its own. -/
theorem Line.Follows.isLineText {l : Line} {source before after part : Chars} {i : Nat}
    (h : l.Follows source before after) (hp : StandsAt l.trimmed part i) (ht : Trimmed part)
    (hn : part ≠ []) : IsLineText part :=
  ⟨hn, ht, fun hm => h.newline_not_mem_trimmed (hp.mem hm)⟩

theorem Line.Follows.runs {l : Line} {source before after part : Chars} {i : Nat}
    (h : l.Follows source before after) (hne : l.trimmed ≠ []) (hp : StandsAt l.trimmed part i) :
    Runs source ⟨l.trimmedSpan.start + i, l.trimmedSpan.start + i + byteLength part⟩ [part] :=
  .last ((h.standsAt_trimmedSpan hne).trans hp)

theorem Line.Follows.node_wellFormed {l : Line} {source before after part : Chars} {i : Nat}
    (h : l.Follows source before after) (hne : l.trimmed ≠ []) (hp : StandsAt l.trimmed part i)
    (ht : Trimmed part) (hn : part ≠ []) (depth : Nat) (category : Category) :
    Node.WellFormed source ⟨part, depth, category, l.number,
      ⟨l.trimmedSpan.start + i, l.trimmedSpan.start + i + byteLength part⟩⟩ := by
  have hw : Node.WellFormed source ⟨joinLines [part], depth, category,
      lineAt source (l.trimmedSpan.start + i),
      ⟨l.trimmedSpan.start + i, l.trimmedSpan.start + i + byteLength part⟩⟩ :=
    Node.wellFormed_of_runs (h.runs hne hp) (by simpa using h.isLineText hp ht hn)
      (.inr ⟨part, rfl⟩)
  rwa [joinLines_singleton, h.lineAt_trimmedSpan_add hne hp] at hw

end NestChart
