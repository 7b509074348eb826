import NestChart.Indent.Builder
import NestChart.Proofs.WellFormed

/-!
# NestChart.Proofs.Indent.WellFormed

The flow of an indentation language keeps its promises. Every node is a whole line and is shown at
once; only a string that never ends is reported late, under the line on which it began, and inside a
string no line opens or closes a level.
-/

namespace NestChart.Indent

open Text

namespace State

/-! ## What one line may do -/

/-- The step shows the line or nothing and reports nothing but a return to no level; inside a string
it reports nothing. A string that it leaves open began on the line or was open before. -/
structure Shows (l : Line) (s : State) (x : Step State) : Prop where
  node : ∀ n ∈ x.flow.nodes, ∃ depth category, n = node l depth category
  anomaly : ∀ a ∈ x.flow.anomalies, a = ⟨l.number, .inconsistentDedent⟩
  quiet : ∀ style depth line, s.mode = .string style depth line → x.flow.anomalies = []
  mode : ∀ style depth line, x.state.mode = .string style depth line →
    line = l.number ∨ s.mode = .string style depth line

namespace Shows

variable {l : Line} {s : State}

theorem goto : Shows l s (.goto s) where
  node := by simp [Step.goto]
  anomaly := by simp [Step.goto]
  quiet := by simp [Step.goto]
  mode _ _ _ h := .inr h

theorem emit {t : State} (depth : Nat) (category : Category)
    (h : ∀ style depth line, t.mode = .string style depth line →
      s.mode = .string style depth line) :
    Shows l s (.emit t (State.node l depth category)) where
  node n hn := ⟨depth, category, List.mem_singleton.1 hn⟩
  anomaly := by simp [Step.emit]
  quiet := by simp [Step.emit]
  mode style depth line ht := .inr (h style depth line ht)

end Shows

theorem align_anomaly {s : State} {column line : Nat} {a : Anomaly}
    (h : a ∈ (s.align column line).2) : a = ⟨line, .inconsistentDedent⟩ := by
  simp only [align] at h
  split at h
  · split at h
    · exact List.mem_singleton.1 h
    · cases h
  · cases h

theorem endLine_mode (s : State) (text : Chars) (balance : Int) (depth : Nat) (style : QuoteStyle)
    (d line : Nat) : (s.endLine text balance depth).mode ≠ .string style d line := by
  unfold endLine
  split <;> simp

theorem pushCode_shows {s : State} (hs : s.mode = .code) (l : Line) :
    Shows l s (s.pushCode l) where
  node n hn := ⟨_, _, List.mem_singleton.1 hn⟩
  anomaly a ha := align_anomaly ha
  quiet style depth line h := by
    rw [hs] at h
    cases h
  mode style depth line h := by
    simp only [pushCode] at h
    split at h
    · cases h
      exact .inl rfl
    · exact absurd h (endLine_mode _ _ _ _ _ _ _)

theorem push_shows (s : State) (l : Line) : Shows l s (s.push l) := by
  simp only [push]
  split
  · exact .goto
  split
  · rename_i style depth line hs
    refine .emit depth .comment ?_
    intro style' depth' line' h
    split at h
    · cases h
    · exact h
  · exact .emit _ _ fun _ _ _ h => absurd h (endLine_mode _ _ _ _ _ _ _)
  · rename_i hs
    split
    · exact .goto
    split
    · exact .emit _ .comment fun _ _ _ h => h
    · exact pushCode_shows hs l

theorem push_of_blank {l : Line} (h : l.trimmed = []) (s : State) : s.push l = .goto s := by
  simp [push, h]

/-! ## After each line -/

theorem node_wellFormed {l : Line} {source before after : Chars} (h : l.Follows source before after)
    (hne : l.trimmed ≠ []) (depth : Nat) (category : Category) :
    (node l depth category).WellFormed source := by
  have := h.node_wellFormed hne (.refl _) l.trimmed_trimmed hne depth category
  rwa [Nat.add_zero, ← Line.trimmedSpan_eq hne] at this

/-- The line below which a state reports nothing more, when line `next` comes next. -/
def floor (s : State) (next : Nat) : Nat :=
  match s.mode with
  | .string _ _ line => line
  | _ => next

theorem floor_of_string {s : State} {style : QuoteStyle} {depth line : Nat}
    (h : s.mode = .string style depth line) (next : Nat) : s.floor next = line := by
  rw [floor, h]

theorem floor_eq_or (s : State) (next : Nat) :
    s.floor next = next ∨ ∃ style depth line, s.mode = .string style depth line := by
  unfold floor
  split
  · rename_i hs
    exact .inr ⟨_, _, _, hs⟩
  · exact .inl rfl

/-- The state `s` and the flow `f` behind the part `before` of the source. -/
structure Reads (source before : Chars) (s : State) (f : Flow) : Prop where
  node : ∀ n ∈ f.nodes, n.WellFormed source
  node_lines : Ascends (before.count '\n' + 1) (f.nodes.map (·.line))
  anomaly_lines : Ascends (s.floor (before.count '\n' + 1)) (f.anomalies.map (·.line))
  anomaly_kind : ∀ a ∈ f.anomalies, a.kind = .inconsistentDedent
  floor_le : s.floor (before.count '\n' + 1) ≤ before.count '\n' + 1

namespace Reads

variable {source before after : Chars} {l : Line} {s : State} {f : Flow}

/-- Before the first line. -/
theorem start (source : Chars) : Reads source [] .start .empty where
  node := by simp
  node_lines := ascends_nil _
  anomaly_lines := ascends_nil _
  anomaly_kind := by simp
  floor_le := Nat.le_refl _

/-- No line lowers the floor, and no floor lies above the line to come. -/
theorem floor_push (h : Reads source before s f) (hl : l.Follows source before after) :
    s.floor (before.count '\n' + 1) ≤ (s.push l).state.floor ((before ++ l.text).count '\n' + 1) ∧
      (s.push l).state.floor ((before ++ l.text).count '\n' + 1) ≤
        (before ++ l.text).count '\n' + 1 := by
  have hle := h.floor_le
  have hn := hl.number_eq
  rw [List.count_append]
  rcases (s.push l).state.floor_eq_or (before.count '\n' + l.text.count '\n' + 1) with
    hx | ⟨style, depth, line, hx⟩
  · omega
  · rw [floor_of_string hx]
    rcases (push_shows s l).mode _ _ _ hx with hline | hs
    · omega
    · rw [floor_of_string hs] at hle ⊢
      omega

theorem push (h : Reads source before s f) (hl : l.Follows source before after) :
    Reads source (before ++ l.text) (s.push l).state (f ++ (s.push l).flow) := by
  have hx := push_shows s l
  have hnumber := hl.number_eq
  obtain ⟨hfloor, hfloor'⟩ := h.floor_push hl
  exact {
    node := by
      intro n hn
      rw [Flow.nodes_append, List.mem_append] at hn
      rcases hn with hn | hn
      · exact h.node n hn
      · obtain ⟨depth, category, rfl⟩ := hx.node n hn
        have hne : l.trimmed ≠ [] := by
          intro he
          rw [push_of_blank he] at hn
          cases hn
        exact node_wellFormed hl hne depth category
    node_lines := by
      rw [Flow.nodes_append, List.map_append]
      refine h.node_lines.append (n := l.number) ?_ (by omega) (by rw [List.count_append]; omega)
      intro k hk
      obtain ⟨n, hn, rfl⟩ := List.mem_map.1 hk
      obtain ⟨depth, category, rfl⟩ := hx.node n hn
      rfl
    anomaly_lines := by
      rw [Flow.anomalies_append, List.map_append]
      rcases s.floor_eq_or (before.count '\n' + 1) with hs | ⟨style, depth, line, hs⟩
      · refine h.anomaly_lines.append (n := l.number) ?_ (by omega) (by omega)
        intro k hk
        obtain ⟨a, ha, rfl⟩ := List.mem_map.1 hk
        rw [hx.anomaly a ha]
      · rw [hx.quiet _ _ _ hs]
        simpa using h.anomaly_lines.mono hfloor
    anomaly_kind := by
      intro a ha
      rw [Flow.anomalies_append, List.mem_append] at ha
      rcases ha with ha | ha
      · exact h.anomaly_kind a ha
      · rw [hx.anomaly a ha]
    floor_le := hfloor' }

/-- A string that is open at the end is reported behind everything else. -/
theorem finish (h : Reads source source s f) : (f ++ s.finish).WellFormed source := by
  have hkind : ∀ a ∈ f.anomalies, a.kind ≠ .unterminatedComment := by
    intro a ha hk
    rw [h.anomaly_kind a ha] at hk
    cases hk
  unfold State.finish
  split
  · rename_i line hs
    have halines := h.anomaly_lines
    rw [floor_of_string hs] at halines
    have hlast : Ascends line ((f ++ .ofAnomaly ⟨line, .unterminatedComment⟩).anomalies.map
        (·.line)) := by
      rw [Flow.anomalies_append, List.map_append]
      exact halines.append (n := line) (by simp) (Nat.le_refl _) (Nat.le_refl _)
    refine Flow.wellFormed_of_ascends (by simpa using h.node) (by simpa using h.node_lines) hlast ?_
    rw [Flow.anomalies_append, Flow.anomalies_ofAnomaly, List.dropLast_concat]
    exact hkind
  · rw [Flow.append_empty]
    exact Flow.wellFormed_of_ascends h.node h.node_lines h.anomaly_lines fun a ha =>
      hkind a ((List.dropLast_sublist _).mem ha)

end Reads
end State

theorem builder_wellFormed (source : Chars) : (builder.flow source).WellFormed source :=
  (@Builder.run_ofSource _ builder source (State.Reads source) _ (State.Reads.start source)
    fun _ _ _ _ _ hl h => h.push hl).finish

end NestChart.Indent
