import NestChart.Proofs.Brace.Breaks

/-!
# NestChart.Proofs.Brace.Spacing

Blanks around lines and blank lines do not count. Two sources of a brace language whose lines hold
the same, once outer blanks and blank lines are left out, are read alike; only places differ, and
they go with each other line by line (`flow_alike_of_contents_eq`). A blank line changes nothing,
not even inside a comment (`run_filled`), and a line does the same from states that differ in the
place of an open comment only (`push_alike`).
-/

namespace NestChart

/-- The lines that are not blank. -/
def Line.filled (ls : List Line) : List Line := ls.filter (·.trimmed ≠ [])

/-- A line that is not blank has number `i`, and the line of the other list that is as many such
lines behind the first has number `j`. -/
def Line.Partners (ls ms : List Line) (i j : Nat) : Prop :=
  ∃ p ∈ (filled ls).zip (filled ms), p.1.number = i ∧ p.2.number = j

theorem Line.map_trimmed_filled (ls : List Line) : (filled ls).map trimmed = contents ls := by
  rw [filled, contents, List.filter_map]
  rfl

namespace Brace

open Text

variable {R : Nat → Nat → Prop}

theorem OpenComment.Alike.extend {c d : OpenComment} (h : c.Alike R d) (text : Chars)
    (span span' : Span) : (c.extend text span).Alike R (d.extend text span') := by
  obtain ⟨hlines, hdepth, hline⟩ := h
  exact ⟨congrArg (text :: ·) hlines, hdepth, hline⟩

namespace State

variable {s t : State}

theorem emit_node_alike (h : s.Alike R t) {c d : OpenComment} (hc : c.Alike R d) :
    StepsAlike R (.emit s c.node) (.emit t d.node) := by
  obtain ⟨hlines, hdepth, hline⟩ := hc
  have htext : d.node.text = c.node.text := by
    rw [OpenComment.node, OpenComment.node, hlines]
  exact ⟨h, .cons ⟨htext, hdepth, rfl, hline⟩ .nil, .nil⟩

theorem continueComment_alike (h : s.Alike R t) {c d : OpenComment} (hc : c.Alike R d)
    (text : Chars) (span span' : Span) :
    StepsAlike R (s.continueComment c text span) (t.continueComment d text span') := by
  have hnext := hc.extend text span span'
  have hset : ∀ c d : Option OpenComment, Option.Rel (OpenComment.Alike R) c d →
      (s.setComment c).Alike R (t.setComment d) := by
    intro c d hrel
    refine ⟨?_, hrel⟩
    rw [h.eq_setComment]
    rfl
  unfold continueComment
  split
  · exact emit_node_alike (hset none none .none) hnext
  · exact .goto (hset _ _ (.some hnext))

/-- Lines with the same trimmed text do the same. -/
theorem push_alike (h : s.Alike R t) {l m : Line} (ht : m.trimmed = l.trimmed)
    (hline : R l.number m.number) : StepsAlike R (s.push l) (t.push m) := by
  by_cases hn : l.trimmed = []
  · rw [push_of_blank hn, push_of_blank (ht.trans hn)]
    exact .goto h
  have hn' : m.trimmed ≠ [] := by rwa [ht]
  cases hs : s.comment? with
  | none =>
    have hrel := h.eq_of_none hs
    rw [push_of_ne_nil hs hn, push_of_ne_nil (hrel ▸ hs) hn', ht]
    exact run_alike h hline _ _ _
  | some c =>
    have hrel := h.comment
    rw [hs] at hrel
    cases ht' : t.comment? with
    | none =>
      rw [ht'] at hrel
      cases hrel
    | some d =>
      rw [ht'] at hrel
      cases hrel with
      | some hc =>
        have hpush : s.push l = s.continueComment c l.trimmed l.trimmedSpan := by
          simp [push, hs, hn]
        have hpush' : t.push m = t.continueComment d m.trimmed m.trimmedSpan := by
          simp [push, ht', hn']
        rw [hpush, hpush', ht]
        exact continueComment_alike h hc _ _ _

theorem finish_alike (h : s.Alike R t) : s.finish.Alike R t.finish := by
  have hrel := h.comment
  unfold finish
  generalize s.comment? = c at hrel
  generalize t.comment? = d at hrel
  cases hrel with
  | none => exact .empty
  | some hc =>
    have hnode := emit_node_alike h hc
    exact ⟨hnode.flow.nodes, .cons ⟨rfl, hc.2.2⟩ .nil⟩

end State

/-- Blank lines do nothing, in any state. -/
theorem run_filled (s : State) (ls : List Line) :
    builder.run s (Line.filled ls) = builder.run s ls := by
  induction ls generalizing s with
  | nil => rfl
  | cons l ls ih =>
    by_cases hn : l.trimmed = []
    · have hblank : builder.push s l = .goto s := State.push_of_blank hn s
      rw [Builder.run_cons, hblank, Step.goto_andThen, ← ih, Line.filled,
        List.filter_cons_of_neg (by simpa using hn)]
      rfl
    · rw [Builder.run_cons, Line.filled, List.filter_cons_of_pos (by simpa using hn),
        Builder.run_cons]
      exact congrArg _ (funext fun t => ih t)

/-- Lines with the same trimmed texts do the same, one after the other. -/
theorem run_alike {ls ms : List Line}
    (h : List.Forall₂ (fun l m => m.trimmed = l.trimmed ∧ R l.number m.number) ls ms)
    {s t : State} (hst : s.Alike R t) :
    State.StepsAlike R (builder.run s ls) (builder.run t ms) := by
  refine State.stepsAlike_iff.2 (builder.run_alike ?_ h hst)
  intro s t l m hst hlm
  exact State.stepsAlike_iff.1 (State.push_alike hst hlm.1 hlm.2)

/-- Lines that hold the same go with each other. -/
theorem forall₂_filled {ls ms : List Line} (h : Line.contents ms = Line.contents ls) :
    List.Forall₂ (fun l m => m.trimmed = l.trimmed ∧ Line.Partners ls ms l.number m.number)
      (Line.filled ls) (Line.filled ms) := by
  rw [← Line.map_trimmed_filled, ← Line.map_trimmed_filled, eq_comm, ← List.forall₂_eq_eq_eq,
    List.forall₂_map_left_iff, List.forall₂_map_right_iff, List.forall₂_iff_zip] at h
  refine List.forall₂_iff_zip.2 ⟨h.1, ?_⟩
  intro l m hlm
  exact ⟨(h.2 hlm).symm, (l, m), hlm, rfl, rfl⟩

/-- Sources whose lines hold the same, once outer blanks and blank lines are left out, have the same
nodes and anomalies in the same order, on lines that go with each other. -/
theorem flow_alike_of_contents_eq {source other : Chars}
    (h : Line.contents (Line.ofSource other) = Line.contents (Line.ofSource source)) :
    (builder.flow source).Alike (Line.Partners (Line.ofSource source) (Line.ofSource other))
      (builder.flow other) := by
  have hrun := run_alike (forall₂_filled h) (.refl_of_none (rfl : State.start.comment? = none))
  rw [run_filled, run_filled] at hrun
  exact hrun.flow.append (State.finish_alike hrun.state)

/-- Line ends, tabs and blank lines in front of, behind and inside a comment, and a closing brace
too many. -/
theorem flow_alike_of_contents_eq_comment :
    let source := "if (a) \x7b /* x\n\n  y */ \n\tb();\x7d\n\x7d\n".toList
    let other := "\r\n  if (a) \x7b /* x\r\ny */\r\n\r\n  b();\x7d  \r\n \x7d".toList
    Line.contents (Line.ofSource other) = Line.contents (Line.ofSource source) ∧
      (builder.flow source).Alike (Line.Partners (Line.ofSource source) (Line.ofSource other))
        (builder.flow other) := by
  intro source other
  have h : Line.contents (Line.ofSource other) = Line.contents (Line.ofSource source) := by decide
  exact ⟨h, flow_alike_of_contents_eq h⟩

end Brace
end NestChart
