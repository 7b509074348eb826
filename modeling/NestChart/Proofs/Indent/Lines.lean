import NestChart.Indent.Builder
import NestChart.Proofs.Builder

/-!
# NestChart.Proofs.Indent.Lines

The nodes of an indentation language are its lines. Whatever string, logical line or level is open,
a line that is not blank is shown whole, once and at once (`State.push_nodes`); only the line that
names an interpreter is passed over, and only code can begin with it. So the nodes are the lines,
one for one (`nodes_eq_lines`).
-/

namespace NestChart

/-- Where a node comes from: its line, its text and its bytes. -/
def Node.origin (n : Node) : Nat × Chars × Span := (n.line, n.text, n.span)

/-- What the node of a whole line comes from. -/
def Line.origin (l : Line) : Nat × Chars × Span := (l.number, l.trimmed, l.trimmedSpan)

theorem Line.le_number_of_mem_locate {texts : List Chars} {number start : Nat} {l : Line}
    (h : l ∈ Line.locate number start texts) : number ≤ l.number := by
  induction texts generalizing number start with
  | nil => cases h
  | cons t texts ih =>
    rw [Line.locate, List.mem_cons] at h
    rcases h with rfl | h
    · exact Nat.le_refl _
    · have := ih h
      omega

/-- No two lines of a source have one number. -/
theorem Line.pairwise_number_locate (texts : List Chars) (number start : Nat) :
    (Line.locate number start texts).Pairwise fun l m => l.number < m.number := by
  induction texts generalizing number start with
  | nil => exact .nil
  | cons t texts ih =>
    refine List.pairwise_cons.2 ⟨?_, ih _ _⟩
    intro m hm
    exact Line.le_number_of_mem_locate hm

namespace Indent

/-- The line is neither blank nor a first line that names an interpreter. -/
def isShown (l : Line) : Bool := !l.trimmed.isEmpty && !State.isInterpreterLine l

namespace State

theorem origin_node (l : Line) (depth : Nat) (category : Category) :
    (node l depth category).origin = l.origin := rfl

/-- Each of the ways to read a line shows it whole. -/
theorem push_nodes {s : State} {l : Line} (hne : l.trimmed ≠ [])
    (hi : s.mode = .code → isInterpreterLine l = false) :
    ∃ depth category, (s.push l).flow.nodes = [node l depth category] := by
  have he : l.trimmed.isEmpty = false := by simpa using hne
  simp only [push, he, Bool.false_eq_true, if_false]
  split
  · exact ⟨_, _, rfl⟩
  · exact ⟨_, _, rfl⟩
  · rename_i hs
    rw [hi hs]
    simp only [Bool.false_eq_true, if_false]
    split
    · exact ⟨_, _, rfl⟩
    · exact ⟨_, _, rfl⟩

theorem push_interpreterLine {s : State} {l : Line} (hs : s.mode = .code)
    (hi : isInterpreterLine l = true) : s.push l = .goto s := by
  simp only [push, hs, hi, if_true, ite_self]

/-- A line adds itself if it is to be shown. A first line meets no string and no logical line. -/
theorem push_origins {s : State} {l : Line} (h : s.mode = .code ∨ l.number ≠ 1) :
    (s.push l).flow.nodes.map Node.origin = if isShown l then [l.origin] else [] := by
  by_cases hne : l.trimmed = []
  · simp [push, hne, isShown, Step.goto]
  cases hi : isInterpreterLine l with
  | true =>
    have hs : s.mode = .code := by
      refine h.resolve_right ?_
      intro hn
      simp [isInterpreterLine, hn] at hi
    simp [push_interpreterLine hs hi, isShown, hi, Step.goto]
  | false =>
    obtain ⟨depth, category, hnodes⟩ := push_nodes (s := s) hne fun _ => hi
    simp [hnodes, origin_node, isShown, hi, hne]

theorem finish_nodes (s : State) : s.finish.nodes = [] := by
  unfold finish
  split <;> rfl

end State

theorem run_cons_origins {s : State} {l : Line} {ls : List Line}
    (h : s.mode = .code ∨ l.number ≠ 1)
    (hls : (builder.run (s.push l).state ls).flow.nodes.map Node.origin =
      (ls.filter isShown).map Line.origin) :
    (builder.run s (l :: ls)).flow.nodes.map Node.origin =
      ((l :: ls).filter isShown).map Line.origin := by
  have hrun : (builder.run s (l :: ls)).flow.nodes =
      (s.push l).flow.nodes ++ (builder.run (s.push l).state ls).flow.nodes := rfl
  rw [hrun, List.map_append, State.push_origins h, hls, List.filter_cons]
  split <;> rfl

/-- Behind the first line no line is passed over unless it is blank. -/
theorem run_origins {ls : List Line} (h : ∀ l ∈ ls, l.number ≠ 1) (s : State) :
    (builder.run s ls).flow.nodes.map Node.origin = (ls.filter isShown).map Line.origin := by
  induction ls generalizing s with
  | nil => rfl
  | cons l ls ih =>
    refine run_cons_origins (.inr (h l (by simp))) (ih ?_ _)
    intro m hm
    exact h m (by simp [hm])

theorem start_origins (texts : List Chars) :
    (builder.run builder.start (Line.locate 1 0 texts)).flow.nodes.map Node.origin =
      ((Line.locate 1 0 texts).filter isShown).map Line.origin := by
  cases texts with
  | nil => rfl
  | cons t texts =>
    refine run_cons_origins (.inl rfl) (run_origins ?_ _)
    intro l hl
    have := Line.le_number_of_mem_locate hl
    omega

theorem flow_origins (source : Chars) : (builder.flow source).nodes.map Node.origin =
    ((Line.ofSource source).filter isShown).map Line.origin := by
  rw [Builder.flow, Flow.nodes_append, show builder.finish = State.finish from rfl,
    State.finish_nodes, List.append_nil]
  exact start_origins (Text.physicalLines source)

/-- The nodes are the lines of the source that are neither blank nor a first line that names an
interpreter, in order, each whole and on a line of its own. -/
theorem nodes_eq_lines (source : Chars) :
    (builder.flow source).nodes.map Node.origin =
        ((Line.ofSource source).filter isShown).map Line.origin ∧
      (builder.flow source).nodes.Pairwise fun n m => n.line < m.line := by
  have hnodes := flow_origins source
  refine ⟨hnodes, ?_⟩
  have hlines : (builder.flow source).nodes.map Node.line =
      ((Line.ofSource source).filter isShown).map Line.number := by
    have := congrArg (List.map Prod.fst) hnodes
    rw [List.map_map, List.map_map] at this
    exact this
  have hsorted : (((Line.ofSource source).filter isShown).map Line.number).Pairwise (· < ·) :=
    List.pairwise_map.2 ((Line.pairwise_number_locate _ _ _).filter _)
  rw [← hlines] at hsorted
  exact List.pairwise_map.1 hsorted

end Indent
end NestChart
