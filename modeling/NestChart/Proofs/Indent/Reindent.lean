import Mathlib.Data.Set.Basic
import Mathlib.Order.Monotone.Basic
import NestChart.Proofs.Indent.Columns

/-!
# NestChart.Proofs.Indent.Reindent

Only the order of the columns counts. Two sources of an indentation language that have the same
trimmed lines, and whose columns go with each other in order wherever a column is read, are read
alike. The two runs go in step: the state of the second is that of the first with its levels moved
(`State.moveLevels`), and each line adds the same to both but for places (`push_mirrors`).
-/

namespace NestChart

/-- A node without the bytes it was read from. -/
def Node.withoutSpan (n : Node) : Chars × Nat × Category × Nat :=
  (n.text, n.depth, n.category, n.line)

namespace Indent

/-- Columns in `S` are moved in order, and column 0 stays. -/
structure Moves (f : Nat → Nat) (S : Set Nat) : Prop where
  strictMonoOn : StrictMonoOn f S
  zero_mem : 0 ∈ S
  map_zero : f 0 = 0

/-- The lines have the same trimmed texts, and each that is read for its column, the state before
the first being `s`, has it moved by `f`. Blank lines and the lines inside strings and logical lines
are not read for it. -/
def Reindents (f : Nat → Nat) (S : Set Nat) (s : State) : List Line → List Line → Prop
  | [], [] => True
  | l :: ls, m :: ms =>
    m.trimmed = l.trimmed ∧
      (s.mode = .code → l.trimmed ≠ [] → columnOf l ∈ S ∧ columnOf m = f (columnOf l)) ∧
      Reindents f S (s.push l).state ls ms
  | _, _ => False

instance decidableReindents (f : Nat → Nat) (S : Set Nat) [DecidablePred (· ∈ S)] :
    (s : State) → (ls ms : List Line) → Decidable (Reindents f S s ls ms)
  | _, [], [] => .isTrue trivial
  | s, l :: ls, _ :: ms =>
    have := decidableReindents f S (s.push l).state ls ms
    inferInstanceAs (Decidable (_ ∧ (_ → _ → _ ∧ _) ∧ _))
  | _, [], _ :: _ => .isFalse id
  | _, _ :: _, [] => .isFalse id

variable {f : Nat → Nat} {S : Set Nat}

namespace State

/-- The state with its levels at other columns. -/
def moveLevels (f : Nat → Nat) (s : State) : State := { s with levels := s.levels.map f }

@[simp] theorem moveLevels_levels (f : Nat → Nat) (s : State) :
    (s.moveLevels f).levels = s.levels.map f := rfl

@[simp] theorem moveLevels_mode (f : Nat → Nat) (s : State) :
    (s.moveLevels f).mode = s.mode := rfl

@[simp] theorem moveLevels_afterOpener (f : Nat → Nat) (s : State) :
    (s.moveLevels f).afterOpener = s.afterOpener := rfl

theorem moveLevels_depth (f : Nat → Nat) (s : State) : (s.moveLevels f).depth = s.depth := by
  simp [depth]

theorem moveLevels_endLine (s : State) (text : Chars) (balance : Int) (depth : Nat) :
    (s.moveLevels f).endLine text balance depth = (s.endLine text balance depth).moveLevels f := by
  unfold endLine
  split <;> rfl

end State

/-! ## Columns that are moved -/

theorem takeWhile_map_of_eq {p q : Nat → Bool} {levels : List Nat}
    (h : ∀ v ∈ levels, p (f v) = q v) :
    (levels.map f).takeWhile p = (levels.takeWhile q).map f := by
  induction levels with
  | nil => rfl
  | cons v levels ih =>
    rw [List.map_cons, List.takeWhile_cons, List.takeWhile_cons, h v (by simp),
      ih fun u hu => h u (by simp [hu])]
    split <;> rfl

theorem dropWhile_map_of_eq {p q : Nat → Bool} {levels : List Nat}
    (h : ∀ v ∈ levels, p (f v) = q v) :
    (levels.map f).dropWhile p = (levels.dropWhile q).map f := by
  refine List.append_cancel_left (?_ : (levels.takeWhile q).map f ++ _ = _)
  rw [← List.map_append, List.takeWhile_append_dropWhile, ← takeWhile_map_of_eq h,
    List.takeWhile_append_dropWhile]

namespace Moves

theorem headD_map (hf : Moves f S) (levels : List Nat) :
    (levels.map f).headD 0 = f (levels.headD 0) := by
  cases levels with
  | nil => exact hf.map_zero.symm
  | cons v levels => rfl

theorem headD_mem (hf : Moves f S) {levels : List Nat} (h : ∀ v ∈ levels, v ∈ S) :
    levels.headD 0 ∈ S := by
  cases levels with
  | nil => exact hf.zero_mem
  | cons v levels => exact h v (by simp)

variable {s : State} {c : Nat}

theorem lt_iff (hf : Moves f S) {a b : Nat} (ha : a ∈ S) (hb : b ∈ S) : f a < f b ↔ a < b :=
  hf.strictMonoOn.lt_iff_lt ha hb

theorem mem_of_kept (hs : ∀ v ∈ s.levels, v ∈ S) : ∀ v ∈ s.levels.dropWhile (c < ·), v ∈ S :=
  fun v hv => hs v ((List.dropWhile_sublist _).mem hv)

/-- The levels are closed and opened in step. -/
theorem align (hf : Moves f S) (hs : ∀ v ∈ s.levels, v ∈ S) (hc : c ∈ S) (line : Nat) :
    (s.moveLevels f).align (f c) line =
      ((s.align c line).1.moveLevels f, (s.align c line).2) := by
  have hkept : (s.levels.map f).dropWhile (f c < ·) = (s.levels.dropWhile (c < ·)).map f := by
    refine dropWhile_map_of_eq ?_
    intro v hv
    rw [decide_eq_decide]
    exact hf.lt_iff hc (hs v hv)
  have htop : (s.levels.dropWhile (c < ·)).headD 0 ∈ S := hf.headD_mem (mem_of_kept hs)
  simp only [State.align, State.moveLevels_levels, hkept, hf.headD_map, hf.lt_iff htop hc,
    List.length_map]
  split <;> rfl

/-- No column is read but those that are moved. -/
theorem align_mem (hs : ∀ v ∈ s.levels, v ∈ S) (hc : c ∈ S) (line : Nat) :
    ∀ v ∈ (s.align c line).1.levels, v ∈ S := by
  intro v hv
  simp only [State.align] at hv
  split at hv
  · rcases List.mem_cons.1 hv with rfl | hv
    · exact hc
    · exact mem_of_kept hs v hv
  · exact mem_of_kept hs v hv

theorem commentDepth (hf : Moves f S) (hs : ∀ v ∈ s.levels, v ∈ S) (hc : c ∈ S) :
    (s.moveLevels f).commentDepth (f c) = s.commentDepth c := by
  have hbefore : ((s.levels.map f).reverse.takeWhile (· ≤ f c)).length =
      (s.levels.reverse.takeWhile (· ≤ c)).length := by
    rw [← List.map_reverse, takeWhile_map_of_eq (q := (· ≤ c)), List.length_map]
    intro v hv
    rw [decide_eq_decide]
    exact hf.strictMonoOn.le_iff_le (hs v (List.mem_reverse.1 hv)) hc
  have htop : (s.moveLevels f).top < f c ↔ s.top < c := by
    rw [State.top, State.moveLevels_levels, hf.headD_map]
    exact hf.lt_iff (hf.headD_mem hs) hc
  simp only [State.commentDepth, State.moveLevels_levels, State.moveLevels_afterOpener, hbefore,
    htop]

end Moves

/-! ## Two runs in step -/

/-- Two steps that add the same but for places, and reach states that differ in their levels by
`f`. -/
structure Mirrors (f : Nat → Nat) (S : Set Nat) (x y : Step State) : Prop where
  state : y.state = x.state.moveLevels f
  levels : ∀ v ∈ x.state.levels, v ∈ S
  nodes : y.flow.nodes.map Node.withoutSpan = x.flow.nodes.map Node.withoutSpan
  anomalies : y.flow.anomalies = x.flow.anomalies

namespace Mirrors

variable {s : State}

theorem goto (hs : ∀ v ∈ s.levels, v ∈ S) : Mirrors f S (.goto s) (.goto (s.moveLevels f)) :=
  ⟨rfl, hs, rfl, rfl⟩

theorem emit {n m : Node} (hs : ∀ v ∈ s.levels, v ∈ S) (h : m.withoutSpan = n.withoutSpan) :
    Mirrors f S (.emit s n) (.emit (s.moveLevels f) m) :=
  ⟨rfl, hs, by simp [Step.emit, h], rfl⟩

theorem andThen {x y : Step State} {g h : State → Step State} (hx : Mirrors f S x y)
    (hg : Mirrors f S (g x.state) (h y.state)) : Mirrors f S (x.andThen g) (y.andThen h) where
  state := hg.state
  levels := hg.levels
  nodes := by simp [Step.andThen, hx.nodes, hg.nodes]
  anomalies := by simp [Step.andThen, hx.anomalies, hg.anomalies]

end Mirrors

theorem withoutSpan_node {l m : Line} (hn : m.number = l.number) (ht : m.trimmed = l.trimmed)
    (depth : Nat) (category : Category) :
    (State.node m depth category).withoutSpan = (State.node l depth category).withoutSpan := by
  simp [State.node, Node.withoutSpan, hn, ht]

theorem pushCode_mirrors (hf : Moves f S) {s : State} {l m : Line} (hs : ∀ v ∈ s.levels, v ∈ S)
    (hn : m.number = l.number) (ht : m.trimmed = l.trimmed) (hl : columnOf l ∈ S)
    (hm : columnOf m = f (columnOf l)) :
    Mirrors f S (s.pushCode l) ((s.moveLevels f).pushCode m) := by
  have halign := hf.align hs hl l.number
  simp only [columnOf] at hm halign
  have hmem := Moves.align_mem hs hl l.number
  refine ⟨?_, ?_, ?_, ?_⟩
  · simp only [State.pushCode, hn, ht, hm, halign, State.moveLevels_depth, State.moveLevels_endLine]
    split <;> rfl
  · rw [State.pushCode_levels]
    exact hmem
  · simp [State.pushCode, hn, ht, hm, halign, State.moveLevels_depth, withoutSpan_node hn ht]
  · simp [State.pushCode, hn, hm, halign]

/-- A line and the same line at another column do the same. -/
theorem push_mirrors (hf : Moves f S) {s : State} {l m : Line} (hs : ∀ v ∈ s.levels, v ∈ S)
    (hn : m.number = l.number) (ht : m.trimmed = l.trimmed)
    (hc : s.mode = .code → l.trimmed ≠ [] → columnOf l ∈ S ∧ columnOf m = f (columnOf l)) :
    Mirrors f S (s.push l) ((s.moveLevels f).push m) := by
  have hi : State.isInterpreterLine m = State.isInterpreterLine l := by
    simp [State.isInterpreterLine, hn, ht]
  simp only [State.push, ht, hi, State.moveLevels_mode]
  split
  · exact .goto hs
  rename_i hne
  split
  · rename_i style depth line _
    have hstate : (if style.closes l.trimmed then { s.moveLevels f with mode := .code }
        else s.moveLevels f) =
          (if style.closes l.trimmed then { s with mode := .code } else s).moveLevels f := by
      split <;> rfl
    rw [hstate]
    refine .emit ?_ (withoutSpan_node hn ht _ _)
    split <;> exact hs
  · rw [State.moveLevels_endLine]
    refine .emit ?_ (withoutSpan_node hn ht _ _)
    rw [State.endLine_levels]
    exact hs
  · rename_i hcode
    obtain ⟨hl, hm⟩ := hc hcode (by simpa using hne)
    split
    · exact .goto hs
    split
    · have hdepth := hf.commentDepth hs hl
      simp only [columnOf] at hm hdepth
      rw [hm, hdepth]
      exact .emit hs (withoutSpan_node hn ht _ _)
    · exact pushCode_mirrors hf hs hn ht hl hm

/-- Lines and the same lines at other columns do the same. -/
theorem run_mirrors (hf : Moves f S) {texts others : List Chars} {number start start' : Nat}
    {s : State} (hs : ∀ v ∈ s.levels, v ∈ S)
    (h : Reindents f S s (Line.locate number start texts) (Line.locate number start' others)) :
    Mirrors f S (builder.run s (Line.locate number start texts))
      (builder.run (s.moveLevels f) (Line.locate number start' others)) := by
  induction texts generalizing others number start start' s with
  | nil =>
    cases others with
    | nil => exact .goto hs
    | cons => exact h.elim
  | cons text texts ih =>
    cases others with
    | nil => exact h.elim
    | cons other others =>
      obtain ⟨ht, hc, hrest⟩ := h
      have hpush := push_mirrors hf (l := ⟨number, start, text⟩) (m := ⟨number, start', other⟩)
        hs rfl ht hc
      have hnext : (builder.push (s.moveLevels f) ⟨number, start', other⟩).state =
          (s.push ⟨number, start, text⟩).state.moveLevels f := hpush.state
      refine Mirrors.andThen hpush ?_
      rw [hnext]
      exact ih hpush.levels hrest

/-- Columns count by their order only. If a source has the same trimmed lines as another, and the
columns of the lines that are neither blank nor inside a string or logical line are moved in order,
then both have the same nodes but for places, and the same anomalies. -/
theorem flow_of_reindents (hf : Moves f S) {source other : Chars}
    (h : Reindents f S .start (Line.ofSource source) (Line.ofSource other)) :
    (builder.flow other).nodes.map Node.withoutSpan =
        (builder.flow source).nodes.map Node.withoutSpan ∧
      (builder.flow other).anomalies = (builder.flow source).anomalies := by
  have hrun := run_mirrors hf (s := .start) (by simp [State.start]) h
  have hstate : (builder.run .start (Line.ofSource other)).state =
      (builder.run .start (Line.ofSource source)).state.moveLevels f := hrun.state
  have hfinish : (builder.run .start (Line.ofSource other)).state.finish =
      (builder.run .start (Line.ofSource source)).state.finish := by
    rw [hstate]
    rfl
  rw [flow_eq_run, flow_eq_run, hfinish]
  constructor
  · rw [Flow.nodes_append, Flow.nodes_append, List.map_append, List.map_append]
    exact congrArg (· ++ _) hrun.nodes
  · rw [Flow.anomalies_append, Flow.anomalies_append]
    exact congrArg (· ++ _) hrun.anomalies

/-- Two blanks, a tab and one blank against a tab and four blanks; the continued line lies anywhere,
and the last line goes back to no level in both. -/
theorem flow_of_reindents_tab :
    let source := "if a:\n  f(1,\n2)\n  # n\n c()\n".toList
    let other := "if a:\n\tf(1,\n     2)\n\t# n\n    c()\n".toList
    Moves (4 * ·) Set.univ ∧
      Reindents (4 * ·) Set.univ .start (Line.ofSource source) (Line.ofSource other) ∧
      (builder.flow other).nodes.map Node.withoutSpan =
        (builder.flow source).nodes.map Node.withoutSpan ∧
      (builder.flow other).anomalies = (builder.flow source).anomalies := by
  intro source other
  have hf : Moves (4 * ·) Set.univ :=
    ⟨fun a _ b _ h => Nat.mul_lt_mul_of_pos_left h (by decide), trivial, rfl⟩
  have h : Reindents (4 * ·) Set.univ .start (Line.ofSource source) (Line.ofSource other) := by
    decide
  exact ⟨hf, h, flow_of_reindents hf h⟩

end Indent
end NestChart
