import NestChart.Proofs.Alike
import NestChart.Proofs.Indent.Lines
import NestChart.Proofs.Shift

/-!
# NestChart.Proofs.Insertion

Lines put in between the lines of a source. Those behind them get later numbers (`Line.makeRoom`).
If a builder reads a line alike further down, and each new line leaves its state as it was, then the
new lines add their own nodes and the rest of the flow stays but for its places
(`Builder.flow_insert`).
-/

namespace NestChart

open Text

namespace Line

/-! ## Sources with lines put in -/

/-- The content of a line from its text. -/
def body (text : Chars) : Chars := (text.reverse.dropWhile isLineEnd).reverse

/-- The contents of the lines of a source, blank or not. -/
def bodies (source : Chars) : List Chars := (physicalLines source).map body

/-- The lines of `other` are those of `source` with `inserted` behind the first `p`. Line ends do
not count. -/
structure Inserts (source other : Chars) (p : Nat) (inserted : List Chars) : Prop where
  le_length : p ≤ (bodies source).length
  bodies_eq : bodies other = (bodies source).take p ++ inserted ++ (bodies source).drop p

instance (source other : Chars) (p : Nat) (inserted : List Chars) :
    Decidable (Inserts source other p inserted) :=
  decidable_of_iff (p ≤ (bodies source).length ∧
      bodies other = (bodies source).take p ++ inserted ++ (bodies source).drop p)
    ⟨fun ⟨hp, he⟩ => ⟨hp, he⟩, fun ⟨hp, he⟩ => ⟨hp, he⟩⟩

/-- The number that line `i` has once `k` lines are put in behind the first `p`. -/
def makeRoom (p k i : Nat) : Nat := if i ≤ p then i else i + k

/-- Line `i` is one of `k` lines put in behind the first `p`. -/
def isInserted (p k i : Nat) : Bool := p < i ∧ i ≤ p + k

theorem isInserted_makeRoom (p k i : Nat) : isInserted p k (makeRoom p k i) = false := by
  rw [isInserted, makeRoom, decide_eq_false_iff_not]
  split
  · omega
  · omega

/-- Line `l` of the source, and the same line with `k` lines put in behind the first `p`. -/
structure Moves (source : Chars) (p k : Nat) (l m : Line) : Prop where
  mem : l ∈ ofSource source
  content_eq : m.content = l.content
  number_eq : makeRoom p k l.number = m.number

theorem take_locate (texts : List Chars) (p number start : Nat) :
    (locate number start texts).take p = locate number start (texts.take p) := by
  induction texts generalizing p number start with
  | nil => simp [locate]
  | cons t texts ih =>
    cases p with
    | zero => rfl
    | succ p => rw [locate, List.take_succ_cons, List.take_succ_cons, locate, ih]

theorem exists_drop_locate (texts : List Chars) (p number start : Nat) :
    ∃ later, (locate number start texts).drop p = locate (number + p) later (texts.drop p) := by
  induction texts generalizing p number start with
  | nil => exact ⟨start, by simp [locate]⟩
  | cons t texts ih =>
    cases p with
    | zero => exact ⟨start, rfl⟩
    | succ p =>
      obtain ⟨later, he⟩ := ih p (number + 1) (start + byteLength t)
      refine ⟨later, ?_⟩
      rw [locate, List.drop_succ_cons, List.drop_succ_cons, he, Nat.add_right_comm, Nat.add_assoc]

theorem map_content_locate (texts : List Chars) (number start : Nat) :
    (locate number start texts).map content = texts.map body := by
  induction texts generalizing number start with
  | nil => rfl
  | cons t texts ih => rw [locate, List.map_cons, List.map_cons, ih]; rfl

theorem number_lt_of_mem_locate {texts : List Chars} {number start : Nat} {l : Line}
    (h : l ∈ locate number start texts) : l.number < number + texts.length := by
  induction texts generalizing number start with
  | nil => cases h
  | cons t texts ih =>
    rw [List.length_cons]
    rcases List.mem_cons.1 h with rfl | h
    · simp only
      omega
    · have := ih h
      omega

theorem forall₂_locate {texts others : List Chars} (h : others.map body = texts.map body)
    {R : Nat → Nat → Prop} {i j start later : Nat} (hR : ∀ n < texts.length, R (i + n) (j + n)) :
    List.Forall₂ (fun l m => m.content = l.content ∧ R l.number m.number)
      (locate i start texts) (locate j later others) := by
  induction texts generalizing others i j start later with
  | nil =>
    rw [List.map_nil, List.map_eq_nil_iff] at h
    rw [h]
    exact .nil
  | cons t texts ih =>
    obtain ⟨u, others, rfl, hu, hothers⟩ := List.map_eq_cons_iff.1 h
    refine .cons ⟨hu, hR 0 (by simp)⟩ (ih hothers ?_)
    intro n hn
    rw [Nat.add_assoc, Nat.add_assoc, Nat.add_comm 1 n]
    exact hR (n + 1) (by rw [List.length_cons]; omega)

namespace Inserts

variable {source other : Chars} {p : Nat} {inserted : List Chars}

theorem length_take (h : Inserts source other p inserted) : ((bodies source).take p).length = p :=
  List.length_take_of_le h.le_length

theorem take_bodies (h : Inserts source other p inserted) :
    (bodies other).take p = (bodies source).take p := by
  rw [h.bodies_eq, List.append_assoc, List.take_left' h.length_take]

theorem drop_bodies (h : Inserts source other p inserted) :
    (bodies other).drop p = inserted ++ (bodies source).drop p := by
  rw [h.bodies_eq, List.append_assoc, List.drop_left' h.length_take]

/-- The lines in front keep their numbers. -/
theorem front_moves (h : Inserts source other p inserted) :
    List.Forall₂ (Moves source p inserted.length) ((ofSource source).take p)
      ((ofSource other).take p) := by
  have hbodies : ((physicalLines other).take p).map body =
      ((physicalLines source).take p).map body := by
    rw [List.map_take, List.map_take]
    exact h.take_bodies
  have hlines := @forall₂_locate _ _ hbodies (makeRoom p inserted.length · = ·) 1 1 0 0 ?_
  · rw [← take_locate, ← take_locate] at hlines
    refine ((List.forall₂_and_left _ _).2 ⟨fun l hl => List.mem_of_mem_take hl, hlines⟩).imp ?_
    exact fun l m ⟨hmem, hcontent, hnumber⟩ => ⟨hmem, hcontent, hnumber⟩
  · intro n hn
    rw [List.length_take] at hn
    exact if_pos (by omega)

/-- The numbers of the lines behind grow by how many lines are new. -/
theorem back_moves (h : Inserts source other p inserted) :
    List.Forall₂ (Moves source p inserted.length) ((ofSource source).drop p)
      (((ofSource other).drop p).drop inserted.length) := by
  have hbodies : (((physicalLines other).drop p).drop inserted.length).map body =
      ((physicalLines source).drop p).map body := by
    rw [List.map_drop, List.map_drop, List.map_drop]
    show ((bodies other).drop p).drop inserted.length = (bodies source).drop p
    rw [h.drop_bodies, List.drop_left' rfl]
  obtain ⟨start, hsource⟩ := exists_drop_locate (physicalLines source) p 1 0
  obtain ⟨later, hother⟩ := exists_drop_locate (physicalLines other) p 1 0
  obtain ⟨last, hlast⟩ :=
    exists_drop_locate ((physicalLines other).drop p) inserted.length (1 + p) later
  have hlines := @forall₂_locate _ _ hbodies (makeRoom p inserted.length · = ·) (1 + p)
    (1 + p + inserted.length) start last ?_
  · rw [← hsource, ← hlast, ← hother] at hlines
    refine ((List.forall₂_and_left _ _).2 ⟨fun l hl => List.mem_of_mem_drop hl, hlines⟩).imp ?_
    exact fun l m ⟨hmem, hcontent, hnumber⟩ => ⟨hmem, hcontent, hnumber⟩
  · intro n _
    rw [makeRoom, if_neg (by omega)]
    omega

/-- The new lines, numbered on from those in front. -/
theorem exists_new (h : Inserts source other p inserted) :
    ∃ texts start, ((ofSource other).drop p).take inserted.length = locate (1 + p) start texts ∧
      texts.map body = inserted := by
  obtain ⟨start, hother⟩ := exists_drop_locate (physicalLines other) p 1 0
  refine ⟨((physicalLines other).drop p).take inserted.length, start, ?_, ?_⟩
  · rw [← take_locate, ← hother]
    rfl
  · rw [List.map_take, List.map_drop]
    show ((bodies other).drop p).take inserted.length = inserted
    rw [h.drop_bodies, List.take_left' rfl]

theorem content_mem (h : Inserts source other p inserted) {l : Line}
    (hl : l ∈ ((ofSource other).drop p).take inserted.length) : l.content ∈ inserted := by
  obtain ⟨texts, start, hnew, hbodies⟩ := h.exists_new
  rw [hnew] at hl
  rw [← hbodies, ← map_content_locate]
  exact List.mem_map_of_mem hl

theorem isInserted_of_mem (h : Inserts source other p inserted) {l : Line}
    (hl : l ∈ ((ofSource other).drop p).take inserted.length) :
    isInserted p inserted.length l.number = true := by
  obtain ⟨texts, start, hnew, rfl⟩ := h.exists_new
  rw [hnew] at hl
  have hlo := le_number_of_mem_locate hl
  have hhi := number_lt_of_mem_locate hl
  rw [isInserted, decide_eq_true_eq, List.length_map]
  omega

end Inserts
end Line

/-! ## Flows with lines put in -/

namespace Flow

/-- The flow without the nodes of the `k` lines put in behind the first `p`. -/
def outside (p k : Nat) (f : Flow) : Flow :=
  ⟨f.nodes.filter fun n => !Line.isInserted p k n.line, f.anomalies⟩

/-- The nodes of the `k` lines put in behind the first `p`. -/
def inside (p k : Nat) (f : Flow) : List Node := f.nodes.filter fun n => Line.isInserted p k n.line

variable {p k : Nat}

theorem outside_append (f g : Flow) :
    (f ++ g).outside p k = f.outside p k ++ g.outside p k := by
  ext1 <;> simp [outside]

theorem inside_append (f g : Flow) : (f ++ g).inside p k = f.inside p k ++ g.inside p k := by
  simp [inside]

/-- No node that was there before lies on a new line. -/
theorem Alike.outside_eq {f g : Flow} (h : f.Alike (Line.makeRoom p k · = ·) g) :
    g.outside p k = g ∧ g.inside p k = [] := by
  have hline : List.Forall₂ (fun m _ => Line.isInserted p k m.line = false ∧ True)
      g.nodes f.nodes := by
    refine .flip (h.nodes.imp ?_)
    rintro n m ⟨-, -, -, hline⟩
    refine ⟨?_, trivial⟩
    rw [← hline]
    exact Line.isInserted_makeRoom p k n.line
  have hnodes := ((List.forall₂_and_left _ _).1 hline).1
  constructor
  · ext1
    · exact List.filter_eq_self.2 (by simpa using hnodes)
    · rfl
  · exact List.filter_eq_nil_iff.2 (by simpa using hnodes)

/-- All nodes of the new lines lie on them. -/
theorem outside_of_isInserted {nodes : List Node}
    (h : ∀ n ∈ nodes, Line.isInserted p k n.line = true) :
    (Flow.mk nodes []).outside p k = .empty ∧ (Flow.mk nodes []).inside p k = nodes := by
  constructor
  · ext1
    · exact List.filter_eq_nil_iff.2 (by simpa using h)
    · rfl
  · exact List.filter_eq_self.2 h

end Flow

namespace Builder

variable {σ : Type} (b : Builder σ)

/-- The line leaves the state as it was and adds nothing but nodes of its own. -/
structure Passes (t : σ) (l : Line) : Prop where
  state : (b.push t l).state = t
  anomalies : (b.push t l).flow.anomalies = []
  line : ∀ n ∈ (b.push t l).flow.nodes, n.line = l.number

theorem run_of_passes {t : σ} {ls : List Line} (h : ∀ l ∈ ls, b.Passes t l) :
    b.run t ls = ⟨t, ls.flatMap fun l => (b.push t l).flow.nodes, []⟩ := by
  induction ls with
  | nil => rfl
  | cons l ls ih =>
    have hl := h l (by simp)
    rw [run_cons, Step.andThen, hl.state, ih fun m hm => h m (by simp [hm])]
    congr 1
    ext1
    · rfl
    · simp [hl.anomalies]

theorem flow_of_append {source : Chars} {ls ms : List Line}
    (h : Line.ofSource source = ls ++ ms) :
    b.flow source = (b.run b.start ls).flow ++
      ((b.run (b.run b.start ls).state ms).flow ++
        b.finish (b.run (b.run b.start ls).state ms).state) := by
  rw [flow, h, run_append, Step.andThen, Flow.append_assoc]

/-- New lines that leave the state as it was, among lines that are read alike further down. -/
theorem flow_insert {Q : σ → σ → Prop} {source other : Chars} {p : Nat} {inserted : List Chars}
    (h : Line.Inserts source other p inserted) (start : Q b.start b.start)
    (push : ∀ s t l m, Q s t → Line.Moves source p inserted.length l m →
      (b.push s l).Alike Q (Line.makeRoom p inserted.length · = ·) (b.push t m))
    (finish : ∀ s t, Q s t →
      (b.finish s).Alike (Line.makeRoom p inserted.length · = ·) (b.finish t))
    (new : ∀ t l, Q (b.run b.start ((Line.ofSource source).take p)).state t →
      l.content ∈ inserted → b.Passes t l) :
    (b.flow source).Alike (Line.makeRoom p inserted.length · = ·)
        ((b.flow other).outside p inserted.length) ∧
      ∃ t, Q (b.run b.start ((Line.ofSource source).take p)).state t ∧
        (b.flow other).inside p inserted.length =
          (((Line.ofSource other).drop p).take inserted.length).flatMap
            fun l => (b.push t l).flow.nodes := by
  have hsource := b.flow_of_append (List.take_append_drop p (Line.ofSource source)).symm
  have hother : Line.ofSource other = (Line.ofSource other).take p ++
      (((Line.ofSource other).drop p).take inserted.length ++
        ((Line.ofSource other).drop p).drop inserted.length) := by
    rw [List.take_append_drop, List.take_append_drop]
  have hflow := b.flow_of_append hother
  have hbefore := b.run_alike push h.front_moves start
  generalize b.run b.start ((Line.ofSource source).take p) = earlier at *
  generalize b.run b.start ((Line.ofSource other).take p) = reached at *
  have hnew : ∀ l ∈ ((Line.ofSource other).drop p).take inserted.length,
      b.Passes reached.state l := by
    intro l hl
    exact new _ l hbefore.state (h.content_mem hl)
  have hlines : ∀ n ∈ (((Line.ofSource other).drop p).take inserted.length).flatMap
      fun l => (b.push reached.state l).flow.nodes,
        Line.isInserted p inserted.length n.line = true := by
    intro n hn
    obtain ⟨l, hl, hn⟩ := List.mem_flatMap.1 hn
    rw [(hnew l hl).line n hn]
    exact h.isInserted_of_mem hl
  rw [run_append, Step.andThen, b.run_of_passes hnew, Flow.append_assoc] at hflow
  have hafter := b.run_alike push h.back_moves hbefore.state
  have hrest := hafter.flow.append (finish _ _ hafter.state)
  obtain ⟨houtside, hinside⟩ := Flow.outside_of_isInserted hlines
  refine ⟨?_, reached.state, hbefore.state, ?_⟩
  · rw [hsource, hflow, Flow.outside_append, Flow.outside_append, hbefore.flow.outside_eq.1,
      hrest.outside_eq.1, houtside, Flow.empty_append]
    exact hbefore.flow.append hrest
  · rw [hflow, Flow.inside_append, Flow.inside_append, hbefore.flow.outside_eq.2,
      hrest.outside_eq.2, hinside, List.nil_append, List.append_nil]

end Builder
end NestChart
