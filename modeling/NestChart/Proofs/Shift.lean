import NestChart.Proofs.Builder

/-!
# NestChart.Proofs.Shift

A source behind another one. Its lines are those it has alone, with later numbers and later bytes
(`Line.ofSource_append`). A builder that does the same further down (`push` of a shifted line is the
shifted `push`) and that the first source leaves as it began adds the same to the flow, further down
(`Builder.flow_append`).
-/

namespace NestChart

open Text

/-! ## Places further down -/

section Shift

variable (k n : Nat)

def Span.shift (s : Span) : Span := ⟨s.start + n, s.stop + n⟩

def Line.shift (l : Line) : Line := ⟨l.number + k, l.start + n, l.text⟩

def Node.shift (x : Node) : Node := { x with line := x.line + k, span := x.span.shift n }

def Anomaly.shift (a : Anomaly) : Anomaly := { a with line := a.line + k }

/-- The flow `k` lines and `n` bytes further down. -/
def Flow.shift (f : Flow) : Flow :=
  ⟨f.nodes.map (Node.shift k n), f.anomalies.map (Anomaly.shift k)⟩

/-- The step with its state moved by `move` and what it adds further down. -/
def Step.shift {σ : Type} (move : σ → σ) (x : Step σ) : Step σ := ⟨move x.state, x.flow.shift k n⟩

theorem Flow.shift_append (f g : Flow) : (f ++ g).shift k n = f.shift k n ++ g.shift k n := by
  ext1 <;> simp [shift]

namespace Step

variable {σ : Type} {move : σ → σ}

theorem shift_goto (s : σ) : (goto s).shift k n move = goto (move s) := rfl

theorem shift_emit (s : σ) (x : Node) :
    (emit s x).shift k n move = emit (move s) (x.shift k n) := rfl

theorem shift_andThen {x : Step σ} {f g : σ → Step σ} (h : ∀ s, g (move s) = (f s).shift k n move) :
    (x.shift k n move).andThen g = (x.andThen f).shift k n move := by
  rw [andThen, andThen, shift, shift, h, Flow.shift_append]
  rfl

end Step

namespace Line

variable (l : Line)

@[simp] theorem shift_content : (l.shift k n).content = l.content := rfl
@[simp] theorem shift_trimmed : (l.shift k n).trimmed = l.trimmed := rfl
@[simp] theorem shift_number : (l.shift k n).number = l.number + k := rfl

theorem shift_trimmedSpan : (l.shift k n).trimmedSpan = l.trimmedSpan.shift n := by
  rw [trimmedSpan, trimmedSpan, apply_ite (Span.shift n)]
  refine ite_congr rfl (fun _ => rfl) fun _ => ?_
  simp only [shift, Span.shift, content, trimmed, Nat.add_right_comm _ n]

/-! ## Lines of a source behind another one -/

theorem locate_append (number start : Nat) (texts more : List Chars) :
    locate number start (texts ++ more) = locate number start texts ++
      locate (number + texts.length) (start + byteLength texts.flatten) more := by
  induction texts generalizing number start with
  | nil => rfl
  | cons t texts ih =>
    simp only [List.cons_append, locate, ih, List.length_cons, List.flatten_cons,
      byteLength_append, Nat.add_assoc, Nat.add_comm 1]

theorem locate_shift (number start : Nat) (texts : List Chars) :
    locate (number + k) (start + n) texts = (locate number start texts).map (shift k n) := by
  induction texts generalizing number start with
  | nil => rfl
  | cons t texts ih =>
    rw [locate, locate, List.map_cons, ← ih, Nat.add_right_comm number k 1,
      Nat.add_right_comm start n]
    rfl

theorem length_locate (number start : Nat) (texts : List Chars) :
    (locate number start texts).length = texts.length := by
  induction texts generalizing number start with
  | nil => rfl
  | cons t texts ih => rw [locate, List.length_cons, List.length_cons, ih]

end Line

end Shift

/-- The source is empty or its last line has its end. -/
def EndsLine (source : Chars) : Prop := source = [] ∨ source.getLast? = some '\n'

instance (source : Chars) : Decidable (EndsLine source) := inferInstanceAs (Decidable (_ ∨ _))

theorem Text.flatten_physicalLines (cs : Chars) : (physicalLines cs).flatten = cs := by
  induction cs using lines_induction with
  | nil => rfl
  | last body hne hb => rw [physicalLines_last hb hne, List.flatten_singleton]
  | line body rest hb ih =>
    rw [physicalLines_append hb, List.flatten_cons, ih, List.append_assoc, List.singleton_append]

theorem EndsLine.of_append {body rest : Chars} (h : EndsLine (body ++ '\n' :: rest)) :
    EndsLine rest := by
  cases rest with
  | nil => exact .inl rfl
  | cons c cs =>
    refine .inr ?_
    rcases h with h | h
    · simp at h
    · simpa using h

/-- No line reaches over the end of a line. -/
theorem EndsLine.physicalLines_append {source : Chars} (h : EndsLine source) (rest : Chars) :
    physicalLines (source ++ rest) = physicalLines source ++ physicalLines rest := by
  induction source using lines_induction with
  | nil => rfl
  | last body hne hb =>
    rcases h with h | h
    · exact absurd h hne
    · exact absurd (List.mem_of_getLast? h) hb
  | line body more hb ih =>
    rw [List.append_assoc, List.cons_append, Text.physicalLines_append hb,
      Text.physicalLines_append hb, ih h.of_append, List.cons_append]

theorem Line.ofSource_append {source : Chars} (h : EndsLine source) (rest : Chars) :
    ofSource (source ++ rest) = ofSource source ++
      (ofSource rest).map (shift (ofSource source).length (byteLength source)) := by
  simp only [ofSource, h.physicalLines_append, locate_append, flatten_physicalLines,
    ← locate_shift, length_locate]

/-! ## Builders further down -/

namespace Builder

variable {σ : Type} (b : Builder σ) {move : σ → σ} {k n : Nat}

/-- If each line does the same further down, so do all of them. -/
theorem run_shift {ls : List Line}
    (h : ∀ l ∈ ls, ∀ s, b.push (move s) (l.shift k n) = (b.push s l).shift k n move) (s : σ) :
    b.run (move s) (ls.map (Line.shift k n)) = (b.run s ls).shift k n move := by
  induction ls generalizing s with
  | nil => rfl
  | cons l ls ih =>
    have hrest := ih fun m hm => h m (by simp [hm])
    rw [List.map_cons, run_cons, run_cons, h l (by simp)]
    exact Step.shift_andThen k n hrest

/-- A source behind one that leaves the builder as it began adds what it adds alone, further
down. -/
theorem flow_append {first rest : Chars} (hends : EndsLine first)
    (hopen : (b.run b.start (Line.ofSource first)).state = b.start)
    (hstart : move b.start = b.start) (hnone : b.finish b.start = .empty)
    (hpush : ∀ l ∈ Line.ofSource rest, ∀ s,
      b.push (move s) (l.shift (Line.ofSource first).length (byteLength first)) =
        (b.push s l).shift (Line.ofSource first).length (byteLength first) move)
    (hfinish : ∀ s, b.finish (move s) =
      (b.finish s).shift (Line.ofSource first).length (byteLength first)) :
    b.flow (first ++ rest) = b.flow first ++
      (b.flow rest).shift (Line.ofSource first).length (byteLength first) := by
  have hrest := b.run_shift hpush b.start
  rw [hstart] at hrest
  simp only [flow, Line.ofSource_append hends, run_append, Step.andThen, hopen, hnone,
    Flow.append_empty, hrest, Step.shift, hfinish, Flow.shift_append, Flow.append_assoc]

end Builder
end NestChart
