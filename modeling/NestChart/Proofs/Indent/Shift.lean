import NestChart.Indent.Builder
import NestChart.Proofs.Indent.Lines
import NestChart.Proofs.Shift

/-!
# NestChart.Proofs.Indent.Shift

An indentation language further down in a source. A state remembers a place only while a string is
open. The number of a line is read once, where a first line may name an interpreter: a line that
names none, wherever it stands, does the same further down (`push_shift`).
-/

namespace NestChart.Indent

open Text

section Shift

variable (k n : Nat)

def Mode.shift : Mode → Mode
  | .code => .code
  | .string style depth line => .string style depth (line + k)
  | .continued brackets depth => .continued brackets depth

namespace State

/-- The state with the first line of its open string further down. -/
def shift (s : State) : State := { s with mode := s.mode.shift k }

variable (s : State)

@[simp] theorem shift_mode : (s.shift k).mode = s.mode.shift k := rfl
@[simp] theorem shift_depth : (s.shift k).depth = s.depth := rfl
@[simp] theorem shift_commentDepth (column : Nat) :
    (s.shift k).commentDepth column = s.commentDepth column := rfl

theorem node_shift (l : Line) (depth : Nat) (category : Category) :
    node (l.shift k n) depth category = (node l depth category).shift k n := by
  rw [node, Line.shift_trimmedSpan]
  rfl

theorem align_shift (column line : Nat) :
    (s.shift k).align column (line + k) =
      ((s.align column line).1.shift k, (s.align column line).2.map (Anomaly.shift k)) := by
  have hlevels : (s.shift k).levels = s.levels := rfl
  simp only [align, hlevels]
  split
  · split <;> rfl
  · rfl

theorem endLine_shift (text : Chars) (balance : Int) (depth : Nat) :
    (s.shift k).endLine text balance depth = (s.endLine text balance depth).shift k := by
  unfold endLine
  split <;> rfl

theorem pushCode_shift (l : Line) :
    (s.shift k).pushCode (l.shift k n) = (s.pushCode l).shift k n (shift k) := by
  simp only [pushCode, Line.shift_content, Line.shift_trimmed, Line.shift_number, align_shift,
    node_shift, endLine_shift, shift_depth]
  split <;> rfl

/-- A line does the same further down, unless it names an interpreter at one of the two places. -/
theorem push_shift {l : Line}
    (hi : isInterpreterLine (l.shift k n) = isInterpreterLine l) :
    (s.shift k).push (l.shift k n) = (s.push l).shift k n (shift k) := by
  simp only [push, Line.shift_trimmed, Line.shift_content, node_shift, shift_mode,
    shift_commentDepth, hi]
  split
  · rfl
  cases s.mode with
  | string style depth line =>
    rw [Step.shift_emit, apply_ite (shift k)]
    rfl
  | continued brackets depth => simp only [Mode.shift, endLine_shift, Step.shift_emit]
  | code =>
    simp only [Mode.shift, pushCode_shift]
    split
    · rfl
    · split <;> rfl

theorem finish_shift : (s.shift k).finish = s.finish.shift k n := by
  unfold finish
  rw [shift_mode]
  cases s.mode <;> rfl

/-- Only a first line can name an interpreter. -/
theorem isInterpreterLine_shift {texts : List Chars} {l : Line} (hl : l ∈ Line.locate 1 0 texts)
    (hfirst : k = 0 ∨ ∀ m ∈ (Line.locate 1 0 texts).head?, ¬ ['#', '!'] <+: m.trimmed) :
    isInterpreterLine (l.shift k n) = isInterpreterLine l := by
  rcases hfirst with rfl | hfirst
  · rfl
  cases texts with
  | nil => cases hl
  | cons t texts =>
    rw [Line.locate, List.mem_cons] at hl
    rcases hl with rfl | hl
    · have hname : ['#', '!'].isPrefixOf (Line.trimmed ⟨1, 0, t⟩) = false := by
        rw [Bool.eq_false_iff, ne_eq, List.isPrefixOf_iff_prefix]
        exact hfirst _ rfl
      simp [isInterpreterLine, hname]
    · have := Line.le_number_of_mem_locate hl
      have hnumber : (l.number == 1) = false := by simp only [beq_eq_false_iff_ne]; omega
      have hnumber' : (l.number + k == 1) = false := by simp only [beq_eq_false_iff_ne]; omega
      simp [isInterpreterLine, hnumber, hnumber']

end State

end Shift

/-- A source behind one that leaves nothing open adds what it adds alone, further down, unless the
first of its lines to stand further down named an interpreter. -/
theorem flow_append {first rest : Chars} (hends : EndsLine first)
    (hopen : (builder.run .start (Line.ofSource first)).state = .start)
    (hname : first = [] ∨ ∀ l ∈ (Line.ofSource rest).head?, ¬ ['#', '!'] <+: l.trimmed) :
    builder.flow (first ++ rest) = builder.flow first ++
      (builder.flow rest).shift (Line.ofSource first).length (byteLength first) := by
  refine builder.flow_append hends hopen rfl rfl (fun l hl s => ?_) (State.finish_shift _ _)
  refine State.push_shift _ _ s (State.isInterpreterLine_shift _ _ hl ?_)
  refine hname.imp ?_ id
  rintro rfl
  rfl

end NestChart.Indent
