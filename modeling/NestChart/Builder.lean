import NestChart.Node

/-!
# NestChart.Builder

Building a flow line by line. A step gives the next state and what it adds to the flow; a builder
runs over lines from its first state and may add something at the end. The state never holds what
has been added, so two runs from one state add the same.
-/

namespace NestChart

/-- A state and what reaching it has added to the flow. -/
structure Step (σ : Type) where
  state : σ
  flow : Flow
  deriving Repr, DecidableEq

namespace Step

variable {σ : Type}

/-- Goes to a state and adds nothing. -/
def goto (s : σ) : Step σ := ⟨s, .empty⟩

/-- Goes to a state and adds one node. -/
def emit (s : σ) (n : Node) : Step σ := ⟨s, .ofNode n⟩

/-- Goes on from the state reached. -/
def andThen (x : Step σ) (f : σ → Step σ) : Step σ :=
  ⟨(f x.state).state, x.flow ++ (f x.state).flow⟩

@[simp] theorem goto_andThen (s : σ) (f : σ → Step σ) : (goto s).andThen f = f s := by
  simp [goto, andThen]

@[simp] theorem andThen_goto (x : Step σ) : x.andThen goto = x := by
  simp [goto, andThen]

theorem andThen_assoc (x : Step σ) (f g : σ → Step σ) :
    (x.andThen f).andThen g = x.andThen fun s => (f s).andThen g := by
  simp [andThen, Flow.append_assoc]

end Step

/-- A way to build a flow from lines. -/
structure Builder (σ : Type) where
  start : σ
  push : σ → Line → Step σ
  /-- What is added when there are no more lines. -/
  finish : σ → Flow
  /-- How many blocks are open. -/
  depth : σ → Nat

namespace Builder

variable {σ : Type}

/-- Pushes lines in order. -/
def run (b : Builder σ) (s : σ) : List Line → Step σ
  | [] => .goto s
  | l :: ls => (b.push s l).andThen fun s => b.run s ls

/-- The depth after each line. -/
def depths (b : Builder σ) (s : σ) : List Line → List Nat
  | [] => []
  | l :: ls => b.depth (b.push s l).state :: b.depths (b.push s l).state ls

/-- The flow of a source. -/
def flow (b : Builder σ) (source : Chars) : Flow :=
  let reached := b.run b.start (Line.ofSource source)
  reached.flow ++ b.finish reached.state

theorem run_append (b : Builder σ) (s : σ) (ls ms : List Line) :
    b.run s (ls ++ ms) = (b.run s ls).andThen fun s => b.run s ms := by
  induction ls generalizing s with
  | nil => simp [run]
  | cons l ls ih => simp [run, ih, Step.andThen_assoc]

end Builder
end NestChart
