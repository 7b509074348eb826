import Mathlib.Data.List.Forall2
import NestChart.Proofs.Builder

/-!
# NestChart.Proofs.Alike

Flows that are the same but for places. `R` says which line numbers go with each other. Two runs of
a builder over lines that go with each other add alike flows, if each two lines do
(`Builder.run_alike`).
-/

namespace NestChart

/-- The same nodes and anomalies in the same order, on lines that go with each other. -/
structure Flow.Alike (R : Nat → Nat → Prop) (f g : Flow) : Prop where
  nodes : List.Forall₂
    (fun n m => m.text = n.text ∧ m.depth = n.depth ∧ m.category = n.category ∧ R n.line m.line)
    f.nodes g.nodes
  anomalies : List.Forall₂ (fun a b => b.kind = a.kind ∧ R a.line b.line) f.anomalies g.anomalies

namespace Flow.Alike

variable {R : Nat → Nat → Prop} {f g f' g' : Flow}

theorem empty : Alike R .empty .empty := ⟨.nil, .nil⟩

theorem append (h : f.Alike R g) (h' : f'.Alike R g') : (f ++ f').Alike R (g ++ g') :=
  ⟨List.rel_append h.nodes h'.nodes, List.rel_append h.anomalies h'.anomalies⟩

theorem outline_eq (h : f.Alike R g) : g.outline = f.outline := by
  rw [eq_comm, outline, outline, ← List.forall₂_eq_eq_eq, List.forall₂_map_left_iff,
    List.forall₂_map_right_iff]
  refine h.nodes.imp ?_
  rintro n m ⟨htext, hdepth, hcategory, -⟩
  rw [htext, hdepth, hcategory]

theorem kinds_eq (h : f.Alike R g) :
    g.anomalies.map Anomaly.kind = f.anomalies.map Anomaly.kind := by
  rw [eq_comm, ← List.forall₂_eq_eq_eq, List.forall₂_map_left_iff, List.forall₂_map_right_iff]
  exact h.anomalies.imp fun _ _ ha => ha.1.symm

end Flow.Alike

variable {σ : Type} {Q : σ → σ → Prop} {R : Nat → Nat → Prop}

/-- The steps add the same but for places, and the states they reach are related. -/
structure Step.Alike (Q : σ → σ → Prop) (R : Nat → Nat → Prop) (x y : Step σ) : Prop where
  state : Q x.state y.state
  flow : x.flow.Alike R y.flow

namespace Step.Alike

theorem goto {s t : σ} (h : Q s t) : Alike Q R (.goto s) (.goto t) := ⟨h, .empty⟩

theorem emit {s t : σ} {n m : Node} (h : Q s t)
    (hn : m.text = n.text ∧ m.depth = n.depth ∧ m.category = n.category ∧ R n.line m.line) :
    Alike Q R (.emit s n) (.emit t m) := ⟨h, .cons hn .nil, .nil⟩

theorem andThen {x y : Step σ} {f g : σ → Step σ} (h : x.Alike Q R y)
    (hf : (f x.state).Alike Q R (g y.state)) : (x.andThen f).Alike Q R (y.andThen g) :=
  ⟨hf.state, h.flow.append hf.flow⟩

end Step.Alike

/-- Lines that do the same one by one do the same one after the other. -/
theorem Builder.run_alike (b : Builder σ) {P : Line → Line → Prop}
    (push : ∀ s t l m, Q s t → P l m → (b.push s l).Alike Q R (b.push t m)) {ls ms : List Line}
    (h : List.Forall₂ P ls ms) {s t : σ} (hst : Q s t) :
    (b.run s ls).Alike Q R (b.run t ms) := by
  induction h generalizing s t with
  | nil => exact .goto hst
  | cons hlm _ ih =>
    have hpush := push _ _ _ _ hst hlm
    exact hpush.andThen (ih hpush.state)

end NestChart
