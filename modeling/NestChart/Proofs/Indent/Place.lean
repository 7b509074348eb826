import NestChart.Proofs.Alike
import NestChart.Proofs.Indent.WellFormed

/-!
# NestChart.Proofs.Indent.Place

What a line of an indentation language does depends on its content, not on where it stands. States
are `Alike` if they differ in the line on which an open string began only. A line then does the same
from both (`State.push_alike`), unless it names an interpreter at one of its places.
-/

namespace NestChart.Indent

open Text

variable {R : Nat → Nat → Prop}

/-- The same is open; a string began on lines that go with each other. -/
inductive Mode.Alike (R : Nat → Nat → Prop) : Mode → Mode → Prop
  | code : Mode.Alike R .code .code
  | string (style : QuoteStyle) (depth : Nat) {line line' : Nat} (h : R line line') :
      Mode.Alike R (.string style depth line) (.string style depth line')
  | continued (brackets depth : Nat) :
      Mode.Alike R (.continued brackets depth) (.continued brackets depth)

namespace State

/-- The states are the same but for the line on which an open string began. -/
structure Alike (R : Nat → Nat → Prop) (s t : State) : Prop where
  levels : t.levels = s.levels
  afterOpener : t.afterOpener = s.afterOpener
  mode : s.mode.Alike R t.mode

variable {s t : State} {l m : Line}

theorem Alike.start : State.start.Alike R .start := ⟨rfl, rfl, .code⟩

theorem node_alike (hc : m.content = l.content) (hline : R l.number m.number) (depth : Nat)
    (category : Category) :
    (node m depth category).text = (node l depth category).text ∧
      (node m depth category).depth = (node l depth category).depth ∧
      (node m depth category).category = (node l depth category).category ∧
      R (node l depth category).line (node m depth category).line :=
  ⟨congrArg trim hc, rfl, rfl, hline⟩

theorem endLine_alike (hl : t.levels = s.levels) (ha : t.afterOpener = s.afterOpener)
    (text : Chars) (balance : Int) (depth : Nat) :
    (s.endLine text balance depth).Alike R (t.endLine text balance depth) := by
  unfold endLine
  split
  · exact ⟨hl, ha, .continued _ _⟩
  · exact ⟨hl, rfl, .code⟩

theorem align_levels (hl : t.levels = s.levels) (column i j : Nat) :
    (t.align column j).1.levels = (s.align column i).1.levels := by
  simp only [align, hl]
  split <;> rfl

theorem align_afterOpener (s : State) (column i : Nat) :
    (s.align column i).1.afterOpener = s.afterOpener := by
  simp only [align]
  split <;> rfl

theorem align_anomalies_alike (hl : t.levels = s.levels) {i j : Nat} (h : R i j) (column : Nat) :
    List.Forall₂ (fun a b => b.kind = a.kind ∧ R a.line b.line) (s.align column i).2
      (t.align column j).2 := by
  simp only [align, hl]
  split
  · split
    · exact .cons ⟨rfl, h⟩ .nil
    · exact .nil
  · exact .nil

theorem pushCode_alike (hl : t.levels = s.levels) (ha : t.afterOpener = s.afterOpener)
    (hc : m.content = l.content) (hline : R l.number m.number) :
    (s.pushCode l).Alike (Alike R) R (t.pushCode m) := by
  have htrimmed : m.trimmed = l.trimmed := congrArg trim hc
  have hlevels := align_levels hl (column l.content) l.number m.number
  have hdepth : (t.align (column l.content) m.number).1.depth =
      (s.align (column l.content) l.number).1.depth := congrArg List.length hlevels
  have hopener : (t.align (column l.content) m.number).1.afterOpener =
      (s.align (column l.content) l.number).1.afterOpener := by
    rw [align_afterOpener, align_afterOpener, ha]
  simp only [pushCode, htrimmed, hc, hdepth]
  refine ⟨?_, .cons (node_alike hc hline _ _) .nil, align_anomalies_alike hl hline _⟩
  split
  · exact ⟨hlevels, rfl, .string _ _ hline⟩
  · exact endLine_alike hlevels hopener _ _ _

theorem commentDepth_alike (h : s.Alike R t) (column : Nat) :
    t.commentDepth column = s.commentDepth column := by
  rw [commentDepth, commentDepth, top, top, h.levels, h.afterOpener]

/-- A line of one content does the same from states that are alike. -/
theorem push_alike (h : s.Alike R t) (hc : m.content = l.content) (hline : R l.number m.number)
    (hi : isInterpreterLine m = isInterpreterLine l) :
    (s.push l).Alike (Alike R) R (t.push m) := by
  have htrimmed : m.trimmed = l.trimmed := congrArg trim hc
  simp only [push, htrimmed, hc, hi, commentDepth_alike h]
  split
  · exact .goto h
  obtain ⟨hlevels, hopener, hmode⟩ := h
  generalize hs : s.mode = mode at hmode
  generalize ht : t.mode = mode' at hmode
  cases hmode with
  | string style depth hstring =>
    refine .emit ?_ (node_alike hc hline _ _)
    split
    · exact ⟨hlevels, hopener, .code⟩
    · refine ⟨hlevels, hopener, ?_⟩
      rw [hs, ht]
      exact .string style depth hstring
  | continued brackets depth =>
    exact .emit (endLine_alike hlevels hopener _ _ _) (node_alike hc hline _ _)
  | code =>
    have hcode : s.Alike R t := ⟨hlevels, hopener, by rw [hs, ht]; exact .code⟩
    simp only
    split
    · exact .goto hcode
    split
    · exact .emit hcode (node_alike hc hline _ _)
    · exact pushCode_alike hlevels hopener hc hline

theorem finish_alike (h : s.Alike R t) : s.finish.Alike R t.finish := by
  have hmode := h.mode
  unfold finish
  generalize s.mode = mode at hmode
  generalize t.mode = mode' at hmode
  cases hmode with
  | string style depth hline => exact ⟨.nil, .cons ⟨rfl, hline⟩ .nil⟩
  | code => exact .empty
  | continued => exact .empty

end State
end NestChart.Indent
