import NestChart.Proofs.Alike
import NestChart.Proofs.Brace.Run

/-!
# NestChart.Proofs.Brace.Place

What a line does depends on its text and not on where it stands. Two steps are `Alike` if they show
the same nodes at the same depths and leave the same open, but for bytes and line numbers; `R` says
which line numbers go with each other. `run_alike` reads one text at two places.
-/

namespace NestChart

namespace Brace

open Text

/-- The same lines at the same depth, begun on lines that go with each other. -/
def OpenComment.Alike (R : Nat → Nat → Prop) (c d : OpenComment) : Prop :=
  d.lines = c.lines ∧ d.depth = c.depth ∧ R c.line d.line

namespace State

def setComment (c : Option OpenComment) (s : State) : State := { s with comment? := c }

/-- The states are the same but for the place of an open comment. -/
structure Alike (R : Nat → Nat → Prop) (s t : State) : Prop where
  eq_setComment : t = s.setComment t.comment?
  comment : Option.Rel (OpenComment.Alike R) s.comment? t.comment?

/-- The steps add the same and reach the same, but for places. -/
structure StepsAlike (R : Nat → Nat → Prop) (x y : Step State) : Prop where
  state : x.state.Alike R y.state
  flow : x.flow.Alike R y.flow

variable {R : Nat → Nat → Prop} {s t : State}

namespace Alike

theorem effectiveDepth_eq (h : s.Alike R t) : t.effectiveDepth = s.effectiveDepth := by
  rw [h.eq_setComment]
  rfl

/-- An operation that does not read the comment leaves states alike. -/
theorem map (h : s.Alike R t) {f : State → State}
    (hf : ∀ s c, f (s.setComment c) = (f s).setComment c) : (f s).Alike R (f t) := by
  have hc : ∀ u : State, (f u).comment? = u.comment? := by
    intro u
    rw [show f u = (f u).setComment u.comment? from hf u u.comment?]
    rfl
  constructor
  · rw [hc, ← hf, ← h.eq_setComment]
  · rw [hc, hc]
    exact h.comment

/-- Without a comment there is nothing to tell the states apart. -/
theorem eq_of_none (h : s.Alike R t) (hs : s.comment? = none) : t = s := by
  have ht : t.comment? = none := by
    have hrel := h.comment
    rw [hs] at hrel
    generalize t.comment? = c at hrel
    cases hrel
    rfl
  rw [h.eq_setComment, ht, ← hs]
  rfl

theorem refl_of_none (hs : s.comment? = none) : s.Alike R s :=
  ⟨rfl, hs ▸ .none⟩

end Alike

theorem stepsAlike_iff {x y : Step State} : StepsAlike R x y ↔ x.Alike (State.Alike R) R y :=
  ⟨fun h => ⟨h.state, h.flow⟩, fun h => ⟨h.state, h.flow⟩⟩

namespace StepsAlike

theorem goto (h : s.Alike R t) : StepsAlike R (.goto s) (.goto t) := ⟨h, .empty⟩

theorem andThen {x y : Step State} {f g : State → Step State} (h : StepsAlike R x y)
    (hf : StepsAlike R (f x.state) (g y.state)) : StepsAlike R (x.andThen f) (y.andThen g) :=
  ⟨hf.state, h.flow.append hf.flow⟩

theorem emit {line line' : Nat} (h : s.Alike R t) (hline : R line line') {text : Chars}
    {start start' depth : Nat} {category : Category} :
    StepsAlike R (.emit s (State.node ⟨text, start⟩ depth category line))
      (.emit t (State.node ⟨text, start'⟩ depth category line')) :=
  ⟨h, .cons ⟨rfl, rfl, rfl, hline⟩ .nil, .nil⟩

theorem besideDepth_eq {x y : Step State} (h : StepsAlike R x y) :
    besideDepth y = besideDepth x := by
  rw [besideDepth_eq_outline, besideDepth_eq_outline, h.flow.outline_eq, h.state.effectiveDepth_eq]

end StepsAlike

section Place

variable {line line' : Nat} {text : Chars} {start start' : Nat}

theorem closeBlock_alike (h : s.Alike R t) (hline : R line line') :
    StepsAlike R (s.closeBlock line) (t.closeBlock line') := by
  have hstate : (t.closeBlock line').state = (t.closeBlock line).state := by
    simp only [closeBlock, Nesting.close]
    split <;> rfl
  refine ⟨?_, .nil, ?_⟩
  · rw [hstate]
    exact h.map (f := fun u => (u.closeBlock line).state) fun _ _ => rfl
  · rw [h.eq_setComment]
    simp only [closeBlock, Nesting.close, setComment]
    split
    · exact .cons ⟨rfl, hline⟩ .nil
    · exact .nil

theorem placeComment_alike (h : s.Alike R t) (hline : R line line') (depth : Nat) :
    StepsAlike R (s.placeComment ⟨text, start⟩ depth line)
      (t.placeComment ⟨text, start'⟩ depth line') := by
  have hcomment : OpenComment.Alike R
      ⟨[text], depth, line, (Piece.mk text start).span⟩
      ⟨[text], depth, line', (Piece.mk text start').span⟩ := ⟨rfl, rfl, hline⟩
  simp only [placeComment]
  split
  · refine .goto ⟨?_, .some hcomment⟩
    rw [h.eq_setComment]
    rfl
  · exact .emit h hline

theorem answerIf_setComment (s : State) (c : Option OpenComment) (text : Chars) :
    (s.setComment c).answerIf text = (s.answerIf text).setComment c := by
  unfold answerIf
  rw [apply_ite (setComment c)]
  refine if_congr Iff.rfl ?_ rfl
  cases hd : s.danglingIfs <;> simp [setComment, hd]

theorem awaitBody_setComment (s : State) (c : Option OpenComment) (text : Chars) :
    (s.setComment c).awaitBody text = (s.awaitBody text).setComment c := by
  unfold awaitBody
  split <;> split <;> rfl

theorem placeHeader_alike (h : s.Alike R t) (hline : R line line') (opens : Bool) :
    StepsAlike R (s.placeHeader ⟨text, start⟩ opens line)
      (t.placeHeader ⟨text, start'⟩ opens line') := by
  have ha : (s.answerIf text).Alike R (t.answerIf text) :=
    h.map fun u c => answerIf_setComment u c text
  simp only [placeHeader, ha.effectiveDepth_eq]
  refine .emit ?_ hline
  cases opens with
  | true =>
    exact ha.map (f := fun u =>
      openBlock { u with opensSwitch := Shape.isSwitch text, pending := u.pending + 1 })
      fun _ _ => rfl
  | false => exact ha.map fun u c => awaitBody_setComment u c text

theorem placeLabel_alike (h : s.Alike R t) (hline : R line line') :
    StepsAlike R (s.placeLabel ⟨text, start⟩ line) (t.placeLabel ⟨text, start'⟩ line') := by
  have hframes : t.frames = s.frames := by
    rw [h.eq_setComment]
    rfl
  unfold placeLabel
  rw [hframes, h.effectiveDepth_eq]
  cases s.frames.top?.bind Frame.labels? with
  | some labels =>
    have hbody := h.map (f := fun u => { u with depth := labels + 1 }.settle) fun _ _ => rfl
    simp only [hframes] at hbody
    exact .emit hbody hline
  | none => exact .emit h hline

theorem openBlockIf_alike (h : s.Alike R t) (opens : Bool) :
    (s.openBlockIf opens).Alike R (t.openBlockIf opens) := by
  cases opens with
  | true => exact h.map fun _ _ => rfl
  | false => exact h

theorem placeDeclaration_alike (h : s.Alike R t) (hline : R line line') (category : Category)
    (opens : Bool) :
    StepsAlike R (s.placeDeclaration category ⟨text, start⟩ opens line)
      (t.placeDeclaration category ⟨text, start'⟩ opens line') := by
  simp only [placeDeclaration, h.effectiveDepth_eq]
  exact .emit (openBlockIf_alike (h.map fun _ _ => rfl) opens) hline

theorem placeStatements_alike (h : s.Alike R t) (hline : R line line')
    (segments : List Statement.Segment) (opens : Bool) :
    StepsAlike R
      (s.placeStatements (segments.map fun g => ⟨g.text, start + g.start⟩) opens line)
      (t.placeStatements (segments.map fun g => ⟨g.text, start' + g.start⟩) opens line') := by
  simp only [placeStatements, h.effectiveDepth_eq, List.isEmpty_map]
  refine ⟨openBlockIf_alike ?_ opens, ?_, .nil⟩
  · split
    · exact h
    · exact h.map fun _ _ => rfl
  · rw [List.map_map, List.map_map, List.forall₂_map_left_iff, List.forall₂_map_right_iff,
      List.forall₂_same]
    exact fun g _ => ⟨rfl, rfl, rfl, hline⟩

/-- A text does the same at any place. -/
theorem run_alike (h : s.Alike R t) (hline : R line line') (text : Chars) (start start' : Nat) :
    StepsAlike R (run line (.ofText text start) s) (run line' (.ofText text start') t) := by
  induction text using Parts.ofText_induction generalizing start start' s t with
  | nil =>
    rw [Parts.ofText_nil, Parts.ofText_nil]
    exact .goto h
  | closer cs ih =>
    have hc : Block.afterClose? ('}' :: cs) = some (trimStart cs) := rfl
    rw [Parts.ofText_closer hc, Parts.ofText_closer hc]
    have hclose := closeBlock_alike h hline
    exact hclose.andThen (ih hclose.state _ _)
  | opener =>
    rw [Parts.ofText_opener, Parts.ofText_opener]
    exact .goto (h.map fun _ _ => rfl)
  | directive text hd =>
    rw [Parts.ofText_directive hd, Parts.ofText_directive hd]
    simp only [run, h.effectiveDepth_eq]
    exact .emit h hline
  | beside text code behind hbare hm ih =>
    rw [Parts.ofText_beside hbare hm, Parts.ofText_beside hbare hm]
    have hcode := ih h start start'
    rw [run_beside, run_beside, hcode.besideDepth_eq]
    exact hcode.andThen (placeComment_alike hcode.state hline _)
  | both text left right hbare hm hb ihl ihr =>
    rw [Parts.ofText_both hbare hm hb, Parts.ofText_both hbare hm hb]
    have hleft := ihl h start start'
    exact hleft.andThen (ihr hleft.state _ _)
  | undivided text hu ih =>
    rw [Parts.ofText_undivided hu, Parts.ofText_undivided hu]
    cases classify text with
    | comment =>
      simp only [run, h.effectiveDepth_eq]
      exact placeComment_alike h hline _
    | directive =>
      simp only [run, h.effectiveDepth_eq]
      exact .emit h hline
    | controlHeader =>
      cases hl : Shape.label? text with
      | none => exact placeHeader_alike h hline _
      | some r =>
        obtain ⟨label, rest⟩ := r
        have hlabel : StepsAlike R (s.placeLabel ⟨label, start⟩ line)
            (t.placeLabel ⟨label, start'⟩ line') := placeLabel_alike h hline
        exact hlabel.andThen (ih label rest hl hlabel.state _ _)
    | prototype => exact placeDeclaration_alike h hline _ _
    | declaration => exact placeDeclaration_alike h hline _ _
    | statement => exact placeStatements_alike h hline _ _

end Place
end State

/-! ## Steps that agree -/

/-- The steps reach the same state, and what they add differs in line numbers and bytes only. -/
structure Agrees (x y : Step State) : Prop where
  state : y.state = x.state
  outline : y.flow.outline = x.flow.outline
  kinds : y.flow.anomalies.map Anomaly.kind = x.flow.anomalies.map Anomaly.kind

namespace Agrees

variable {x y : Step State}

theorem refl (x : Step State) : Agrees x x := ⟨rfl, rfl, rfl⟩

theorem andThen {f g : State → Step State} (h : Agrees x y)
    (hf : Agrees (f x.state) (g x.state)) : Agrees (x.andThen f) (y.andThen g) := by
  obtain ⟨hstate, houtline, hkinds⟩ := hf
  refine ⟨?_, ?_, ?_⟩
  · rw [Step.andThen, h.state]
    exact hstate
  · rw [Step.andThen, Step.andThen, h.state, Flow.outline_append, Flow.outline_append, h.outline,
      houtline]
  · rw [Step.andThen, Step.andThen, h.state, Flow.anomalies_append, Flow.anomalies_append,
      List.map_append, List.map_append, h.kinds, hkinds]

theorem of_alike {R : Nat → Nat → Prop} (h : State.StepsAlike R x y)
    (hx : x.state.comment? = none) : Agrees x y :=
  ⟨h.state.eq_of_none hx, h.flow.outline_eq, h.flow.kinds_eq⟩

theorem besideDepth_eq (h : Agrees x y) : State.besideDepth y = State.besideDepth x := by
  rw [State.besideDepth_eq_outline, State.besideDepth_eq_outline, h.outline, h.state]

end Agrees

/-- A text without a comment mark agrees with itself at any other place. -/
theorem State.run_agrees {s : State} {text : Chars} (hu : Uncommented text) (ht : Trimmed text)
    (hs : s.comment? = none) (line line' start start' : Nat) :
    Agrees (run line (.ofText text start) s) (run line' (.ofText text start') s) := by
  have hplace : line = line ∧ line' = line' := ⟨rfl, rfl⟩
  have halike := run_alike (R := fun i j => i = line ∧ j = line') (.refl_of_none hs) hplace text
    start start'
  exact .of_alike halike (comment?_run hu ht hs line start)

end Brace
end NestChart

