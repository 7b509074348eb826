import NestChart.Proofs.Brace.Layout
import NestChart.Proofs.Brace.Run
import NestChart.Proofs.Builder

/-!
# NestChart.Proofs.Brace.Tree

Programs as trees, and reading them back. A tree is printed one head, label, statement or closing
brace on each line (`Tree.lines`); its outline says at which depth each of them lies. `flow_of_tree`
proves that reading the lines, however they are indented, shows the outline.

`State.Awaits` is the invariant: what is open around a tree, and how many heads wait for it. Every
tree leaves what is around it as it was and serves the heads (`Tree.reads`).
-/

namespace NestChart

open Text

namespace Brace

/-! ## Trees -/

/-- A tree is one statement with all that belongs to it, the statements of a block, or the labels
of a choice with their statements. -/
inductive TreeKind
  | statement
  | items
  | cases

inductive Tree : TreeKind → Type
  | single (text : Chars) : Tree .statement
  /-- A head whose body stands between braces. -/
  | block (head : Chars) (body : Tree .items) : Tree .statement
  /-- A head whose body is the next statement. -/
  | bare (head : Chars) (body : Tree .statement) : Tree .statement
  /-- A `switch`. -/
  | choice (head : Chars) (body : Tree .cases) : Tree .statement
  | done : Tree .items
  | item (first : Tree .statement) (rest : Tree .items) : Tree .items
  /-- An `if` with its body between braces, and the `else` that answers it. -/
  | branch (head : Chars) (body : Tree .items) (answer : Tree .statement) (rest : Tree .items) :
      Tree .items
  | noCase : Tree .cases
  | case (label : Chars) (body : Tree .items) (rest : Tree .cases) : Tree .cases

namespace Tree

/-- A head and the brace behind it. -/
def opening (head : Chars) : Chars := head ++ [' ', '{']

/-- The printed lines, without indentation. -/
def lines : {kind : TreeKind} → Tree kind → List Chars
  | _, single text => [text]
  | _, block head body => opening head :: (body.lines ++ [['}']])
  | _, bare head body => head :: body.lines
  | _, choice head body => opening head :: (body.lines ++ [['}']])
  | _, done => []
  | _, item first rest => first.lines ++ rest.lines
  | _, branch head body answer rest =>
    opening head :: (body.lines ++ [['}']]) ++ answer.lines ++ rest.lines
  | _, noCase => []
  | _, case label body rest => label :: body.lines ++ rest.lines

/-- Heads, labels and statements in order, each with its depth if the tree lies at `depth`. -/
def outline : {kind : TreeKind} → Tree kind → Nat → List (Chars × Nat × Category)
  | _, single text, depth => (Statement.segments text).map fun s => (s.text, depth, .statement)
  | _, block head body, depth => (head, depth, .controlHeader) :: body.outline (depth + 1)
  | _, bare head body, depth => (head, depth, .controlHeader) :: body.outline (depth + 1)
  | _, choice head body, depth => (head, depth, .controlHeader) :: body.outline (depth + 1)
  | _, done, _ => []
  | _, item first rest, depth => first.outline depth ++ rest.outline depth
  | _, branch head body answer rest, depth =>
    (head, depth, .controlHeader) :: body.outline (depth + 1) ++ answer.outline depth ++
      rest.outline depth
  | _, noCase, _ => []
  | _, case label body rest, depth =>
    (label, depth, .controlHeader) :: body.outline (depth + 1) ++ rest.outline depth

/-- The tree begins with an `else`. -/
def answers : {kind : TreeKind} → Tree kind → Bool
  | _, block head _ => Shape.isElse head
  | _, bare head _ => Shape.isElse head
  | _, _ => false

/-- Every text is what its place asks for, and an `else` stands only behind an `if` between
braces. -/
def Valid : {kind : TreeKind} → Tree kind → Prop
  | _, single text => Single text
  | _, block head body => Head head ∧ Shape.isSwitch head = false ∧ body.Valid
  | _, bare head body =>
    Head head ∧ Shape.isSwitch head = false ∧ body.answers = false ∧ body.Valid
  | _, choice head body => Head head ∧ Shape.isSwitch head = true ∧ body.Valid
  | _, done => True
  | _, item first rest => first.answers = false ∧ first.Valid ∧ rest.Valid
  | _, branch head body answer rest =>
    (Head head ∧ Shape.isIf head = true ∧ Shape.isElse head = false ∧ Shape.isSwitch head = false) ∧
      body.Valid ∧ (answer.answers = true ∧ answer.Valid) ∧ rest.Valid
  | _, noCase => True
  | _, case label body rest => Label label ∧ body.Valid ∧ rest.Valid

/-- Whether a tree is valid can be decided text by text. -/
def decideValid : {kind : TreeKind} → (t : Tree kind) → Decidable t.Valid
  | _, single text => inferInstanceAs (Decidable (Single text))
  | _, block head body =>
    have := body.decideValid
    inferInstanceAs (Decidable (Head head ∧ Shape.isSwitch head = false ∧ body.Valid))
  | _, bare head body =>
    have := body.decideValid
    inferInstanceAs (Decidable
      (Head head ∧ Shape.isSwitch head = false ∧ body.answers = false ∧ body.Valid))
  | _, choice head body =>
    have := body.decideValid
    inferInstanceAs (Decidable (Head head ∧ Shape.isSwitch head = true ∧ body.Valid))
  | _, done => inferInstanceAs (Decidable True)
  | _, item first rest =>
    have := first.decideValid
    have := rest.decideValid
    inferInstanceAs (Decidable (first.answers = false ∧ first.Valid ∧ rest.Valid))
  | _, branch head body answer rest =>
    have := body.decideValid
    have := answer.decideValid
    have := rest.decideValid
    inferInstanceAs (Decidable
      ((Head head ∧ Shape.isIf head = true ∧ Shape.isElse head = false ∧
        Shape.isSwitch head = false) ∧
        body.Valid ∧ (answer.answers = true ∧ answer.Valid) ∧ rest.Valid))
  | _, noCase => inferInstanceAs (Decidable True)
  | _, case label body rest =>
    have := body.decideValid
    have := rest.decideValid
    inferInstanceAs (Decidable (Label label ∧ body.Valid ∧ rest.Valid))

instance {kind : TreeKind} (t : Tree kind) : Decidable t.Valid := t.decideValid

end Tree

/-! ## Reading lines from a state -/

namespace State

/-- From `s` on, lines with these texts show an outline, report nothing and reach `P`. -/
def Yields (s : State) (texts : List Chars) (shown : List (Chars × Nat × Category))
    (P : State → Prop) : Prop :=
  ∀ ls : List Line, ls.map Line.trimmed = texts →
    (builder.run s ls).flow.outline = shown ∧ (builder.run s ls).flow.anomalies = [] ∧
      P (builder.run s ls).state

namespace Yields

variable {s : State} {P Q : State → Prop} {texts more : List Chars}
  {shown shown' : List (Chars × Nat × Category)}

theorem nil (h : P s) : Yields s [] [] P := by
  intro ls hls
  rw [List.map_eq_nil_iff] at hls
  subst hls
  exact ⟨rfl, rfl, h⟩

theorem append (h : Yields s texts shown P) (hm : ∀ t, P t → Yields t more shown' Q) :
    Yields s (texts ++ more) (shown ++ shown') Q := by
  intro ls hls
  obtain ⟨as, bs, rfl, has, hbs⟩ := List.map_eq_append_iff.1 hls
  obtain ⟨h1, h2, h3⟩ := h as has
  obtain ⟨k1, k2, k3⟩ := hm _ h3 bs hbs
  rw [Builder.run_append]
  refine ⟨?_, ?_, k3⟩
  · rw [Step.andThen, Flow.outline_append, h1, k1]
  · rw [Step.andThen, Flow.anomalies_append, h2, k2]
    rfl

theorem cons {text : Chars} (h : Yields s [text] shown P)
    (hm : ∀ t, P t → Yields t more shown' Q) : Yields s (text :: more) (shown ++ shown') Q :=
  h.append hm

theorem mono (h : Yields s texts shown P) (hPQ : ∀ t, P t → Q t) : Yields s texts shown Q :=
  fun ls hls => ⟨(h ls hls).1, (h ls hls).2.1, hPQ _ (h ls hls).2.2⟩

/-- One line outside comments. -/
theorem line {text : Chars} (hs : s.comment? = none) (hn : text ≠ [])
    (h : ∀ number start, (run number (.ofText text start) s).flow.outline = shown ∧
      (run number (.ofText text start) s).flow.anomalies = [] ∧
      P (run number (.ofText text start) s).state) : Yields s [text] shown P := by
  intro ls hls
  obtain ⟨l, rfl, rfl⟩ := List.map_eq_singleton_iff.1 hls
  have hpush : builder.run s [l] = run l.number (.ofText l.trimmed l.trimmedSpan.start) s := by
    rw [Builder.run_cons, ← push_of_ne_nil hs hn]
    exact Step.andThen_goto _
  rw [hpush]
  exact h _ _

end Yields

/-! ## Lines of a tree -/

/-- No comment is open, no `switch` waits for its brace, the blocks are `frames`, and `pending`
heads wait for a body at `depth`. -/
structure Awaits (frames : List Frame) (depth pending : Nat) (s : State) : Prop where
  frames_eq : s.frames = ⟨frames⟩
  depth_eq : s.depth = depth
  pending_eq : s.pending = pending
  no_switch : s.opensSwitch = false
  no_comment : s.comment? = none

/-- A head that answers no braceless `if` only ends their wait. -/
theorem answerIf_of_no_dangling {s : State} {text : Chars}
    (h : Shape.isElse text = true → s.danglingIfs = []) :
    s.answerIf text = { s with danglingIfs := [] } := by
  unfold answerIf
  split
  · rename_i hc
    simp only [Bool.and_eq_true] at hc
    rw [h hc.2]
    obtain ⟨_, _, _, _, _, _, _⟩ := s
    simp_all
  · rfl

namespace Awaits

variable {s : State} {frames : List Frame} {depth pending : Nat} {text : Chars}

/-- What is shown now lies below all heads that wait. -/
theorem effectiveDepth (h : Awaits frames depth pending s) :
    s.effectiveDepth = depth + pending := by
  rw [State.effectiveDepth, h.depth_eq, h.pending_eq]

/-- A head is shown where the heads wait that it leaves, and waits below them. -/
theorem head (h : Awaits frames depth pending (s.answerIf text)) (ht : Head text)
    (hsw : Shape.isSwitch text = false) :
    Yields s [text] [(text, depth + pending, .controlHeader)] fun t =>
      Awaits frames depth (pending + 1) t ∧ t.pendingIfs =
        if Shape.isIf text then pending :: (s.answerIf text).pendingIfs
        else (s.answerIf text).pendingIfs := by
  have hnone : s.comment? = none := by
    rw [← answerIf_comment? s text]
    exact h.no_comment
  refine .line hnone ht.ne_nil fun number start => ?_
  rw [ht.ofText, run, placeHeader]
  refine ⟨by simp [Flow.outline, Step.emit, node, h.effectiveDepth], rfl, ?_⟩
  have hpending : (s.answerIf text).pending + 1 = pending + 1 := congrArg (· + 1) h.pending_eq
  simp only [Step.emit, awaitBody, ht.not_isComplete, hsw, Bool.false_eq_true, if_false]
  split
  · refine ⟨⟨h.frames_eq, h.depth_eq, hpending, rfl, h.no_comment⟩, ?_⟩
    rw [← h.pending_eq]
  · exact ⟨⟨h.frames_eq, h.depth_eq, hpending, rfl, h.no_comment⟩, rfl⟩

theorem bare (h : Awaits frames depth pending s) (ht : Head text)
    (hsw : Shape.isSwitch text = false) (he : Shape.isElse text = true → s.danglingIfs = []) :
    Yields s [text] [(text, depth + pending, .controlHeader)]
      (Awaits frames depth (pending + 1)) := by
  have hs : Awaits frames depth pending (s.answerIf text) := by
    rw [answerIf_of_no_dangling he]
    exact ⟨h.frames_eq, h.depth_eq, h.pending_eq, h.no_switch, h.no_comment⟩
  exact (hs.head ht hsw).mono fun _ hu => hu.1

/-- A head with its brace opens a block, one level deeper than the heads that wait. -/
theorem opening (h : Awaits frames depth pending s) (ht : Head text)
    (he : Shape.isElse text = true → s.danglingIfs = []) :
    Yields s [Tree.opening text] [(text, depth + pending, .controlHeader)]
      (Awaits (⟨depth, if Shape.isSwitch text then some (depth + pending + 1) else none⟩ :: frames)
        (depth + pending + 1) 0) := by
  refine .line h.no_comment (by simp [Tree.opening]) fun number start => ?_
  rw [Tree.opening, ht.ofText_opening, run, placeHeader, answerIf_of_no_dangling he]
  have hdepth : ({ s with danglingIfs := [] } : State).effectiveDepth = depth + pending :=
    h.effectiveDepth
  refine ⟨by simp [Flow.outline, Step.emit, node, hdepth], rfl, ?_⟩
  exact {
    frames_eq := by
      simp [Step.emit, Nesting.push, h.frames_eq, h.depth_eq, h.pending_eq, blockLevels,
        Nat.add_assoc]
    depth_eq := by simp [Step.emit, h.depth_eq, h.pending_eq, blockLevels, Nat.add_assoc]
    pending_eq := rfl
    no_switch := rfl
    no_comment := h.no_comment }

/-- A closing brace goes back to where its block began, and no `if` is left to answer. -/
theorem closing {f : Frame} (h : Awaits (f :: frames) depth pending s) :
    Yields s [['}']] [] fun t => Awaits frames f.restore 0 t ∧ t.danglingIfs = [] := by
  refine .line h.no_comment (by simp) fun number start => ?_
  rw [Parts.ofText_lone_closer]
  have hclose : s.frames.close number = ⟨some f, ⟨frames⟩, []⟩ := by
    rw [h.frames_eq]
    rfl
  simp only [run, closeBlock, hclose, Step.andThen, Step.goto]
  exact ⟨rfl, rfl, ⟨rfl, rfl, rfl, rfl, h.no_comment⟩, rfl⟩

/-- Statements serve the heads that wait; the `if`s among them can be answered. -/
theorem statements (h : Awaits frames depth pending s) (hp : Plain text)
    (hc : classify text = .statement) (hs : Statement.segments text ≠ []) :
    Yields s [text] ((Tree.single text).outline (depth + pending)) fun t =>
      Awaits frames depth 0 t ∧ t.pendingIfs = [] ∧ t.danglingIfs = s.pendingIfs := by
  have hn : text ≠ [] := by
    rintro rfl
    exact hs (by decide)
  refine .line h.no_comment hn fun number start => ?_
  rw [hp.ofText_statements hn hc, run, placeStatements]
  refine ⟨?_, rfl, ?_⟩
  · simp [Flow.outline, Tree.outline, node, h.effectiveDepth, Function.comp_def]
  · have hsome : (Statement.segments text).isEmpty = false := by simpa using hs
    simp only [List.isEmpty_map, hsome, Bool.false_eq_true, if_false, openBlockIf]
    exact ⟨⟨h.frames_eq, h.depth_eq, rfl, h.no_switch, h.no_comment⟩, rfl, rfl⟩

theorem single (h : Awaits frames depth pending s) (ht : Single text) :
    Yields s [text] ((Tree.single text).outline (depth + pending)) (Awaits frames depth 0) := by
  have hs : Statement.segments text ≠ [] := by
    intro he
    have := ht.segment
    rw [he] at this
    cases this
  exact (h.statements ht.toPlain ht.category hs).mono fun _ hu => hu.1

/-- A label lies where its `switch` says, and its statements lie one deeper. -/
theorem label {restore labels : Nat} (h : Awaits (⟨restore, some labels⟩ :: frames) depth pending s)
    (ht : Label text) :
    Yields s [text] [(text, labels, .controlHeader)]
      (Awaits (⟨restore, some labels⟩ :: frames) (labels + 1) 0) := by
  have hn : text ≠ [] := by
    rintro rfl
    exact absurd ht.label (by decide)
  refine .line h.no_comment hn fun number start => ?_
  have htop : s.frames.top?.bind Frame.labels? = some labels := by
    rw [h.frames_eq]
    rfl
  rw [ht.ofText]
  simp only [run, placeLabel, htop, Step.andThen, Step.emit, Step.goto]
  exact ⟨rfl, rfl, h.frames_eq, rfl, rfl, h.no_switch, h.no_comment⟩

end Awaits
end State

/-! ## Trees read back -/

namespace Tree

open State (Awaits Yields)

/-- What reading the lines of a tree does: it shows the outline and serves the heads that wait. -/
def Read : {kind : TreeKind} → Tree kind → Prop
  | .statement, t => ∀ {s : State} {frames : List Frame} {depth pending : Nat},
      Awaits frames depth pending s → (t.answers = true → s.danglingIfs = []) →
      Yields s t.lines (t.outline (depth + pending)) (Awaits frames depth 0)
  | .items, t => ∀ {s : State} {frames : List Frame} {depth : Nat}, Awaits frames depth 0 s →
      Yields s t.lines (t.outline depth) (Awaits frames depth 0)
  | .cases, t => ∀ {s : State} {frames : List Frame} {restore labels depth : Nat},
      Awaits (⟨restore, some labels⟩ :: frames) depth 0 s →
      Yields s t.lines (t.outline labels) fun s' =>
        ∃ depth', Awaits (⟨restore, some labels⟩ :: frames) depth' 0 s'

/-- A block between braces leaves no `if` to answer. -/
theorem read_block {s : State} {frames : List Frame} {depth pending : Nat} {head : Chars}
    {body : Tree .items} (hs : Awaits frames depth pending s) (hh : Head head)
    (hsw : Shape.isSwitch head = false) (he : Shape.isElse head = true → s.danglingIfs = [])
    (hb : body.Read) :
    Yields s (block head body).lines ((block head body).outline (depth + pending))
      fun s' => Awaits frames depth 0 s' ∧ s'.danglingIfs = [] := by
  have hopen := hs.opening hh he
  rw [hsw] at hopen
  refine hopen.cons fun t ht => ?_
  have hclose := (hb ht).append fun u hu => hu.closing
  rwa [List.append_nil] at hclose

theorem reads {kind : TreeKind} (t : Tree kind) (h : t.Valid) : t.Read := by
  induction t with
  | single text => exact fun hs _ => hs.single h
  | block head body ih =>
    obtain ⟨hh, hsw, hb⟩ := h
    exact fun hs he => (read_block hs hh hsw he (ih hb)).mono fun _ ht => ht.1
  | bare head body ih =>
    obtain ⟨hh, hsw, hans, hb⟩ := h
    exact fun hs he => (hs.bare hh hsw he).cons fun t ht =>
      ih hb ht fun ha => absurd ha (by simp [hans])
  | choice head body ih =>
    obtain ⟨hh, hsw, hb⟩ := h
    intro s frames depth pending hs _
    have hopen := hs.opening hh fun he => absurd he (by simp [Shape.isElse_of_isSwitch hsw])
    rw [hsw] at hopen
    refine hopen.cons fun t ht => ?_
    have hclose := (ih hb ht).append fun u ⟨d, hu⟩ => hu.closing.mono fun _ hv => hv.1
    rwa [List.append_nil] at hclose
  | done => exact fun hs => .nil hs
  | item first rest ihf ihr =>
    obtain ⟨hans, hf, hr⟩ := h
    exact fun hs => (ihf hf hs fun ha => absurd ha (by simp [hans])).append fun t ht => ihr hr ht
  | branch head body answer rest ihb iha ihr =>
    obtain ⟨⟨hh, -, he, hsw⟩, hb, ⟨-, ha⟩, hr⟩ := h
    intro s frames depth hs
    -- The closing brace leaves no `if` to answer, so the `else` takes the depth of its own line.
    have hblock := read_block hs hh hsw (fun h => absurd h (by simp [he])) (ihb hb)
    exact (hblock.append fun t ht => iha ha ht.1 fun _ => ht.2).append fun t ht => ihr hr ht
  | noCase => exact fun hs => .nil ⟨_, hs⟩
  | case label body rest ihb ihr =>
    obtain ⟨hl, hb, hr⟩ := h
    exact fun hs => ((hs.label hl).cons fun t ht => ihb hb ht).append fun t ht => ihr hr ht

/-- Reading the lines of a tree, whatever stands before and behind them on their lines, shows its
heads, labels and statements in order, each at its depth, reports nothing, and ends outside all
blocks. -/
theorem flow_of_lines (t : Tree .items) (h : t.Valid) {source : Chars}
    (hs : (Line.ofSource source).map Line.trimmed = t.lines) :
    (builder.flow source).outline = t.outline 0 ∧ (builder.flow source).anomalies = [] ∧
      builder.depth (builder.run builder.start (Line.ofSource source)).state = 0 := by
  have hstart : Awaits [] 0 0 State.start := ⟨rfl, rfl, rfl, rfl, rfl⟩
  obtain ⟨hshown, hquiet, hend⟩ := t.reads h hstart _ hs
  have hflow : builder.flow source =
      (builder.run builder.start (Line.ofSource source)).flow := by
    rw [Builder.flow]
    simp only [builder, State.finish] at hend ⊢
    rw [hend.no_comment, Flow.append_empty]
  rw [hflow]
  exact ⟨hshown, hquiet, hend.depth_eq⟩

/-- A loop without braces around one with braces, and a choice in a branch that is answered. -/
theorem flow_of_lines_nested :
    let t : Tree .items :=
      .item (.bare "for (;;)".toList
        (.block "while (f(x))".toList (.item (.single "y();".toList) .done)))
      (.branch "if (a)".toList
        (.item (.choice "switch (k)".toList
          (.case "case 'a':".toList (.item (.single "n++;".toList) .done)
          (.case "default:".toList
            (.item (.bare "if (b)".toList (.single "m = 2;".toList)) .done) .noCase))) .done)
        (.bare "else".toList (.single "z();".toList)) .done)
    let source := ("for (;;)\n  while (f(x)) \x7b\n    y();\n  \x7d\n" ++
      "if (a) \x7b\n\tswitch (k) \x7b\n" ++
      "case 'a':\n\t\tn++;\ndefault:\nif (b)\n m = 2;\n\t\x7d\n\x7d\nelse\n  z();").toList
    t.Valid ∧ (Line.ofSource source).map Line.trimmed = t.lines ∧
      (builder.flow source).outline =
        [("for (;;)".toList, 0, .controlHeader), ("while (f(x))".toList, 1, .controlHeader),
          ("y();".toList, 2, .statement), ("if (a)".toList, 0, .controlHeader),
          ("switch (k)".toList, 1, .controlHeader), ("case 'a':".toList, 2, .controlHeader),
          ("n++;".toList, 3, .statement), ("default:".toList, 2, .controlHeader),
          ("if (b)".toList, 3, .controlHeader), ("m = 2;".toList, 4, .statement),
          ("else".toList, 0, .controlHeader), ("z();".toList, 1, .statement)] := by
  intro t source
  have hv : t.Valid := by decide +kernel
  have hs : (Line.ofSource source).map Line.trimmed = t.lines := by decide +kernel
  refine ⟨hv, hs, (flow_of_lines t hv hs).1.trans ?_⟩
  decide +kernel

end Tree
end Brace
end NestChart
