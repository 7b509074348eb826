import NestChart.Proofs.Indent.Lexing
import NestChart.Proofs.Indent.Reindent

/-!
# NestChart.Proofs.Indent.Strings

The text of strings and the structure of a source. Two sources that differ only in the text of lines
inside triple-quoted strings have the same lines at the same depths, if the builder sees the strings
of the lines that differ. It sees a string that begins on a line of code, until the marker occurs on
a line (`Watch.Sound.pass`); in a logical line it looks for none and counts the brackets of their
text (`string_text_in_brackets_moves_lines`).
-/

namespace NestChart

/-- Where the nodes stand, and what is wrong. -/
def Flow.frame (f : Flow) : List (Nat × Nat × Category) × List Anomaly :=
  (f.nodes.map fun n => (n.line, n.depth, n.category), f.anomalies)

theorem Flow.frame_append (f g : Flow) :
    (f ++ g).frame = (f.frame.1 ++ g.frame.1, f.frame.2 ++ g.frame.2) := by
  simp [frame]

namespace Indent

open Text

/-- The line is not blank and holds no quote and no backslash. -/
def IsInert (l : Line) : Prop :=
  l.trimmed ≠ [] ∧ ∀ c ∈ l.content, isQuote c = false ∧ c ≠ '\\'

-- The characters of the line are tried, not all characters there are.
instance (l : Line) : Decidable (IsInert l) :=
  have := List.decidableBAll (fun c => isQuote c = false ∧ c ≠ '\\') l.content
  inferInstanceAs (Decidable (_ ∧ _))

/-- The lines are the same but for inert lines inside triple-quoted strings; the first begins where
the lexing `x` stands. -/
def RewritesStrings (x : Lexing) : List Line → List Line → Prop
  | [], [] => True
  | l :: ls, m :: ms =>
    (m.content = l.content ∨ x.string? ≠ none ∧ IsInert l ∧ IsInert m) ∧
      RewritesStrings (x.pass l) ls ms
  | _, _ => False

instance decidableRewritesStrings :
    (x : Lexing) → (ls ms : List Line) → Decidable (RewritesStrings x ls ms)
  | _, [], [] => .isTrue trivial
  | x, l :: ls, _ :: ms =>
    have := decidableRewritesStrings (x.pass l) ls ms
    inferInstanceAs (Decidable ((_ ∨ _ ∧ _ ∧ _) ∧ _))
  | _, [], _ :: _ => .isFalse id
  | _, _ :: _, [] => .isFalse id

/-- A reading of lines by Python and by the builder. -/
structure Watch where
  lexing : Lexing
  state : State
  /-- The string that is open began on a line that was code for the builder as well, and its marker
  has not occurred on a line since. -/
  seen : Bool
  deriving Repr, DecidableEq

namespace Watch

def start : Watch := ⟨.code, .start, false⟩

def pass (w : Watch) (l : Line) : Watch where
  lexing := w.lexing.pass l
  state := (w.state.push l).state
  seen :=
    match w.lexing.string? with
    | some style => w.seen && !style.closes l.trimmed
    | none => w.lexing == .code && w.state.mode == .code

end Watch

/-- The builder sees the strings of the lines that differ. -/
def SeesRewrites (w : Watch) : List Line → List Line → Prop
  | l :: ls, m :: ms => (m.content ≠ l.content → w.seen = true) ∧ SeesRewrites (w.pass l) ls ms
  | _, _ => True

instance decidableSeesRewrites :
    (w : Watch) → (ls ms : List Line) → Decidable (SeesRewrites w ls ms)
  | w, l :: ls, _ :: ms =>
    have := decidableSeesRewrites (w.pass l) ls ms
    inferInstanceAs (Decidable ((_ → _) ∧ _))
  | _, [], _ => .isTrue (by simp [SeesRewrites])
  | _, _ :: _, [] => .isTrue trivial

/-! ## Strings that are seen -/

section Mode

variable {s : State} {l : Line} {style : QuoteStyle}

theorem QuoteStyle.closes_eq_false {text : Chars} (h : ∀ c ∈ text, isQuote c = false) :
    style.closes text = false := by
  rw [closes, Bool.eq_false_iff, ne_eq, contains_iff]
  rintro ⟨i, hi⟩
  have hquote : isQuote style.quote = false := h _ (hi.mem (by simp [marker_eq]))
  exact QuoteStyle.ne_quote hquote style rfl

theorem leftOpen?_of_isComment {text : Chars} (h : isComment text = true) :
    QuoteStyle.leftOpen? text = none := by
  cases text with
  | nil => rfl
  | cons c cs =>
    have hc : c = '#' := by simpa [isComment] using h
    subst hc
    rfl

theorem isComment_of_isInterpreterLine (h : State.isInterpreterLine l = true) :
    isComment l.trimmed = true := by
  rw [State.isInterpreterLine, Bool.and_eq_true, List.isPrefixOf_iff_prefix] at h
  obtain ⟨rest, hrest⟩ := h.2
  rw [← hrest]
  rfl

/-- A line of code that leaves a string open. -/
theorem mode_push_of_leftOpen? (hs : s.mode = .code)
    (h : QuoteStyle.leftOpen? l.trimmed = some style) :
    ∃ depth line, (s.push l).state.mode = .string style depth line := by
  have hcomment : isComment l.trimmed = false := by
    rw [Bool.eq_false_iff]
    intro hc
    rw [leftOpen?_of_isComment hc] at h
    cases h
  have hinterpreter : State.isInterpreterLine l = false := by
    rw [Bool.eq_false_iff]
    intro hi
    rw [isComment_of_isInterpreterLine hi] at hcomment
    cases hcomment
  have hne : l.trimmed.isEmpty = false := by
    cases ht : l.trimmed with
    | nil => rw [ht] at h; cases h
    | cons => rfl
  have hpush : s.push l = s.pushCode l := by
    simp [State.push, hs, hne, hinterpreter, hcomment]
  exact ⟨_, l.number, by rw [hpush, State.pushCode, h]⟩

theorem state_push_of_string {depth line : Nat} (hs : s.mode = .string style depth line)
    (h : style.closes l.trimmed = false) : (s.push l).state = s := by
  simp only [State.push, hs, h]
  split <;> rfl

end Mode

/-- Where a string that is seen is open, it is open for the builder. -/
def Watch.Sound (w : Watch) : Prop :=
  ∀ style, w.lexing.string? = some style →
    w.lexing = .long style 0 ∧
      (w.seen = true → ∃ depth line, w.state.mode = .string style depth line)

namespace Watch

variable {w : Watch}

theorem Sound.start : Sound .start := nofun

theorem Sound.pass (hw : w.Sound) (l : Line) : (w.pass l).Sound := by
  intro style hstyle
  refine ⟨Lexing.eq_long_of_string? hstyle, ?_⟩
  intro hseen
  simp only [Watch.pass] at hseen hstyle
  cases hx : w.lexing.string? with
  | some outer =>
    obtain ⟨hlong, hmode⟩ := hw outer hx
    obtain ⟨hseen, hcloses⟩ : w.seen = true ∧ outer.closes l.trimmed = false := by
      simpa [hx] using hseen
    obtain ⟨depth, line, hmode⟩ := hmode hseen
    rw [hlong, Lexing.string?_pass_of_not_closes hcloses] at hstyle
    cases hstyle
    exact ⟨depth, line, by rw [Watch.pass, state_push_of_string hmode hcloses, hmode]⟩
  | none =>
    obtain ⟨hcode, hmode⟩ : w.lexing = .code ∧ w.state.mode = .code := by simpa [hx] using hseen
    rw [hcode, ← QuoteStyle.leftOpen?_trimmed] at hstyle
    exact mode_push_of_leftOpen? hmode hstyle

end Watch

/-! ## Two runs -/

/-- Two steps that reach one state and add the same but for texts and bytes. -/
structure SameFrame (x y : Step State) : Prop where
  state : y.state = x.state
  flow : y.flow.frame = x.flow.frame

theorem SameFrame.andThen {x y : Step State} {f g : State → Step State} (h : SameFrame x y)
    (hf : SameFrame (f x.state) (g x.state)) : SameFrame (x.andThen f) (y.andThen g) := by
  refine ⟨?_, ?_⟩
  · rw [Step.andThen, Step.andThen, h.state]
    exact hf.state
  · simp only [Step.andThen, Flow.frame_append, h.state, h.flow, hf.flow]

variable {l m : Line}

/-- An inert line is shown inside the string and closes nothing. -/
theorem push_of_isInert {s : State} {style : QuoteStyle} {depth line : Nat}
    (hs : s.mode = .string style depth line) (hl : IsInert l) :
    s.push l = .emit s (State.node l depth .comment) := by
  have hcloses : style.closes l.trimmed = false := by
    refine QuoteStyle.closes_eq_false ?_
    intro c hc
    exact (hl.2 c ((StandsAt.trim l.content).mem hc)).1
  simp [State.push, hs, hl.1, hcloses]

/-- A line and the same line at other bytes. -/
theorem push_sameFrame_of_content_eq (s : State) (hn : m.number = l.number)
    (h : m.content = l.content) : SameFrame (s.push l) (s.push m) := by
  have hid : Moves id Set.univ := ⟨fun _ _ _ _ => id, trivial, rfl⟩
  have htrimmed : m.trimmed = l.trimmed := congrArg trim h
  have hcolumn : columnOf m = columnOf l := congrArg column h
  have hmoved : s.moveLevels id = s := by simp [State.moveLevels]
  have hpush := push_mirrors hid (s := s) (fun _ _ => trivial) hn htrimmed
    fun _ _ => ⟨trivial, hcolumn⟩
  rw [hmoved] at hpush
  refine ⟨?_, ?_⟩
  · rw [hpush.state]
    simp [State.moveLevels]
  · have hnodes := congrArg (List.map fun n => (n.2.2.2, n.2.1, n.2.2.1)) hpush.nodes
    rw [List.map_map, List.map_map] at hnodes
    exact Prod.ext hnodes hpush.anomalies

/-- Two inert lines inside a string. -/
theorem push_sameFrame_of_isInert {s : State} {style : QuoteStyle} {depth line : Nat}
    (hs : s.mode = .string style depth line) (hn : m.number = l.number) (hl : IsInert l)
    (hm : IsInert m) : SameFrame (s.push l) (s.push m) := by
  rw [push_of_isInert hs hl, push_of_isInert hs hm]
  refine ⟨rfl, ?_⟩
  simp [Flow.frame, Step.emit, State.node, hn]

theorem run_sameFrame {texts others : List Chars} {number start start' : Nat} {w : Watch}
    (hw : w.Sound)
    (h : RewritesStrings w.lexing (Line.locate number start texts)
      (Line.locate number start' others))
    (hsees : SeesRewrites w (Line.locate number start texts) (Line.locate number start' others)) :
    SameFrame (builder.run w.state (Line.locate number start texts))
      (builder.run w.state (Line.locate number start' others)) := by
  induction texts generalizing others number start start' w with
  | nil =>
    cases others with
    | nil => exact ⟨rfl, rfl⟩
    | cons => exact h.elim
  | cons text texts ih =>
    cases others with
    | nil => exact h.elim
    | cons other others =>
      obtain ⟨hline, hrest⟩ := h
      obtain ⟨hseen, hsees⟩ := hsees
      refine SameFrame.andThen ?_ (ih (hw.pass _) hrest hsees)
      by_cases hc : Line.content ⟨number, start', other⟩ = Line.content ⟨number, start, text⟩
      · exact push_sameFrame_of_content_eq w.state rfl hc
      · obtain ⟨hopen, hl, hm⟩ := hline.resolve_left hc
        obtain ⟨style, hstyle⟩ := Option.ne_none_iff_exists'.1 hopen
        obtain ⟨depth, line, hmode⟩ := (hw style hstyle).2 (hseen hc)
        exact push_sameFrame_of_isInert hmode rfl hl hm

/-- String text does not move lines. If the lines of two sources are the same but for inert lines
inside triple-quoted strings, and the builder sees the strings of the lines that differ, then both
have their nodes on the same lines, at the same depths and of the same categories, and the same
anomalies. -/
theorem flow_frame_of_rewritesStrings {source other : Chars}
    (h : RewritesStrings .code (Line.ofSource source) (Line.ofSource other))
    (hsees : SeesRewrites .start (Line.ofSource source) (Line.ofSource other)) :
    (builder.flow other).frame = (builder.flow source).frame := by
  have hrun := run_sameFrame Watch.Sound.start h hsees
  have hstate : (builder.run builder.start (Line.ofSource other)).state =
      (builder.run builder.start (Line.ofSource source)).state := hrun.state
  have hflow : (builder.run builder.start (Line.ofSource other)).flow.frame =
      (builder.run builder.start (Line.ofSource source)).flow.frame := hrun.flow
  rw [Builder.flow, Builder.flow, Flow.frame_append, Flow.frame_append, hstate, hflow]

/-- Brackets, colons and comment marks in a docstring and in a string that is assigned. -/
theorem flow_frame_of_rewritesStrings_brackets :
    let source :=
      "def f(a,\n  b):\n  \"\"\"Of (\n f(:\n # n\n  \"\"\"\n  x = '''\n]\n'''\n  if x:\n    a()\n".toList
    let other :=
      "def f(a,\n  b):\n  \"\"\"Of (\n   t\n n #\n  \"\"\"\n  x = '''\n[\x7b(\n'''\n  if x:\n    a()\n".toList
    RewritesStrings .code (Line.ofSource source) (Line.ofSource other) ∧
      SeesRewrites .start (Line.ofSource source) (Line.ofSource other) ∧
      (builder.flow other).frame = (builder.flow source).frame := by
  intro source other
  have h : RewritesStrings .code (Line.ofSource source) (Line.ofSource other) := by decide
  have hsees : SeesRewrites .start (Line.ofSource source) (Line.ofSource other) := by decide
  exact ⟨h, hsees, flow_frame_of_rewritesStrings h hsees⟩

/-- A bracket in a string that is an argument: the call is never closed, and line 7 stays in it. -/
theorem string_text_in_brackets_moves_lines :
    let source := "f(\n\"\"\"\n(\n\"\"\"\n)\nif a:\n    b()\n".toList
    let other := "f(\n\"\"\"\nx\n\"\"\"\n)\nif a:\n    b()\n".toList
    RewritesStrings .code (Line.ofSource source) (Line.ofSource other) ∧
      (7, 0, .statement) ∈ (builder.flow source).frame.1 ∧
      (7, 1, .statement) ∈ (builder.flow other).frame.1 := by
  decide

end Indent
end NestChart
