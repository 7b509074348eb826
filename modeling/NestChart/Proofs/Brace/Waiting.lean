import NestChart.Proofs.Brace.Level
import NestChart.Proofs.Brace.Tree

/-!
# NestChart.Proofs.Brace.Waiting

When heads stop waiting for their body. A line of terminators shows nothing and serves no head, so
a statement behind it still lies below all heads that wait (`shown_behind_terminators`). A block
serves the heads before its own as well: an `else` behind it lies outside all of them, which is the
depth of its `if` only if there are none (`else_behind_block`).
-/

namespace NestChart.Brace

open Text NestChart.Shape

/-! ## Terminators on a line of their own -/

/-- Terminators and blanks. -/
def OnlyTerminators (text : Chars) : Prop := ∀ c ∈ text, c = ';' ∨ isBlank c = true

instance (text : Chars) : Decidable (OnlyTerminators text) :=
  List.decidableBAll (fun c => c = ';' ∨ isBlank c = true) text

namespace OnlyTerminators

variable {text : Chars}

theorem tail {c : Char} {cs : Chars} (h : OnlyTerminators (c :: cs)) : OnlyTerminators cs :=
  fun d hd => h d (List.mem_cons_of_mem c hd)

theorem not_mem (h : OnlyTerminators text) {c : Char} (ht : c ≠ ';') (hb : isBlank c = false) :
    c ∉ text := by
  intro hm
  rcases h c hm with he | hblank
  · exact ht he
  · rw [hb] at hblank
    cases hblank

/-- Between terminators no statement is left. -/
theorem place_piecesFrom {current : Chars} (h : OnlyTerminators text)
    (hc : ∀ c ∈ current, isBlank c = true) (start : Nat) :
    Statement.place start (Statement.piecesFrom .start current text) = [] := by
  induction text generalizing current start with
  | nil =>
    have hr : ∀ c ∈ current.reverse, isBlank c = true := fun c hm => hc c (List.mem_reverse.1 hm)
    have ht := trim_blanks_append hr []
    rw [List.append_nil] at ht
    rw [Statement.piecesFrom, Statement.place, ht]
    rfl
  | cons c cs ih =>
    rcases h c (by simp) with rfl | hb
    · have hr : ∀ c ∈ current.reverse, isBlank c = true := fun c hm => hc c (List.mem_reverse.1 hm)
      have ht : trim (current.reverse ++ [';']) = [';'] := trim_blanks_append hr [';']
      have hnext : Scan.start.next ';' = .start := rfl
      have hcut : (Scan.start.isTop && ';' == ';') = true := rfl
      rw [Statement.piecesFrom, hnext, if_pos hcut, List.reverse_cons, Statement.place, ht]
      exact ih h.tail (by simp) _
    · have hne : c ≠ ';' := ne_of_isBlank hb (by decide)
      rw [Statement.piecesFrom, Scan.next_of_isBlank hb, if_neg (by simp [hne])]
      refine ih h.tail ?_ start
      intro d hd
      rcases List.mem_cons.1 hd with rfl | hd
      · exact hb
      · exact hc d hd

theorem segments (h : OnlyTerminators text) : Statement.segments text = [] :=
  place_piecesFrom h (by simp) 0

theorem plain (h : OnlyTerminators text) (ht : Trimmed text) : Plain text := by
  have hslash : '/' ∉ text := h.not_mem (by decide) (by decide)
  have hu : Uncommented text := by
    constructor
    all_goals
      rw [Bool.eq_false_iff]
      intro hc
      obtain ⟨_, hm⟩ := contains_iff.1 hc
      exact hslash (hm.mem (by simp))
  refine ⟨ht, hu.cut?, h.not_mem (by decide) (by decide), h.not_mem (by decide) (by decide), ?_,
    hu.start⟩
  have hhash : '#' ∉ text := h.not_mem (by decide) (by decide)
  rw [isDirective, beq_eq_false_iff_ne]
  exact fun he => hhash (List.mem_of_mem_head? he)

/-- No form of a declaration and no word begins with a terminator. -/
theorem classify (h : OnlyTerminators text) (ht : Trimmed text) (hn : text ≠ []) :
    Brace.classify text = .statement := by
  have hp := h.plain ht
  obtain ⟨c, cs, rfl⟩ := List.exists_cons_of_ne_nil hn
  have hc : c = ';' := by
    rcases h c (by simp) with hc | hb
    · exact hc
    · rw [ht.solidStart c rfl] at hb
      cases hb
  subst hc
  have hflow : Shape.isFlow (';' :: cs) = false := rfl
  have hprototype : Shape.isPrototype (';' :: cs) = false := by
    rw [Shape.isPrototype, Pattern.accepts_of_step_eq_nil (by decide)]
    rfl
  have hvariable : Shape.isVariable (';' :: cs) = false := Pattern.accepts_of_step_eq_nil (by decide)
  have hfunction : Shape.isFunctionHead (';' :: cs) = false := Pattern.accepts_of_step_eq_nil (by decide)
  simp [Brace.classify, hp.not_comment, hflow, hprototype, hvariable, hfunction]

end OnlyTerminators

namespace State

/-- A line of terminators changes nothing. -/
theorem push_terminators {s : State} {l : Line} (hs : s.comment? = none)
    (hl : OnlyTerminators l.trimmed) : s.push l = .goto s := by
  by_cases hn : l.trimmed = []
  · exact push_of_blank hn s
  · have hc := hl.classify l.trimmed_trimmed hn
    rw [push_eq_run hs, (hl.plain l.trimmed_trimmed).ofText_statements hn hc, hl.segments]
    rfl

theorem run_terminators {s : State} {ls : List Line} (hs : s.comment? = none)
    (hls : ∀ l ∈ ls, OnlyTerminators l.trimmed) : builder.run s ls = .goto s := by
  induction ls with
  | nil => rfl
  | cons l ls ih =>
    have hl : builder.push s l = .goto s := push_terminators hs (hls l (by simp))
    rw [Builder.run_cons, hl, Step.goto_andThen]
    exact ih fun k hk => hls k (by simp [hk])

/-- Statements lie below all heads that wait. -/
theorem push_statement_nodes {s : State} {m : Line} (hs : s.comment? = none)
    (hm : Undivided m.trimmed) (hc : classify m.trimmed = .statement) :
    (s.push m).flow.nodes =
      (Statement.segments (splitOpener m.trimmed).1).map fun g =>
        node ⟨g.text, m.trimmedSpan.start + g.start⟩ s.effectiveDepth .statement m.number := by
  rw [push_eq_run hs, Parts.ofText_undivided hm, hc]
  exact List.map_map

end State

/-- Behind lines of terminators a statement is shown as deep as without them, which is the depth
outside the heads that wait only if none waits. -/
theorem shown_behind_terminators {s : State} {ls : List Line} {m : Line} (hs : s.comment? = none)
    (hls : ∀ l ∈ ls, OnlyTerminators l.trimmed) (hm : Undivided m.trimmed)
    (hc : classify m.trimmed = .statement)
    (hsegments : Statement.segments (splitOpener m.trimmed).1 ≠ []) :
    builder.run s ls = .goto s ∧
      (builder.run s (ls ++ [m])).flow.nodes ≠ [] ∧
      (∀ n ∈ (builder.run s (ls ++ [m])).flow.nodes, n.depth = s.depth + s.pending) ∧
      ((∀ n ∈ (builder.run s (ls ++ [m])).flow.nodes, n.depth = s.depth) ↔ s.pending = 0) := by
  have hrun := State.run_terminators hs hls
  have hshown : (builder.run s (ls ++ [m])).flow.nodes = (s.push m).flow.nodes := by
    rw [Builder.run_append, hrun, Step.goto_andThen, Builder.run_cons]
    exact congrArg (fun x : Step State => x.flow.nodes) (Step.andThen_goto (s.push m))
  have hnodes := State.push_statement_nodes hs hm hc
  have hdepth : ∀ n ∈ (s.push m).flow.nodes, n.depth = s.depth + s.pending := by
    intro n hn
    rw [hnodes] at hn
    obtain ⟨g, -, rfl⟩ := List.mem_map.1 hn
    rfl
  have hsome : (s.push m).flow.nodes ≠ [] := by
    rw [hnodes, ne_eq, List.map_eq_nil_iff]
    exact hsegments
  rw [hshown]
  refine ⟨hrun, hsome, hdepth, ?_⟩
  constructor
  · intro h
    obtain ⟨n, hn⟩ := List.exists_mem_of_ne_nil _ hsome
    have h1 := h n hn
    have h2 := hdepth n hn
    omega
  · intro hp n hn
    rw [hdepth n hn, hp, Nat.add_zero]

/-- Two loops wait for the statement behind two lines of terminators. -/
theorem shown_behind_terminators_of_loops :
    let heads : List Line := [⟨1, 0, "while (p())\n".toList⟩, ⟨2, 12, "for (;;)\n".toList⟩]
    let s := (builder.run builder.start heads).state
    let ls : List Line := [⟨3, 21, ";\n".toList⟩, ⟨4, 23, " ; ;\n".toList⟩]
    let m : Line := ⟨5, 28, "f(); g();\n".toList⟩
    s.pending = 2 ∧ builder.run s ls = .goto s ∧
      (builder.run s (ls ++ [m])).flow.nodes ≠ [] ∧
      (∀ n ∈ (builder.run s (ls ++ [m])).flow.nodes, n.depth = 2) := by
  intro heads s ls m
  have hstate : s = ⟨.empty, 0, 2, [], [], false, none⟩ := by decide +kernel
  have hs : s.comment? = none := by rw [hstate]
  have hpending : s.pending = 2 := by rw [hstate]
  have hdepth : s.depth = 0 := by rw [hstate]
  obtain ⟨hrun, hsome, hshown, -⟩ :=
    @shown_behind_terminators s ls m hs (by decide) (by decide) (by decide) (by decide)
  rw [hdepth, hpending] at hshown
  exact ⟨hpending, hrun, hsome, hshown⟩

/-- The loop has no statement but the terminator, and still the call is shown below it. -/
theorem terminator_serves_no_loop :
    let head : Line := ⟨1, 0, "while (p())\n".toList⟩
    let ls : List Line := [⟨2, 12, ";\n".toList⟩]
    let m : Line := ⟨3, 14, "next();\n".toList⟩
    let s := (builder.run builder.start [head]).state
    s.pending = 1 ∧ (∀ l ∈ ls, OnlyTerminators l.trimmed) ∧ classify m.trimmed = .statement ∧
      s.depth = 0 ∧
      (builder.run s (ls ++ [m])).flow.outline = [("next();".toList, 1, .statement)] := by
  decide +kernel

/-! ## Words at the head of a part -/

section Word

variable {word a b : Chars}

/-- A word that ends before the cut is found in front of it. -/
theorem startsWithWord_left (h : startsWithWord word (a ++ b) = true)
    (hle : word.length ≤ a.length) : startsWithWord word a = true := by
  obtain ⟨rest, he, hend⟩ := exists_of_startsWithWord h
  rcases List.append_eq_append_iff.1 he with ⟨tail, rfl, ht⟩ | ⟨tail, rfl, rfl⟩
  · have hnil : tail = [] := by
      rw [List.length_append] at hle
      exact List.length_eq_zero_iff.1 (by omega)
    subst hnil
    rw [List.append_nil]
    have hafter : after? a a = some [] := by simp [after?]
    exact startsWithWord_of_after? hafter rfl
  · have hafter : after? word (word ++ tail) = some tail := by simp [after?]
    refine startsWithWord_of_after? hafter ?_
    cases tail with
    | nil => rfl
    | cons c tail => exact hend

theorem startsWithWord_trimEnd (hn : word ≠ []) (hw : SolidEnd word)
    (h : startsWithWord word a = true) : startsWithWord word (trimEnd a) = true := by
  obtain ⟨blanks, he, hb⟩ := exists_trimEnd_append a
  rw [← he] at h
  refine startsWithWord_left h ?_
  -- A shorter front would leave the end of the word, which is no blank, to the blanks.
  obtain ⟨rest, he, -⟩ := exists_of_startsWithWord h
  rcases List.append_eq_append_iff.1 he with ⟨tail, rfl, ht⟩ | ⟨tail, hw', rfl⟩
  · rcases tail.eq_nil_or_concat with rfl | ⟨front, c, rfl⟩
    · simp
    · have hc := hb c (by simp [ht])
      rw [hw c (by simp)] at hc
      cases hc
  · simp [hw']

end Word

/-! ## An `else` behind a block -/

theorem Shape.exists_of_isElse {text : Chars} (h : Shape.isElse text = true) :
    ∃ rest, text = "else".toList ++ rest := by
  obtain ⟨rest, he, -⟩ := exists_of_startsWithWord h
  exact ⟨rest, he⟩

theorem Shape.isElse_trimEnd {text : Chars} (h : Shape.isElse text = true) :
    Shape.isElse (trimEnd text) = true := by
  refine startsWithWord_trimEnd (by decide) ?_ h
  intro c hc
  cases hc
  decide

/-- What is cut off the front of an `else` at a character that is none of its letters. -/
theorem Shape.isElse_left {a b : Chars} {c : Char} (h : Shape.isElse (a ++ b) = true)
    (hc : c ∈ a ++ b.take 1) (hn : c ∉ "else".toList) : Shape.isElse a = true := by
  refine startsWithWord_left h ?_
  obtain ⟨rest, he⟩ := exists_of_isElse h
  refine Nat.le_of_not_lt fun hlt => hn ?_
  -- The front and one more character lie in the word.
  have htake : a ++ b.take 1 = (a ++ b).take (a.length + 1) := by
    rw [List.take_append, List.take_of_length_le (Nat.le_succ _), Nat.add_sub_cancel_left]
  rw [htake, he, List.take_append_of_le_length hlt] at hc
  exact List.mem_of_mem_take hc

namespace State

/-- The first node that an `else` shows is its head, at the depth of the line if no `if` without a
block is left to answer. -/
theorem run_else_nodes {text : Chars} (h : Shape.isElse text = true) {s : State}
    (hp : s.pending = 0) (hd : s.danglingIfs = []) (line start : Nat) :
    ∃ n rest, (run line (.ofText text start) s).flow.nodes = n :: rest ∧
      Shape.isElse n.text = true ∧ n.category = .controlHeader ∧ n.depth = s.depth := by
  induction text using Parts.ofText_induction generalizing start with
  | nil => cases h
  | closer cs => cases h
  | opener => cases h
  | directive text hd =>
    obtain ⟨rest, rfl⟩ := Shape.exists_of_isElse h
    cases hd
  | beside text code behind hbare hm ih =>
    obtain ⟨rfl, -, hn⟩ := Comment.cut?_append hm
    obtain ⟨cs, rfl⟩ := List.head?_eq_some_iff.1 (Comment.head?_of_isMark (Comment.isMark_of_cut? hm))
    have hcode : Shape.isElse code = true :=
      Shape.isElse_left (c := '/') h (by simp) (by decide)
    obtain ⟨n, rest, he, hn⟩ := ih (Shape.isElse_trimEnd hcode) start
    rw [Parts.ofText_beside hbare hm, run_beside, Step.andThen, Flow.nodes_append, he]
    exact ⟨n, _, rfl, hn⟩
  | both text left right hbare hm hb ihl _ =>
    have hcut := Block.exists_of_cutFrom hb
    obtain ⟨rfl, -, -⟩ := Block.cut?_append hb
    have hleft : Shape.isElse left = true := by
      rcases hcut with ⟨front, rfl⟩ | ⟨back, rfl⟩
      · exact Shape.isElse_left (c := '{') h (by simp) (by decide)
      · exact Shape.isElse_left (c := '}') h (by simp) (by decide)
    obtain ⟨n, rest, he, hn⟩ := ihl (Shape.isElse_trimEnd hleft) start
    rw [Parts.ofText_both hbare hm hb, run, Step.andThen, Flow.nodes_append, he]
    exact ⟨n, _, rfl, hn⟩
  | undivided text hu =>
    have hcontrol : Shape.isControl text = true := List.any_eq_true.2 ⟨_, by decide, h⟩
    have hbody : Shape.isElse (splitOpener text).1 = true := by
      by_cases hlast : text.getLast? = some '{'
      · obtain ⟨front, rfl⟩ := List.getLast?_eq_some_iff.1 hlast
        rw [splitOpener_concat]
        exact Shape.isElse_trimEnd (Shape.isElse_left (c := '{') h (by simp) (by decide))
      · rwa [splitOpener_of_getLast? hlast]
    have hanswer : s.answerIf (splitOpener text).1 = { s with danglingIfs := [] } :=
      answerIf_of_no_dangling fun _ => hd
    rw [Parts.ofText_undivided hu, classify_of_isControl (Shape.start_of_isControl hcontrol) hu.not_directive
      hcontrol, Shape.label?_of_isControl hcontrol]
    refine ⟨_, [], rfl, hbody, rfl, ?_⟩
    simp [node, hanswer, effectiveDepth, hp]

end State

/-- The head of an `if` or a loop alone on a line, whose body is still to come. -/
structure WaitingHead (text : Chars) : Prop extends Undivided text where
  word : startsWithAny (["if", "for", "while", "do"].map String.toList) text = true
  last : ∀ c ∈ text.getLast?, c ≠ ';' ∧ c ≠ '{' ∧ c ≠ '}'

instance (text : Chars) : Decidable (WaitingHead text) :=
  have : Decidable (∀ c ∈ text.getLast?, c ≠ ';' ∧ c ≠ '{' ∧ c ≠ '}') :=
    Option.decidableForallMem text.getLast?
  decidable_of_iff
    (Undivided text ∧ startsWithAny (["if", "for", "while", "do"].map String.toList) text = true ∧
      ∀ c ∈ text.getLast?, c ≠ ';' ∧ c ≠ '{' ∧ c ≠ '}')
    ⟨fun ⟨hu, hw, hl⟩ => ⟨hu, hw, hl⟩, fun ⟨hu, hw, hl⟩ => ⟨hu, hw, hl⟩⟩

namespace WaitingHead

variable {text : Chars}

theorem isControl (h : WaitingHead text) : Shape.isControl text = true := by
  obtain ⟨w, hw, hword⟩ := List.any_eq_true.1 h.word
  refine List.any_eq_true.2 ⟨w, ?_, hword⟩
  simp only [List.map_cons, List.map_nil, List.mem_cons, List.not_mem_nil, or_false] at hw
  rcases hw with rfl | rfl | rfl | rfl <;> decide

theorem not_isElse (h : WaitingHead text) : Shape.isElse text = false := by
  obtain ⟨w, hw, rest, rfl⟩ := exists_of_startsWithAny h.word
  simp only [List.map_cons, List.map_nil, List.mem_cons, List.not_mem_nil, or_false] at hw
  rcases hw with rfl | rfl | rfl | rfl <;> rfl

theorem not_isComplete (h : WaitingHead text) : State.isComplete text = false := by
  rw [State.isComplete, Bool.or_eq_false_iff, beq_eq_false_iff_ne, beq_eq_false_iff_ne]
  exact ⟨fun he => (h.last _ he).1 rfl, fun he => (h.last _ he).2.2 rfl⟩

theorem ofText (h : WaitingHead text) (start : Nat) :
    Parts.ofText text start = .header ⟨text, start⟩ false := by
  have hlast : text.getLast? ≠ some '{' := fun he => (h.last _ he).2.1 rfl
  have hcategory := classify_of_isControl (Shape.start_of_isControl h.isControl) h.not_directive
    h.isControl
  simp only [Parts.ofText_undivided h.toUndivided, hcategory,
    Shape.label?_of_isControl h.isControl, splitOpener_of_getLast? hlast]

end WaitingHead

namespace State

theorem answerIf_pending {s : State} {text : Chars} (h : Shape.isElse text = false) :
    (s.answerIf text).pending = s.pending := by
  simp [answerIf, h]

theorem awaitBody_pending (s : State) {text : Chars} (h : isComplete text = false) :
    (s.awaitBody text).pending = s.pending + 1 := by
  unfold awaitBody
  rw [h]
  split <;> rfl

/-- Each head waits below the one before, and the blocks stay as they are. -/
theorem run_heads {s : State} {ls : List Line} (hs : s.comment? = none)
    (hls : ∀ l ∈ ls, WaitingHead l.trimmed) :
    (builder.run s ls).state.frames = s.frames ∧ (builder.run s ls).state.depth = s.depth ∧
      (builder.run s ls).state.pending = s.pending + ls.length ∧
      (builder.run s ls).state.comment? = none := by
  induction ls generalizing s with
  | nil => exact ⟨rfl, rfl, rfl, hs⟩
  | cons l ls ih =>
    have hl := hls l (by simp)
    have hstate : (s.push l).state = (s.answerIf l.trimmed).awaitBody l.trimmed := by
      rw [push_eq_run hs, hl.ofText]
      rfl
    have hcomment : (s.push l).state.comment? = none := by
      rw [hstate, awaitBody_comment?, answerIf_comment?]
      exact hs
    obtain ⟨hframes, hdepth, hpending, hnone⟩ := ih hcomment fun k hk => hls k (by simp [hk])
    rw [hstate] at hframes hdepth hpending hnone
    rw [awaitBody_frames, answerIf_frames] at hframes
    rw [awaitBody_depth, answerIf_depth] at hdepth
    rw [awaitBody_pending _ hl.not_isComplete, answerIf_pending hl.not_isElse] at hpending
    rw [Builder.run_cons, show builder.push s l = s.push l from rfl, Step.andThen, hstate]
    refine ⟨hframes, hdepth, ?_, hnone⟩
    rw [List.length_cons, hpending]
    omega

/-- The head of an `if` opens a block that goes back to the depth outside the heads that wait. -/
theorem push_if_opener {s : State} {l : Line} {head : Chars} (hs : s.comment? = none)
    (hl : l.trimmed = head ++ [' ', '{']) (hu : Undivided l.trimmed)
    (hif : startsWithWord "if".toList head = true) (hend : SolidEnd head) :
    (∃ n, (s.push l).flow.nodes = [n] ∧ n.text = head ∧ n.depth = s.depth + s.pending) ∧
      (s.push l).state.frames.frames = ⟨s.depth, none⟩ :: s.frames.frames ∧
      (s.push l).state.comment? = none := by
  have hcontrol : Shape.isControl head = true := List.any_eq_true.2 ⟨_, by decide, hif⟩
  obtain ⟨rest, rfl, -⟩ := exists_of_startsWithWord hif
  have hanswer : s.answerIf ("if".toList ++ rest) = { s with danglingIfs := [] } :=
    answerIf_of_no_dangling nofun
  rw [hl] at hu
  rw [push_eq_run hs, hl, Parts.ofText_control_opening hcontrol hu hend, run, placeHeader,
    hanswer]
  exact ⟨⟨_, rfl, rfl, rfl⟩, rfl, hs⟩

/-- A closing brace goes back to where its block began, and no `if` is left to answer. -/
theorem closeBlock_of_frames {s : State} {f : Frame} {fs : List Frame}
    (h : s.frames.frames = f :: fs) (line : Nat) :
    (s.closeBlock line).state.depth = f.restore ∧ (s.closeBlock line).state.pending = 0 ∧
      (s.closeBlock line).state.danglingIfs = [] := by
  obtain ⟨⟨_⟩, _⟩ := s
  subst h
  exact ⟨rfl, rfl, rfl⟩

/-- The `else` behind a closing brace, on its line or on the next one, is shown where the block
began. -/
theorem run_answer_nodes {s : State} {ending : List Line} {answer : Chars} {f : Frame}
    {fs : List Frame} (hs : s.comment? = none) (hf : s.frames.frames = f :: fs)
    (hanswer : Shape.isElse answer = true)
    (hending : (∃ l, ending = [l] ∧ Block.afterClose? l.trimmed = some answer) ∨
      ∃ l m, ending = [l, m] ∧ l.trimmed = ['}'] ∧ m.trimmed = answer) :
    ∃ n, (builder.run s ending).flow.nodes.head? = some n ∧ Shape.isElse n.text = true ∧
      n.category = .controlHeader ∧ n.depth = f.restore := by
  rcases hending with ⟨l, rfl, hl⟩ | ⟨l, m, rfl, hl, hm⟩
  · obtain ⟨hdepth, hp, hd⟩ := closeBlock_of_frames hf l.number
    have hpush : builder.run s [l] = s.push l := Step.andThen_goto _
    obtain ⟨n, rest, he, hn'⟩ := run_else_nodes hanswer hp hd l.number
      (l.trimmedSpan.start + (byteLength l.trimmed - byteLength answer))
    rw [hpush, push_eq_run hs, Parts.ofText_closer hl, run, Step.andThen, Flow.nodes_append,
      closeBlock_nodes, List.nil_append, he]
    exact ⟨n, rfl, hn'.1, hn'.2.1, hn'.2.2.trans hdepth⟩
  · obtain ⟨hdepth, hp, hd⟩ := closeBlock_of_frames hf l.number
    have hclose : builder.push s l = s.closeBlock l.number := by
      rw [show builder.push s l = s.push l from rfl, push_eq_run hs, hl,
        Parts.ofText_lone_closer, run, show run l.number .nothing = .goto from rfl,
        Step.andThen_goto]
    obtain ⟨n, rest, he, hn'⟩ := run_else_nodes hanswer hp hd m.number m.trimmedSpan.start
    have hpush : builder.run (s.closeBlock l.number).state [m] =
        run m.number (.ofText answer m.trimmedSpan.start) (s.closeBlock l.number).state := by
      rw [← hm, ← push_eq_run (s := (s.closeBlock l.number).state) hs]
      exact Step.andThen_goto _
    rw [Builder.run_cons, hclose, Step.andThen, hpush, Flow.nodes_append, closeBlock_nodes,
      List.nil_append, he]
    exact ⟨n, rfl, hn'.1, hn'.2.1, hn'.2.2.trans hdepth⟩

end State

/-- An `if` with a block below heads that wait lies below them, and an `else` behind the block lies
outside them: the depths are the same only if no head waits. -/
theorem else_behind_block {s : State} {heads body ending : List Line} {opener : Line}
    {head answer : Chars} (hs : s.comment? = none) (hp : s.pending = 0)
    (hheads : ∀ l ∈ heads, WaitingHead l.trimmed)
    (hopener : opener.trimmed = head ++ [' ', '{']) (hundivided : Undivided opener.trimmed)
    (hif : startsWithWord "if".toList head = true) (hend : SolidEnd head)
    (hbody : ∀ l ∈ body, BraceClean l.text)
    (hlevel : levelAfter? 0 (body.flatMap Line.text) = some 0)
    (hanswer : Shape.isElse answer = true)
    (hending : (∃ l, ending = [l] ∧ Block.afterClose? l.trimmed = some answer) ∨
      ∃ l m, ending = [l, m] ∧ l.trimmed = ['}'] ∧ m.trimmed = answer) :
    let opened := (builder.run s heads).state.push opener
    let closed := builder.run (builder.run opened.state body).state ending
    ∃ n m, opened.flow.nodes = [n] ∧ closed.flow.nodes.head? = some m ∧
      n.text = head ∧ n.depth = s.depth + heads.length ∧
      Shape.isElse m.text = true ∧ m.category = .controlHeader ∧ m.depth = s.depth ∧
      (m.depth = n.depth ↔ heads = []) := by
  intro opened closed
  obtain ⟨hframes, hdepth, hpending, hcomment⟩ := State.run_heads hs hheads
  obtain ⟨⟨n, hn, htext, hshown⟩, hblock, hopen⟩ :=
    State.push_if_opener hcomment hopener hundivided hif hend
  rw [hdepth, hpending, hp, Nat.zero_add] at hshown
  rw [hdepth, hframes] at hblock
  -- The body keeps to its own blocks, so the block of the `if` is the innermost one behind it.
  have hlevel' : levelAfter? 0 (body.flatMap blockBraces) = some 0 := by
    rw [levelAfter?_of_clean hbody, hlevel]
  have hlabels : ∀ f ∈ opened.state.frames.frames.head?, f.labels? = none := by
    intro f hf
    rw [hblock] at hf
    cases hf
    rfl
  obtain ⟨hinside, -, hnone⟩ := inside_of_run hopen (State.inside_self opened.state)
    (fun l hl t ht => State.comment?_push ht (hbody l hl).trimmed.uncommented) (.inl hlabels)
    hlevel'
  obtain ⟨m, hm, helse, hcategory, hback⟩ :=
    State.run_answer_nodes hnone (hinside.zero.1.trans hblock) hanswer hending
  have hback : m.depth = s.depth := hback
  refine ⟨n, m, hn, hm, htext, hshown, helse, hcategory, hback, ?_⟩
  rw [hback, hshown, ← List.length_eq_zero_iff]
  omega

/-- A block inside the block of an `if` below two heads, and an `else` with a block of its own. -/
theorem else_behind_block_of_loops :
    let heads : List Line := [⟨1, 0, "for (;;)\n".toList⟩, ⟨2, 9, "  if (a)\n".toList⟩]
    let opener : Line := ⟨3, 18, "    if (f(\")\")) \x7b\n".toList⟩
    let body : List Line :=
      [⟨4, 36, "if (b) \x7b x();\n".toList⟩, ⟨5, 49, "\x7d else y(); \x7b z(); \x7d\n".toList⟩]
    let ending : List Line := [⟨6, 70, "    \x7d else \x7b\n".toList⟩]
    let opened := (builder.run builder.start heads).state.push opener
    let closed := builder.run (builder.run opened.state body).state ending
    ∃ n m, opened.flow.nodes = [n] ∧ closed.flow.nodes.head? = some m ∧
      n.text = "if (f(\")\"))".toList ∧ n.depth = 2 ∧ Shape.isElse m.text = true ∧
      m.depth = 0 := by
  intro heads opener body ending opened closed
  obtain ⟨n, m, hn, hm, htext, hdepth, helse, -, hback, -⟩ :=
    @else_behind_block State.start heads body ending opener "if (f(\")\"))".toList
      "else \x7b".toList rfl rfl
      (by decide) (by decide) (by decide) (by decide) (by decide) (by decide)
      (by decide) (by decide) (.inl ⟨_, rfl, by decide⟩)
  exact ⟨n, m, hn, hm, htext, hdepth, helse, hback⟩

/-- Behind a loop without braces the `if` is shown below the loop and its `else` is not. -/
theorem else_outside_of_its_loop :
    let head : Line := ⟨1, 0, "while (a)\n".toList⟩
    let opener : Line := ⟨2, 10, "if (b) \x7b\n".toList⟩
    let body : Line := ⟨3, 19, "x();\n".toList⟩
    let ending : Line := ⟨4, 24, "\x7d else\n".toList⟩
    WaitingHead head.trimmed ∧ Undivided opener.trimmed ∧ BraceClean body.text ∧
      levelAfter? 0 body.text = some 0 ∧ Block.afterClose? ending.trimmed = some "else".toList ∧
      (builder.run builder.start [head, opener, body, ending]).flow.outline =
        [("while (a)".toList, 0, .controlHeader), ("if (b)".toList, 1, .controlHeader),
          ("x();".toList, 2, .statement), ("else".toList, 0, .controlHeader)] := by
  decide +kernel

end NestChart.Brace
