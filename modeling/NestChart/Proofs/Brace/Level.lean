import NestChart.Proofs.Brace.Balance

/-!
# NestChart.Proofs.Brace.Level

Blocks that lie inside other blocks. The level of a text is the number of its own blocks that its
braces leave open; there is none once a brace closes a block of someone else. `State.Inside` is the
invariant of a run that keeps to its level: the blocks outside, and the depth to which the code
returns, are what they were (`inside_of_run`).
-/

namespace NestChart.Brace

open Text

/-! ## Levels -/

/-- How many blocks are open behind a text with `n` open before it, if none is closed that was not
opened. -/
def levelAfter? (n : Nat) : Chars → Option Nat
  | [] => some n
  | c :: cs =>
    if c = '{' then levelAfter? (n + 1) cs
    else if c = '}' then if n = 0 then none else levelAfter? (n - 1) cs
    else levelAfter? n cs

section Level

variable (n : Nat)

theorem levelAfter?_of_not_isBrace {c : Char} (h : isBrace c = false) (cs : Chars) :
    levelAfter? n (c :: cs) = levelAfter? n cs := by
  simp only [isBrace, Bool.or_eq_false_iff, beq_eq_false_iff_ne] at h
  simp [levelAfter?, h.1, h.2]

theorem levelAfter?_append (a b : Chars) :
    levelAfter? n (a ++ b) = (levelAfter? n a).bind fun m => levelAfter? m b := by
  induction a generalizing n with
  | nil => rfl
  | cons c a ih =>
    rw [List.cons_append, levelAfter?, levelAfter?]
    split
    · exact ih (n + 1)
    split
    · split
      · rfl
      · exact ih (n - 1)
    · exact ih n

theorem levelAfter?_bracesIn (text : Chars) : levelAfter? n (bracesIn text) = levelAfter? n text := by
  induction text generalizing n with
  | nil => rfl
  | cons c cs ih =>
    cases hc : isBrace c with
    | true =>
      rw [show bracesIn (c :: cs) = c :: bracesIn cs by simp [bracesIn, hc], levelAfter?, levelAfter?]
      simp only [ih]
    | false =>
      rw [show bracesIn (c :: cs) = bracesIn cs by simp [bracesIn, hc], ih,
        levelAfter?_of_not_isBrace n hc]

/-- A counter that meets no anomaly counts the level. -/
theorem levelAfter?_of_readBraces {line : Nat} {text : Chars}
    (h : (readBraces line n text).flow.anomalies = []) :
    levelAfter? n text = some (readBraces line n text).state := by
  induction text generalizing n with
  | nil => rfl
  | cons c cs ih =>
    simp only [readBraces, Step.andThen, Flow.anomalies_append, List.append_eq_nil_iff] at h ⊢
    obtain ⟨hc, hcs⟩ := h
    have ih := ih _ hcs
    by_cases ho : c = '{'
    · subst ho
      exact ih
    by_cases hcl : c = '}'
    · subst hcl
      cases n with
      | zero => cases hc
      | succ k => exact ih
    · have hb : isBrace c = false := by simp [isBrace, ho, hcl]
      rw [readBrace_of_not_isBrace hb] at ih ⊢
      rw [levelAfter?_of_not_isBrace n hb]
      exact ih

end Level

/-! ## Inside other blocks -/

/-- Inside the blocks `outer`, in which code lies at depth `base`, that many more blocks are open,
the innermost first, and code lies at the last number. -/
inductive Within (outer : List Frame) (base : Nat) : Nat → List Frame → Nat → Prop
  | outside : Within outer base 0 outer base
  | block {n depth : Nat} {f : Frame} {fs : List Frame} (h : Within outer base n fs f.restore) :
      Within outer base (n + 1) (f :: fs) depth

/-- A label stands on the line. -/
def Parts.hasLabel : Parts → Bool
  | .closer rest => rest.hasLabel
  | .label _ _ => true
  | .both left right => left.hasLabel || right.hasLabel
  | .beside code _ => code.hasLabel
  | _ => false

namespace State

/-- The blocks `outer` lie around `n` more blocks, and code in `outer` lies at depth `base`. -/
def Inside (outer : List Frame) (base n : Nat) (s : State) : Prop :=
  Within outer base n s.frames.frames s.depth

variable {outer : List Frame} {base n m : Nat} {s t : State}

theorem inside_self (s : State) : s.Inside s.frames.frames s.depth 0 := Within.outside

theorem Inside.zero (h : s.Inside outer base 0) : s.frames.frames = outer ∧ s.depth = base := by
  obtain ⟨⟨frames⟩, depth, _⟩ := s
  cases h with
  | outside => exact ⟨rfl, rfl⟩

namespace Inside

/-- Only frames and depth count. -/
theorem congr (h : s.Inside outer base n) (hf : t.frames = s.frames) (hd : t.depth = s.depth) :
    t.Inside outer base n := by
  rwa [Inside, hf, hd]

theorem openBlock (h : s.Inside outer base n) : s.openBlock.Inside outer base (n + 1) :=
  Within.block h

theorem openBlockIf {opens : Bool} (h : s.Inside outer base n)
    (hm : levelAfter? n (if opens then ['{'] else []) = some m) :
    (s.openBlockIf opens).Inside outer base m := by
  cases opens with
  | true =>
    cases hm
    exact h.openBlock
  | false =>
    cases hm
    exact h

theorem closeBlock (h : s.Inside outer base (n + 1)) (line : Nat) :
    (s.closeBlock line).state.Inside outer base n ∧ (s.closeBlock line).flow.anomalies = [] := by
  obtain ⟨⟨frames⟩, depth, _⟩ := s
  cases h with
  | block h => exact ⟨h, rfl⟩

theorem placeComment (h : s.Inside outer base n) (p : Piece) (depth line : Nat) :
    (s.placeComment p depth line).state.Inside outer base n ∧
      (s.placeComment p depth line).flow.anomalies = [] := by
  unfold State.placeComment
  split
  · exact ⟨h, rfl⟩
  · exact ⟨h, rfl⟩

theorem placeHeader {opens : Bool} (h : s.Inside outer base n) (p : Piece) (line : Nat)
    (hm : levelAfter? n (if opens then ['{'] else []) = some m) :
    (s.placeHeader p opens line).state.Inside outer base m := by
  have ha := h.congr (answerIf_frames s p.text) (answerIf_depth s p.text)
  cases opens with
  | true =>
    cases hm
    exact openBlock (s := { s.answerIf p.text with
      opensSwitch := Shape.isSwitch p.text, pending := (s.answerIf p.text).pending + 1 }) ha
  | false =>
    cases hm
    exact ha.congr (awaitBody_frames _ p.text) (awaitBody_depth _ p.text)

/-- A label sets the depth of its own block only. -/
theorem placeLabel (h : s.Inside outer base n) (hl : ∀ f ∈ outer.head?, f.labels? = none)
    (p : Piece) (line : Nat) :
    (s.placeLabel p line).state.Inside outer base n ∧
      (s.placeLabel p line).flow.anomalies = [] := by
  obtain ⟨⟨frames⟩, depth, _⟩ := s
  unfold State.placeLabel
  split
  · rename_i labels htop
    cases h with
    | outside =>
      obtain ⟨f, hf, hlabels⟩ := Option.bind_eq_some_iff.1 htop
      rw [hl f hf] at hlabels
      cases hlabels
    | block h => exact ⟨.block h, rfl⟩
  · exact ⟨h, rfl⟩

theorem placeStatements {opens : Bool} (h : s.Inside outer base n) (ps : List Piece) (line : Nat)
    (hm : levelAfter? n (if opens then ['{'] else []) = some m) :
    (s.placeStatements ps opens line).state.Inside outer base m := by
  refine openBlockIf (n := n) ?_ hm
  split
  · exact h
  · exact h

/-- Parts that keep to their level leave the blocks outside alone. A label could move the depth of
the code there, if the innermost of these blocks is the body of a `switch`. -/
theorem run {parts : Parts} (h : s.Inside outer base n)
    (hl : (∀ f ∈ outer.head?, f.labels? = none) ∨ parts.hasLabel = false)
    (hm : levelAfter? n parts.braces = some m) (line : Nat) :
    (State.run line parts s).state.Inside outer base m ∧
      (State.run line parts s).flow.anomalies = [] := by
  induction parts generalizing s n m with
  | nothing =>
    cases hm
    exact ⟨h, rfl⟩
  | closer rest ih =>
    cases n with
    | zero => cases hm
    | succ k =>
      obtain ⟨hclosed, hquiet⟩ := h.closeBlock line
      obtain ⟨hrest, hquiet'⟩ := ih hclosed hl hm
      refine ⟨hrest, ?_⟩
      rw [State.run, Step.andThen, Flow.anomalies_append, hquiet, hquiet']
      rfl
  | opener =>
    cases hm
    exact ⟨h.openBlock, rfl⟩
  | comment p =>
    cases hm
    exact h.placeComment p _ line
  | directive p =>
    cases hm
    exact ⟨h, rfl⟩
  | header p opens => exact ⟨h.placeHeader p line hm, rfl⟩
  | label p rest ih =>
    rcases hl with hl | hl
    · obtain ⟨hlabel, hquiet⟩ := h.placeLabel hl p line
      obtain ⟨hrest, hquiet'⟩ := ih hlabel (.inl hl) hm
      refine ⟨hrest, ?_⟩
      rw [State.run, Step.andThen, Flow.anomalies_append, hquiet, hquiet']
      rfl
    · cases hl
  | declaration category p opens => exact ⟨openBlockIf (s := s.settle) h hm, rfl⟩
  | statements ps opens => exact ⟨h.placeStatements ps line hm, rfl⟩
  | both left right ihl ihr =>
    rw [Parts.braces, levelAfter?_append, Option.bind_eq_some_iff] at hm
    obtain ⟨k, hk, hm⟩ := hm
    simp only [Parts.hasLabel, Bool.or_eq_false_iff] at hl
    obtain ⟨hleft, hquiet⟩ := ihl h (hl.imp_right And.left) hk
    obtain ⟨hright, hquiet'⟩ := ihr hleft (hl.imp_right And.right) hm
    refine ⟨hright, ?_⟩
    rw [State.run, Step.andThen, Flow.anomalies_append, hquiet, hquiet']
    rfl
  | beside code behind ih =>
    obtain ⟨hcode, hquiet⟩ := ih h hl hm
    obtain ⟨hbehind, hquiet'⟩ := hcode.placeComment behind (besideDepth (State.run line code s)) line
    rw [run_beside, Step.andThen]
    refine ⟨hbehind, ?_⟩
    rw [Flow.anomalies_append, hquiet, hquiet']
    rfl

end Inside
end State

/-! ## Lines -/

/-- The braces by which a line opens and closes blocks. -/
def blockBraces (l : Line) : Chars := (Parts.ofText l.trimmed l.trimmedSpan.start).braces

theorem blockBraces_of_clean {l : Line} (h : BraceClean l.text) :
    blockBraces l = bracesIn l.text := by
  rw [blockBraces, braces_ofText h.trimmed, bracesIn_trimmed]

theorem levelAfter?_of_clean {ls : List Line} (h : ∀ l ∈ ls, BraceClean l.text) (n : Nat) :
    levelAfter? n (ls.flatMap blockBraces) = levelAfter? n (ls.flatMap Line.text) := by
  have hbraces : ls.flatMap blockBraces = bracesIn (ls.flatMap Line.text) := by
    rw [bracesIn, List.filter_flatMap, List.flatMap, List.flatMap,
      List.map_congr_left fun l hl => blockBraces_of_clean (h l hl)]
    rfl
  rw [hbraces, levelAfter?_bracesIn]

/-- Lines that keep to their level leave the blocks outside alone and meet no anomaly. -/
theorem inside_of_run {outer : List Frame} {base n m : Nat} {s : State} {ls : List Line}
    (hs : s.comment? = none) (h : s.Inside outer base n)
    (hcomment : ∀ l ∈ ls, ∀ t : State, t.comment? = none → (t.push l).state.comment? = none)
    (hl : (∀ f ∈ outer.head?, f.labels? = none) ∨
      ∀ l ∈ ls, (Parts.ofText l.trimmed l.trimmedSpan.start).hasLabel = false)
    (hm : levelAfter? n (ls.flatMap blockBraces) = some m) :
    (builder.run s ls).state.Inside outer base m ∧ (builder.run s ls).flow.anomalies = [] ∧
      (builder.run s ls).state.comment? = none := by
  induction ls generalizing s n with
  | nil =>
    cases hm
    exact ⟨h, rfl, hs⟩
  | cons l ls ih =>
    rw [List.flatMap_cons, levelAfter?_append, Option.bind_eq_some_iff] at hm
    obtain ⟨k, hk, hm⟩ := hm
    have hline : (s.push l).state.Inside outer base k ∧ (s.push l).flow.anomalies = [] := by
      rw [State.push_eq_run hs]
      exact h.run (hl.imp_right fun hl => hl l (by simp)) hk l.number
    obtain ⟨hinside, hquiet, hnone⟩ := ih (hcomment l (by simp) s hs) hline.1
      (fun k hk => hcomment k (by simp [hk])) (hl.imp_right fun hl k hk => hl k (by simp [hk])) hm
    refine ⟨hinside, ?_, hnone⟩
    rw [Builder.run_cons, show builder.push s l = s.push l from rfl, Step.andThen,
      Flow.anomalies_append, hline.2, hquiet]
    rfl

/-- Lines that meet no anomaly keep to the level of the blocks that were open before them. -/
theorem levelAfter?_of_run {s : State} {ls : List Line} (hs : s.comment? = none)
    (hcomment : ∀ l ∈ ls, ∀ t : State, t.comment? = none → (t.push l).state.comment? = none)
    (h : (builder.run s ls).flow.anomalies = []) :
    levelAfter? s.frames.frames.length (ls.flatMap blockBraces) =
      some (builder.run s ls).state.frames.frames.length := by
  induction ls generalizing s with
  | nil => rfl
  | cons l ls ih =>
    rw [Builder.run_cons, show builder.push s l = s.push l from rfl, Step.andThen,
      Flow.anomalies_append, List.append_eq_nil_iff] at h
    have hline : levelAfter? s.frames.frames.length (blockBraces l) =
        some (s.push l).state.frames.frames.length := by
      have hcounts := State.run_counts l.number (.ofText l.trimmed l.trimmedSpan.start) s
      rw [State.push_eq_run hs] at h ⊢
      rw [hcounts.anomalies] at h
      rw [hcounts.blocks]
      exact levelAfter?_of_readBraces _ h.1
    rw [List.flatMap_cons, levelAfter?_append, hline]
    exact ih (hcomment l (by simp) s hs) (fun k hk => hcomment k (by simp [hk])) h.2

end NestChart.Brace
