import NestChart.Proofs.Indent.Columns
import NestChart.Proofs.Indent.Place
import NestChart.Proofs.Indent.Shift
import NestChart.Proofs.Insertion

/-!
# NestChart.Proofs.Indent.Comments

Comments of an indentation language. A comment is shown at the depth of the code behind it, if that
stands at the column of the comment and opens a level only where one is due
(`comment_depth_eq_code_depth_iff`). It leaves levels, brackets and the last opener as they were, so
comments can be put in anywhere but inside a string or behind a backslash, and blank lines anywhere
(`flow_insert_comments`).
-/

namespace NestChart.Indent

open Text

/-! ## The depth of a comment -/

/-- Among ascending levels those at or before a column come first. -/
theorem takeWhile_eq_filter {levels : List Nat} (h : levels.Pairwise (· < ·)) (c : Nat) :
    levels.takeWhile (· ≤ c) = levels.filter (· ≤ c) := by
  induction levels with
  | nil => rfl
  | cons v levels ih =>
    obtain ⟨hv, h⟩ := List.pairwise_cons.1 h
    by_cases hc : v ≤ c
    · rw [List.takeWhile_cons_of_pos (by simpa using hc), ih h,
        List.filter_cons_of_pos (by simpa using hc)]
    · have hnone : ∀ u ∈ v :: levels, ¬ u ≤ c := by
        intro u hu
        rcases List.mem_cons.1 hu with rfl | hu
        · exact hc
        · have := hv u hu
          omega
      rw [List.takeWhile_cons_of_neg (by simpa using hc), eq_comm, List.filter_eq_nil_iff]
      simpa using hnone

/-- The levels at or before a column are those that a line of code there leaves open. -/
theorem length_takeWhile_reverse {levels : List Nat} (h : levels.Pairwise (· > ·)) (c : Nat) :
    (levels.reverse.takeWhile (· ≤ c)).length = (levels.dropWhile (c < ·)).length := by
  rw [takeWhile_eq_filter (List.pairwise_reverse.2 h), dropWhile_eq_filter h, List.filter_reverse,
    List.length_reverse]

namespace State

/-- A comment stands where code at its column would, unless that code goes back to no level or opens
one that is not due. -/
theorem commentDepth_eq_depth_align_iff {s : State} (h : s.levels.Pairwise (· > ·))
    (c line : Nat) :
    s.commentDepth c = (s.align c line).1.depth ↔
      (s.align c line).2 = [] ∧ (c ≤ s.top ∨ s.afterOpener = true) := by
  have hcount := length_takeWhile_reverse h c
  have hlength : (s.levels.dropWhile (c < ·)).length < s.levels.length ↔ c < s.top :=
    length_dropWhile_lt_iff s.levels c
  have hsame : ¬ c < s.top → s.levels.dropWhile (c < ·) = s.levels := by
    intro hback
    rw [← hlength, Nat.not_lt] at hback
    exact (List.dropWhile_suffix _).eq_of_length_le hback
  simp only [commentDepth, align, depth, hcount, hlength]
  generalize s.levels.dropWhile (c < ·) = kept at hsame
  rcases Nat.lt_trichotomy c s.top with hback | heq | hdeeper
  · -- The levels beyond `c` close, and the comment counts none but those that stay.
    have hcomment : ¬ s.top < c := by omega
    by_cases hopens : kept.headD 0 < c
    · simp only [if_pos hopens, if_pos hback, hcomment, decide_false, Bool.and_false,
        Bool.false_eq_true, if_false, List.length_cons]
      simp
    · simp only [if_neg hopens, hcomment, decide_false, Bool.and_false, Bool.false_eq_true,
        if_false]
      simp [Nat.le_of_lt hback]
  · have htop : kept.headD 0 = s.top := by
      rw [hsame (by omega)]
      rfl
    have hopens : ¬ kept.headD 0 < c := by omega
    have hcomment : ¬ s.top < c := by omega
    simp only [if_neg hopens, hcomment, decide_false, Bool.and_false, Bool.false_eq_true,
      if_false]
    simp [Nat.le_of_eq heq]
  · have htop : kept.headD 0 = s.top := by
      rw [hsame (by omega)]
      rfl
    have hopens : kept.headD 0 < c := by omega
    have hback : ¬ c < s.top := by omega
    have hle : ¬ c ≤ s.top := by omega
    simp only [if_pos hopens, if_neg hback, hdeeper, decide_true, Bool.and_true,
      List.length_cons]
    cases s.afterOpener
    · simp [hle]
    · simp

/-- A line that names an interpreter is written as a comment. -/
theorem isComment_of_isInterpreterLine {l : Line} (h : isInterpreterLine l = true) :
    isComment l.trimmed = true := by
  simp only [isInterpreterLine, Bool.and_eq_true, List.isPrefixOf_iff_prefix] at h
  obtain ⟨rest, he⟩ := h.2
  rw [← he]
  rfl

theorem push_comment {s : State} {l : Line} (hs : s.mode = .code)
    (hi : isInterpreterLine l = false) (hc : isComment l.trimmed = true) :
    s.push l = .emit s (node l (s.commentDepth (columnOf l)) .comment) := by
  have hne : l.trimmed.isEmpty = false := by
    rw [List.isEmpty_eq_false_iff]
    intro he
    rw [he] at hc
    cases hc
  simp only [push, hne, hs, hi, hc, Bool.false_eq_true, if_false, if_true]
  rfl

theorem begins_of_code {s : State} {l : Line} (hs : s.mode = .code) (hne : l.trimmed ≠ [])
    (hc : isComment l.trimmed = false) : s.begins l = true := by
  have hi : isInterpreterLine l = false := by
    rw [Bool.eq_false_iff]
    intro hi
    rw [isComment_of_isInterpreterLine hi] at hc
    cases hc
  simp [begins, isShown, hs, hne, hi, hc]

end State

theorem levels_descending (ls : List Line) :
    (builder.run builder.start ls).state.levels.Pairwise (· > ·) := by
  have hnests : ∃ cs, Nests cs (builder.run builder.start ls).state.levels := by
    refine builder.state_of_run (P := fun s => ∃ cs, Nests cs s.levels) ?_ ⟨[], .nil⟩ ls
    rintro s l ⟨cs, h⟩
    cases hb : s.begins l with
    | true => exact ⟨_, h.push_of_begins hb⟩
    | false => exact ⟨_, h.push_of_not_begins hb⟩
  obtain ⟨cs, h⟩ := hnests
  exact h.descending

/-- A comment and a line of code right behind it at its column are shown at one depth exactly when
the code does not go back to a column without a level and goes deeper only behind an opener. -/
theorem comment_depth_eq_code_depth_iff {s : State} {ls : List Line} {comment code : Line}
    (hreach : (builder.run builder.start ls).state = s) (hs : s.mode = .code)
    (hcomment : isComment comment.trimmed = true)
    (hname : State.isInterpreterLine comment = false) (hne : code.trimmed ≠ [])
    (hcode : isComment code.trimmed = false) (hcolumn : columnOf comment = columnOf code) :
    let next := (s.push comment).state.push code
    ∃ n m, (s.push comment).flow.nodes = [n] ∧ next.flow.nodes = [m] ∧
      (n.depth = m.depth ↔
        (∀ a ∈ next.flow.anomalies, a.kind ≠ .inconsistentDedent) ∧
          (columnOf code ≤ s.top ∨ s.afterOpener = true)) := by
  intro next
  have hdesc : s.levels.Pairwise (· > ·) := hreach ▸ levels_descending ls
  have hpush := State.push_comment hs hname hcomment
  have hnext : next = s.pushCode code := by
    show (s.push comment).state.push code = _
    rw [hpush]
    exact State.push_of_begins (State.begins_of_code hs hne hcode)
  have hquiet : (∀ a ∈ next.flow.anomalies, a.kind ≠ .inconsistentDedent) ↔
      (s.align (columnOf code) code.number).2 = [] := by
    rw [hnext, List.eq_nil_iff_forall_not_mem]
    refine forall_congr' fun a => imp_congr_right fun ha => ?_
    rw [State.align_anomaly ha]
    simp
  refine ⟨State.node comment (s.commentDepth (columnOf comment)) .comment,
    State.node code (s.align (columnOf code) code.number).1.depth (classify code.trimmed), ?_, ?_,
    ?_⟩
  · rw [hpush]
    rfl
  · rw [hnext]
    rfl
  · rw [hquiet, ← State.commentDepth_eq_depth_align_iff hdesc, hcolumn]
    rfl

/-- A comment in front of code that goes back by two levels. -/
theorem comment_depth_eq_code_depth_dedent :
    let ls := Line.ofSource "if a:\n  if b:\n    if c:\n      d()\n".toList
    let s := (builder.run builder.start ls).state
    let comment : Line := ⟨5, 38, "  # back\n".toList⟩
    let code : Line := ⟨6, 47, "  e()\n".toList⟩
    ∃ n m, (s.push comment).flow.nodes = [n] ∧
      ((s.push comment).state.push code).flow.nodes = [m] ∧ n.depth = m.depth := by
  intro ls s comment code
  obtain ⟨n, m, hn, hm, h⟩ := @comment_depth_eq_code_depth_iff s ls comment code rfl (by decide)
    (by decide) (by decide) (by decide) (by decide) (by decide)
  exact ⟨n, m, hn, hm, h.2 ⟨by decide, .inl (by decide)⟩⟩

/-! ## Comments and blank lines put in -/

theorem balance_comment {text : Chars} (h : isComment text = true) :
    Continuation.balance text = 0 := by
  cases text with
  | nil => rfl
  | cons c cs =>
    obtain rfl : c = '#' := by simpa [isComment] using h
    rfl

namespace State

/-- A comment would be read as one, or within brackets. -/
def takesComments (s : State) : Bool :=
  match s.mode with
  | .code => true
  | .string .. => false
  | .continued brackets _ => 0 < brackets

theorem Alike.takesComments_eq {R : Nat → Nat → Prop} {s t : State} (h : s.Alike R t) :
    t.takesComments = s.takesComments := by
  have hmode := h.mode
  unfold takesComments
  generalize s.mode = mode at hmode
  generalize t.mode = mode' at hmode
  cases hmode <;> rfl

variable {s : State} {l : Line}

/-- Brackets and backslashes in a comment do not count where brackets are open already. -/
theorem endLine_comment {brackets depth : Nat} (hs : s.mode = .continued brackets depth)
    (hb : 0 < brackets) (hc : isComment l.trimmed = true) :
    s.endLine l.trimmed (brackets + Continuation.balance l.trimmed) depth = s := by
  have hpos : (0 : Int) < brackets := by omega
  rw [balance_comment hc, Int.add_zero, endLine, decide_eq_true hpos, Bool.true_or, if_pos rfl,
    Int.toNat_natCast, ← hs]

theorem push_comment_state (hs : s.takesComments = true) (hc : isComment l.trimmed = true) :
    (s.push l).state = s := by
  unfold takesComments at hs
  simp only [push]
  split
  · rfl
  split
  · rename_i hmode
    rw [hmode] at hs
    cases hs
  · rename_i hmode
    rw [hmode] at hs
    exact endLine_comment hmode (by simpa using hs) hc
  · split
    · rfl
    · rfl

theorem passes_comment (hs : s.takesComments = true) (hc : isComment l.trimmed = true) :
    builder.Passes s l := by
  refine ⟨push_comment_state hs hc, ?_, ?_⟩
  · have hb : s.begins l = false := by simp [begins, hc]
    exact (push_of_not_begins hb).2
  · intro n hn
    obtain ⟨depth, category, rfl⟩ := (push_shows s l).node n hn
    rfl

theorem passes_blank (h : l.trimmed = []) (s : State) : builder.Passes s l := by
  have hpush : builder.push s l = .goto s := push_of_blank h s
  refine ⟨?_, ?_, ?_⟩
  · rw [hpush]
    rfl
  · rw [hpush]
    rfl
  · intro n hn
    rw [hpush] at hn
    cases hn

/-- A line names an interpreter where it comes to stand only if it did before. -/
theorem isInterpreterLine_moves {source : Chars} {p k : Nat} {m : Line}
    (hname : p = 0 → ∀ l ∈ (Line.ofSource source).head?, ¬ ['#', '!'] <+: l.trimmed)
    (hm : Line.Moves source p k l m) : isInterpreterLine m = isInterpreterLine l := by
  obtain ⟨hmem, hcontent, hnumber⟩ := hm
  have htrimmed : m.trimmed = l.trimmed := congrArg trim hcontent
  have hpos : 1 ≤ l.number := Line.le_number_of_mem_locate hmem
  rw [Line.makeRoom] at hnumber
  cases p with
  | zero =>
    rw [if_neg (by omega)] at hnumber
    rw [← isInterpreterLine_shift k 0 hmem (.inr (hname rfl))]
    simp only [isInterpreterLine, ← hnumber, htrimmed, Line.shift_number, Line.shift_trimmed]
  | succ p =>
    split at hnumber
    · simp only [isInterpreterLine, ← hnumber, htrimmed]
    · have hl : (l.number == 1) = false := by simp only [beq_eq_false_iff_ne]; omega
      have hm : (m.number == 1) = false := by simp only [beq_eq_false_iff_ne]; omega
      simp only [isInterpreterLine, hl, hm, Bool.false_and]

end State

/-- Blank lines put in between two lines, and comments where neither a string nor a backslash is
open, leave all other nodes and all anomalies as they were, those behind them on later lines. A
first line that names an interpreter stays the first. -/
theorem flow_insert_comments {source other : Chars} {p : Nat} {inserted : List Chars}
    (h : Line.Inserts source other p inserted)
    (hname : p = 0 → ∀ l ∈ (Line.ofSource source).head?, ¬ ['#', '!'] <+: l.trimmed)
    (hlines : ∀ content ∈ inserted, trim content = [] ∨ isComment (trim content) = true ∧
      (builder.run builder.start ((Line.ofSource source).take p)).state.takesComments = true) :
    (builder.flow source).Alike (Line.makeRoom p inserted.length · = ·)
      ((builder.flow other).outside p inserted.length) := by
  refine (builder.flow_insert h State.Alike.start ?_ (fun _ _ => State.finish_alike) ?_).1
  · intro s t l m hst hm
    exact State.push_alike hst hm.content_eq hm.number_eq (State.isInterpreterLine_moves hname hm)
  · intro t l hst hl
    rcases hlines _ hl with hblank | ⟨hcomment, htakes⟩
    · exact State.passes_blank hblank t
    · exact State.passes_comment (hst.takesComments_eq.trans htakes) hcomment

/-- Behind an open bracket; the comments hold a bracket, a quote and a backslash at the end. -/
theorem flow_insert_comments_bracket :
    let source := "if a:\n  b(1,\n2)\nc\n".toList
    let other := "if a:\n  b(1,\n# ) \"\"\" \\\n\n         # ( :\n2)\nc\n".toList
    let inserted := ["# ) \"\"\" \\".toList, [], "         # ( :".toList]
    Line.Inserts source other 2 inserted ∧
      (∀ content ∈ inserted, trim content = [] ∨ isComment (trim content) = true ∧
        (builder.run builder.start ((Line.ofSource source).take 2)).state.takesComments = true) ∧
      (builder.flow source).Alike (Line.makeRoom 2 3 · = ·) ((builder.flow other).outside 2 3) := by
  intro source other inserted
  have h : Line.Inserts source other 2 inserted := by decide
  have hlines : ∀ content ∈ inserted, trim content = [] ∨ isComment (trim content) = true ∧
      (builder.run builder.start ((Line.ofSource source).take 2)).state.takesComments = true := by
    decide
  exact ⟨h, hlines, flow_insert_comments h nofun hlines⟩

end NestChart.Indent
