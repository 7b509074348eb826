import NestChart.Proofs.Brace.Layout
import NestChart.Proofs.Brace.Run
import NestChart.Proofs.Brace.Statement

/-!
# NestChart.Proofs.Brace.Segments

Statements on one line. A line is cut at its terminators only if it is a statement as a whole. The
forms of a prototype and of a function head leave room for no terminator but the last, so such a
line is one statement anyway. The form of a variable takes any text for the value, terminators
included: a line that begins with a variable and goes on with more statements is shown as one
(`shown_as_segments_iff`).
-/

namespace NestChart.Brace

open Text

/-! ## Lines that are one statement -/

namespace Statement

theorem segments_of_not_mem {text : Chars} (ht : Trimmed text) (hn : text ≠ [])
    (hlone : text ≠ [';']) (h : ';' ∉ text.dropLast) : segments text = [⟨0, text⟩] := by
  refine segments_of_trimmed ht hn hlone ?_
  obtain ⟨front, c, rfl⟩ := text.eq_nil_or_concat.resolve_left hn
  rw [List.concat_eq_append] at h ⊢
  rw [List.dropLast_concat] at h
  rw [IsTerminated, firstTerminator?_append, firstTerminator?_of_not_mem h, firstTerminator?]
  split
  · right
    simp
  · left
    simp [firstTerminator?]

end Statement

/-! ## Forms without room for a terminator -/

namespace Shape

open Pattern

/-- The terminator of a prototype is its last character, and there is no other. -/
theorem not_mem_of_isPrototype {text : Chars} (he : SolidEnd text) (h : isPrototype text = true) :
    ';' ∉ text.dropLast := by
  rw [isPrototype, Bool.and_eq_true, accepts_iff] at h
  obtain ⟨call, rest, rfl, hcall, h⟩ := matches_seq_iff.1 h.1
  obtain ⟨gap, rest, rfl, hgap, h⟩ := matches_seq_iff.1 h
  obtain ⟨mark, behind, rfl, hmark, hbehind⟩ := matches_seq_iff.1 h
  obtain rfl := matches_lit_iff.1 hmark
  have hnil : behind = [] :=
    eq_nil_of_solidEnd he.append_right.append_right.append_right (matches_star_one_iff.1 hbehind)
  subst hnil
  rw [List.append_nil, ← List.append_assoc, List.dropLast_concat, List.mem_append, not_or]
  exact ⟨hcall.not_mem (by decide), hgap.not_mem (by decide)⟩

theorem not_mem_of_isFunctionHead {text : Chars} (h : isFunctionHead text = true) : ';' ∉ text :=
  (accepts_iff.1 h).not_mem (by decide)

end Shape

/-- What is no statement and no head of control has one of the three forms. -/
theorem exists_form_of_classify {text : Chars} (hstart : Comment.start text = .none)
    (hd : isDirective text = false) (hc : classify text ≠ .controlHeader)
    (hs : classify text ≠ .statement) :
    Shape.isPrototype text = true ∨ Shape.isFunctionHead text = true ∨
      classify text = .declaration ∧ Shape.isVariable text = true := by
  have hhash : text.head? ≠ some '#' := by simpa [isDirective] using hd
  unfold classify at hc hs ⊢
  simp only [hstart, hhash, ne_eq, not_true, if_false] at hc hs ⊢
  split at hc
  · split at hc
    · exact absurd rfl hc
    · rename_i hflow hcontrol
      rw [if_pos hflow, if_neg hcontrol] at hs
      exact absurd rfl hs
  · rename_i hflow
    rw [if_neg hflow] at hs ⊢
    split at hs
    · rename_i hp
      exact .inl hp
    · rename_i hp
      rw [if_neg hp]
      split at hs
      · rename_i hform
        rw [if_pos hform]
        rcases Bool.or_eq_true .. ▸ hform with hv | hf
        · exact .inr (.inr ⟨rfl, hv⟩)
        · exact .inr (.inl hf)
      · exact absurd rfl hs

/-- A prototype or a function head is one statement. -/
theorem segments_of_form {text : Chars} (ht : Trimmed text)
    (h : Shape.isPrototype text = true ∨ Shape.isFunctionHead text = true) :
    Statement.segments text = [⟨0, text⟩] := by
  have hmem : ';' ∉ text.dropLast := by
    rcases h with h | h
    · exact Shape.not_mem_of_isPrototype ht.solidEnd h
    · exact fun hm => Shape.not_mem_of_isFunctionHead h ((List.dropLast_sublist text).mem hm)
  refine Statement.segments_of_not_mem ht ?_ ?_ hmem
  · rintro rfl
    revert h
    decide
  · rintro rfl
    revert h
    decide

/-! ## What a line shows -/

/-- A line without braces and comments that is no head of control and no label is cut into
statements or shown as one declaration. -/
theorem Plain.ofText {text : Chars} (h : Plain text) (hn : text ≠ [])
    (hc : classify text ≠ .controlHeader) (start : Nat) :
    Parts.ofText text start =
      if classify text = .statement then
        .statements ((Statement.segments text).map fun s => ⟨s.text, start + s.start⟩) false
      else .declaration (classify text) ⟨text, start⟩ false := by
  by_cases hs : classify text = .statement
  · rw [if_pos hs]
    exact h.ofText_statements hn hs start
  rw [if_neg hs, Parts.ofText_undivided (h.undivided hn), h.splitOpener]
  cases hk : classify text with
  | comment => exact absurd hk (classify_ne_comment h.not_comment)
  | directive => exact absurd hk (classify_ne_directive h.not_comment h.not_directive)
  | controlHeader => exact absurd hk hc
  | statement => exact absurd hk hs
  | declaration | prototype => rfl

/-- The texts of such a line are shown at the depth of the line, and no comment is left open. -/
theorem State.run_plain {text : Chars} (h : Plain text) (hn : text ≠ [])
    (hc : classify text ≠ .controlHeader) (line start : Nat) (s : State) :
    (run line (.ofText text start) s).state.comment? = s.comment? ∧
      (run line (.ofText text start) s).flow.nodes.map (fun n => (n.text, n.depth)) =
        if classify text = .statement then
          (Statement.segments text).map fun g => (g.text, s.effectiveDepth)
        else [(text, s.effectiveDepth)] := by
  rw [h.ofText hn hc]
  split
  · refine ⟨?_, ?_⟩
    · simp only [run, placeStatements, openBlockIf_comment?]
      split <;> rfl
    · simp [run, placeStatements, node]
  · exact ⟨rfl, rfl⟩

/-- A line alone is shown at depth 0. -/
theorem Plain.flow {text : Chars} (h : Plain text) (hline : '\n' ∉ text)
    (hc : classify text ≠ .controlHeader) :
    (builder.flow text).nodes.map (fun n => (n.text, n.depth)) =
      if classify text = .statement then (Statement.segments text).map fun g => (g.text, 0)
      else [(text, 0)] := by
  by_cases hn : text = []
  · subst hn
    rfl
  have hlines : Line.ofSource text = [⟨1, 0, text⟩] := by
    rw [Line.ofSource, physicalLines_last hline hn]
    rfl
  have htrimmed : Line.trimmed ⟨1, 0, text⟩ = text := (Line.trimmed_eq_trim _).trans h.trimmed
  have hrun : builder.run builder.start (Line.ofSource text) =
      State.run 1 (.ofText text (Line.trimmedSpan ⟨1, 0, text⟩).start) .start := by
    have hpush := State.push_eq_run (s := .start) (l := ⟨1, 0, text⟩) rfl
    rw [htrimmed] at hpush
    rw [hlines, ← hpush]
    exact Step.andThen_goto _
  obtain ⟨hcomment, hnodes⟩ :=
    State.run_plain h hn hc 1 (Line.trimmedSpan ⟨1, 0, text⟩).start .start
  rw [flow_eq_run (by rw [hrun]; exact hcomment), hrun]
  exact hnodes

/-- A line without braces, comments and words of control shows its statements, each in its own box,
unless it has the form of a variable and is not one statement as a whole. -/
theorem shown_as_segments_iff {text : Chars} (h : Plain text) (hline : '\n' ∉ text)
    (hc : classify text ≠ .controlHeader) :
    (builder.flow text).nodes.map (fun n => (n.text, n.depth)) =
        (Statement.segments text).map (fun g => (g.text, 0)) ↔
      (classify text = .declaration → Shape.isVariable text = true →
        (Statement.segments text).map Statement.Segment.text = [text]) := by
  rw [h.flow hline hc]
  by_cases hs : classify text = .statement
  · simp [hs]
  rw [if_neg hs]
  have hpairs : (Statement.segments text).map (fun g => (g.text, 0)) =
      ((Statement.segments text).map Statement.Segment.text).map fun t => (t, 0) := by
    rw [List.map_map]
    rfl
  rw [hpairs]
  constructor
  · intro he _ _
    have htexts := congrArg (List.map Prod.fst) he
    rw [List.map_map] at htexts
    simpa using htexts.symm
  · intro hone
    have htexts : (Statement.segments text).map Statement.Segment.text = [text] := by
      rcases exists_form_of_classify h.not_comment h.not_directive hc hs with hp | hf | ⟨hk, hv⟩
      · rw [segments_of_form h.trimmed (.inl hp)]
        rfl
      · rw [segments_of_form h.trimmed (.inr hf)]
        rfl
      · exact hone hk hv
    rw [htexts]
    rfl

/-- Three statements; the terminators of the second lie in its parentheses and literals. -/
theorem shown_as_segments_of_calls :
    let text := "a = 1; f(\"x;y\", ';');  c++".toList
    Plain text ∧ '\n' ∉ text ∧ classify text ≠ .controlHeader ∧
      (builder.flow text).nodes.map (fun n => (n.text, n.depth)) =
        [("a = 1;".toList, 0), ("f(\"x;y\", ';');".toList, 0), ("c++".toList, 0)] := by
  intro text
  have h : Plain text := by decide
  have hline : '\n' ∉ text := by decide
  have hc : classify text = .statement := by decide +kernel
  have hhead : classify text ≠ .controlHeader := by simp [hc]
  have hshown := (shown_as_segments_iff h hline hhead).2 fun hk => by simp [hc] at hk
  exact ⟨h, hline, hhead, hshown.trans (by decide)⟩

/-- The value of the variable reaches to the last terminator, over the end of the first statement. -/
theorem value_reaches_over_statement :
    let text := "int a = 1; b = 2;".toList
    Plain text ∧ '\n' ∉ text ∧ classify text = .declaration ∧
      (Statement.segments text).map (fun g => (g.text, 0)) =
        [("int a = 1;".toList, 0), ("b = 2;".toList, 0)] ∧
      (builder.flow text).nodes.map (fun n => (n.text, n.depth)) = [(text, 0)] := by
  decide +kernel

end NestChart.Brace
