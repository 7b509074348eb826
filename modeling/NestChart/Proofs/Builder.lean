import NestChart.Builder
import NestChart.Proofs.Text.Lines
import NestChart.Proofs.Text.Place

/-!
# NestChart.Proofs.Builder

Reading a source line by line. `Line.Follows` says where a physical line lies in the source;
`Builder.run_ofSource` is the induction over the lines of a source: what holds before the first line
and is kept by each line holds in the end.
-/

namespace NestChart

open Text

/-- The nodes without their places in the source. -/
def Flow.outline (f : Flow) : List (Chars × Nat × Category) :=
  f.nodes.map fun n => (n.text, n.depth, n.category)

theorem Flow.outline_append (f g : Flow) : (f ++ g).outline = f.outline ++ g.outline := by
  simp [outline]

/-- `l` is the physical line of `source` with `before` in front of it and `after` behind it. -/
structure Line.Follows (l : Line) (source before after : Chars) : Prop where
  source_eq : source = before ++ l.text ++ after
  start_eq : l.start = byteLength before
  number_eq : l.number = before.count '\n' + 1
  text_eq : ∃ body, '\n' ∉ body ∧ (l.text = body ++ ['\n'] ∨ l.text = body)

namespace Builder

variable {σ : Type}

theorem run_cons (b : Builder σ) (s : σ) (l : Line) (ls : List Line) :
    b.run s (l :: ls) = (b.push s l).andThen fun s => b.run s ls := rfl

/-- What each line keeps holds after any lines. -/
theorem state_of_run (b : Builder σ) {P : σ → Prop} (step : ∀ s l, P s → P (b.push s l).state)
    {s : σ} (h : P s) (ls : List Line) : P (b.run s ls).state := by
  induction ls generalizing s with
  | nil => exact h
  | cons l ls ih => exact ih (step s l h)

/-- Inside a source, after `before`: `f` has been added so far, and `s` has been reached. -/
theorem run_locate (b : Builder σ) {source : Chars} {Inv : Chars → σ → Flow → Prop}
    (step : ∀ l before after s f, l.Follows source before after → Inv before s f →
      Inv (before ++ l.text) (b.push s l).state (f ++ (b.push s l).flow)) :
    ∀ (rest before : Chars) (s : σ) (f : Flow), source = before ++ rest → Inv before s f →
      let reached := b.run s
        (Line.locate (before.count '\n' + 1) (byteLength before) (physicalLines rest))
      Inv source reached.state (f ++ reached.flow) := by
  intro rest
  induction rest using lines_induction with
  | nil =>
    intro before s f hs h
    simpa [physicalLines, linesFrom, Line.locate, run, Step.goto, hs] using h
  | last body hne hb =>
    intro before s f hs h
    have hl : Line.Follows ⟨before.count '\n' + 1, byteLength before, body⟩ source before [] :=
      ⟨by simp [hs], rfl, rfl, body, hb, .inr rfl⟩
    have h := step _ _ _ _ _ hl h
    rw [physicalLines_last hb hne]
    simpa [Line.locate, run_cons, run, Step.andThen, Step.goto, hs] using h
  | line body rest hb ih =>
    intro before s f hs h
    have hl : Line.Follows ⟨before.count '\n' + 1, byteLength before, body ++ ['\n']⟩ source before
        rest := ⟨by simp [hs], rfl, rfl, body, hb, .inl rfl⟩
    have h := ih _ _ _ (by simp [hs]) (step _ _ _ _ _ hl h)
    -- The line end counts once, so the next line has the next number.
    have hc : (before ++ (body ++ ['\n'])).count '\n' = before.count '\n' + 1 := by
      simp [List.count_eq_zero.2 hb]
    rw [physicalLines_append hb]
    simp only [hc, byteLength_append] at h
    simpa [Line.locate, run_cons, Step.andThen, Flow.append_assoc] using h

/-- What holds before the first line and is kept by each line holds when the source is read. -/
theorem run_ofSource (b : Builder σ) {source : Chars} {Inv : Chars → σ → Flow → Prop} {s : σ}
    (start : Inv [] s .empty)
    (step : ∀ l before after s f, l.Follows source before after → Inv before s f →
      Inv (before ++ l.text) (b.push s l).state (f ++ (b.push s l).flow)) :
    Inv source (b.run s (Line.ofSource source)).state (b.run s (Line.ofSource source)).flow := by
  simpa [Line.ofSource] using b.run_locate step source [] s .empty rfl start

end Builder

/-! ## A line in its source -/

namespace Line

theorem trimmed_trimmed (l : Line) : Trimmed l.trimmed := trimmed_trim l.content

theorem trimmedSpan_of_ne_nil {l : Line} (h : l.trimmed ≠ []) :
    l.trimmedSpan = ⟨l.start + byteLength (l.content.takeWhile isBlank),
      l.start + byteLength (l.content.takeWhile isBlank) + byteLength l.trimmed⟩ := by
  simp [trimmedSpan, List.isEmpty_iff, h]

/-- The trimmed content takes the bytes of its span. -/
theorem trimmedSpan_eq {l : Line} (h : l.trimmed ≠ []) :
    l.trimmedSpan = ⟨l.trimmedSpan.start, l.trimmedSpan.start + byteLength l.trimmed⟩ := by
  rw [trimmedSpan_of_ne_nil h]

/-- The content is the line without its end. -/
theorem content_append (l : Line) :
    l.content ++ (l.text.reverse.takeWhile isLineEnd).reverse = l.text := by
  rw [content, ← List.reverse_append, List.takeWhile_append_dropWhile, List.reverse_reverse]

/-- The trimmed content is the line without the blanks around it; its end is blank too. -/
theorem exists_trimmed_append (l : Line) :
    ∃ blanks, l.content.takeWhile isBlank ++ l.trimmed ++ blanks = l.text ∧
      ∀ c ∈ blanks, isBlank c = true := by
  obtain ⟨blanks, he, hb⟩ := exists_trim_append l.content
  have hends : ∀ c ∈ (l.text.reverse.takeWhile isLineEnd).reverse, isBlank c = true := by
    intro c hc
    have hend : isLineEnd c = true :=
      List.all_eq_true.1 List.all_takeWhile c (List.mem_reverse.1 hc)
    simp only [isLineEnd, Bool.or_eq_true, beq_iff_eq] at hend
    rcases hend with rfl | rfl <;> decide
  refine ⟨blanks ++ (l.text.reverse.takeWhile isLineEnd).reverse, ?_, ?_⟩
  · rw [← List.append_assoc, Line.trimmed, he, content_append]
  · intro c hc
    rcases List.mem_append.1 hc with hc | hc
    · exact hb c hc
    · exact hends c hc

/-- The line end is trimmed away like other blanks. -/
theorem trimmed_eq_trim (l : Line) : l.trimmed = trim l.text := by
  obtain ⟨blanks, he, hb⟩ := l.exists_trimmed_append
  have hlead : ∀ c ∈ l.content.takeWhile isBlank, isBlank c = true :=
    fun _ => isBlank_of_mem_takeWhile
  rw [← he, trim_append_blanks hb, trim_blanks_append hlead, l.trimmed_trimmed]

theorem standsAt_content (l : Line) : StandsAt l.text l.content 0 := by
  have h := StandsAt.left l.content (l.text.reverse.takeWhile isLineEnd).reverse
  rwa [content_append] at h

theorem standsAt_trimmed (l : Line) :
    StandsAt l.text l.trimmed (byteLength (l.content.takeWhile isBlank)) := by
  have h := l.standsAt_content.trans (StandsAt.trim l.content)
  rwa [Nat.zero_add] at h

theorem content_concat (n i : Nat) (body : Chars) :
    content ⟨n, i, body ++ ['\n']⟩ = content ⟨n, i, body⟩ := by
  simp [content, isLineEnd]

namespace Follows

variable {l : Line} {source before after : Chars}

theorem standsAt_text (h : l.Follows source before after) : StandsAt source l.text l.start :=
  ⟨before, after, h.source_eq, h.start_eq.symm⟩

theorem lineAt_start (h : l.Follows source before after) : lineAt source l.start = l.number := by
  rw [h.source_eq, h.start_eq, h.number_eq, List.append_assoc, lineAt_append]

theorem newline_not_mem_content (h : l.Follows source before after) : '\n' ∉ l.content := by
  obtain ⟨n, i, text⟩ := l
  obtain ⟨body, hb, rfl | rfl⟩ := h.text_eq
  · rw [content_concat]
    exact fun hc => hb ((standsAt_content ⟨n, i, body⟩).mem hc)
  · exact fun hc => hb ((standsAt_content ⟨n, i, text⟩).mem hc)

theorem newline_not_mem_trimmed (h : l.Follows source before after) : '\n' ∉ l.trimmed :=
  fun hc => h.newline_not_mem_content ((StandsAt.trim l.content).mem hc)

/-- The trimmed content stands where its span says. -/
theorem standsAt_trimmedSpan (h : l.Follows source before after) (hne : l.trimmed ≠ []) :
    StandsAt source l.trimmed l.trimmedSpan.start := by
  rw [trimmedSpan_of_ne_nil hne]
  exact h.standsAt_text.trans l.standsAt_trimmed

theorem le_trimmedSpan_start (h : l.Follows source before after) :
    byteLength before ≤ l.trimmedSpan.start := by
  rw [← h.start_eq, trimmedSpan]
  split <;> simp

theorem trimmedSpan_stop_le (h : l.Follows source before after) (hne : l.trimmed ≠ []) :
    l.trimmedSpan.stop ≤ byteLength (before ++ l.text) := by
  have hs := l.standsAt_trimmed.stop_le
  rw [trimmedSpan_of_ne_nil hne, byteLength_append, ← h.start_eq]
  simp only
  omega

/-- All of the trimmed content lies on the line. -/
theorem lineAt_trimmedSpan_add (h : l.Follows source before after) (hne : l.trimmed ≠ [])
    {part : Chars} {i : Nat} (hp : StandsAt l.trimmed part i) :
    lineAt source (l.trimmedSpan.start + i) = l.number := by
  have hc := h.standsAt_text.trans l.standsAt_content
  have hs := lineAt_add hc h.newline_not_mem_content ((StandsAt.trim l.content).trans hp)
  rw [Nat.add_zero, h.lineAt_start] at hs
  rw [trimmedSpan_of_ne_nil hne, ← hs, Nat.add_assoc]

end Follows
end Line
end NestChart
