import NestChart.Proofs.Shift
import NestChart.Proofs.Text.Slice

/-!
# NestChart.Proofs.Line

The lines of a source lie side by side in it. They are numbered in order, and their spans leave no
byte out and share none (`tile_locate`), because the places add up the bytes of the texts in front
(`exists_of_mem_locate`). The trimmed span of a line stays inside the line and holds what is left of
it without blanks.
-/

namespace NestChart

open Text

/-- The spans hold at least one byte each and lie one directly behind the other, from byte `start`
to byte `stop`. -/
inductive Span.Tile : Nat → Nat → List Span → Prop
  | nil (i : Nat) : Tile i i []
  | cons {s : Span} {stop : Nat} {rest : List Span} (hne : s.start < s.stop)
      (hrest : Tile s.stop stop rest) : Tile s.start stop (s :: rest)

/-- What is cut off a source as a line has its end there, unless it is the last one. -/
theorem Text.physicalLines_split {source t : Chars} {before after : List Chars}
    (h : physicalLines source = before ++ t :: after) :
    t ≠ [] ∧ '\n' ∉ t.dropLast ∧ (after ≠ [] → t.getLast? = some '\n') := by
  induction source using lines_induction generalizing before with
  | nil => simp [physicalLines, linesFrom] at h
  | last body hne hb =>
    rw [physicalLines_last hb hne] at h
    obtain ⟨rfl, rfl, rfl⟩ : before = [] ∧ t = body ∧ after = [] := by
      cases before <;> simp_all
    exact ⟨hne, fun hc => hb ((List.dropLast_sublist t).subset hc), fun ha => absurd rfl ha⟩
  | line body rest hb ih =>
    rw [physicalLines_append hb] at h
    cases before with
    | nil =>
      obtain ⟨rfl, -⟩ := List.cons.inj h
      simpa using hb
    | cons u before => exact ih (List.cons.inj h).2

namespace Line

theorem map_number_locate (number start : Nat) (texts : List Chars) :
    (locate number start texts).map Line.number = List.range' number texts.length := by
  induction texts generalizing number start with
  | nil => rfl
  | cons t texts ih => rw [locate, List.map_cons, ih, List.length_cons, List.range'_succ]

theorem map_text_locate (number start : Nat) (texts : List Chars) :
    (locate number start texts).map Line.text = texts := by
  induction texts generalizing number start with
  | nil => rfl
  | cons t texts ih => rw [locate, List.map_cons, ih]

theorem tile_locate (number start : Nat) {texts : List Chars} (h : ∀ t ∈ texts, t ≠ []) :
    Span.Tile start (start + byteLength texts.flatten) ((locate number start texts).map span) := by
  induction texts generalizing number start with
  | nil => exact .nil start
  | cons t texts ih =>
    have hpos : 0 < byteLength t := byteLength_pos.2 (h t (by simp))
    have hrest := ih (number + 1) (start + byteLength t) fun u hu => h u (by simp [hu])
    rw [List.flatten_cons, byteLength_append, ← Nat.add_assoc]
    exact @Span.Tile.cons ⟨start, start + byteLength t⟩ _ _ (Nat.lt_add_of_pos_right hpos) hrest

/-- A line begins behind the texts in front of it. -/
theorem exists_of_mem_locate {number start : Nat} {texts : List Chars} {l : Line}
    (h : l ∈ locate number start texts) : ∃ before after, texts = before ++ l.text :: after ∧
      l.start = start + byteLength before.flatten := by
  induction texts generalizing number start with
  | nil => cases h
  | cons t texts ih =>
    rw [locate, List.mem_cons] at h
    rcases h with rfl | h
    · exact ⟨[], texts, rfl, by simp⟩
    · obtain ⟨before, after, rfl, hs⟩ := ih h
      refine ⟨t :: before, after, rfl, ?_⟩
      rw [hs, List.flatten_cons, byteLength_append, Nat.add_assoc]

/-- The trimmed content stands in the line where the trimmed span says. -/
theorem exists_standsAt_trimmed (l : Line) : ∃ i, StandsAt l.text l.trimmed i ∧
    l.trimmedSpan = ⟨l.start + i, l.start + i + byteLength l.trimmed⟩ := by
  by_cases hn : l.trimmed = []
  · refine ⟨0, ⟨[], l.text, by simp [hn], rfl⟩, ?_⟩
    rw [trimmedSpan, hn]
    rfl
  · exact ⟨_, l.standsAt_trimmed, trimmedSpan_of_ne_nil hn⟩

/-- The lines of a source are numbered from 1, and their texts and spans make up the source. Each
holds a line end at its end only, and only the last may lack it. The trimmed span of a line lies in
the line, at its start if the line is blank, and holds the trimmed content. -/
theorem ofSource_tile (source : Chars) :
    let lines := ofSource source
    lines.map Line.number = List.range' 1 lines.length ∧
      (lines.map Line.text).flatten = source ∧
      Span.Tile 0 (byteLength source) (lines.map span) ∧
      ∀ l ∈ lines,
        (cutOut source l.span.start l.span.stop = .ok l.text ∧ '\n' ∉ l.text.dropLast ∧
          (l.span.stop < byteLength source → l.text.getLast? = some '\n')) ∧
        cutOut source l.trimmedSpan.start l.trimmedSpan.stop = .ok (trim l.content) ∧
        l.span.start ≤ l.trimmedSpan.start ∧ l.trimmedSpan.stop ≤ l.span.stop ∧
        (trim l.content = [] → l.trimmedSpan = ⟨l.span.start, l.span.start⟩) := by
  intro lines
  have hsource := flatten_physicalLines source
  refine ⟨?_, ?_, ?_, ?_⟩
  · rw [show lines = locate 1 0 (physicalLines source) from rfl, map_number_locate, length_locate]
  · rw [show lines = locate 1 0 (physicalLines source) from rfl, map_text_locate, hsource]
  · have htile := @tile_locate 1 0 (physicalLines source) fun t ht => by
      obtain ⟨before, after, he⟩ := List.append_of_mem ht
      exact (physicalLines_split he).1
    rwa [hsource, Nat.zero_add] at htile
  · intro l hl
    obtain ⟨before, after, he, hstart⟩ := exists_of_mem_locate hl
    obtain ⟨-, hinner, hend⟩ := physicalLines_split he
    rw [he, List.flatten_append, List.flatten_cons, ← List.append_assoc] at hsource
    rw [Nat.zero_add] at hstart
    -- A trimmed content stands in its line, and the line in the source.
    have hstands : StandsAt source l.text l.start := ⟨_, _, hsource.symm, hstart.symm⟩
    obtain ⟨i, htrimmed, hspan⟩ := l.exists_standsAt_trimmed
    have hstop := htrimmed.stop_le
    refine ⟨⟨cutOut_eq_ok hstands, hinner, fun hlt => hend ?_⟩, ?_, ?_, ?_, ?_⟩
    · -- The last line ends where the source does.
      rintro rfl
      rw [← hsource, span, hstart] at hlt
      simp at hlt
    · rw [hspan]
      exact cutOut_eq_ok (hstands.trans htrimmed)
    · rw [hspan]
      exact Nat.le_add_right _ _
    · rw [hspan, span]
      simp only
      omega
    · intro hn
      rw [trimmedSpan, trimmed, hn]
      rfl

/-- The wide blank in front takes three bytes. -/
example : (ofSource ['\u3000', 'a', '\r', '\n', ' ']).map trimmedSpan = [⟨3, 4⟩, ⟨6, 6⟩] := by
  decide

end Line
end NestChart
