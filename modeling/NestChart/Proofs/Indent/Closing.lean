import NestChart.Proofs.Indent.Strings

/-!
# NestChart.Proofs.Indent.Closing

Where a triple-quoted string ends. A line of code is scanned character by character for the string
that it leaves open; a line inside a string is only searched for the marker. The two come to the
same unless the marker is on the line and the scan finds a string open at its end all the same: all
markers are hidden by backslashes, or one closes the string and another string begins behind it
(`string?_push_iff`).
-/

namespace NestChart.Indent

open Text

/-- The style of the triple-quoted string that the lines so far leave open. -/
def Mode.string? : Mode → Option QuoteStyle
  | .string style _ _ => some style
  | _ => none

/-- The text of a string of the style up to the marker that closes it, and what follows the marker.
A backslash takes the next character with it. -/
inductive QuoteStyle.ClosesBefore (style : QuoteStyle) (rest : Chars) : Chars → Prop
  | marker : ClosesBefore style rest (style.marker ++ rest)
  | escape (c : Char) {cs : Chars} (h : ClosesBefore style rest cs) :
      ClosesBefore style rest ('\\' :: c :: cs)
  | char {c : Char} {cs : Chars} (hb : c ≠ '\\') (hm : ¬ style.marker <+: c :: cs)
      (h : ClosesBefore style rest cs) : ClosesBefore style rest (c :: cs)

namespace QuoteScan

variable {style : QuoteStyle} {rest text : Chars}

theorem finish_marker_append (style : QuoteStyle) (rest : Chars) :
    (triple style).finish 0 (style.marker ++ rest) = code.finish 0 rest := by
  cases style <;> rfl

theorem finish_escape (style : QuoteStyle) (c : Char) (cs : Chars) :
    (triple style).finish 0 ('\\' :: c :: cs) = (triple style).finish 0 cs := rfl

theorem finish_char {c : Char} {cs : Chars} (hb : c ≠ '\\') (hm : ¬ style.marker <+: c :: cs) :
    (triple style).finish 0 (c :: cs) = (triple style).finish 0 cs := by
  rw [← List.isPrefixOf_iff_prefix] at hm
  rw [finish]
  simp only [hb, hm, if_false]
  rfl

/-- Behind the marker that closes the string the scan goes on in code. -/
theorem finish_of_closesBefore (h : style.ClosesBefore rest text) :
    (triple style).finish 0 text = code.finish 0 rest := by
  induction h with
  | marker => exact finish_marker_append style rest
  | escape c _ ih => rw [finish_escape, ih]
  | char hb hm _ ih => rw [finish_char hb hm, ih]

/-- A text that closes the string nowhere leaves it open. -/
theorem finish_of_not_closesBefore (h : ∀ rest, ¬ style.ClosesBefore rest text) :
    (triple style).finish 0 text = triple style := by
  -- On the length, since a backslash takes two characters at once.
  induction hn : text.length using Nat.strongRecOn generalizing text with
  | ind n ih =>
    subst hn
    match text with
    | [] => rfl
    | c :: cs =>
      by_cases hb : c = '\\'
      · subst hb
        match cs with
        | [] => rfl
        | d :: ds =>
          rw [finish_escape]
          exact ih _ (by simp only [List.length_cons]; omega) (fun rest hr => h rest (.escape d hr)) rfl
      by_cases hm : style.marker <+: c :: cs
      · obtain ⟨rest, hr⟩ := hm
        exact absurd (hr ▸ .marker) (h rest)
      · rw [finish_char hb hm]
        exact ih _ (by simp) (fun rest hr => h rest (.char hb hm hr)) rfl

end QuoteScan

theorem string?_push {s : State} {l : Line} {style : QuoteStyle} {depth line : Nat}
    (hs : s.mode = .string style depth line) (hl : l.trimmed ≠ []) :
    (s.push l).state.mode.string? = if style.closes l.trimmed then none else some style := by
  have hne : l.trimmed.isEmpty = false := by simpa using hl
  simp only [State.push, hne, hs, Bool.false_eq_true, if_false, Step.emit]
  split <;> simp [Mode.string?, hs]

/-- Behind a line inside a string the builder has just the string open in which the scan of the line
ends, unless the marker is on the line and closes the string nowhere, or closes it with another
string left open behind it. -/
theorem string?_push_iff {s : State} {l : Line} {style : QuoteStyle} {depth line : Nat}
    (hs : s.mode = .string style depth line) (hl : l.trimmed ≠ []) :
    (s.push l).state.mode.string? = ((QuoteScan.triple style).finish 0 l.trimmed).open? ↔
      (style.closes l.trimmed = true →
        ∃ rest, style.ClosesBefore rest l.trimmed ∧ QuoteStyle.leftOpen? rest = none) := by
  rw [string?_push hs hl]
  cases hc : style.closes l.trimmed with
  | false => simp [QuoteScan.finish_triple hc, QuoteScan.open?]
  | true =>
    simp only [if_true, true_imp_iff]
    constructor
    · intro hnone
      by_cases hrest : ∃ rest, style.ClosesBefore rest l.trimmed
      · obtain ⟨rest, hr⟩ := hrest
        rw [QuoteScan.finish_of_closesBefore hr] at hnone
        exact ⟨rest, hr, hnone.symm⟩
      · rw [QuoteScan.finish_of_not_closesBefore (not_exists.1 hrest)] at hnone
        cases hnone
    · rintro ⟨rest, hr, hopen⟩
      rw [QuoteScan.finish_of_closesBefore hr]
      exact hopen.symm

/-- The marker behind a backslash closes nothing, the next one does, and a third stands in a
comment. -/
theorem string?_push_iff_of_escaped :
    let s := (State.start.push ⟨1, 0, "x = \"\"\"\n".toList⟩).state
    let l : Line := ⟨2, 8, "a \\\"\"\" b\"\"\" + 'c'  # \"\"\"\n".toList⟩
    s.mode = .string .double 0 1 ∧ l.trimmed ≠ [] ∧
      (s.push l).state.mode.string? = ((QuoteScan.triple .double).finish 0 l.trimmed).open? := by
  intro s l
  have hs : s.mode = .string .double 0 1 := by decide
  have hl : l.trimmed ≠ [] := by decide
  refine ⟨hs, hl, (string?_push_iff hs hl).2 fun _ => ⟨" + 'c'  # \"\"\"".toList, ?_, by decide⟩⟩
  have hend : QuoteStyle.double.ClosesBefore " + 'c'  # \"\"\"".toList
      "\"\"\" + 'c'  # \"\"\"".toList := .marker
  exact .char (by decide) (by decide) <| .char (by decide) (by decide) <| .escape _ <|
    .char (by decide) (by decide) <| .char (by decide) (by decide) <|
    .char (by decide) (by decide) <| .char (by decide) (by decide) hend

/-- A string that begins on the line on which another one ends: the scan finds it open, and the
builder goes on in code. -/
theorem closing_line_hides_string :
    let s := (State.start.push ⟨1, 0, "x = \"\"\"\n".toList⟩).state
    let l : Line := ⟨2, 8, "a\"\"\" + \"\"\"b\n".toList⟩
    s.mode = .string .double 0 1 ∧
      ((QuoteScan.triple .double).finish 0 l.trimmed).open? = some .double ∧
      (s.push l).state.mode = .code := by
  decide

end NestChart.Indent
