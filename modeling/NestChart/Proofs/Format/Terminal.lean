import NestChart.Viewer.Screen

/-!
# NestChart.Proofs.Format.Terminal

A chart on a terminal is its plain text in colors. Terminal text is plain text with sequences that
set graphic modes; `withoutModes` takes every one of them out. A sequence ends at its letter, so
none can be made of the end of one and the text behind it, and a text without an escape character
holds none. In the viewer the colors are styles beside the texts, so there is nothing to take out.
-/

namespace NestChart

/-- The texts of a drawn line that come from titles, boxes and notes. -/
def DrawnLine.texts : DrawnLine → List Chars
  | .title text => [text]
  | .blank => []
  | .boxed _ _ text suffix? => text :: suffix?.toList

namespace Format

/-! ## Sequences that set a mode -/

/-- How many characters the mode sequence takes that a text begins with; 0 if it begins with none. A
sequence is an escape character, a bracket, at least one digit and the letter `m`. -/
def modeLength : Chars → Nat
  | '\x1b' :: '[' :: cs =>
    let digits := cs.takeWhile Char.isDigit
    if digits ≠ [] ∧ (cs.drop digits.length).head? = some 'm' then digits.length + 3 else 0
  | _ => 0

/-- The text without its mode sequences, from `skip` characters on. -/
def withoutModesFrom (skip : Nat) : Chars → Chars
  | [] => []
  | c :: cs =>
    match skip with
    | k + 1 => withoutModesFrom k cs
    | 0 =>
      match modeLength (c :: cs) with
      | 0 => c :: withoutModesFrom 0 cs
      | n + 1 => withoutModesFrom n cs

/-- The text without its mode sequences. -/
def withoutModes (text : Chars) : Chars := withoutModesFrom 0 text

theorem withoutModesFrom_append (a rest : Chars) :
    withoutModesFrom a.length (a ++ rest) = withoutModes rest := by
  induction a with
  | nil => rfl
  | cons c a ih => exact ih

theorem modeLength_of_ne {c : Char} (h : c ≠ '\x1b') (rest : Chars) :
    modeLength (c :: rest) = 0 := by
  unfold modeLength
  split
  · rename_i he
    exact absurd (List.cons.inj he).1 h
  · rfl

/-- A text without an escape character is left alone, whatever follows it. -/
theorem withoutModes_append {text : Chars} (h : '\x1b' ∉ text) (rest : Chars) :
    withoutModes (text ++ rest) = text ++ withoutModes rest := by
  induction text with
  | nil => rfl
  | cons c text ih =>
    simp only [List.mem_cons, not_or] at h
    obtain ⟨hc, ht⟩ := h
    rw [List.cons_append, withoutModes, withoutModesFrom, modeLength_of_ne (Ne.symm hc)]
    exact congrArg (c :: ·) (ih ht)

/-- A mode sequence is found to its end, whatever follows it. -/
theorem modeLength_mode_append (n : Nat) (rest : Chars) :
    modeLength (mode n ++ rest) = (mode n).length := by
  have hall : ∀ c ∈ Nat.toDigits 10 n, c.isDigit = true := by
    intro c hc
    exact Nat.isDigit_of_mem_toDigits (by decide) (by decide) hc
  have hdigits : (Nat.toDigits 10 n ++ 'm' :: rest).takeWhile Char.isDigit =
      Nat.toDigits 10 n := by
    rw [List.takeWhile_append_of_pos hall, List.takeWhile_cons_of_neg (by decide), List.append_nil]
  have htext : mode n ++ rest = '\x1b' :: '[' :: (Nat.toDigits 10 n ++ 'm' :: rest) := by
    simp [mode]
  rw [htext]
  simp [modeLength, hdigits, Nat.toDigits_ne_nil, mode]

/-- A mode sequence is taken out, whatever follows it. -/
theorem withoutModes_mode_append (n : Nat) (rest : Chars) :
    withoutModes (mode n ++ rest) = withoutModes rest := by
  have hlength := modeLength_mode_append n rest
  obtain ⟨w, hw⟩ : ∃ w, mode n = '\x1b' :: w := ⟨_, rfl⟩
  rw [hw, List.cons_append, List.length_cons] at hlength
  rw [hw, List.cons_append, withoutModes, withoutModesFrom, hlength]
  exact withoutModesFrom_append w rest

/-! ## Lines -/

theorem withoutModes_ansiLine {l : DrawnLine} (h : ∀ t ∈ l.texts, '\x1b' ∉ t) (rest : Chars) :
    withoutModes (ansiLine l ++ ['\n'] ++ rest) = plainLine l ++ ['\n'] ++ withoutModes rest := by
  have hend (text : Chars) (ht : '\x1b' ∉ text) :
      withoutModes (text ++ (['\n'] ++ rest)) = text ++ (['\n'] ++ withoutModes rest) := by
    rw [withoutModes_append ht, withoutModes_append (by decide)]
  cases l with
  | title text =>
    have ht : '\x1b' ∉ text := h text (by simp [DrawnLine.texts])
    simp only [ansiLine, plainLine, List.append_assoc]
    rw [withoutModes_append ht, hend [':'] (by decide)]
  | blank => exact hend [] (by decide)
  | boxed offset color text suffix? =>
    have ht : '\x1b' ∉ text := h text (by simp [DrawnLine.texts])
    have hs : '\x1b' ∉ suffix?.getD [] := by
      cases suffix? with
      | none => simp
      | some suffix => exact h suffix (by simp [DrawnLine.texts])
    have hspaces : '\x1b' ∉ spaces offset := by simp [spaces]
    simp only [ansiLine, plainLine, List.append_assoc]
    rw [withoutModes_append hspaces, withoutModes_mode_append, withoutModes_append ht,
      withoutModes_mode_append, hend _ hs]

theorem withoutModes_ansi {lines : List DrawnLine} (h : ∀ l ∈ lines, ∀ t ∈ l.texts, '\x1b' ∉ t) :
    withoutModes (ansi lines) = plain lines := by
  induction lines with
  | nil => rfl
  | cons l lines ih =>
    have hl := withoutModes_ansiLine (h l (by simp)) (ansi lines)
    rw [ih fun m hm => h m (by simp [hm])] at hl
    exact hl

/-- The texts of the viewer's spans are the plain text of the line. -/
theorem flatten_lineTexts (l : DrawnLine) : (Viewer.lineTexts l).flatten = plainLine l := by
  cases l with
  | title text => simp [Viewer.lineTexts, Viewer.styled, plainLine]
  | blank => rfl
  | boxed offset color text suffix? =>
    cases suffix? <;> simp [Viewer.lineTexts, Viewer.styled, plainLine, spaces]

/-- Colors add nothing to a chart. Terminal text whose titles, boxes and notes have no escape
character is the plain text once its mode sequences are taken out, and the texts of the spans that
the viewer shows, each line ended, are the plain text of its lines, whatever chart it shows. -/
theorem colors_add_nothing :
    (∀ lines : List DrawnLine, (∀ l ∈ lines, ∀ t ∈ l.texts, '\x1b' ∉ t) →
      withoutModes (ansi lines) = plain lines) ∧
    ∀ v : Viewer,
      endLines (v.lines.map fun l => (Viewer.lineTexts l).flatten) = plain v.lines := by
  refine ⟨fun lines => withoutModes_ansi, ?_⟩
  intro v
  rw [plain, funext flatten_lineTexts]

/-- A box that shows what could be the rest of a sequence, with a note that could be its end. -/
theorem colors_add_nothing_bracket :
    let lines : List DrawnLine :=
      [.title "1m".toList, .boxed 2 .redBackground "[31m 0".toList (some "9m".toList)]
    (∀ l ∈ lines, ∀ t ∈ l.texts, '\x1b' ∉ t) ∧ withoutModes (ansi lines) = plain lines ∧
      plain lines = "1m:\n  [31m 09m\n".toList := by
  intro lines
  have h : ∀ l ∈ lines, ∀ t ∈ l.texts, '\x1b' ∉ t := by decide
  have htext : plain lines = "1m:\n  [31m 09m\n".toList := by decide
  exact ⟨h, colors_add_nothing.1 lines h, htext⟩

end Format
end NestChart
