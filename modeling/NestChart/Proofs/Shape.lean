import NestChart.Shape
import NestChart.Text.Word

/-!
# NestChart.Proofs.Shape

Words at the head of a line. A blank ends a word, so what stands behind a blank does not matter.
-/

namespace NestChart.Shape

open Text

/-- The white space of Unicode beyond ASCII. -/
def blankRanges : List (Nat × Nat) :=
  [(0x85, 0x85), (0xA0, 0xA0), (0x1680, 0x1680), (0x2000, 0x200A), (0x2028, 0x2029),
    (0x202F, 0x202F), (0x205F, 0x205F), (0x3000, 0x3000)]

theorem mem_blankRanges {c : Char} (h : isBlank c = true) (hc : 0x80 ≤ c.toNat) :
    ∃ b ∈ blankRanges, b.1 ≤ c.toNat ∧ c.toNat ≤ b.2 := by
  simp only [isBlank, Bool.or_eq_true, Bool.and_eq_true, decide_eq_true_eq, beq_iff_eq] at h
  simp only [blankRanges, List.mem_cons, List.not_mem_nil, or_false, exists_eq_or_imp,
    exists_eq_left]
  omega

theorem isWord_of_isBlank {c : Char} (h : isBlank c = true) : isWord c = false := by
  by_cases hc : c.toNat < 0x80
  · have hall : ∀ n < 0x80, isBlank (Char.ofNat n) = true → isWord (Char.ofNat n) = false := by
      decide
    have := hall c.toNat hc
    rw [Char.ofNat_toNat] at this
    exact this h
  · -- Beyond ASCII no range of blanks meets one of word characters.
    have hapart : ∀ r ∈ wordRanges, ∀ b ∈ blankRanges, r.2 < b.1 ∨ b.2 < r.1 := by decide +kernel
    obtain ⟨b, hb, hlo, hhi⟩ := mem_blankRanges h (Nat.le_of_not_lt hc)
    have hv : ¬c.val < 0x80 := fun hv => hc (UInt32.lt_iff_toNat_lt.1 hv)
    rw [isWord, if_neg hv, List.any_eq_false]
    intro r hr
    have := hapart r hr b hb
    simp only [Bool.and_eq_true, decide_eq_true_eq]
    omega

theorem after?_append_right {word text rest : Chars} (h : after? word text = some rest)
    (more : Chars) : after? word (text ++ more) = some (rest ++ more) := by
  rw [← after?_append h, after?, List.append_assoc]
  simp

theorem startsWithWord_of_after? {word text rest : Chars} (h : after? word text = some rest)
    (hend : atWordEnd rest = true) : startsWithWord word text = true := by
  simp [startsWithWord, h, hend]

theorem exists_of_startsWithWord {word text : Chars} (h : startsWithWord word text = true) :
    ∃ rest, text = word ++ rest ∧ atWordEnd rest = true := by
  unfold startsWithWord at h
  split at h
  · rename_i rest hr
    exact ⟨rest, (after?_append hr).symm, h⟩
  · cases h

theorem exists_of_startsWithAny {words : List Chars} {text : Chars}
    (h : startsWithAny words text = true) : ∃ w ∈ words, ∃ rest, text = w ++ rest := by
  obtain ⟨w, hw, h⟩ := List.any_eq_true.1 h
  obtain ⟨rest, hr, -⟩ := exists_of_startsWithWord h
  exact ⟨w, hw, rest, hr⟩

/-- A blank behind a text ends its last word. -/
theorem startsWithWord_append {word text : Chars} (h : startsWithWord word text = true)
    (more : Chars) : startsWithWord word (text ++ ' ' :: more) = true := by
  unfold startsWithWord at h ⊢
  split at h
  · rename_i rest hr
    rw [after?_append_right hr]
    cases rest with
    | nil =>
      show (!isWord ' ') = true
      decide
    | cons c cs => exact h
  · cases h

theorem startsWithAny_append {words : List Chars} {text : Chars}
    (h : startsWithAny words text = true) (more : Chars) :
    startsWithAny words (text ++ ' ' :: more) = true := by
  obtain ⟨w, hw, h⟩ := List.any_eq_true.1 h
  exact List.any_eq_true.2 ⟨w, hw, startsWithWord_append h more⟩

/-- A word that lies before the blank is found without what follows the blank. -/
theorem startsWithWord_of_append {word text more : Chars} (hw : ' ' ∉ word)
    (h : startsWithWord word (text ++ ' ' :: more) = true) : startsWithWord word text = true := by
  obtain ⟨rest, he, hend⟩ := exists_of_startsWithWord h
  rcases List.append_eq_append_iff.1 he with ⟨tail, rfl, ht⟩ | ⟨tail, rfl, rfl⟩
  · cases tail with
    | nil =>
      have ha : after? text text = some [] := by simp [after?]
      rw [List.append_nil]
      exact startsWithWord_of_after? ha rfl
    | cons c tail =>
      obtain ⟨rfl, -⟩ := List.cons.inj ht
      exact absurd (List.mem_append_right text List.mem_cons_self) hw
  · have ha : after? word (word ++ tail) = some tail := by simp [after?]
    refine startsWithWord_of_after? ha ?_
    cases tail with
    | nil => rfl
    | cons c tail => exact hend

theorem startsWithAny_of_append {words : List Chars} {text more : Chars}
    (hw : ∀ word ∈ words, ' ' ∉ word) (h : startsWithAny words (text ++ ' ' :: more) = true) :
    startsWithAny words text = true := by
  obtain ⟨w, hm, h⟩ := List.any_eq_true.1 h
  exact List.any_eq_true.2 ⟨w, hm, startsWithWord_of_append (hw w hm) h⟩

theorem startsWithAny_left {words others : List Chars} {text : Chars}
    (h : startsWithAny words text = true) : startsWithAny (words ++ others) text = true := by
  rw [startsWithAny, List.any_append, Bool.or_eq_true]
  exact .inl h

end NestChart.Shape
