import NestChart.Flow.Check
import NestChart.Proofs.Text.Trim

/-!
# NestChart.Proofs.Text.Place

Where a text stands in another one, counted in bytes. `StandsAt` speaks of whole characters, so what
stands at a place is what slicing there gives (`slice_of_standsAt`), and places add up
(`StandsAt.trans`). `Runs` is the same for the lines of one text that stand apart in the source.
-/

namespace NestChart.Text

open NestChart.Flow

/-- The text `part` stands in `whole` at byte `offset`. -/
def StandsAt (whole part : Chars) (offset : Nat) : Prop :=
  ∃ before after, whole = before ++ part ++ after ∧ byteLength before = offset

/-- The number of the line that holds byte `offset`. -/
def lineAt (source : Chars) (offset : Nat) : Nat := (takeBytes offset source).count '\n' + 1

/-! ## Bytes -/

theorem takeBytes_append (a b : Chars) : takeBytes (byteLength a) (a ++ b) = a := by
  induction a with
  | nil => simp [takeBytes]
  | cons c a ih =>
    obtain ⟨n, hn⟩ := Nat.exists_eq_add_one_of_ne_zero (Nat.ne_of_gt c.utf8Size_pos)
    rw [byteLength_cons, hn, show n + 1 + byteLength a = (n + byteLength a) + 1 by omega,
      List.cons_append, takeBytes]
    rw [hn, show n + byteLength a + 1 - (n + 1) = byteLength a by omega, ih]

theorem dropBytes_append (a b : Chars) : dropBytes (byteLength a) (a ++ b) = b := by
  induction a with
  | nil => simp [dropBytes]
  | cons c a ih =>
    obtain ⟨n, hn⟩ := Nat.exists_eq_add_one_of_ne_zero (Nat.ne_of_gt c.utf8Size_pos)
    rw [byteLength_cons, hn, show n + 1 + byteLength a = (n + byteLength a) + 1 by omega,
      List.cons_append, dropBytes]
    rw [hn, show n + byteLength a + 1 - (n + 1) = byteLength a by omega, ih]

theorem lineAt_append (before after : Chars) :
    lineAt (before ++ after) (byteLength before) = before.count '\n' + 1 := by
  rw [lineAt, takeBytes_append]

/-! ## Places -/

namespace StandsAt

theorem refl (cs : Chars) : StandsAt cs cs 0 := ⟨[], [], by simp, rfl⟩

theorem left (a b : Chars) : StandsAt (a ++ b) a 0 := ⟨[], b, by simp, rfl⟩

theorem right (a b : Chars) : StandsAt (a ++ b) b (byteLength a) := ⟨a, [], by simp, rfl⟩

theorem trans {whole part piece : Chars} {i j : Nat} (h : StandsAt whole part i)
    (k : StandsAt part piece j) : StandsAt whole piece (i + j) := by
  obtain ⟨before, after, rfl, rfl⟩ := h
  obtain ⟨before', after', rfl, rfl⟩ := k
  exact ⟨before ++ before', after' ++ after, by simp, by simp⟩

theorem stop_le {whole part : Chars} {i : Nat} (h : StandsAt whole part i) :
    i + byteLength part ≤ byteLength whole := by
  obtain ⟨before, after, rfl, rfl⟩ := h
  simp only [byteLength_append]
  omega

theorem length_le {whole part : Chars} {i : Nat} (h : StandsAt whole part i) :
    part.length ≤ whole.length := by
  obtain ⟨before, after, rfl, -⟩ := h
  simp only [List.length_append]
  omega

theorem mem {whole part : Chars} {i : Nat} {c : Char} (h : StandsAt whole part i) (hc : c ∈ part) :
    c ∈ whole := by
  obtain ⟨before, after, rfl, -⟩ := h
  simp [hc]

theorem trimEnd (cs : Chars) : StandsAt cs (trimEnd cs) 0 := by
  obtain ⟨blanks, he, -⟩ := exists_trimEnd_append cs
  have h := left (Text.trimEnd cs) blanks
  rwa [he] at h

/-- The back of a text stands where the rest of its bytes ends. -/
theorem of_append {whole before part : Chars} (h : before ++ part = whole) :
    StandsAt whole part (byteLength whole - byteLength part) := by
  subst h
  have := right before part
  rwa [byteLength_append, Nat.add_sub_cancel]

theorem trimStart_right (a b : Chars) :
    StandsAt (a ++ b) (trimStart b) (byteLength (a ++ b) - byteLength (trimStart b)) :=
  @of_append _ (a ++ b.takeWhile isBlank) _
    (by rw [List.append_assoc, takeWhile_append_trimStart])

theorem trimEnd_left (a b : Chars) : StandsAt (a ++ b) (Text.trimEnd a) 0 :=
  (left a b).trans (trimEnd a)

theorem trim (cs : Chars) : StandsAt cs (trim cs) (byteLength (cs.takeWhile isBlank)) := by
  have h := right (cs.takeWhile isBlank) (Text.trimStart cs)
  rw [takeWhile_append_trimStart] at h
  exact h.trans (trimEnd (Text.trimStart cs))

/-- A character of two texts one behind the other stands in one of them. -/
theorem of_append_singleton {a b : Chars} {c : Char} {i : Nat} (h : StandsAt (a ++ b) [c] i) :
    StandsAt a [c] i ∨ ∃ k, i = byteLength a + k ∧ StandsAt b [c] k := by
  obtain ⟨before, after, he, rfl⟩ := h
  rw [List.append_assoc, List.append_eq_append_iff] at he
  rcases he with ⟨more, rfl, hb⟩ | ⟨more, rfl, hc⟩
  · exact .inr ⟨byteLength more, by simp, more, after, by simp [hb], rfl⟩
  · cases more with
    | nil => exact .inr ⟨0, by simp, [], after, by simpa using hc.symm, rfl⟩
    | cons d more =>
      obtain ⟨rfl, -⟩ : c = d ∧ _ := by simpa using hc
      exact .inl ⟨before, more, by simp, rfl⟩

end StandsAt

/-- Searching finds what stands somewhere. -/
theorem contains_iff {needle text : Chars} :
    contains needle text = true ↔ ∃ i, StandsAt text needle i := by
  induction text with
  | nil =>
    rw [contains, List.isEmpty_iff]
    constructor
    · rintro rfl
      exact ⟨0, .refl []⟩
    · rintro ⟨_, before, after, h, -⟩
      simp at h
      exact h.2.1
  | cons c cs ih =>
    rw [contains, Bool.or_eq_true, ih, List.isPrefixOf_iff_prefix]
    constructor
    · rintro (⟨after, h⟩ | ⟨_, before, after, h, -⟩)
      · exact ⟨0, [], after, by simp [h], rfl⟩
      · exact ⟨_, c :: before, after, by simp [h], rfl⟩
    · rintro ⟨_, before, after, h, -⟩
      cases before with
      | nil => exact .inl ⟨after, by simpa using h.symm⟩
      | cons b before =>
        simp only [List.cons_append, List.cons.injEq] at h
        exact .inr ⟨_, before, after, h.2, rfl⟩

/-- What is not in a text is in no part of it. -/
theorem StandsAt.not_contains {whole part needle : Chars} {i : Nat} (h : StandsAt whole part i)
    (hn : contains needle whole = false) : contains needle part = false := by
  rw [Bool.eq_false_iff] at hn ⊢
  intro hp
  obtain ⟨j, hj⟩ := contains_iff.1 hp
  exact hn (contains_iff.2 ⟨_, h.trans hj⟩)

theorem slice_of_standsAt {source text : Chars} {i : Nat} (h : StandsAt source text i) :
    slice source ⟨i, i + byteLength text⟩ = text := by
  obtain ⟨before, after, rfl, rfl⟩ := h
  rw [slice, Span.length, List.append_assoc, dropBytes_append]
  simp only [Nat.add_sub_cancel_left]
  exact takeBytes_append text after

/-- Inside a text without a line end the line stays the same. -/
theorem lineAt_add {source text part : Chars} {i j : Nat} (h : StandsAt source text i)
    (hn : '\n' ∉ text) (hp : StandsAt text part j) : lineAt source (i + j) = lineAt source i := by
  obtain ⟨before, after, rfl, rfl⟩ := h
  obtain ⟨before', after', rfl, rfl⟩ := hp
  have h1 := lineAt_append (before ++ before') (part ++ after' ++ after)
  have h2 := lineAt_append before (before' ++ part ++ after' ++ after)
  have h0 : before'.count '\n' = 0 := List.count_eq_zero.2 fun hc => hn (by simp [hc])
  simp only [byteLength_append, List.count_append, h0, Nat.add_zero, List.append_assoc] at h1 h2 ⊢
  rw [h1, h2]

/-! ## Texts one behind the other -/

/-- The texts stand in the source one behind the other; the first begins where the span begins and
the last ends where it ends. -/
inductive Runs (source : Chars) : Span → List Chars → Prop
  | last {i : Nat} {text : Chars} (h : StandsAt source text i) :
      Runs source ⟨i, i + byteLength text⟩ [text]
  | next {i : Nat} {text : Chars} {rest : Span} {texts : List Chars} (h : StandsAt source text i)
      (apart : i + byteLength text ≤ rest.start) (hrest : Runs source rest texts) :
      Runs source ⟨i, rest.stop⟩ (text :: texts)

namespace Runs

variable {source : Chars} {span : Span} {texts : List Chars}

theorem start_le_stop (h : Runs source span texts) : span.start ≤ span.stop := by
  induction h with
  | last => exact Nat.le_add_right _ _
  | next _ apart _ ih =>
    simp only at ih ⊢
    omega

theorem stop_le (h : Runs source span texts) : span.stop ≤ byteLength source := by
  induction h with
  | last h => exact h.stop_le
  | next _ _ _ ih => exact ih

theorem ne_nil (h : Runs source span texts) : texts ≠ [] := by
  cases h <;> simp

/-- One more text behind the others. -/
theorem concat (h : Runs source span texts) {text : Chars} {i : Nat} (ht : StandsAt source text i)
    (apart : span.stop ≤ i) : Runs source ⟨span.start, i + byteLength text⟩ (texts ++ [text]) := by
  induction h with
  | last h => exact @Runs.next _ _ _ ⟨i, i + byteLength text⟩ _ h apart (.last ht)
  | next h apart' _ ih => exact @Runs.next _ _ _ ⟨_, _⟩ _ h apart' (ih apart)

end Runs
end NestChart.Text
