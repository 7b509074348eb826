import NestChart.Text.Basic

/-!
# NestChart.Proofs.Text.Trim

Texts without blanks at their ends. `trimmed_iff` tells them by their first and last characters, so
that each part of a trimmed text needs trimming on its inner side only.
-/

namespace NestChart.Text

/-- No blank stands at either end. -/
def Trimmed (cs : Chars) : Prop := trim cs = cs

instance (cs : Chars) : Decidable (Trimmed cs) := inferInstanceAs (Decidable (trim cs = cs))

/-- The first character, if there is one, is no blank. -/
def SolidStart (cs : Chars) : Prop := ∀ c ∈ cs.head?, isBlank c = false

/-- The last character, if there is one, is no blank. -/
def SolidEnd (cs : Chars) : Prop := ∀ c ∈ cs.getLast?, isBlank c = false

instance (cs : Chars) : Decidable (SolidEnd cs) :=
  Option.decidableForallMem cs.getLast?

theorem solidEnd_iff {cs : Chars} : SolidEnd cs ↔ SolidStart cs.reverse := by
  simp [SolidEnd, SolidStart]

theorem SolidStart.append_left {a b : Chars} (h : SolidStart (a ++ b)) : SolidStart a := by
  cases a with
  | nil => simp [SolidStart]
  | cons c a => simpa [SolidStart] using h

theorem SolidEnd.append_right {a b : Chars} (h : SolidEnd (a ++ b)) : SolidEnd b := by
  rw [solidEnd_iff, List.reverse_append] at h
  exact solidEnd_iff.2 h.append_left

theorem solidStart_append {a b : Chars} (ha : a ≠ []) (h : SolidStart a) : SolidStart (a ++ b) := by
  obtain ⟨c, a, rfl⟩ := List.exists_cons_of_ne_nil ha
  simpa [SolidStart] using h

theorem solidEnd_append {a b : Chars} (hb : b ≠ []) (h : SolidEnd b) : SolidEnd (a ++ b) := by
  rw [solidEnd_iff] at h ⊢
  rw [List.reverse_append]
  exact solidStart_append (by simpa using hb) h

theorem ne_of_isBlank {c d : Char} (hc : isBlank c = true) (hd : isBlank d = false) : c ≠ d := by
  rintro rfl
  rw [hc] at hd
  cases hd

/-! ## Trimming one end -/

theorem solidStart_trimStart (cs : Chars) : SolidStart (trimStart cs) := by
  intro c hc
  have h := List.head?_dropWhile_not isBlank cs
  rw [show (cs.dropWhile isBlank).head? = some c from hc] at h
  simpa using h

theorem solidEnd_trimEnd (cs : Chars) : SolidEnd (trimEnd cs) := by
  rw [solidEnd_iff, trimEnd, List.reverse_reverse]
  exact solidStart_trimStart cs.reverse

theorem trimStart_eq_self {cs : Chars} : trimStart cs = cs ↔ SolidStart cs := by
  constructor
  · intro h
    rw [← h]
    exact solidStart_trimStart cs
  · intro h
    cases cs with
    | nil => rfl
    | cons c cs => simp [trimStart, h c rfl]

theorem trimEnd_eq_self {cs : Chars} : trimEnd cs = cs ↔ SolidEnd cs := by
  rw [solidEnd_iff, ← trimStart_eq_self, trimEnd, trimStart]
  constructor
  · intro h
    rw [← List.reverse_inj, List.reverse_reverse, h]
  · intro h
    rw [h, List.reverse_reverse]

/-- What `trimStart` takes away. -/
theorem takeWhile_append_trimStart (cs : Chars) : cs.takeWhile isBlank ++ trimStart cs = cs :=
  List.takeWhile_append_dropWhile

/-- What `trimEnd` takes away. -/
theorem exists_trimEnd_append (cs : Chars) :
    ∃ blanks, trimEnd cs ++ blanks = cs ∧ ∀ c ∈ blanks, isBlank c = true := by
  refine ⟨(cs.reverse.takeWhile isBlank).reverse, ?_, ?_⟩
  · rw [trimEnd, ← List.reverse_append, List.takeWhile_append_dropWhile, List.reverse_reverse]
  · intro c hc
    exact List.all_eq_true.1 List.all_takeWhile c (by simpa using hc)

theorem isBlank_of_mem_takeWhile {cs : Chars} {c : Char} (h : c ∈ cs.takeWhile isBlank) :
    isBlank c = true :=
  List.all_eq_true.1 List.all_takeWhile c h

/-- What `trim` takes away. -/
theorem exists_trim_append (cs : Chars) :
    ∃ blanks, cs.takeWhile isBlank ++ trim cs ++ blanks = cs ∧ ∀ c ∈ blanks, isBlank c = true := by
  obtain ⟨blanks, he, hb⟩ := exists_trimEnd_append (trimStart cs)
  refine ⟨blanks, ?_, hb⟩
  rw [trim, List.append_assoc, he, takeWhile_append_trimStart]

theorem trimEnd_append_of_blank {cs blanks : Chars} (h : ∀ c ∈ blanks, isBlank c = true) :
    trimEnd (cs ++ blanks) = trimEnd cs := by
  rw [trimEnd, List.reverse_append, List.dropWhile_append_of_pos (by simpa using h), ← trimEnd]

theorem trimEnd_append_space {cs : Chars} (h : SolidEnd cs) : trimEnd (cs ++ [' ']) = cs := by
  have hblank : ∀ c ∈ [' '], isBlank c = true := by simp [isBlank]
  rw [trimEnd_append_of_blank hblank, trimEnd_eq_self.2 h]

theorem eq_nil_of_solidEnd {blanks : Chars} (he : SolidEnd blanks)
    (h : ∀ c ∈ blanks, isBlank c = true) : blanks = [] := by
  have hb := @trimEnd_append_of_blank [] _ h
  rwa [List.nil_append, trimEnd_eq_self.2 he] at hb

/-! ## Trimming both ends -/

theorem trimStart_blanks_append {blanks : Chars} (h : ∀ c ∈ blanks, isBlank c = true) (cs : Chars) :
    trimStart (blanks ++ cs) = trimStart cs :=
  List.dropWhile_append_of_pos h

theorem trim_blanks_append {blanks : Chars} (h : ∀ c ∈ blanks, isBlank c = true) (cs : Chars) :
    trim (blanks ++ cs) = trim cs := by
  rw [trim, trimStart_blanks_append h]
  rfl

theorem trim_append_blanks {blanks : Chars} (h : ∀ c ∈ blanks, isBlank c = true) (cs : Chars) :
    trim (cs ++ blanks) = trim cs := by
  rw [trim, trim, trimStart, trimStart, List.dropWhile_append]
  split
  · rename_i hn
    have hb := trimStart_blanks_append h []
    rw [List.append_nil, trimStart] at hb
    rw [List.isEmpty_iff.1 hn, hb]
    rfl
  · exact trimEnd_append_of_blank h

/-- Blanks are taken off the end of a text only behind its last solid part. -/
theorem trimEnd_append {a : Chars} (h : SolidEnd a) (b : Chars) :
    trimEnd (a ++ b) = a ++ trimEnd b := by
  obtain ⟨blanks, he, hb⟩ := exists_trimEnd_append b
  have hsolid : SolidEnd (a ++ trimEnd b) := by
    by_cases hn : trimEnd b = []
    · rwa [hn, List.append_nil]
    · exact solidEnd_append hn (solidEnd_trimEnd b)
  calc trimEnd (a ++ b) = trimEnd (a ++ trimEnd b ++ blanks) := by rw [List.append_assoc, he]
    _ = trimEnd (a ++ trimEnd b) := trimEnd_append_of_blank hb
    _ = a ++ trimEnd b := trimEnd_eq_self.2 hsolid

theorem trimStart_trimStart_append (a b : Chars) :
    trimStart (trimStart a ++ b) = trimStart (a ++ b) := by
  have hblanks : ∀ c ∈ a.takeWhile isBlank, isBlank c = true := fun _ => isBlank_of_mem_takeWhile
  rw [← trimStart_blanks_append hblanks, ← List.append_assoc, takeWhile_append_trimStart]

theorem trimmed_iff {cs : Chars} : Trimmed cs ↔ SolidStart cs ∧ SolidEnd cs := by
  constructor
  · intro h
    -- Neither end can have lost anything, or the lengths would differ.
    have hs : trimStart cs = cs := by
      have h1 := length_trimEnd_le (trimStart cs)
      rw [show trimEnd (trimStart cs) = cs from h] at h1
      exact (List.dropWhile_suffix isBlank).eq_of_length_le h1
    have he : trimEnd cs = cs := by
      rw [← hs]
      rw [show trimEnd (trimStart cs) = cs from h, hs]
    exact ⟨trimStart_eq_self.1 hs, trimEnd_eq_self.1 he⟩
  · rintro ⟨hs, he⟩
    rw [Trimmed, trim, trimStart_eq_self.2 hs, trimEnd_eq_self.2 he]

theorem solidStart_trimEnd {cs : Chars} (h : SolidStart cs) : SolidStart (trimEnd cs) := by
  obtain ⟨blanks, he, -⟩ := exists_trimEnd_append cs
  rw [← he] at h
  exact h.append_left

theorem solidEnd_trimStart {cs : Chars} (h : SolidEnd cs) : SolidEnd (trimStart cs) := by
  rw [← takeWhile_append_trimStart cs] at h
  exact h.append_right

/-- The ends of a text can be trimmed in either order. -/
theorem trimStart_trimEnd (cs : Chars) : trimStart (trimEnd cs) = trim cs := by
  obtain ⟨blanks, he, hb⟩ := exists_trimEnd_append cs
  have hsolid : SolidEnd (trimStart (trimEnd cs)) := solidEnd_trimStart (solidEnd_trimEnd cs)
  calc trimStart (trimEnd cs) = trim (trimEnd cs) := (trimEnd_eq_self.2 hsolid).symm
    _ = trim (trimEnd cs ++ blanks) := (trim_append_blanks hb _).symm
    _ = trim cs := by rw [he]

theorem trimmed_trim (cs : Chars) : Trimmed (trim cs) :=
  trimmed_iff.2 ⟨solidStart_trimEnd (solidStart_trimStart cs), solidEnd_trimEnd _⟩

theorem Trimmed.solidStart {cs : Chars} (h : Trimmed cs) : SolidStart cs := (trimmed_iff.1 h).1

theorem Trimmed.solidEnd {cs : Chars} (h : Trimmed cs) : SolidEnd cs := (trimmed_iff.1 h).2

/-- The front of a trimmed text is trimmed once its end is. -/
theorem Trimmed.trimEnd_left {a b : Chars} (h : Trimmed (a ++ b)) : Trimmed (trimEnd a) :=
  trimmed_iff.2 ⟨solidStart_trimEnd h.solidStart.append_left, solidEnd_trimEnd a⟩

/-- The back of a trimmed text is trimmed once its start is. -/
theorem Trimmed.trimStart_right {a b : Chars} (h : Trimmed (a ++ b)) : Trimmed (trimStart b) :=
  trimmed_iff.2 ⟨solidStart_trimStart b, solidEnd_trimStart h.solidEnd.append_right⟩

theorem trimEnd_ne_nil {a : Chars} (hs : SolidStart a) (ha : a ≠ []) : trimEnd a ≠ [] := by
  obtain ⟨c, a, rfl⟩ := List.exists_cons_of_ne_nil ha
  obtain ⟨blanks, he, hb⟩ := exists_trimEnd_append (c :: a)
  intro h
  rw [h, List.nil_append] at he
  have hc := hb c (by simp [he])
  rw [hs c rfl] at hc
  cases hc

end NestChart.Text
