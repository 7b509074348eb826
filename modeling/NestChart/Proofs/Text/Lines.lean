import NestChart.Text.Basic

/-!
# NestChart.Proofs.Text.Lines

Texts as lines. A text is read line by line (`lines_induction`), each line followed by its line end
except perhaps the last (`physicalLines_append`); lines that are joined are told apart again
(`splitLines_joinLines`).
-/

namespace NestChart.Text

/-! ## Physical lines -/

theorem linesFrom_append {body : Chars} (h : '\n' ∉ body) (current rest : Chars) :
    linesFrom current (body ++ '\n' :: rest) =
      (current.reverse ++ body ++ ['\n']) :: physicalLines rest := by
  induction body generalizing current with
  | nil => simp [linesFrom, physicalLines]
  | cons c body ih =>
    simp only [List.mem_cons, not_or] at h
    rw [List.cons_append, linesFrom, if_neg (Ne.symm h.1), ih h.2]
    simp

theorem linesFrom_last {body : Chars} (h : '\n' ∉ body) {current : Chars}
    (hne : current.reverse ++ body ≠ []) :
    linesFrom current body = [current.reverse ++ body] := by
  induction body generalizing current with
  | nil =>
    have : current ≠ [] := by simpa using hne
    simp [linesFrom, this]
  | cons c body ih =>
    simp only [List.mem_cons, not_or] at h
    rw [linesFrom, if_neg (Ne.symm h.1), ih h.2 (by simp)]
    simp

/-- The first line ends at the first line end. -/
theorem physicalLines_append {body : Chars} (h : '\n' ∉ body) (rest : Chars) :
    physicalLines (body ++ '\n' :: rest) = (body ++ ['\n']) :: physicalLines rest := by
  rw [physicalLines, linesFrom_append h]
  simp

/-- The last line may lack its end. -/
theorem physicalLines_last {body : Chars} (h : '\n' ∉ body) (hne : body ≠ []) :
    physicalLines body = [body] := by
  rw [physicalLines, linesFrom_last h (by simpa using hne)]
  simp

/-- Lines that are ended one by one are told apart again. -/
theorem physicalLines_flatMap {ls : List Chars} (h : ∀ l ∈ ls, '\n' ∉ l) :
    physicalLines (ls.flatMap (· ++ ['\n'])) = ls.map (· ++ ['\n']) := by
  induction ls with
  | nil => rfl
  | cons l ls ih =>
    have hrest := ih fun m hm => h m (by simp [hm])
    rw [List.flatMap_cons, List.append_assoc, List.singleton_append,
      physicalLines_append (h l (by simp)), hrest, List.map_cons]

/-- A text is empty, a line without an end, or a line with its end and then a text. -/
theorem lines_induction {P : Chars → Prop} (nil : P [])
    (last : ∀ body, body ≠ [] → '\n' ∉ body → P body)
    (line : ∀ body rest, '\n' ∉ body → P rest → P (body ++ '\n' :: rest)) (cs : Chars) : P cs := by
  induction hn : cs.length using Nat.strongRecOn generalizing cs with
  | ind n ih =>
    by_cases hm : '\n' ∈ cs
    · obtain ⟨body, rest, rfl, hb⟩ := List.eq_append_cons_of_mem hm
      have hlt : rest.length < n := by
        rw [← hn, List.length_append, List.length_cons]
        omega
      exact line body rest hb (ih _ hlt rest rfl)
    · by_cases he : cs = []
      · rw [he]
        exact nil
      · exact last cs he hm

/-! ## Lines of a text -/

theorem splitFrom_of_not_mem {body : Chars} (h : '\n' ∉ body) (current : Chars) :
    splitFrom current body = [current.reverse ++ body] := by
  induction body generalizing current with
  | nil => simp [splitFrom]
  | cons c body ih =>
    simp only [List.mem_cons, not_or] at h
    rw [splitFrom, if_neg (Ne.symm h.1), ih h.2]
    simp

theorem splitFrom_append {body : Chars} (h : '\n' ∉ body) (current rest : Chars) :
    splitFrom current (body ++ '\n' :: rest) = (current.reverse ++ body) :: splitLines rest := by
  induction body generalizing current with
  | nil => simp [splitFrom, splitLines]
  | cons c body ih =>
    simp only [List.mem_cons, not_or] at h
    rw [List.cons_append, splitFrom, if_neg (Ne.symm h.1), ih h.2]
    simp

theorem splitLines_of_not_mem {body : Chars} (h : '\n' ∉ body) : splitLines body = [body] := by
  rw [splitLines, splitFrom_of_not_mem h]
  simp

theorem joinLines_cons_cons (l m : Chars) (ls : List Chars) :
    joinLines (l :: m :: ls) = l ++ '\n' :: joinLines (m :: ls) := by
  simp [joinLines, List.intercalate]

theorem joinLines_singleton (l : Chars) : joinLines [l] = l := by simp [joinLines]

/-- Joined lines are told apart again, if none of them holds a line end itself. -/
theorem splitLines_joinLines {ls : List Chars} (hne : ls ≠ []) (h : ∀ l ∈ ls, '\n' ∉ l) :
    splitLines (joinLines ls) = ls := by
  induction ls with
  | nil => exact absurd rfl hne
  | cons l ls ih =>
    cases ls with
    | nil =>
      rw [joinLines_singleton]
      exact splitLines_of_not_mem (h l (by simp))
    | cons m ls =>
      have ih := ih (by simp) fun k hk => h k (by simp [hk])
      rw [joinLines_cons_cons, splitLines, splitFrom_append (h l (by simp)), ih]
      simp

end NestChart.Text
