import NestChart.Proofs.Text.Place

/-!
# NestChart.Proofs.Text.Slice

Texts cut at byte positions. A position has to be a place between two characters of the text, and a
length taken away from another one has to be the smaller one; anything else is a fault, so that an
answer without one shows all positions on the way to be sound (`cutAt_append`, `cutOut_eq_ok`).
-/

namespace NestChart.Text

/-- Why positions in a text lead nowhere. -/
inductive Fault
  /-- A byte behind the end of the text, inside a character, or before the one to begin at. -/
  | place
  /-- A length that is longer than the one it is taken away from. -/
  | length
  /-- A part to be read that is no shorter than the text it is a part of. -/
  | part
  /-- A reading that goes deeper than it may. -/
  | depth
  deriving Repr, DecidableEq

/-- Byte `n` begins a character of the text or is its end. -/
def IsPlace (text : Chars) (n : Nat) : Prop := ∃ a b, a ++ b = text ∧ byteLength a = n

/-- Byte `n` begins a character of the text that is not its first one. -/
def IsInner (text : Chars) (n : Nat) : Prop := 0 < n ∧ n < byteLength text ∧ IsPlace text n

/-- The two parts of a text around byte `n`. -/
def cutAt (n : Nat) : Chars → Except Fault (Chars × Chars)
  | [] => if n = 0 then .ok ([], []) else .error .place
  | c :: cs =>
    if n = 0 then .ok ([], c :: cs)
    else if n < c.utf8Size then .error .place
    else (cutAt (n - c.utf8Size) cs).map fun r => (c :: r.1, r.2)

/-- The bytes from `start` up to, and without, `stop`. -/
def cutOut (text : Chars) (start stop : Nat) : Except Fault Chars :=
  if start ≤ stop then do
    let back ← cutAt start text
    let part ← cutAt (stop - start) back.2
    return part.1
  else .error .place

/-- The part of a length that another one leaves. -/
def lengthLeft (whole part : Nat) : Except Fault Nat :=
  if part ≤ whole then .ok (whole - part) else .error .length

theorem cutAt_append (a b : Chars) : cutAt (byteLength a) (a ++ b) = .ok (a, b) := by
  induction a with
  | nil => cases b <;> rfl
  | cons c a ih =>
    have hc := c.utf8Size_pos
    have hne : byteLength (c :: a) ≠ 0 := by
      rw [byteLength_cons]
      omega
    have hle : ¬byteLength (c :: a) < c.utf8Size := by
      rw [byteLength_cons]
      omega
    rw [List.cons_append, cutAt, if_neg hne, if_neg hle, byteLength_cons, Nat.add_sub_cancel_left,
      ih]
    rfl

theorem byteLength_pos {cs : Chars} : 0 < byteLength cs ↔ cs ≠ [] := by
  rw [Nat.pos_iff_ne_zero, ne_eq, byteLength_eq_zero]

theorem isInner_append {a b : Chars} (ha : a ≠ []) (hb : b ≠ []) :
    IsInner (a ++ b) (byteLength a) := by
  have hb := byteLength_pos.2 hb
  refine ⟨byteLength_pos.2 ha, ?_, a, b, rfl, rfl⟩
  rw [byteLength_append]
  omega

theorem cutOut_eq_ok {text part : Chars} {start : Nat} (h : StandsAt text part start) :
    cutOut text start (start + byteLength part) = .ok part := by
  obtain ⟨before, after, rfl, rfl⟩ := h
  rw [cutOut, if_pos (Nat.le_add_right _ _), Nat.add_sub_cancel_left, List.append_assoc,
    cutAt_append]
  simp only [bind, Except.bind, cutAt_append]
  rfl

theorem lengthLeft_of_standsAt {whole part : Chars} {i : Nat} (h : StandsAt whole part i) :
    lengthLeft (byteLength whole) (byteLength part) = .ok (byteLength whole - byteLength part) := by
  have hle := h.stop_le
  rw [lengthLeft, if_pos (by omega)]

end NestChart.Text
