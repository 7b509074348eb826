import NestChart.Text.Quoted

/-!
# NestChart.Proofs.Text.Quoted

Quoted texts are told apart. A character is written in one of three ways (`Writes`), and what is
written tells the character and where it ends (`encodeChar_append_inj`): no two characters begin
with the same writing, and none begins with the closing quote. So a quoted text ends at its closing
quote and stands for one text only, whatever follows it (`encode_append_inj`), and it stays on its
line.
-/

namespace NestChart.Text

/-- A mark that stands in neither of two texts tells them from what follows it. -/
theorem append_cons_inj {x : Char} {a b u v : Chars} (ha : x ∉ a) (hb : x ∉ b)
    (h : a ++ x :: u = b ++ x :: v) : a = b ∧ u = v := by
  induction a generalizing b with
  | nil =>
    cases b with
    | nil => simpa using h
    | cons d b => exact absurd (by simp [(List.cons.inj h).1]) hb
  | cons c a ih =>
    cases b with
    | nil => exact absurd (by simp [(List.cons.inj h).1]) ha
    | cons d b =>
      simp only [List.mem_cons, not_or] at ha hb
      obtain ⟨rfl, htail⟩ := List.cons.inj h
      obtain ⟨rfl, hrest⟩ := ih ha.2 hb.2 htail
      exact ⟨rfl, hrest⟩

/-! ## Numbers -/

theorem exists_digitChar_of_mem_toDigits {b n : Nat} (hb : 1 < b) {c : Char}
    (h : c ∈ Nat.toDigits b n) : ∃ d < b, c = d.digitChar := by
  induction n using Nat.strongRecOn with
  | ind n ih =>
    by_cases hn : n < b
    · rw [Nat.toDigits_of_lt_base hn, List.mem_singleton] at h
      exact ⟨n, hn, h⟩
    · have hn : b ≤ n := by omega
      rw [Nat.toDigits_of_base_le hb hn, List.mem_append, List.mem_singleton] at h
      rcases h with h | h
      · exact ih _ (Nat.div_lt_self (by omega) hb) h
      · exact ⟨n % b, Nat.mod_lt _ (by omega), h⟩

theorem digitChar_inj : ∀ d < 16, ∀ e < 16, Nat.digitChar d = Nat.digitChar e → d = e := by
  decide

theorem toDigits_inj {b : Nat} (hb : 1 < b) (hle : b ≤ 16) {m n : Nat}
    (h : Nat.toDigits b m = Nat.toDigits b n) : m = n := by
  induction m using Nat.strongRecOn generalizing n with
  | ind m ih =>
    have hlength : m < b ↔ n < b := by
      have hm := @Nat.length_toDigits_le_iff b m 1 hb (by omega)
      have hn := @Nat.length_toDigits_le_iff b n 1 hb (by omega)
      rw [h, Nat.pow_one] at hm
      rw [Nat.pow_one] at hn
      rw [← hm, ← hn]
    by_cases hm : m < b
    · have hn := hlength.1 hm
      rw [Nat.toDigits_of_lt_base hm, Nat.toDigits_of_lt_base hn, List.singleton_inj] at h
      exact digitChar_inj m (by omega) n (by omega) h
    · have hn : ¬n < b := fun hn => hm (hlength.2 hn)
      have hm : b ≤ m := by omega
      have hn : b ≤ n := by omega
      rw [Nat.toDigits_of_base_le hb hm, Nat.toDigits_of_base_le hb hn] at h
      obtain ⟨hfront, hlast⟩ := List.append_inj' h rfl
      have hdiv := ih _ (Nat.div_lt_self (by omega) hb) hfront
      have hmb : m % b < b := Nat.mod_lt _ (by omega)
      have hnb : n % b < b := Nat.mod_lt _ (by omega)
      have hmod := digitChar_inj _ (by omega) _ (by omega) (List.singleton_inj.1 hlast)
      rw [← Nat.div_add_mod m b, ← Nat.div_add_mod n b, hdiv, hmod]

namespace Quoted

theorem not_mem_hex {c : Char} (hc : ∀ d < 16, c ≠ Nat.digitChar d) (n : Nat) : c ∉ hex n := by
  intro h
  obtain ⟨d, hd, he⟩ := exists_digitChar_of_mem_toDigits (by decide) h
  exact hc d hd he

theorem hex_inj {m n : Nat} (h : hex m = hex n) : m = n := toDigits_inj (by decide) (by decide) h

/-! ## Characters -/

/-- The character that a letter behind a backslash stands for. -/
def ofShort? : Char → Option Char
  | '"' => some '"'
  | '\\' => some '\\'
  | 'n' => some '\n'
  | 'r' => some '\r'
  | 't' => some '\t'
  | '0' => some '\x00'
  | _ => none

/-- The ways in which a character can be written between quotes. -/
inductive Writes : Char → Chars → Prop
  /-- As it is. -/
  | plain {c : Char} (hquote : c ≠ '"') (hslash : c ≠ '\\') (hvisible : isVisible c = true) :
      Writes c [c]
  /-- By a letter behind a backslash. -/
  | short {c k : Char} (h : ofShort? k = some c) : Writes c ['\\', k]
  /-- By its number. -/
  | number (c : Char) : Writes c ('\\' :: 'u' :: '\x7b' :: (hex c.toNat ++ ['\x7d']))

theorem writes_encodeChar (c : Char) : Writes c (encodeChar c) := by
  unfold encodeChar
  split
  · next h => exact .short (by rw [h]; rfl)
  split
  · next h => exact .short (by rw [h]; rfl)
  split
  · next h => exact .short (by rw [h]; rfl)
  split
  · next h => exact .short (by rw [h]; rfl)
  split
  · next h => exact .short (by rw [h]; rfl)
  split
  · next h => exact .short (by rw [h]; rfl)
  split
  · next hquote hslash _ _ _ _ hvisible => exact .plain hquote hslash hvisible
  · exact .number c

namespace Writes

variable {c d : Char} {a b u v : Chars}

/-- No writing is the beginning of another one. -/
theorem append_inj (ha : Writes c a) (hb : Writes d b) (h : a ++ u = b ++ v) : c = d ∧ u = v := by
  have hletter : ofShort? 'u' = none := rfl
  cases ha with
  | plain _ hslash _ =>
    cases hb with
    | plain => simpa using h
    | short => exact absurd (List.cons.inj h).1 hslash
    | number => exact absurd (List.cons.inj h).1 hslash
  | @short k hk =>
    cases hb with
    | plain _ hslash _ => exact absurd (List.cons.inj h).1.symm hslash
    | @short l hl =>
      obtain ⟨rfl, rfl⟩ : k = l ∧ u = v := by simpa using h
      rw [hk] at hl
      exact ⟨Option.some.inj hl, rfl⟩
    | number =>
      obtain ⟨rfl, -⟩ : k = 'u' ∧ _ := by simpa using h
      rw [hletter] at hk
      cases hk
  | number =>
    cases hb with
    | plain _ hslash _ => exact absurd (List.cons.inj h).1.symm hslash
    | @short l hl =>
      obtain ⟨rfl, -⟩ : 'u' = l ∧ _ := by simpa using h
      rw [hletter] at hl
      cases hl
    | number =>
      have h : hex c.toNat ++ '\x7d' :: u = hex d.toNat ++ '\x7d' :: v := by simpa using h
      -- The digits end at the first brace.
      have hbrace := @not_mem_hex '\x7d' (by decide)
      obtain ⟨hdigits, hrest⟩ := append_cons_inj (hbrace _) (hbrace _) h
      exact ⟨Char.toNat_inj.1 (hex_inj hdigits), hrest⟩

/-- A writing has a first character, which is no quote. -/
theorem exists_cons (h : Writes c a) : ∃ x rest, a = x :: rest ∧ x ≠ '"' := by
  cases h with
  | plain hquote => exact ⟨c, [], rfl, hquote⟩
  | short => exact ⟨_, _, rfl, by decide⟩
  | number => exact ⟨_, _, rfl, by decide⟩

theorem newline_not_mem (h : Writes c a) : '\n' ∉ a := by
  cases h with
  | plain _ _ hvisible =>
    rw [List.mem_singleton]
    rintro rfl
    exact absurd hvisible (by decide)
  | short hk =>
    rw [List.mem_cons, List.mem_singleton]
    rintro (hslash | rfl)
    · exact absurd hslash (by decide)
    · cases hk
  | number => simp [@not_mem_hex '\n' (by decide)]

end Writes

theorem encodeChar_append_inj {c d : Char} {u v : Chars}
    (h : encodeChar c ++ u = encodeChar d ++ v) : c = d ∧ u = v :=
  (writes_encodeChar c).append_inj (writes_encodeChar d) h

/-! ## Texts -/

/-- The closing quote is no writing of a character. -/
theorem quote_ne_encodeChar_append (c : Char) (u v : Chars) : '"' :: u ≠ encodeChar c ++ v := by
  obtain ⟨x, rest, he, hx⟩ := (writes_encodeChar c).exists_cons
  intro h
  rw [he, List.cons_append] at h
  exact hx (List.cons.inj h).1.symm

theorem flatMap_encodeChar_append_inj {cs ds u v : Chars}
    (h : cs.flatMap encodeChar ++ '"' :: u = ds.flatMap encodeChar ++ '"' :: v) :
    cs = ds ∧ u = v := by
  induction cs generalizing ds with
  | nil =>
    cases ds with
    | nil => simpa using h
    | cons d ds =>
      rw [List.flatMap_cons, List.append_assoc] at h
      exact absurd h (quote_ne_encodeChar_append d _ _)
  | cons c cs ih =>
    cases ds with
    | nil =>
      rw [List.flatMap_cons, List.append_assoc] at h
      exact absurd h.symm (quote_ne_encodeChar_append c _ _)
    | cons d ds =>
      rw [List.flatMap_cons, List.flatMap_cons, List.append_assoc, List.append_assoc] at h
      obtain ⟨rfl, htail⟩ := encodeChar_append_inj h
      obtain ⟨rfl, hrest⟩ := ih htail
      exact ⟨rfl, hrest⟩

/-- A quoted text tells the text and where it ends. -/
theorem encode_append_inj {cs ds u v : Chars} (h : encode cs ++ u = encode ds ++ v) :
    cs = ds ∧ u = v :=
  flatMap_encodeChar_append_inj (by simpa [encode] using h)

theorem encode_inj {cs ds : Chars} (h : encode cs = encode ds) : cs = ds :=
  (encode_append_inj (congrArg (· ++ []) h)).1

/-- A quoted text stays on its line. -/
theorem newline_not_mem_encode (cs : Chars) : '\n' ∉ encode cs := by
  simp [encode, (writes_encodeChar _).newline_not_mem]

end Quoted
end NestChart.Text
