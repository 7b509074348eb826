import NestChart.Pattern

/-!
# NestChart.Proofs.Pattern

Patterns by what they describe. Reading a text character by character decides whether the pattern
describes it (`accepts_iff`), so that the shapes of lines can be taken apart by `Matches`.
-/

namespace NestChart.Pattern

variable {p q : Pattern} {c : Char} {cs : Chars}

/-! ## Texts of each pattern -/

theorem matches_empty_iff : Matches empty cs ↔ cs = [] := by
  constructor
  · intro h
    cases h
    rfl
  · rintro rfl
    exact .empty

theorem matches_one_iff {k : CharClass} : Matches (one k) cs ↔ ∃ c, k.has c = true ∧ cs = [c] := by
  constructor
  · intro h
    cases h with
    | one h => exact ⟨_, h, rfl⟩
  · rintro ⟨c, h, rfl⟩
    exact .one h

theorem matches_lit_iff : Matches (lit c) cs ↔ cs = [c] := by
  rw [lit, matches_one_iff]
  simp [CharClass.has]

theorem matches_seq_iff :
    Matches (seq p q) cs ↔ ∃ a b, cs = a ++ b ∧ Matches p a ∧ Matches q b := by
  constructor
  · intro h
    cases h with
    | seq hp hq => exact ⟨_, _, rfl, hp, hq⟩
  · rintro ⟨a, b, rfl, hp, hq⟩
    exact .seq hp hq

theorem matches_alt_iff : Matches (alt p q) cs ↔ Matches p cs ∨ Matches q cs := by
  constructor
  · intro h
    cases h with
    | left h => exact .inl h
    | right h => exact .inr h
  · rintro (h | h)
    · exact .left h
    · exact .right h

theorem matches_opt_iff : Matches (opt p) cs ↔ Matches p cs ∨ cs = [] := by
  rw [opt, matches_alt_iff, matches_empty_iff]

theorem matches_star_one_iff {k : CharClass} :
    Matches (star (one k)) cs ↔ ∀ c ∈ cs, k.has c = true := by
  constructor
  · intro h
    generalize hp : star (one k) = p at h
    induction h with
    | stop => simp
    | again ha _ _ ih =>
      cases hp
      obtain ⟨d, hd, rfl⟩ := matches_one_iff.1 ha
      intro c hc
      rcases List.mem_cons.1 hc with rfl | hc
      · exact hd
      · exact ih rfl c hc
    | _ => cases hp
  · intro h
    induction cs with
    | nil => exact .stop
    | cons c cs ih =>
      exact .again (a := [c]) (.one (h c (by simp))) (ih fun d hd => h d (by simp [hd]))

/-- Some class of the pattern holds the character. -/
def admits (c : Char) : Pattern → Bool
  | empty => false
  | one k => k.has c
  | seq p q => p.admits c || q.admits c
  | alt p q => p.admits c || q.admits c
  | star p => p.admits c

/-- A text of the pattern is made of characters of its classes. -/
theorem Matches.admits (h : Matches p cs) (hc : c ∈ cs) : p.admits c = true := by
  induction h with
  | empty => cases hc
  | one hk =>
    rw [List.mem_singleton.1 hc]
    exact hk
  | seq _ _ ihp ihq =>
    rw [Pattern.admits, Bool.or_eq_true]
    exact (List.mem_append.1 hc).imp ihp ihq
  | left _ ih =>
    rw [Pattern.admits, ih hc, Bool.true_or]
  | right _ ih =>
    rw [Pattern.admits, ih hc, Bool.or_true]
  | stop => cases hc
  | again _ _ ihp ihs =>
    rcases List.mem_append.1 hc with hc | hc
    · exact ihp hc
    · exact ihs hc

theorem Matches.not_mem (h : Matches p cs) (hc : p.admits c = false) : c ∉ cs := by
  intro hm
  rw [h.admits hm] at hc
  cases hc

/-! ## The first character outside a class -/

section Leaves

variable {k : CharClass} {marks : Chars}

def firstOutside? (k : CharClass) (cs : Chars) : Option Char := cs.find? fun c => !k.has c

theorem firstOutside?_append_of_all (h : ∀ c ∈ cs, k.has c = true) (more : Chars) :
    firstOutside? k (cs ++ more) = firstOutside? k more := by
  have hnone : firstOutside? k cs = none := by
    refine List.find?_eq_none.2 ?_
    intro c hc
    simp [h c hc]
  rw [firstOutside?, List.find?_append, ← firstOutside?, hnone, Option.none_or, firstOutside?]

theorem firstOutside?_append_of_some (h : firstOutside? k cs = some c) (more : Chars) :
    firstOutside? k (cs ++ more) = some c := by
  rw [firstOutside?, List.find?_append, ← firstOutside?, h, Option.some_or]

/-- The texts of the pattern stay inside the class. -/
def Within (k : CharClass) (p : Pattern) : Prop := ∀ c, p.admits c = true → k.has c = true

/-- Each text of the pattern leaves the class, and first by one of the characters. -/
def Leaves (k : CharClass) (marks : Chars) (p : Pattern) : Prop :=
  ∀ cs, Matches p cs → ∃ c ∈ marks, firstOutside? k cs = some c

theorem Leaves.lit (hm : c ∈ marks) (hk : k.has c = false) : Leaves k marks (lit c) := by
  intro cs h
  obtain rfl := matches_lit_iff.1 h
  exact ⟨c, hm, by simp [firstOutside?, hk]⟩

theorem Leaves.left (h : Leaves k marks p) (q : Pattern) : Leaves k marks (seq p q) := by
  intro cs hm
  obtain ⟨a, b, rfl, ha, -⟩ := matches_seq_iff.1 hm
  obtain ⟨c, hc, hfirst⟩ := h a ha
  exact ⟨c, hc, firstOutside?_append_of_some hfirst b⟩

theorem Leaves.right (hp : Within k p) (h : Leaves k marks q) : Leaves k marks (seq p q) := by
  intro cs hm
  obtain ⟨a, b, rfl, ha, hb⟩ := matches_seq_iff.1 hm
  rw [firstOutside?_append_of_all fun c hc => hp c (ha.admits hc)]
  exact h b hb

theorem Leaves.seq_assoc {r : Pattern} (h : Leaves k marks (seq p (seq q r))) :
    Leaves k marks (seq (seq p q) r) := by
  intro cs hm
  obtain ⟨_, d, rfl, hpq, hd⟩ := matches_seq_iff.1 hm
  obtain ⟨a, b, rfl, ha, hb⟩ := matches_seq_iff.1 hpq
  rw [List.append_assoc]
  exact h _ (ha.seq (hb.seq hd))

/-- What may be left out leaves the class where it stands, or else what follows it does. -/
theorem Leaves.opt (hp : Leaves k marks p) (h : Leaves k marks q) :
    Leaves k marks (seq (opt p) q) := by
  intro cs hm
  obtain ⟨a, b, rfl, ha, hb⟩ := matches_seq_iff.1 hm
  rcases matches_opt_iff.1 ha with ha | rfl
  · exact hp.left q _ (ha.seq hb)
  · exact h b hb

theorem Leaves.star (hp : Leaves k marks p) (h : Leaves k marks q) :
    Leaves k marks (seq (star p) q) := by
  intro cs hm
  obtain ⟨a, b, rfl, ha, hb⟩ := matches_seq_iff.1 hm
  cases ha with
  | stop => exact h b hb
  | again hfirst hmore =>
    rw [List.append_assoc]
    exact hp.left (seq (.star p) q) _ (hfirst.seq (hmore.seq hb))

/-- A text leaves a class in one way, so patterns that leave it by other characters share none. -/
theorem Leaves.not_matches {others : Chars} (hp : Leaves k marks p) (hq : Leaves k others q)
    (hapart : ∀ c ∈ marks, c ∉ others) (h : Matches p cs) : ¬Matches q cs := by
  intro hother
  obtain ⟨c, hc, hfirst⟩ := hp cs h
  obtain ⟨d, hd, hsecond⟩ := hq cs hother
  rw [hfirst] at hsecond
  cases hsecond
  exact hapart c hc hd

end Leaves

/-! ## Reading one character -/

theorem matches_seq_cons_iff :
    Matches (seq p q) (c :: cs) ↔
      (∃ a b, cs = a ++ b ∧ Matches p (c :: a) ∧ Matches q b) ∨
        Matches p [] ∧ Matches q (c :: cs) := by
  rw [matches_seq_iff]
  constructor
  · rintro ⟨a, b, h, hp, hq⟩
    cases a with
    | nil =>
      rw [List.nil_append] at h
      exact .inr ⟨hp, h ▸ hq⟩
    | cons d a =>
      obtain ⟨rfl, rfl⟩ := List.cons.inj h
      exact .inl ⟨a, b, rfl, hp, hq⟩
  · rintro (⟨a, b, rfl, hp, hq⟩ | ⟨hp, hq⟩)
    · exact ⟨c :: a, b, rfl, hp, hq⟩
    · exact ⟨[], c :: cs, rfl, hp, hq⟩

/-- A text that is not empty begins with one of `p` that is not empty. -/
theorem matches_star_cons_iff :
    Matches (star p) (c :: cs) ↔
      ∃ a b, cs = a ++ b ∧ Matches p (c :: a) ∧ Matches (star p) b := by
  constructor
  · intro h
    generalize hr : star p = r at h
    generalize ht : c :: cs = text at h
    induction h with
    | stop => cases ht
    | @again _ a b ha hb _ ih =>
      cases hr
      cases a with
      | nil => exact ih rfl ht
      | cons d a =>
        obtain ⟨rfl, rfl⟩ := List.cons.inj ht
        exact ⟨a, b, rfl, ha, hb⟩
    | _ => cases hr
  · rintro ⟨a, b, rfl, ha, hb⟩
    exact .again ha hb

theorem nullable_iff : p.nullable = true ↔ Matches p [] := by
  induction p with
  | empty => simp [nullable, matches_empty_iff]
  | one k => simp [nullable, matches_one_iff]
  | seq p q ihp ihq =>
    simp only [nullable, Bool.and_eq_true, ihp, ihq, matches_seq_iff, List.nil_eq,
      List.append_eq_nil_iff]
    constructor
    · rintro ⟨hp, hq⟩
      exact ⟨[], [], ⟨rfl, rfl⟩, hp, hq⟩
    · rintro ⟨_, _, ⟨rfl, rfl⟩, hp, hq⟩
      exact ⟨hp, hq⟩
  | alt p q ihp ihq => rw [nullable, Bool.or_eq_true, ihp, ihq, matches_alt_iff]
  | star p => simp [nullable, Matches.stop]

theorem matches_andThen_iff : Matches (andThen p q) cs ↔ Matches (seq p q) cs := by
  unfold andThen
  split
  · rename_i hp
    rw [hp, matches_seq_iff]
    simp only [matches_empty_iff]
    constructor
    · intro h
      exact ⟨[], cs, rfl, rfl, h⟩
    · rintro ⟨_, _, rfl, rfl, h⟩
      exact h
  · exact Iff.rfl

theorem exists_mem_map_andThen_iff {ps : List Pattern} :
    (∃ r ∈ ps.map (andThen · q), Matches r cs) ↔
      ∃ a b, cs = a ++ b ∧ (∃ r ∈ ps, Matches r a) ∧ Matches q b := by
  constructor
  · rintro ⟨_, hm, h⟩
    obtain ⟨r, hr, rfl⟩ := List.mem_map.1 hm
    obtain ⟨a, b, rfl, ha, hb⟩ := matches_seq_iff.1 (matches_andThen_iff.1 h)
    exact ⟨a, b, rfl, ⟨r, hr, ha⟩, hb⟩
  · rintro ⟨a, b, rfl, ⟨r, hr, ha⟩, hb⟩
    exact ⟨_, List.mem_map_of_mem hr, matches_andThen_iff.2 (.seq ha hb)⟩

/-- The patterns left after a character describe what follows it. -/
theorem exists_mem_rests_iff : (∃ r ∈ rests c p, Matches r cs) ↔ Matches p (c :: cs) := by
  induction p generalizing cs with
  | empty => simp [rests, matches_empty_iff]
  | one k =>
    rw [rests]
    constructor
    · rintro ⟨r, hr, h⟩
      split at hr
      · rename_i hk
        rw [List.mem_singleton.1 hr, matches_empty_iff] at h
        exact h ▸ .one hk
      · cases hr
    · intro h
      obtain ⟨d, hd, he⟩ := matches_one_iff.1 h
      obtain ⟨rfl, rfl⟩ := List.cons.inj he
      exact ⟨empty, by simp [hd], .empty⟩
  | seq p q ihp ihq =>
    simp only [rests, List.mem_append, or_and_right, exists_or, exists_mem_map_andThen_iff, ihp,
      matches_seq_cons_iff, ← nullable_iff]
    refine or_congr Iff.rfl ?_
    split
    · rename_i hn
      rw [ihq]
      simp [hn]
    · rename_i hn
      simp [hn]
  | alt p q ihp ihq =>
    simp only [rests, List.mem_append, or_and_right, exists_or, ihp, ihq, matches_alt_iff]
  | star p ih => simp only [rests, exists_mem_map_andThen_iff, ih, matches_star_cons_iff]

theorem exists_mem_step_iff {ps : List Pattern} :
    (∃ r ∈ step ps c, Matches r cs) ↔ ∃ p ∈ ps, Matches p (c :: cs) := by
  simp only [step, List.mem_eraseDups, List.mem_flatMap, ← exists_mem_rests_iff]
  constructor
  · rintro ⟨r, ⟨p, hp, hr⟩, h⟩
    exact ⟨p, hp, r, hr, h⟩
  · rintro ⟨p, hp, r, hr, h⟩
    exact ⟨r, ⟨p, hp, hr⟩, h⟩

/-- Reading decides what the pattern describes. -/
theorem accepts_iff : p.accepts cs = true ↔ Matches p cs := by
  have key : ∀ ps : List Pattern,
      (cs.foldl step ps).any nullable = true ↔ ∃ p ∈ ps, Matches p cs := by
    induction cs with
    | nil => simp [nullable_iff]
    | cons c cs ih =>
      intro ps
      rw [List.foldl_cons, ih, exists_mem_step_iff]
  rw [accepts, key]
  simp

/-- A pattern of which no text begins with the character. -/
theorem accepts_of_step_eq_nil (h : step [p] c = []) : p.accepts (c :: cs) = false := by
  have hstuck : cs.foldl step [] = [] := by
    induction cs with
    | nil => rfl
    | cons d cs ih => exact ih
  rw [accepts, List.foldl_cons, h, hstuck]
  rfl

end NestChart.Pattern
