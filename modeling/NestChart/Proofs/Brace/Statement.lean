import NestChart.Proofs.Brace.Clean
import NestChart.Proofs.Brace.Cover

/-!
# NestChart.Proofs.Brace.Statement

Cutting a line at its terminators undoes joining statements. A cut is made only where nothing is
open, so the scan of what follows begins anew (`IsTerminated.pieces_append`) and a line is read
piece by piece (`pieces_induction`): each piece ends at its first terminator but the last, which has
none. Trimming takes no terminator away, so a statement that is cut again is left whole.
-/

namespace NestChart.Brace.Statement

open Text

/-! ## The first terminator -/

/-- How many characters stand before the first terminator outside literals and parentheses. -/
def firstTerminator? (s : Scan) : Chars → Option Nat
  | [] => none
  | c :: cs =>
    if s.isTop && c == ';' then some 0 else (firstTerminator? (s.next c) cs).map (· + 1)

/-- The first terminator of the text is its last character. -/
def IsTerminated (text : Chars) : Prop :=
  firstTerminator? .start text = some (text.length - 1)

instance (text : Chars) : Decidable (IsTerminated text) := inferInstanceAs (Decidable (_ = _))

theorem firstTerminator?_append (s : Scan) (a b : Chars) :
    firstTerminator? s (a ++ b) =
      (firstTerminator? s a).or ((firstTerminator? (s.after a) b).map (· + a.length)) := by
  induction a generalizing s with
  | nil => simp [firstTerminator?]
  | cons c a ih =>
    rw [List.cons_append, firstTerminator?, firstTerminator?]
    split
    · rfl
    · rw [ih, Option.map_or, Option.map_map]
      rfl

theorem exists_of_firstTerminator? {s : Scan} {text : Chars} {i : Nat}
    (h : firstTerminator? s text = some i) :
    ∃ body rest, text = body ++ ';' :: rest ∧ body.length = i ∧
      firstTerminator? s body = none ∧ s.after body = .start := by
  induction text generalizing s i with
  | nil => cases h
  | cons c cs ih =>
    rw [firstTerminator?] at h
    split at h
    · rename_i hcut
      rw [Bool.and_eq_true, beq_iff_eq, Scan.isTop_iff] at hcut
      obtain ⟨rfl, rfl⟩ := hcut
      cases h
      exact ⟨[], cs, rfl, rfl, rfl, rfl⟩
    · rename_i hcut
      obtain ⟨j, hj, rfl⟩ := Option.map_eq_some_iff.1 h
      obtain ⟨body, rest, rfl, rfl, hnone, hafter⟩ := ih hj
      refine ⟨c :: body, rest, rfl, rfl, ?_, hafter⟩
      rw [firstTerminator?, if_neg hcut, hnone]
      rfl

theorem firstTerminator?_of_not_mem {text : Chars} (h : ';' ∉ text) (s : Scan) :
    firstTerminator? s text = none := by
  cases hi : firstTerminator? s text with
  | none => rfl
  | some i =>
    obtain ⟨body, rest, rfl, -⟩ := exists_of_firstTerminator? hi
    exact absurd (by simp) h

theorem firstTerminator?_blanks_append {blanks : Chars} (h : ∀ c ∈ blanks, isBlank c = true)
    (text : Chars) :
    firstTerminator? .start (blanks ++ text) =
      (firstTerminator? .start text).map (· + blanks.length) := by
  have hmem : ';' ∉ blanks := by
    intro hc
    have hblank := h ';' hc
    cases hblank
  rw [firstTerminator?_append, firstTerminator?_of_not_mem hmem, Option.none_or, Scan.after_of_blank h]

theorem firstTerminator?_trim {text : Chars} (h : firstTerminator? .start text = none) :
    firstTerminator? .start (trim text) = none := by
  obtain ⟨blanks, he, -⟩ := exists_trim_append text
  have hlead : ∀ c ∈ text.takeWhile isBlank, isBlank c = true :=
    fun _ => isBlank_of_mem_takeWhile
  rw [← he, List.append_assoc, firstTerminator?_blanks_append hlead, Option.map_eq_none_iff,
    firstTerminator?_append, Option.or_eq_none_iff] at h
  exact h.1

namespace IsTerminated

variable {text : Chars}

theorem exists_body (h : IsTerminated text) :
    ∃ body, text = body ++ [';'] ∧ firstTerminator? .start body = none ∧
      Scan.start.after body = .start := by
  obtain ⟨body, rest, rfl, hlength, hnone, hafter⟩ := exists_of_firstTerminator? h
  have hnil : rest = [] := by
    rw [List.length_append, List.length_cons] at hlength
    exact List.length_eq_zero_iff.1 (by omega)
  exact ⟨body, by rw [hnil], hnone, hafter⟩

theorem getLast?_eq (h : IsTerminated text) : text.getLast? = some ';' := by
  obtain ⟨body, rfl, -⟩ := h.exists_body
  simp

theorem blanks_append {blanks : Chars} (hb : ∀ c ∈ blanks, isBlank c = true)
    (h : IsTerminated text) : IsTerminated (blanks ++ text) := by
  obtain ⟨body, rfl, -⟩ := h.exists_body
  rw [IsTerminated, firstTerminator?_blanks_append hb, h]
  simp [Nat.add_comm]

/-- The terminator is no blank, so only blanks in front are taken away. -/
theorem trim (h : IsTerminated text) : IsTerminated (trim text) := by
  obtain ⟨blanks, he, hb⟩ := exists_trim_append text
  have hlead : ∀ c ∈ text.takeWhile isBlank, isBlank c = true :=
    fun _ => isBlank_of_mem_takeWhile
  have hnil : blanks = [] := by
    refine eq_nil_of_solidEnd ?_ hb
    have hend : SolidEnd text := by
      intro c hc
      rw [h.getLast?_eq] at hc
      cases hc
      decide
    rw [← he] at hend
    exact hend.append_right
  rw [hnil, List.append_nil] at he
  rw [IsTerminated, ← he, firstTerminator?_blanks_append hlead] at h
  obtain ⟨i, hi, hlength⟩ := Option.map_eq_some_iff.1 h
  obtain ⟨body, rest, ht, rfl, -⟩ := exists_of_firstTerminator? hi
  rw [List.length_append, ht, List.length_append, List.length_cons] at hlength
  rw [IsTerminated, hi, ht, List.length_append, List.length_cons]
  congr 1
  omega

end IsTerminated

/-! ## Pieces -/

theorem piecesFrom_append {s : Scan} {front : Chars} (h : firstTerminator? s front = none)
    (current rest : Chars) :
    piecesFrom s current (front ++ rest) =
      piecesFrom (s.after front) (front.reverse ++ current) rest := by
  induction front generalizing s current with
  | nil => rfl
  | cons c front ih =>
    rw [firstTerminator?] at h
    split at h
    · cases h
    · rename_i hcut
      rw [Option.map_eq_none_iff] at h
      rw [List.cons_append, piecesFrom, if_neg hcut, ih h]
      simp

theorem pieces_of_none {text : Chars} (h : firstTerminator? .start text = none) :
    pieces text = [text] := by
  have hp := piecesFrom_append h [] []
  rw [List.append_nil] at hp
  rw [pieces, hp]
  simp [piecesFrom]

theorem IsTerminated.pieces_append {front : Chars} (h : IsTerminated front) (rest : Chars) :
    pieces (front ++ rest) = front :: pieces rest := by
  obtain ⟨body, rfl, hnone, hafter⟩ := h.exists_body
  have hcut : (Scan.start.isTop && ';' == ';') = true := rfl
  have hnext : Scan.start.next ';' = .start := rfl
  rw [pieces, List.append_assoc, piecesFrom_append hnone, hafter, List.singleton_append, piecesFrom,
    if_pos hcut, hnext]
  simp [pieces]

/-- A text has no terminator, or it is a text that ends at its first one and then a text. -/
theorem pieces_induction {P : Chars → Prop}
    (last : ∀ text, firstTerminator? .start text = none → P text)
    (cut : ∀ front rest, IsTerminated front → P rest → P (front ++ rest)) (text : Chars) :
    P text := by
  induction hn : text.length using Nat.strongRecOn generalizing text with
  | ind n ih =>
    cases hi : firstTerminator? .start text with
    | none => exact last text hi
    | some i =>
      obtain ⟨body, rest, rfl, rfl, hnone, hafter⟩ := exists_of_firstTerminator? hi
      have hfront : IsTerminated (body ++ [';']) := by
        rw [IsTerminated, firstTerminator?_append, hnone, hafter]
        simp [firstTerminator?, Scan.isTop, Scan.start]
      have hlt : rest.length < n := by
        rw [← hn, List.length_append, List.length_cons]
        omega
      rw [List.append_cons]
      exact cut _ _ hfront (ih _ hlt rest rfl)

/-! ## Statements -/

theorem place_cons (start : Nat) (p : Chars) (ps : List Chars) :
    place start (p :: ps) = place start [p] ++ place (start + byteLength p) ps := by
  simp only [place]
  split <;> rfl

/-- A piece is one statement, or nothing. -/
theorem mem_place_singleton {start : Nat} {p : Chars} {g : Segment} (h : g ∈ place start [p]) :
    place start [p] = [g] ∧ g.text = trim p ∧ g.text ≠ [] ∧ g.text ≠ [';'] := by
  simp only [place] at h ⊢
  split at h
  · cases h
  · rename_i hsolid
    rw [not_or] at hsolid
    rw [List.mem_singleton] at h
    subst h
    exact ⟨if_neg (not_or.2 hsolid), rfl, hsolid⟩

/-- A text that is cut nowhere is one statement. -/
theorem segments_of_trimmed {text : Chars} (ht : Trimmed text) (hn : text ≠ [])
    (hlone : text ≠ [';']) (h : firstTerminator? .start text = none ∨ IsTerminated text) :
    segments text = [⟨0, text⟩] := by
  have htrim : trim text = text := ht
  have hblank : text.takeWhile isBlank = [] := by
    obtain ⟨c, cs, rfl⟩ := List.exists_cons_of_ne_nil hn
    simp [ht.solidStart c rfl]
  have hplace : place 0 [text] = [⟨0, text⟩] := by
    simp [place, htrim, hn, hlone, hblank]
  rcases h with h | h
  · rw [segments, pieces_of_none h, hplace]
  · have hp := h.pieces_append []
    rw [List.append_nil] at hp
    rw [segments, hp, place_cons, hplace]
    rfl

theorem alone_of_mem_place {text : Chars} {start : Nat} {g : Segment}
    (hg : g ∈ place start (pieces text)) : segments g.text = [⟨0, g.text⟩] := by
  induction text using pieces_induction generalizing start with
  | last text hnone =>
    rw [pieces_of_none hnone] at hg
    obtain ⟨-, htext, hn, hlone⟩ := mem_place_singleton hg
    refine segments_of_trimmed ?_ hn hlone (.inl ?_)
    · rw [htext]
      exact trimmed_trim text
    · rw [htext]
      exact firstTerminator?_trim hnone
  | cut front rest hfront ih =>
    rw [hfront.pieces_append, place_cons, List.mem_append] at hg
    rcases hg with hg | hg
    · obtain ⟨-, htext, hn, hlone⟩ := mem_place_singleton hg
      refine segments_of_trimmed ?_ hn hlone (.inr ?_)
      · rw [htext]
        exact trimmed_trim front
      · rw [htext]
        exact hfront.trim
    · exact ih hg

theorem getLast?_of_mem_dropLast_place {text : Chars} {start : Nat} {g : Segment}
    (hg : g ∈ (place start (pieces text)).dropLast) : g.text.getLast? = some ';' := by
  induction text using pieces_induction generalizing start with
  | last text hnone =>
    rw [pieces_of_none hnone] at hg
    have hmem := List.dropLast_subset _ hg
    rw [(mem_place_singleton hmem).1] at hg
    cases hg
  | cut front rest hfront ih =>
    rw [hfront.pieces_append, place_cons] at hg
    have hfirst : g ∈ place start [front] → g.text.getLast? = some ';' := by
      intro hg
      rw [(mem_place_singleton hg).2.1]
      exact hfront.trim.getLast?_eq
    by_cases hnil : place (start + byteLength front) (pieces rest) = []
    · rw [hnil, List.append_nil] at hg
      exact hfirst (List.dropLast_subset _ hg)
    · rw [List.dropLast_append_of_ne_nil hnil, List.mem_append] at hg
      rcases hg with hg | hg
      · exact hfirst hg
      · exact ih hg

/-- What lies in no statement is blank or a terminator. -/
theorem place_covers {ps : List Chars} {start i : Nat} {c : Char}
    (hc : StandsAt ps.flatten [c] i) :
    isBlank c = true ∨ c = ';' ∨
      ∃ g ∈ place start ps, g.start ≤ start + i ∧ start + i + c.utf8Size ≤ g.stop := by
  induction ps generalizing start i with
  | nil =>
    have hmem := hc.mem (List.mem_singleton_self c)
    cases hmem
  | cons p ps ih =>
    rw [place_cons]
    rcases hc.of_append_singleton with hp | ⟨k, rfl, hrest⟩
    · obtain ⟨blanks, he, hb⟩ := exists_trim_append p
      rw [← he] at hp
      rcases hp.of_append_singleton with hfront | ⟨k, -, hback⟩
      · rcases hfront.of_append_singleton with hlead | ⟨k, rfl, htext⟩
        · exact .inl (isBlank_of_mem_takeWhile (hlead.mem (by simp)))
        · have hstop := htext.stop_le
          have hmem := htext.mem (List.mem_singleton_self c)
          rw [byteLength_cons, byteLength_nil] at hstop
          simp only [place]
          split
          · rename_i hempty
            rcases hempty with hempty | hempty
            · rw [hempty] at hmem
              cases hmem
            · rw [hempty, List.mem_singleton] at hmem
              exact .inr (.inl hmem)
          · refine .inr (.inr ⟨_, List.mem_append_left _ (List.mem_singleton_self _), ?_, ?_⟩)
            · simp only
              omega
            · simp only [Segment.stop]
              omega
      · exact .inl (hb c (hback.mem (by simp)))
    · rcases @ih (start + byteLength p) k hrest with hblank | hterminator | ⟨g, hg, hlo, hhi⟩
      · exact .inl hblank
      · exact .inr (.inl hterminator)
      · refine .inr (.inr ⟨g, List.mem_append_right _ hg, ?_, ?_⟩)
        · omega
        · omega

/-- What cutting a text into statements promises. -/
structure Splits (text : Chars) (gs : List Segment) : Prop where
  standsAt : ∀ g ∈ gs, StandsAt text g.text g.start
  apart : gs.Pairwise fun g h => g.stop ≤ h.start
  solid : ∀ g ∈ gs, g.text ≠ [] ∧ Trimmed g.text ∧ g.text ≠ [';']
  covers : ∀ c i, StandsAt text [c] i →
    isBlank c = true ∨ c = ';' ∨ ∃ g ∈ gs, g.start ≤ i ∧ i + c.utf8Size ≤ g.stop
  terminated : ∀ g ∈ gs.dropLast, g.text.getLast? = some ';'
  alone : ∀ g ∈ gs, segments g.text = [⟨0, g.text⟩]

theorem splits_segments (text : Chars) : Splits text (segments text) where
  standsAt g hg := by
    obtain ⟨i, hi, hstart⟩ := (fits_of_mem_segments hg).standsAt
    have hstart : g.start = i := hstart.trans (Nat.zero_add i)
    rw [hstart]
    exact hi
  apart := by
    have h := (tiles_segments text 0).pairwise
    rw [List.pairwise_map] at h
    simpa [Piece.span, Segment.stop] using h
  solid g hg := by
    have hfits := fits_of_mem_segments hg
    refine ⟨hfits.ne_nil, hfits.trimmed, ?_⟩
    intro hlone
    have halone := alone_of_mem_place hg
    rw [hlone] at halone
    cases halone
  covers c i hc := by
    rw [← flatten_pieces text] at hc
    have h := @place_covers _ 0 _ _ hc
    rwa [Nat.zero_add] at h
  terminated _ := getLast?_of_mem_dropLast_place
  alone _ := alone_of_mem_place

/-- The texts in order, with blanks in front of, between and behind them. -/
inductive Spaced : List Chars → Chars → Prop
  | nil {blanks : Chars} (h : ∀ c ∈ blanks, isBlank c = true) : Spaced [] blanks
  | cons {blanks text whole : Chars} {texts : List Chars} (h : ∀ c ∈ blanks, isBlank c = true)
      (rest : Spaced texts whole) : Spaced (text :: texts) (blanks ++ text ++ whole)

theorem Spaced.texts_place {texts : List Chars} {whole : Chars} (h : Spaced texts whole)
    (ht : ∀ t ∈ texts, Trimmed t ∧ t ≠ [';'] ∧ IsTerminated t) (start : Nat) :
    (place start (pieces whole)).map Segment.text = texts := by
  induction h generalizing start with
  | @nil blanks hb =>
    have hnone : firstTerminator? .start blanks = none := by
      have h := firstTerminator?_blanks_append hb []
      rwa [List.append_nil] at h
    have htrim := trim_blanks_append hb []
    rw [List.append_nil] at htrim
    rw [pieces_of_none hnone, place, htrim]
    rfl
  | @cons blanks text whole texts hb _ ih =>
    obtain ⟨htrimmed, hlone, hterminated⟩ := ht text (by simp)
    have hn : text ≠ [] := by
      rintro rfl
      cases hterminated
    have htrim : trim (blanks ++ text) = text := (trim_blanks_append hb text).trans htrimmed
    have hfirst : (place start [blanks ++ text]).map Segment.text = [text] := by
      simp [place, htrim, hn, hlone]
    rw [(hterminated.blanks_append hb).pieces_append, place_cons, List.map_append, hfirst,
      ih (fun t hm => ht t (by simp [hm]))]
    rfl

/-- A line is cut into its statements: trimmed texts in order, with nothing but blanks and
terminators around them, each but perhaps the last with its terminator, and each left whole when it
is cut again. Statements that end at their first terminator, joined by any blanks, are cut apart
again. -/
theorem segments_splits_and_joins :
    (∀ text, Splits text (segments text)) ∧
      ∀ {texts : List Chars} {whole : Chars},
        (∀ t ∈ texts, Trimmed t ∧ t ≠ [';'] ∧ IsTerminated t) → Spaced texts whole →
          (segments whole).map Segment.text = texts :=
  ⟨splits_segments, fun ht h => h.texts_place ht 0⟩

/-- An escaped quote, terminators in a literal and in nested parentheses, and a parenthesis without
a partner; one join is a wide blank, one is nothing. -/
theorem segments_splits_and_joins_literals :
    let texts :=
      ["s = \"x\\\";y\";".toList, "for (; (a); ';') f();".toList, ") n++;".toList]
    let whole := "\ts = \"x\\\";y\";\u3000for (; (a); ';') f();) n++; ".toList
    (∀ t ∈ texts, Trimmed t ∧ t ≠ [';'] ∧ IsTerminated t) ∧ Spaced texts whole ∧
      (segments whole).map Segment.text = texts := by
  intro texts whole
  have ht : ∀ t ∈ texts, Trimmed t ∧ t ≠ [';'] ∧ IsTerminated t := by decide
  have hblank : ∀ c ∈ ['\t'], isBlank c = true := by simp [isBlank]
  have hwide : ∀ c ∈ ['\u3000'], isBlank c = true := by simp [isBlank]
  have hnothing : ∀ c ∈ ([] : Chars), isBlank c = true := by simp
  have hspace : ∀ c ∈ [' '], isBlank c = true := by simp [isBlank]
  have h : Spaced texts whole := .cons hblank (.cons hwide (.cons hnothing (.nil hspace)))
  exact ⟨ht, h, segments_splits_and_joins.2 ht h⟩

end NestChart.Brace.Statement
