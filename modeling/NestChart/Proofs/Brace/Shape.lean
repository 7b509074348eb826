import NestChart.Brace.Shape
import NestChart.Proofs.Pattern
import NestChart.Proofs.Shape

/-!
# NestChart.Proofs.Brace.Shape

Shapes of lines with an opening brace behind them. The first words stay what they are, a function
head stays one, and no prototype ends with a brace.
-/

namespace NestChart.Brace.Shape

open Text Pattern NestChart.Shape

theorem isFlow_append (text more : Chars) : isFlow (text ++ ' ' :: more) = isFlow text := by
  rw [Bool.eq_iff_iff]
  constructor
  · exact startsWithAny_of_append (by decide)
  · exact fun h => startsWithAny_append h more

theorem not_isPrototype_append_opener (text : Chars) :
    isPrototype (text ++ [' ', '{']) = false := by
  rw [isPrototype, Bool.and_eq_false_iff, Bool.eq_false_iff]
  left
  intro h
  obtain ⟨_, rest, he, -, h⟩ := matches_seq_iff.1 (accepts_iff.1 h)
  obtain ⟨_, rest, rfl, -, h⟩ := matches_seq_iff.1 h
  obtain ⟨_, rest, rfl, hend, h⟩ := matches_seq_iff.1 h
  rw [matches_lit_iff.1 hend, List.singleton_append] at he
  -- The last character is the terminator or a blank behind it.
  have hlast : (';' :: rest).getLast? = some '{' := by
    have := congrArg List.getLast? he
    simpa [List.getLast?_append] using this.symm
  rcases List.mem_cons.1 (List.mem_of_getLast? hlast) with hc | hc
  · cases hc
  · have := matches_star_one_iff.1 h _ hc
    cases this

theorem isFunctionHead_append_opener {text : Chars} (h : isFunctionHead text = true)
    (ho : '{' ∉ text) : isFunctionHead (text ++ [' ', '{']) = true := by
  rw [isFunctionHead, accepts_iff] at h ⊢
  obtain ⟨call, rest, rfl, hcall, h⟩ := matches_seq_iff.1 h
  obtain ⟨gap, rest, rfl, hgap, h⟩ := matches_seq_iff.1 h
  obtain ⟨opener, behind, rfl, hopener, hbehind⟩ := matches_seq_iff.1 h
  have hnone : opener = [] := by
    rcases matches_opt_iff.1 hopener with hlit | hnil
    · rw [matches_lit_iff.1 hlit] at ho
      simp at ho
    · exact hnil
  have hblanks : Matches blanks (gap ++ behind ++ [' ']) := by
    refine matches_star_one_iff.2 ?_
    intro c hc
    simp only [List.mem_append, List.mem_singleton] at hc
    rcases hc with (hc | hc) | rfl
    · exact matches_star_one_iff.1 hgap c hc
    · exact matches_star_one_iff.1 hbehind c hc
    · rfl
  have hbrace : Matches (opt (lit '{')) ['{'] := .left (matches_lit_iff.2 rfl)
  have hend : Matches blanks [] := .stop
  have hform : Matches functionForm (call ++ (gap ++ behind ++ [' '] ++ (['{'] ++ []))) :=
    hcall.seq (hblanks.seq (hbrace.seq hend))
  simpa [hnone] using hform

end NestChart.Brace.Shape
