import NestChart.Proofs.Brace.Bytes
import NestChart.Proofs.Indent.Bytes

/-!
# NestChart.Proofs.Bytes

Lines read by byte positions. Whatever characters a line is made of, every position that a scan
gives is a place between two of them, and readings inside readings come to an end.
-/

namespace NestChart

open Text

/-- The positions that scans of a text give are sound.

* A comment behind code begins inside the text, between two characters.
* So does what stands behind a brace inside the line; the part in front of it holds no other brace
  to cut at, with the blanks at its end or without.
* A label is a beginning of the text, and not an empty one.
* A scan for strings moves on with every turn, stays at places of the text and comes to its end with
  the string that is left open.
* A reading of the text reads shorter texts only, so readings inside readings that may go deeper
  than the text is long meet no fault and give its parts. -/
theorem positions_sound (text : Chars) :
    (Brace.Comment.markAt text = .ok ((Brace.Comment.cut? text).map fun r => byteLength r.1) ∧
        ∀ r ∈ Brace.Comment.cut? text,
          IsInner text (byteLength r.1) ∧ cutAt (byteLength r.1) text = .ok r) ∧
      (Brace.Block.splitAt? text = (Brace.Block.cut? text).map (fun r => byteLength r.1) ∧
        ∀ r ∈ Brace.Block.cut? text,
          IsInner text (byteLength r.1) ∧ cutAt (byteLength r.1) text = .ok r ∧
            Brace.Block.cut? r.1 = none ∧ Brace.Block.cut? (trimEnd r.1) = none) ∧
      (∀ label rest, Brace.Shape.label? text = some (label, rest) → label ≠ [] ∧ label <+: text) ∧
      ((∀ x, Indent.Cursor.Reached text x → IsPlace text x.index ∧
          ∃ y?, x.turn text = .ok y? ∧ ∀ y ∈ y?, x.index < y.index ∧ IsPlace text y.index) ∧
        ∃ x, Indent.Cursor.Reached text x ∧ x.turn text = .ok none ∧
          x.scan.open? = Indent.QuoteStyle.leftOpen? text) ∧
      ∀ start, (∀ call : Brace.Parts.Reader,
          Brace.Parts.readWith (Brace.Parts.onShorter text call) text start =
            Brace.Parts.readWith call text start) ∧
        ∀ depth, byteLength text < depth →
          Brace.Parts.read depth text start = .ok (Brace.Parts.ofText text start) := by
  refine ⟨⟨Brace.Comment.markAt_eq text, ?_⟩, ⟨Brace.Block.splitAt?_eq text, ?_⟩, ?_, ⟨?_, ?_⟩, ?_⟩
  · rintro ⟨code, behind⟩ hcut
    obtain ⟨rfl, hcode, hbehind⟩ := Brace.Comment.cut?_append hcut
    exact ⟨isInner_append hcode hbehind, cutAt_append code behind⟩
  · rintro ⟨left, right⟩ hcut
    obtain ⟨rfl, hleft, hright⟩ := Brace.Block.cut?_append hcut
    obtain ⟨blanks, htrim, -⟩ := exists_trimEnd_append left
    exact ⟨isInner_append hleft hright, cutAt_append left right,
      Brace.Block.cutFrom_of_prefix hcut (List.prefix_refl left),
      Brace.Block.cutFrom_of_prefix hcut ⟨blanks, htrim⟩⟩
  · intro label rest h
    exact Brace.Shape.prefix_of_label? h
  · intro x hx
    exact ⟨Indent.Cursor.isPlace_of_reached hx, Indent.Cursor.exists_turn_of_reached hx⟩
  · exact Indent.Cursor.exists_stop_leftOpen? text
  · intro start
    exact ⟨fun call => Brace.Parts.readWith_onShorter call text start,
      fun depth hdepth => Brace.Parts.read_eq hdepth start⟩

end NestChart
