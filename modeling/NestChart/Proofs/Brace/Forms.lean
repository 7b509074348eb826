import NestChart.Brace.Classify
import NestChart.Proofs.Pattern

/-!
# NestChart.Proofs.Brace.Forms

The forms of declarations exclude each other. Words, blanks and stars are the head of each. The
first other character is a parenthesis in a prototype and in a function head, and never one in a
variable. A prototype holds a terminator, and a function head has no room for one. So a line has at
most one of the three forms, and the order in which they are tried does not matter
(`classify_in_any_order`).
-/

namespace NestChart.Brace

namespace Shape

open Pattern

/-- What types, stars and names are made of. -/
def stem : CharClass := .either .word (.either .blank (.only '*'))

theorem words_within : Within stem words := by
  intro c h
  simp only [words, plus, admits, CharClass.has, Bool.or_self] at h
  simp [stem, CharClass.has, h]

theorem blanks_within : Within stem blanks := by
  intro c h
  simp only [blanks, admits, CharClass.has] at h
  simp [stem, CharClass.has, h]

theorem stars_within : Within stem (star (lit '*')) := by
  intro c h
  simp only [lit, admits, CharClass.has] at h
  simp [stem, CharClass.has, h]

theorem callForm_leaves (forbidden : Chars) : Leaves stem ['('] (callForm forbidden) := by
  have htype : Within stem (star (one (.either .word .blank))) := by
    intro c h
    simp only [admits, CharClass.has, Bool.or_eq_true] at h
    rcases h with h | h <;> simp [stem, CharClass.has, h]
  have hgap : Within stem (plus (one (.either .blank (.only '*')))) := by
    intro c h
    simp only [plus, admits, CharClass.has, Bool.or_self, Bool.or_eq_true] at h
    rcases h with h | h <;> simp [stem, CharClass.has, h]
  have hopen : Leaves stem ['('] (lit '(') := .lit (by decide) (by decide)
  exact .right htype (.right words_within (.right hgap (.right words_within
    (.right blanks_within (hopen.left _)))))

theorem variableForm_leaves : Leaves stem ['[', ',', '=', ';'] variableForm := by
  have htype : Within stem (plus (inOrder [words, plus (one .blank)])) := by
    intro c h
    simp only [inOrder, words, plus, admits, CharClass.has, Bool.or_self, Bool.or_eq_true] at h
    rcases h with h | h <;> simp [stem, CharClass.has, h]
  have hend : Leaves stem ['[', ',', '=', ';'] (lit ';') := .lit (by decide) (by decide)
  have hvalue : Leaves stem ['[', ',', '=', ';'] (lit '=') := .lit (by decide) (by decide)
  have hcomma : Leaves stem ['[', ',', '=', ';'] (lit ',') := .lit (by decide) (by decide)
  have hsize : Leaves stem ['[', ',', '=', ';'] (lit '[') := .lit (by decide) (by decide)
  -- Whatever is left out, the terminator leaves the class at the latest.
  have hbehind := (hvalue.left (star (one (.except ['\n'])))).opt (hend.left blanks)
  have hmore := Leaves.star (.right blanks_within (hcomma.left
    (inOrder [blanks, star (lit '*'), blanks, declarator]))) (.right blanks_within hbehind)
  have hsizes := Leaves.star (.right blanks_within (hsize.left
    (inOrder [star (one (.except [']'])), lit ']']))) hmore
  exact .right htype (.right stars_within (.right blanks_within
    (.seq_assoc (.right words_within hsizes))))

theorem not_isVariable_of_isPrototype {text : Chars} (h : isPrototype text = true) :
    isVariable text = false := by
  rw [isPrototype, Bool.and_eq_true, accepts_iff] at h
  rw [isVariable, Bool.eq_false_iff, ne_eq, accepts_iff]
  exact ((callForm_leaves _).left _).not_matches variableForm_leaves (by simp) h.1

theorem not_isVariable_of_isFunctionHead {text : Chars} (h : isFunctionHead text = true) :
    isVariable text = false := by
  rw [isFunctionHead, accepts_iff] at h
  rw [isVariable, Bool.eq_false_iff, ne_eq, accepts_iff]
  exact ((callForm_leaves _).left _).not_matches variableForm_leaves (by simp) h

theorem mem_of_isPrototype {text : Chars} (h : isPrototype text = true) : ';' ∈ text := by
  rw [isPrototype, Bool.and_eq_true, accepts_iff] at h
  obtain ⟨call, _, rfl, -, h⟩ := matches_seq_iff.1 h.1
  obtain ⟨gap, _, rfl, -, h⟩ := matches_seq_iff.1 h
  obtain ⟨mark, behind, rfl, hmark, -⟩ := matches_seq_iff.1 h
  obtain rfl := matches_lit_iff.1 hmark
  simp

theorem not_isFunctionHead_of_isPrototype {text : Chars} (h : isPrototype text = true) :
    isFunctionHead text = false := by
  rw [isFunctionHead, Bool.eq_false_iff, ne_eq, accepts_iff]
  intro hhead
  have hroom : functionForm.admits ';' = false := by decide
  exact hhead.not_mem hroom (mem_of_isPrototype h)

end Shape

/-! ## Rules in any order -/

/-- A form of lines, and the category that it gives. -/
structure Rule where
  holds : Chars → Bool
  category : Category

/-- The rules for lines that no word of control begins. -/
def declarationRules : List Rule :=
  [⟨Shape.isPrototype, .prototype⟩, ⟨Shape.isVariable, .declaration⟩,
    ⟨Shape.isFunctionHead, .declaration⟩]

/-- The category of a line when these rules are tried one after the other. -/
def classifyBy (rules : List Rule) (text : Chars) : Category :=
  if Comment.start text ≠ .none then .comment
  else if text.head? = some '#' then .directive
  else if Shape.isFlow text then
    if Shape.isControl text || (Shape.label? text).isSome then .controlHeader else .statement
  else (rules.find? (·.holds text)).elim .statement Rule.category

theorem classifyBy_declarationRules (text : Chars) :
    classifyBy declarationRules text = classify text := by
  unfold classifyBy classify
  repeat' refine ite_congr rfl (fun _ => rfl) fun _ => ?_
  cases hp : Shape.isPrototype text with
  | true => simp [declarationRules, hp]
  | false =>
    cases hv : Shape.isVariable text with
    | true => simp [declarationRules, hp, hv]
    | false =>
      cases hf : Shape.isFunctionHead text with
      | true => simp [declarationRules, hp, hv, hf]
      | false => simp [declarationRules, hp, hv, hf]

/-- Where at most one rule holds, all orders find the same. -/
theorem find?_eq_of_perm {rules order : List Rule} {text : Chars} (h : order.Perm rules)
    (hone : (rules.filter (·.holds text)).length ≤ 1) :
    order.find? (·.holds text) = rules.find? (·.holds text) := by
  have hperm : (order.filter (·.holds text)).Perm (rules.filter (·.holds text)) := h.filter _
  rw [← List.head?_filter, ← List.head?_filter]
  cases hheld : rules.filter (·.holds text) with
  | nil =>
    rw [hheld] at hperm
    rw [hperm.eq_nil]
  | cons r rest =>
    rw [hheld] at hperm hone
    obtain rfl : rest = [] := by
      rw [List.length_cons] at hone
      exact List.length_eq_zero_iff.1 (by omega)
    rw [List.perm_singleton.1 hperm]

/-- A line has at most one of the forms of a prototype, a variable and a function head, and so the
rules for them give its category in any order. -/
theorem classify_in_any_order (text : Chars) :
    (declarationRules.filter (·.holds text)).length ≤ 1 ∧
      ∀ order : List Rule, order.Perm declarationRules →
        classifyBy order text = classify text := by
  have hone : (declarationRules.filter (·.holds text)).length ≤ 1 := by
    cases hp : Shape.isPrototype text with
    | true =>
      simp [declarationRules, hp, Shape.not_isVariable_of_isPrototype hp,
        Shape.not_isFunctionHead_of_isPrototype hp]
    | false =>
      cases hf : Shape.isFunctionHead text with
      | true => simp [declarationRules, hp, hf, Shape.not_isVariable_of_isFunctionHead hf]
      | false => cases hv : Shape.isVariable text <;> simp [declarationRules, hp, hf, hv]
  refine ⟨hone, ?_⟩
  intro order horder
  rw [← classifyBy_declarationRules, classifyBy, classifyBy, find?_eq_of_perm horder hone]

/-- A prototype whose parentheses hold brackets, commas and a value; its rule is tried last. -/
theorem classify_in_any_order_reversed :
    let text := "static char *names(int ids[], int n = 0) ;".toList
    declarationRules.reverse.Perm declarationRules ∧
      classifyBy declarationRules.reverse text = .prototype := by
  intro text
  have horder : declarationRules.reverse.Perm declarationRules := List.reverse_perm _
  have hkind : classify text = .prototype := by decide +kernel
  exact ⟨horder, ((classify_in_any_order text).2 _ horder).trans hkind⟩

end NestChart.Brace
