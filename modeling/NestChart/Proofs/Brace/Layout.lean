import NestChart.Brace.Builder
import NestChart.Proofs.Brace.Parts
import NestChart.Proofs.Brace.Shape

/-!
# NestChart.Proofs.Brace.Layout

Lines that hold one thing each: the head of a branch or of a function, with or without the brace
that opens its block, a label or a statement. The words at the front of a head decide what it is,
and a brace belongs to the form of a function, so a brace behind either changes nothing
(`Head.ofText_opening`, `FunctionHead.ofText_opening`).
-/

namespace NestChart.Brace

open Text NestChart.Shape

/-! ## Words of control and of labels -/

namespace Shape

/-- A control word and what follows it. -/
theorem exists_of_isControl {text : Chars} (h : isControl text = true) :
    ∃ rest, text = "if".toList ++ rest ∨ text = "for".toList ++ rest ∨
      text = "while".toList ++ rest ∨ text = "else".toList ++ rest ∨
      text = "switch".toList ++ rest ∨ text = "do".toList ++ rest := by
  obtain ⟨w, hw, rest, rfl⟩ := exists_of_startsWithAny h
  refine ⟨rest, ?_⟩
  simp only [controlWords, List.map_cons, List.map_nil, List.mem_cons, List.not_mem_nil,
    or_false] at hw
  rcases hw with rfl | rfl | rfl | rfl | rfl | rfl <;> simp

/-- No word of control is a word of a label. -/
theorem label?_of_isControl {text : Chars} (h : isControl text = true) : label? text = none := by
  obtain ⟨rest, h⟩ := exists_of_isControl h
  rcases h with rfl | rfl | rfl | rfl | rfl | rfl <;> rfl

theorem isDirective_of_isControl {text : Chars} (h : isControl text = true) :
    isDirective text = false := by
  obtain ⟨rest, h⟩ := exists_of_isControl h
  rcases h with rfl | rfl | rfl | rfl | rfl | rfl <;> rfl

theorem start_of_isControl {text : Chars} (h : isControl text = true) :
    Comment.start text = .none := by
  obtain ⟨rest, h⟩ := exists_of_isControl h
  rcases h with rfl | rfl | rfl | rfl | rfl | rfl <;> rfl

theorem isElse_of_isSwitch {text : Chars} (h : isSwitch text = true) : isElse text = false := by
  obtain ⟨rest, rfl, -⟩ := exists_of_startsWithWord h
  rfl

/-- A label begins with its word. -/
theorem startsWithWord_of_label? {text : Chars} {r : Chars × Chars} (h : label? text = some r) :
    startsWithWord "case".toList text = true ∨ startsWithWord "default".toList text = true := by
  obtain ⟨_, hr, -⟩ := Option.map_eq_some_iff.1 h
  unfold cutLabel? at hr
  split at hr
  · rename_i hc
    unfold caseLabel? at hc
    split at hc
    · rename_i c rest ha
      split at hc
      · rename_i hb
        exact .inl (startsWithWord_of_after? ha (by simp [atWordEnd, isWord_of_isBlank hb]))
      · cases hc
    · cases hc
  · unfold defaultLabel? at hr
    split at hr
    · rename_i rest ha
      refine .inr (startsWithWord_of_after? ha ?_)
      cases rest with
      | nil => rfl
      | cons c cs =>
        by_cases hb : isBlank c = true
        · simp [atWordEnd, isWord_of_isBlank hb]
        · rw [show trimStart (c :: cs) = c :: cs by simp [trimStart, hb]] at hr
          split at hr
          · rename_i heq
            cases heq
            rfl
          · cases hr
    · cases hr

end Shape

/-! ## Categories of words -/

theorem classify_of_isControl {text : Chars} (hs : Comment.start text = .none)
    (hd : isDirective text = false) (hc : Shape.isControl text = true) :
    classify text = .controlHeader := by
  have hf : Shape.isFlow text = true := startsWithAny_left hc
  have hh : text.head? ≠ some '#' := by simpa [isDirective] using hd
  simp [classify, hs, hh, hf, hc]

theorem isControl_of_classify {text : Chars} (h : classify text = .controlHeader)
    (hl : Shape.label? text = none) : Shape.isControl text = true := by
  unfold classify at h
  split at h
  · cases h
  split at h
  · cases h
  split at h
  · split at h
    · rename_i hc
      simpa [hl] using hc
    · cases h
  split at h
  · cases h
  split at h
  · cases h
  · cases h

theorem classify_of_label? {text : Chars} {r : Chars × Chars} (h : Shape.label? text = some r) :
    classify text = .controlHeader := by
  have hw := Shape.startsWithWord_of_label? h
  have hf : Shape.isFlow text = true := by
    rw [Shape.isFlow, startsWithAny, List.any_eq_true]
    rcases hw with hw | hw
    · exact ⟨_, by decide, hw⟩
    · exact ⟨_, by decide, hw⟩
  obtain ⟨hs, hh⟩ : Comment.start text = .none ∧ text.head? ≠ some '#' := by
    rcases hw with hw | hw
    all_goals
      obtain ⟨rest, rfl, -⟩ := exists_of_startsWithWord hw
      exact ⟨rfl, fun he => by cases he⟩
  simp [classify, hs, hh, hf, h]

/-! ## More behind a text -/

/-- What follows a blank does not change what stands in front. -/
theorem bare_append_blank {text : Chars} (hn : text ≠ []) (hc : text.head? ≠ some '}')
    (hd : isDirective text = false) (more : Chars) : Bare (text ++ ' ' :: more) := by
  obtain ⟨c, cs, rfl⟩ := List.exists_cons_of_ne_nil hn
  refine ⟨by simp, Block.afterClose?_eq_none.2 hc, ?_, hd⟩
  rw [Block.isLoneOpen, beq_eq_false_iff_ne]
  intro he
  cases cs <;> cases he

theorem Comment.isMark_append {text : Chars} (hn : text ≠ []) (more : Chars) :
    isMark (text ++ ' ' :: more) = isMark text := by
  obtain ⟨c, cs, rfl⟩ := List.exists_cons_of_ne_nil hn
  cases cs with
  | nil => simp [isMark]
  | cons d cs =>
    simp only [List.cons_append, isMark]
    split <;> split <;> simp_all

theorem Comment.cutFrom_append_opener {l : Literal} {text : Chars} (h : cutFrom l text = none) :
    cutFrom l (text ++ [' ', '{']) = none := by
  induction text generalizing l with
  | nil => simp [cutFrom, isMark]
  | cons c cs ih =>
    unfold cutFrom at h
    split at h
    · cases h
    · rename_i hm
      rw [← isMark_append (by simp) ['{'], List.cons_append] at hm
      rw [List.cons_append, cutFrom, if_neg hm, ih (Option.map_eq_none_iff.1 h)]
      rfl

theorem Comment.cut?_append_opener {text : Chars} (hn : text ≠ []) (h : cut? text = none) :
    cut? (text ++ [' ', '{']) = none := by
  obtain ⟨c, cs, rfl⟩ := List.exists_cons_of_ne_nil hn
  rw [cut?, Option.map_eq_none_iff] at h
  rw [List.cons_append, cut?, cutFrom_append_opener h]
  rfl

/-! ## Lines of one thing -/

/-- A text without braces that is no comment and no directive and has no comment behind it. -/
structure Plain (text : Chars) : Prop where
  trimmed : Trimmed text
  no_comment : Comment.cut? text = none
  no_opener : '{' ∉ text
  no_closer : '}' ∉ text
  not_directive : isDirective text = false
  not_comment : Comment.start text = .none

/-- The head of a branch, loop or choice that waits for its body. -/
structure Head (text : Chars) : Prop extends Plain text where
  category : classify text = .controlHeader
  not_label : Shape.label? text = none
  not_complete : text.getLast? ≠ some ';'

/-- A label with nothing behind it. -/
structure Label (text : Chars) : Prop extends Plain text where
  label : Shape.label? text = some (text, [])

/-- One statement. -/
structure Single (text : Chars) : Prop extends Plain text where
  category : classify text = .statement
  segment : (Statement.segments text).length = 1

/-- The head of a function that waits for its body. -/
structure FunctionHead (text : Chars) : Prop extends Plain text where
  category : classify text = .declaration
  form : Shape.isFunctionHead text = true

section Decidable

variable (text : Chars)

instance : Decidable (Plain text) :=
  decidable_of_iff (Trimmed text ∧ Comment.cut? text = none ∧ '{' ∉ text ∧ '}' ∉ text ∧
      isDirective text = false ∧ Comment.start text = .none)
    ⟨fun ⟨h1, h2, h3, h4, h5, h6⟩ => ⟨h1, h2, h3, h4, h5, h6⟩,
      fun ⟨h1, h2, h3, h4, h5, h6⟩ => ⟨h1, h2, h3, h4, h5, h6⟩⟩

instance : Decidable (Head text) :=
  decidable_of_iff (Plain text ∧ classify text = .controlHeader ∧ Shape.label? text = none ∧
      text.getLast? ≠ some ';')
    ⟨fun ⟨h1, h2, h3, h4⟩ => ⟨h1, h2, h3, h4⟩, fun ⟨h1, h2, h3, h4⟩ => ⟨h1, h2, h3, h4⟩⟩

instance : Decidable (Label text) :=
  decidable_of_iff (Plain text ∧ Shape.label? text = some (text, []))
    ⟨fun ⟨h1, h2⟩ => ⟨h1, h2⟩, fun ⟨h1, h2⟩ => ⟨h1, h2⟩⟩

instance : Decidable (Single text) :=
  decidable_of_iff (Plain text ∧ classify text = .statement ∧ (Statement.segments text).length = 1)
    ⟨fun ⟨h1, h2, h3⟩ => ⟨h1, h2, h3⟩, fun ⟨h1, h2, h3⟩ => ⟨h1, h2, h3⟩⟩

instance : Decidable (FunctionHead text) :=
  decidable_of_iff (Plain text ∧ classify text = .declaration ∧ Shape.isFunctionHead text = true)
    ⟨fun ⟨h1, h2, h3⟩ => ⟨h1, h2, h3⟩, fun ⟨h1, h2, h3⟩ => ⟨h1, h2, h3⟩⟩

end Decidable

theorem Plain.undivided {text : Chars} (h : Plain text) (hn : text ≠ []) : Undivided text where
  ne_nil := hn
  no_closer := by
    rw [Block.afterClose?_eq_none]
    exact fun he => h.no_closer (List.mem_of_mem_head? he)
  not_lone := by
    rw [Block.isLoneOpen, beq_eq_false_iff_ne]
    rintro rfl
    exact h.no_opener (by simp)
  not_directive := h.not_directive
  no_comment := h.no_comment
  no_brace := Block.cutFrom_of_not_mem h.no_closer fun hm =>
    h.no_opener ((List.dropLast_sublist text).mem hm)

theorem Plain.splitOpener {text : Chars} (h : Plain text) : splitOpener text = (text, false) :=
  splitOpener_of_getLast? fun he => h.no_opener (List.mem_of_getLast? he)

/-! ## Plain texts and a brace behind them -/

namespace Plain

variable {text : Chars}

theorem start_opening (h : Plain text) (hn : text ≠ []) :
    Comment.start (text ++ [' ', '{']) = .none := by
  rw [Comment.start_eq_none, Comment.isMark_append hn]
  exact Comment.start_eq_none.1 h.not_comment

theorem undivided_opening (h : Plain text) (hn : text ≠ []) : Undivided (text ++ [' ', '{']) where
  toBare := bare_append_blank hn (fun he => h.no_closer (List.mem_of_mem_head? he))
    h.not_directive ['{']
  no_comment := Comment.cut?_append_opener hn h.no_comment
  no_brace := by
    refine Block.cutFrom_of_not_mem (by simpa using h.no_closer) ?_
    rw [List.dropLast_append_of_ne_nil (by simp)]
    simpa using h.no_opener

theorem splitOpener_opening (h : Plain text) :
    Brace.splitOpener (text ++ [' ', '{']) = (text, true) := by
  rw [List.append_cons, splitOpener_concat, trimEnd_append_space h.trimmed.solidEnd]

end Plain

/-- The brace behind a word of control and what belongs to it opens a block and is not shown. -/
theorem Parts.ofText_control_opening {text : Chars} (h : Shape.isControl text = true)
    (hu : Undivided (text ++ [' ', '{'])) (he : SolidEnd text) (start : Nat) :
    ofText (text ++ [' ', '{']) start = .header ⟨text, start⟩ true := by
  have hcontrol : Shape.isControl (text ++ [' ', '{']) = true := startsWithAny_append h ['{']
  have hcategory := classify_of_isControl (Shape.start_of_isControl hcontrol) hu.not_directive
    hcontrol
  have hsplit : splitOpener (text ++ [' ', '{']) = (text, true) := by
    rw [List.append_cons, splitOpener_concat, trimEnd_append_space he]
  simp only [ofText_undivided hu, hcategory, Shape.label?_of_isControl hcontrol, hsplit]

namespace Head

variable {text : Chars}

theorem of_isControl (h : Plain text) (hc : Shape.isControl text = true)
    (hlast : text.getLast? ≠ some ';') : Head text where
  toPlain := h
  category := classify_of_isControl h.not_comment h.not_directive hc
  not_label := Shape.label?_of_isControl hc
  not_complete := hlast

theorem ne_nil (h : Head text) : text ≠ [] := by
  rintro rfl
  exact absurd h.category (by decide)

theorem isControl (h : Head text) : Shape.isControl text = true :=
  isControl_of_classify h.category h.not_label

theorem not_isComplete (h : Head text) : State.isComplete text = false := by
  have hc : text.getLast? ≠ some '}' := fun he => h.no_closer (List.mem_of_getLast? he)
  simp [State.isComplete, h.not_complete, hc]

theorem ofText (h : Head text) (start : Nat) :
    Parts.ofText text start = .header ⟨text, start⟩ false := by
  simp only [Parts.ofText_undivided (h.undivided h.ne_nil), h.category, h.not_label, h.splitOpener]

/-- The brace behind a head opens its block and is not shown. -/
theorem ofText_opening (h : Head text) (start : Nat) :
    Parts.ofText (text ++ [' ', '{']) start = .header ⟨text, start⟩ true :=
  Parts.ofText_control_opening h.isControl (h.undivided_opening h.ne_nil) h.trimmed.solidEnd start

end Head

theorem not_isFlow_of_classify {text : Chars} (h : classify text = .declaration) :
    Shape.isFlow text = false := by
  unfold classify at h
  split at h
  · cases h
  split at h
  · cases h
  split at h
  · split at h <;> cases h
  · rename_i hf
    exact Bool.eq_false_iff.2 hf

namespace FunctionHead

variable {text : Chars}

theorem ne_nil (h : FunctionHead text) : text ≠ [] := by
  rintro rfl
  exact absurd h.category (by decide)

theorem ofText (h : FunctionHead text) (start : Nat) :
    Parts.ofText text start = .declaration .declaration ⟨text, start⟩ false := by
  simp only [Parts.ofText_undivided (h.undivided h.ne_nil), h.category, h.splitOpener]

theorem classify_opening (h : FunctionHead text) :
    classify (text ++ [' ', '{']) = .declaration := by
  have hd := (h.undivided_opening h.ne_nil).not_directive
  have hh : (text ++ [' ', '{']).head? ≠ some '#' := by simpa [isDirective] using hd
  have hf : Shape.isFlow (text ++ [' ', '{']) = false := by
    rw [Shape.isFlow_append]
    exact not_isFlow_of_classify h.category
  simp only [classify, h.start_opening h.ne_nil, hh, hf, Shape.not_isPrototype_append_opener,
    Shape.isFunctionHead_append_opener h.form h.no_opener, ne_eq, not_true, if_false,
    Bool.false_eq_true, Bool.or_true, if_true]

/-- The brace behind the head of a function opens its body and is not shown. -/
theorem ofText_opening (h : FunctionHead text) (start : Nat) :
    Parts.ofText (text ++ [' ', '{']) start = .declaration .declaration ⟨text, start⟩ true := by
  simp only [Parts.ofText_undivided (h.undivided_opening h.ne_nil), h.classify_opening,
    h.splitOpener_opening]

end FunctionHead

theorem Label.ofText {text : Chars} (h : Label text) (start : Nat) :
    Parts.ofText text start = .label ⟨text, start⟩ .nothing := by
  have hn : text ≠ [] := by
    rintro rfl
    exact absurd h.label (by decide)
  simp only [Parts.ofText_undivided (h.undivided hn), classify_of_label? h.label, h.label,
    Parts.ofText_nil]

theorem Plain.ofText_statements {text : Chars} (h : Plain text) (hn : text ≠ [])
    (hc : classify text = .statement) (start : Nat) :
    Parts.ofText text start =
      .statements ((Statement.segments text).map fun s => ⟨s.text, start + s.start⟩) false := by
  simp only [Parts.ofText_undivided (h.undivided hn), hc, h.splitOpener]

end NestChart.Brace
