import NestChart.Proofs.Brace.Beside
import NestChart.Proofs.Brace.CommentLine
import NestChart.Proofs.Brace.Level

/-!
# NestChart.Proofs.Brace.Between

A comment between two texts on one line. What stands behind the comment is shown as part of it, so
the line opens and closes the blocks of the text before it and no others
(`push_comment_between`): that is what the line without the comment does only if the text behind the
comment leaves the blocks as they are.
-/

namespace NestChart.Brace

open Text

/-- The steps reach the same depth and the same blocks, and meet the same anomalies. -/
structure SameBlocks (x y : Step State) : Prop where
  depth : x.state.depth = y.state.depth
  frames : x.state.frames = y.state.frames
  anomalies : x.flow.anomalies = y.flow.anomalies

namespace SameBlocks

variable {x y z : Step State} {f g : State → Step State}

theorem refl (x : Step State) : SameBlocks x x := ⟨rfl, rfl, rfl⟩

theorem symm (h : SameBlocks x y) : SameBlocks y x :=
  ⟨h.depth.symm, h.frames.symm, h.anomalies.symm⟩

theorem trans (h : SameBlocks x y) (h' : SameBlocks y z) : SameBlocks x z :=
  ⟨h.depth.trans h'.depth, h.frames.trans h'.frames, h.anomalies.trans h'.anomalies⟩

theorem andThen (hs : y.state = x.state) (h : SameBlocks x y)
    (hf : SameBlocks (f x.state) (g x.state)) : SameBlocks (x.andThen f) (y.andThen g) := by
  refine ⟨?_, ?_, ?_⟩
  · rw [Step.andThen, Step.andThen, hs]
    exact hf.depth
  · rw [Step.andThen, Step.andThen, hs]
    exact hf.frames
  · rw [Step.andThen, Step.andThen, hs, Flow.anomalies_append, Flow.anomalies_append, h.anomalies,
      hf.anomalies]

/-- A step behind the first one that touches no blocks. -/
theorem andThen_left (hf : SameBlocks (.goto x.state) (f x.state)) :
    SameBlocks x (x.andThen f) := by
  have h := andThen rfl (refl x) hf
  rwa [Step.andThen_goto] at h

theorem of_alike (h : State.StepsAlike Eq x y) : SameBlocks x y := by
  have hstate := h.state.eq_setComment
  refine ⟨?_, ?_, ?_⟩
  · rw [hstate]
    rfl
  · rw [hstate]
    rfl
  · rw [← List.forall₂_eq_eq_eq]
    refine h.flow.anomalies.imp ?_
    rintro ⟨line, kind⟩ ⟨line', kind'⟩ h
    have hkind : kind' = kind := h.1
    have hline : line = line' := h.2
    rw [hkind, hline]

end SameBlocks

namespace State

variable {s : State} {line start start' : Nat}

/-- Where on a line a text stands does not matter for blocks. -/
theorem run_place (hs : s.comment? = none) (text : Chars) :
    SameBlocks (run line (.ofText text start) s) (run line (.ofText text start') s) :=
  .of_alike (run_alike (.refl_of_none hs) rfl text start start')

theorem placeComment_sameBlocks (s : State) (p : Piece) (depth line : Nat) :
    SameBlocks (.goto s) (s.placeComment p depth line) := by
  unfold placeComment
  split
  · exact ⟨rfl, rfl, rfl⟩
  · exact ⟨rfl, rfl, rfl⟩

/-! ## The text before the comment -/

/-- A comment and what follows it on its line leave the blocks as the code before it does. Behind
closing braces alone the comment begins a line, so there it must not be taken apart. -/
theorem run_before_comment {code comment : Chars} (hu : Unmarked code)
    (hclosed : Literal.outside.after code = .outside) (hm : Comment.isMark comment = true)
    (hwhole : (∀ c ∈ code, c = '}' ∨ isBlank c = true) →
      Comment.cut? comment = none ∧ Block.cut? comment = none) (hs : s.comment? = none) :
    SameBlocks (run line (.ofText (trim code) start) s)
      (run line (.ofText (trimStart (code ++ ' ' :: comment)) start') s) := by
  induction hn : code.length using Nat.strongRecOn generalizing code s start start' with
  | ind n ih =>
    subst hn
    -- Over the closing braces in front: each is gone before the comment is looked for.
    rw [← trimStart_trimStart_append code]
    have hcode := takeWhile_append_trimStart code
    have hblanks : ∀ c ∈ code.takeWhile isBlank, isBlank c = true :=
      fun _ => isBlank_of_mem_takeWhile
    cases hfront : trimStart code with
    | nil =>
      rw [hfront, List.append_nil] at hcode
      -- No code is left, so what remains is not a comment behind code but a comment line.
      obtain ⟨hcut, hbrace⟩ := hwhole fun c hc => .inr (hblanks c (hcode.symm ▸ hc))
      have hstart : Comment.start comment ≠ .none := by
        rw [ne_eq, Comment.start_eq_none, hm]
        decide
      have hsolid : trimStart ([] ++ ' ' :: comment) = comment := by
        refine (trimStart_eq_self.2 ?_ : trimStart comment = comment)
        intro c hc
        rw [Comment.head?_of_isMark hm] at hc
        cases hc
        decide
      rw [trim, hfront, show trimEnd [] = [] from rfl, hsolid, Parts.ofText_nil,
        Parts.ofText_undivided ⟨Comment.bare_of_start hstart, hcut, hbrace⟩,
        classify_of_start hstart]
      exact placeComment_sameBlocks s _ _ line
    | cons c cs =>
      rw [hfront] at hcode
      have hu' : Unmarked (c :: cs) := by
        rw [← hcode] at hu
        exact hu.of_standsAt (.right _ _)
      have hclosed' : Literal.outside.after (c :: cs) = .outside := by
        rw [← hcode, Literal.after_append, Scan.outside_after_of_blank hblanks] at hclosed
        exact hclosed
      have hsolid : SolidStart (c :: cs) := hfront ▸ solidStart_trimStart code
      rw [trim, hfront, trimStart_eq_self.2 (solidStart_append (by simp) hsolid)]
      by_cases hc : c = '}'
      · subst hc
        have hclose : Block.afterClose? ('}' :: cs ++ ' ' :: comment) =
            some (trimStart (cs ++ ' ' :: comment)) := rfl
        have hclose' : Block.afterClose? (trimEnd ('}' :: cs)) = some (trim cs) := by
          have hend : trimEnd (['}'] ++ cs) = '}' :: trimEnd cs := trimEnd_append (by decide) cs
          rw [← trimStart_trimEnd, show '}' :: cs = ['}'] ++ cs from rfl, hend]
          rfl
        rw [Parts.ofText_closer hclose, Parts.ofText_closer hclose', run, run]
        refine .andThen rfl (.refl _) (ih _ ?_ (hu'.of_standsAt (.right ['}'] cs)) hclosed' ?_ hs rfl)
        · rw [← hcode]
          simp
          omega
        · intro hrest
          refine hwhole fun d hd => ?_
          rw [← hcode, List.mem_append, List.mem_cons] at hd
          rcases hd with hd | rfl | hd
          · exact .inr (hblanks d hd)
          · exact .inl rfl
          · exact hrest d hd
      · have hn : c :: cs ≠ [] := by simp
        have hhead : (c :: cs).head? ≠ some '}' := by simpa using hc
        have hbare := bare_append_blank hn hhead hu'.isDirective comment
        have hcut := Comment.cut?_append_comment hn hu'.uncommented hclosed' hm
        have hend : trimEnd (c :: cs ++ [' ']) = trimEnd (c :: cs) :=
          trimEnd_append_of_blank (by simp [isBlank])
        rw [Parts.ofText_beside hbare hcut, hend, run_beside]
        exact (run_place hs _).trans (.andThen_left (placeComment_sameBlocks _ _ _ line))

end State

/-! ## The text behind the comment -/

theorem Bare.append {text : Chars} (h : Bare text) (more : Chars) : Bare (text ++ more) := by
  have hhead : (text ++ more).head? = text.head? := List.head?_append_of_ne_nil _ h.ne_nil
  refine ⟨by simp [h.ne_nil], ?_, ?_, ?_⟩
  · rw [Block.afterClose?_eq_none, hhead]
    exact Block.afterClose?_eq_none.1 h.no_closer
  · have hlone := h.not_lone
    rw [Block.isLoneOpen, beq_eq_false_iff_ne] at hlone ⊢
    intro he
    rcases List.append_eq_singleton_iff.1 he with ⟨hn, -⟩ | ⟨hl, -⟩
    · exact h.ne_nil hn
    · exact hlone hl
  · rw [isDirective, hhead]
    exact h.not_directive

namespace Block

variable {p : Position} {isFirst : Bool} {text left right : Chars}

/-- A cut is found again when more text follows. -/
theorem cutFrom_append_right (h : cutFrom p isFirst text = some (left, right)) (more : Chars) :
    cutFrom p isFirst (text ++ more) = some (left, right ++ more) := by
  induction text generalizing p isFirst left with
  | nil => cases h
  | cons c cs ih =>
    unfold cutFrom at h
    rw [List.cons_append, cutFrom]
    split at h
    · rename_i hopen
      cases h
      simp only [Bool.and_eq_true, Bool.not_eq_true', List.isEmpty_eq_false_iff] at hopen
      rw [if_pos (by simp [hopen.1, hopen.2])]
    rename_i hopen
    split at h
    · rename_i hclose
      cases h
      have hc : c = '}' := by
        simp only [Position.closesBlock, Bool.and_eq_true, beq_iff_eq] at hclose
        exact hclose.1.1.1
      rw [if_neg (by simp [Position.opensBlock, hc]), if_pos hclose]
      rfl
    · rename_i hclose
      obtain ⟨r, hr, he⟩ := Option.map_eq_some_iff.1 h
      cases he
      have hn : cs ≠ [] := by
        rintro rfl
        cases hr
      have hopens : p.opensBlock c = false := by simpa [hn] using hopen
      rw [hopens, Bool.false_and, if_neg (by simp), if_neg hclose, ih hr]
      rfl

/-- A brace at the end of a clean text that is not cut begins a block, so the text is cut behind it
when more follows. -/
theorem cutFrom_opener_append {last? : Option Char} {front more : Chars}
    (h : cleanFrom p.scan last? (front ++ ['{']) = true) (hp : p.Sees last?)
    (hc : cutFrom p isFirst (front ++ ['{']) = none) (hm : more ≠ []) :
    cutFrom p isFirst (front ++ ['{'] ++ more) = some (front ++ ['{'], more) := by
  induction front generalizing p isFirst last? with
  | nil =>
    obtain ⟨ht, hv, -⟩ := cleanFrom_cons.1 h
    have hopens : p.opensBlock '{' = true := by
      have hin := hp.not_inInitializer fun he => hv ⟨rfl, he⟩
      simp [Position.opensBlock, ht rfl, hin]
    rw [List.nil_append, List.singleton_append, cutFrom, hopens, if_pos (by simpa using hm)]
  | cons c front ih =>
    obtain ⟨-, hv, hs⟩ := cleanFrom_cons.1 h
    rw [List.cons_append, cutFrom] at hc
    split at hc
    · cases hc
    rename_i hopen
    split at hc
    · cases hc
    rename_i hclose
    have hopens : p.opensBlock c = false := by simpa using hopen
    rw [List.cons_append, List.cons_append, cutFrom, hopens, Bool.false_and, if_neg (by simp),
      if_neg hclose, ih (p := p.next c) hs (hp.next hv) (Option.map_eq_none_iff.1 hc)]
    rfl

end Block

namespace State

variable {s : State} {line start start' : Nat}

/-- A text that keeps to its level and holds no label changes no blocks. -/
theorem run_of_level {text : Chars} (h : BraceClean text) (hlevel : levelAfter? 0 text = some 0)
    (hl : (Parts.ofText text start).hasLabel = false) (s : State) :
    SameBlocks (.goto s) (run line (.ofText text start) s) := by
  have hbraces : levelAfter? 0 (Parts.ofText text start).braces = some 0 := by
    rw [braces_ofText h, levelAfter?_bracesIn, hlevel]
  obtain ⟨hinside, hquiet⟩ := (inside_self s).run (.inr hl) hbraces line
  obtain ⟨hframes, hdepth⟩ := hinside.zero
  exact ⟨hdepth.symm, congrArg Nesting.mk hframes.symm, hquiet.symm⟩

theorem run_trimStart_of_level {text : Chars} (h : BraceClean text)
    (hlevel : levelAfter? 0 text = some 0)
    (hl : (Parts.ofText (trimStart text) start).hasLabel = false) (s : State) :
    SameBlocks (.goto s) (run line (.ofText (trimStart text) start) s) := by
  refine run_of_level h.trimStart ?_ hl s
  rw [← levelAfter?_bracesIn, bracesIn_trimStart, levelAfter?_bracesIn, hlevel]

/-- Behind an opening brace more text stands on its own. -/
theorem run_opener_before_level {front more : Chars} (h : BraceClean (front ++ ['{'] ++ more))
    (hcut : Block.cut? (front ++ ['{']) = none) (hhead : (front ++ ['{']).head? ≠ some '}')
    (hsolid : SolidStart (front ++ ['{'])) (hlevel : levelAfter? 0 more = some 0)
    (hl : (Parts.ofText (trimStart (front ++ ['{'] ++ more)) start').hasLabel = false)
    (hs : s.comment? = none) :
    SameBlocks (run line (.ofText (front ++ ['{']) start) s)
      (run line (.ofText (trimStart (front ++ ['{'] ++ more)) start') s) := by
  rw [trimStart_eq_self.2 (solidStart_append (by simp) hsolid)] at hl ⊢
  by_cases hn : more = []
  · rw [hn, List.append_nil]
    exact run_place hs _
  have hbare : Bare (front ++ ['{'] ++ more) := by
    refine ⟨by simp, Block.afterClose?_eq_none.2 ?_, ?_, h.isDirective⟩
    · rwa [List.head?_append_of_ne_nil _ (by simp)]
    · rw [Block.isLoneOpen, beq_eq_false_iff_ne]
      intro he
      have hlength := congrArg List.length he
      have := List.length_pos_iff.2 hn
      simp at hlength
      omega
  have hsees : Block.Position.start.Sees none := ⟨rfl, by simp [Block.Position.start]⟩
  have hcut' : Block.cut? (front ++ ['{'] ++ more) = some (front ++ ['{'], more) :=
    Block.cutFrom_opener_append h.left.scan hsees hcut hn
  have hend : trimEnd (front ++ ['{']) = front ++ ['{'] :=
    trimEnd_eq_self.2 (solidEnd_append (by simp) (by decide))
  have hmore : BraceClean more := h.right (Block.after_of_cut? hcut')
  rw [Parts.ofText_both hbare h.uncommented.cut? hcut', hend] at hl ⊢
  rw [Parts.hasLabel, Bool.or_eq_false_iff] at hl
  exact (run_place hs _).trans (.andThen_left (run_trimStart_of_level hmore hlevel hl.2 _))

/-- More text that keeps to its level leaves the blocks as the code before it does. -/
theorem run_before_level {code more : Chars} (h : BraceClean (code ++ more))
    (hsolid : SolidStart code) (hlevel : levelAfter? 0 more = some 0)
    (hl : (Parts.ofText code start).hasLabel = false)
    (hl' : (Parts.ofText (trimStart (code ++ more)) start').hasLabel = false)
    (hs : s.comment? = none) :
    SameBlocks (run line (.ofText code start) s)
      (run line (.ofText (trimStart (code ++ more)) start') s) := by
  induction code using Parts.ofText_induction generalizing s start start' with
  | nil =>
    rw [Parts.ofText_nil]
    exact run_trimStart_of_level h hlevel hl' s
  | closer cs ih =>
    have hclose : Block.afterClose? ('}' :: cs) = some (trimStart cs) := rfl
    have hclose' : Block.afterClose? (trimStart ('}' :: cs ++ more)) =
        some (trimStart (trimStart cs ++ more)) := by
      rw [trimStart_trimStart_append]
      rfl
    have hclean : BraceClean (trimStart cs ++ more) :=
      (BraceClean.right (a := ['}']) h rfl).trimStart_append
    rw [Parts.ofText_closer hclose] at hl ⊢
    rw [Parts.ofText_closer hclose'] at hl' ⊢
    exact .andThen rfl (.refl _) (ih hclean (solidStart_trimStart cs) hl hl' hs)
  | opener =>
    have hclean : BraceClean ([] ++ ['{'] ++ more) := h
    exact run_opener_before_level hclean rfl (by simp) hsolid hlevel hl' hs
  | directive code hd =>
    rw [h.left.isDirective] at hd
    cases hd
  | beside code front behind _ hm =>
    rw [h.left.uncommented.cut?] at hm
    cases hm
  | both code left right hbare hm hb _ ihr =>
    -- Both texts are cut at the same place, and what stands before it is the same text.
    have hcut := Block.cutFrom_append_right hb more
    rw [trimStart_eq_self.2 (solidStart_append hbare.ne_nil hsolid),
      Parts.ofText_both (hbare.append more) h.uncommented.cut? hcut] at hl' ⊢
    rw [Parts.ofText_both hbare hm hb] at hl ⊢
    rw [Parts.hasLabel, Bool.or_eq_false_iff] at hl hl'
    rw [← trimStart_trimStart_append] at hl' ⊢
    obtain ⟨rfl, hn, -⟩ := Block.cut?_append hb
    have hleft : BraceClean (trimEnd left) := h.left.left.trimEnd
    have htrimmed : Trimmed (trimEnd left) :=
      trimmed_iff.2 ⟨solidStart_trimEnd hsolid.append_left, solidEnd_trimEnd left⟩
    have hplace : line = line := rfl
    have halike := run_alike (R := Eq) (.refl_of_none hs) hplace (trimEnd left) start start'
    have hcomment := comment?_run hleft.uncommented htrimmed hs line start
    have hclean : BraceClean (trimStart right ++ more) := by
      rw [List.append_assoc] at h
      exact (h.right (Block.after_of_cut? hb)).trimStart_append
    exact .andThen (halike.state.eq_of_none hcomment) (.of_alike halike)
      (ihr hclean (solidStart_trimStart right) hl.2 hl'.2 hcomment)
  | undivided code hu =>
    by_cases hlast : code.getLast? = some '{'
    · obtain ⟨front, rfl⟩ := List.getLast?_eq_some_iff.1 hlast
      exact run_opener_before_level h hu.no_brace (Block.afterClose?_eq_none.1 hu.no_closer) hsolid
        hlevel hl' hs
    · -- Here the code has no brace, but the text may still be cut further on: so neither is looked
      -- at part by part, and both leave the blocks as they were before the line.
      have hbraces : bracesIn code = [] := by
        have hb := (h.left.braceLast hu).bracesIn
        rwa [splitOpener_of_getLast? hlast, if_neg (by simp)] at hb
      have hcode : levelAfter? 0 code = some 0 := by
        rw [← levelAfter?_bracesIn, hbraces]
        rfl
      have hboth : levelAfter? 0 (code ++ more) = some 0 := by
        rw [levelAfter?_append, hcode]
        exact hlevel
      exact (run_of_level h.left hcode hl s).symm.trans
        (run_trimStart_of_level h hboth hl' s)

end State

/-! ## The line -/

/-- Two texts on a line, trimmed: the blanks between them belong to the second one. -/
theorem exists_trim_append_eq (a b : Chars) :
    ∃ more, trim (a ++ ' ' :: b) = trimStart (trim a ++ more) ∧ bracesIn more = bracesIn b ∧
      (BraceClean (a ++ ' ' :: b) → BraceClean (trim a ++ more)) := by
  have hlead : ∀ c ∈ a.takeWhile isBlank, isBlank c = true := fun _ => isBlank_of_mem_takeWhile
  obtain ⟨blanks, he, hb⟩ := exists_trim_append a
  have htext : a ++ ' ' :: b = a.takeWhile isBlank ++ (trim a ++ (blanks ++ ' ' :: b)) := by
    conv_lhs => rw [← he]
    simp only [List.append_assoc]
  refine ⟨trimEnd (blanks ++ ' ' :: b), ?_, ?_, ?_⟩
  · rw [htext, trim_blanks_append hlead, ← trimStart_trimEnd,
      trimEnd_append (trimmed_trim a).solidEnd]
  · rw [bracesIn_trimEnd, bracesIn_append, bracesIn_of_blank hb, List.nil_append]
    rfl
  · intro h
    rw [htext] at h
    have hright := h.right (Scan.after_of_blank hlead)
    obtain ⟨tail, ht, -⟩ := exists_trimEnd_append (blanks ++ ' ' :: b)
    rw [← ht, ← List.append_assoc] at hright
    exact hright.left

/-- A line with a comment between two texts does to the blocks what the first text does alone: the
second one is shown with the comment. So the line without the comment does the same only if the
second text leaves the blocks as they are, as it does if it keeps to its level and no part of the
line is a label. -/
theorem push_comment_between {s : State} (hs : s.comment? = none) {k l m : Line} {a b c : Chars}
    (hk : k.content = a)
    (hl : l.content = a ++ ' ' :: (['/', '*'] ++ c ++ ['*', '/'] ++ ' ' :: b))
    (hm : m.content = a ++ ' ' :: b) (hkl : k.number = l.number) (hml : m.number = l.number)
    (ha : Unmarked a) (hclosed : Literal.outside.after a = .outside)
    (hwhole : (∀ x ∈ a, x = '}' ∨ isBlank x = true) →
      let comment := trim (['/', '*'] ++ c ++ ['*', '/'] ++ ' ' :: b)
      Comment.cut? comment = none ∧ Block.cut? comment = none) :
    SameBlocks (s.push k) (s.push l) ∧
      (SameBlocks (s.push l) (s.push m) ↔ SameBlocks (s.push k) (s.push m)) ∧
      (BraceClean (a ++ ' ' :: b) → levelAfter? 0 b = some 0 →
        (Parts.ofText k.trimmed k.trimmedSpan.start).hasLabel = false →
        (Parts.ofText m.trimmed m.trimmedSpan.start).hasLabel = false →
          SameBlocks (s.push l) (s.push m)) := by
  have hclose : SolidEnd (['/', '*'] ++ c ++ ['*', '/']) := solidEnd_append (by simp) (by decide)
  have hcomment : trim (['/', '*'] ++ c ++ ['*', '/'] ++ ' ' :: b) =
      ['/', '*'] ++ c ++ ['*', '/'] ++ trimEnd (' ' :: b) := by
    rw [← trimStart_trimEnd, trimEnd_append hclose]
    rfl
  have hline : l.trimmed =
      trimStart (a ++ ' ' :: (['/', '*'] ++ c ++ ['*', '/'] ++ trimEnd (' ' :: b))) := by
    have hsolid : SolidEnd (a ++ ' ' :: (['/', '*'] ++ c ++ ['*', '/'])) :=
      solidEnd_append (by simp) (solidEnd_append (a := [' ']) (by simp) hclose)
    have hend : trimEnd (a ++ ' ' :: (['/', '*'] ++ c ++ ['*', '/'] ++ ' ' :: b)) =
        a ++ ' ' :: (['/', '*'] ++ c ++ ['*', '/'] ++ trimEnd (' ' :: b)) := by
      simpa only [List.append_assoc, List.cons_append] using trimEnd_append hsolid (' ' :: b)
    rw [Line.trimmed, hl, ← trimStart_trimEnd, hend]
  have hfirst : SameBlocks (s.push k) (s.push l) := by
    rw [State.push_eq_run hs, State.push_eq_run hs, hkl, hline, Line.trimmed, hk]
    exact State.run_before_comment ha hclosed rfl (fun h => hcomment ▸ hwhole h) hs
  refine ⟨hfirst, ⟨hfirst.trans, hfirst.symm.trans⟩, fun hclean hlevel hlk hlm => ?_⟩
  obtain ⟨more, htrim, hbraces, hmore⟩ := exists_trim_append_eq a b
  have hlevel' : levelAfter? 0 more = some 0 := by
    rw [← levelAfter?_bracesIn, hbraces, levelAfter?_bracesIn, hlevel]
  have htrimmed : m.trimmed = trimStart (k.trimmed ++ more) := by
    rw [Line.trimmed, hm, htrim, Line.trimmed, hk]
  have hcode : BraceClean (k.trimmed ++ more) := by
    rw [Line.trimmed, hk]
    exact hmore hclean
  refine hfirst.symm.trans ?_
  rw [htrimmed] at hlm
  rw [State.push_eq_run hs, State.push_eq_run hs, hkl, hml, htrimmed]
  exact State.run_before_level hcode k.trimmed_trimmed.solidStart hlevel' hlk hlm hs

/-- A block of its own behind the comment, and an `else` with its block before it. -/
theorem push_comment_between_else :
    let s : State := ⟨⟨[⟨1, none⟩]⟩, 2, 1, [0], [], false, none⟩
    let a := "  \x7d else if (f(\"*/\")) \x7b".toList
    let c := " \x7d \" // ".toList
    let b := "x(); \x7b y(); \x7d ".toList
    let k : Line := ⟨5, 40, a ++ ['\n']⟩
    let l : Line := ⟨5, 40, a ++ ' ' :: (['/', '*'] ++ c ++ ['*', '/'] ++ ' ' :: b) ++ ['\n']⟩
    let m : Line := ⟨5, 40, a ++ ' ' :: b ++ ['\n']⟩
    BraceClean (a ++ ' ' :: b) ∧ levelAfter? 0 b = some 0 ∧
      SameBlocks (s.push k) (s.push l) ∧ SameBlocks (s.push l) (s.push m) := by
  intro s a c b k l m
  have hclean : BraceClean (a ++ ' ' :: b) := by decide
  have hlevel : levelAfter? 0 b = some 0 := by decide
  have hk : (Parts.ofText k.trimmed k.trimmedSpan.start).hasLabel = false := by decide +kernel
  have hm : (Parts.ofText m.trimmed m.trimmedSpan.start).hasLabel = false := by decide +kernel
  obtain ⟨hfirst, -, hsame⟩ :=
    @push_comment_between s rfl k l m a b c (by decide) (by decide) (by decide) rfl rfl (by decide)
      (by decide) fun h => absurd (h 'e' (by decide)) (by decide)
  exact ⟨hclean, hlevel, hfirst, hsame hclean hlevel hk hm⟩

/-- The brace behind the comment is taken for a part of it, so the body is not opened. -/
theorem comment_between_hides_opener :
    let a := "int f(void)".toList
    let b := ['{']
    let c := " c ".toList
    let l : Line := ⟨1, 0, a ++ ' ' :: (['/', '*'] ++ c ++ ['*', '/'] ++ ' ' :: b) ++ ['\n']⟩
    let m : Line := ⟨1, 0, a ++ ' ' :: b ++ ['\n']⟩
    a.head? ≠ some '#' ∧ BraceClean a ∧ BraceClean b ∧ Literal.outside.after a = .outside ∧
      contains ['*', '/'] c = false ∧ State.start.comment? = none ∧
      (State.start.push l).state.depth = 0 ∧ (State.start.push m).state.depth = 1 ∧
      (State.start.push l).state.frames ≠ (State.start.push m).state.frames := by
  decide +kernel

end NestChart.Brace
