import NestChart.Proofs.Brace.Clean
import NestChart.Proofs.Brace.Layout
import NestChart.Proofs.Brace.Place

/-!
# NestChart.Proofs.Brace.Beside

A comment behind the code of a line. The code does what it does alone, whatever the comment says,
and the comment is shown behind it at the depth of the first node of the code
(`push_beside_comment`). The closing braces at the front of the line are taken off before the
comment is found, so the proof goes over them first.
-/

namespace NestChart.Brace

open Text

/-! ## The cut before the comment -/

namespace Comment

variable {code comment : Chars}

theorem start_of_line (body : Chars) : start (['/', '/'] ++ body) = .singleLine := rfl

theorem start_of_block (body : Chars) :
    start (['/', '*'] ++ body ++ ['*', '/']) = .singleLine := by
  have hc : closes (body ++ ['*', '/']) = true := contains_iff.2 ⟨_, .right body ['*', '/']⟩
  simp [start, hc]

theorem cutFrom_append_comment {l : Literal} (hu : Uncommented code) (hl : l.after code = .outside)
    (hm : isMark comment = true) :
    cutFrom l (code ++ ' ' :: comment) = some (code ++ [' '], comment) := by
  -- Behind the code the scan is outside literals and meets the mark before it reads any of the
  -- comment, so what the comment holds plays no part.
  induction code generalizing l with
  | nil =>
    rw [Literal.after_nil] at hl
    have hfound : cutFrom .outside comment = some ([], comment) := by
      cases comment with
      | nil => cases hm
      | cons c cs =>
        rw [cutFrom, hm]
        rfl
    have hblank : Literal.outside.next ' ' = .outside := rfl
    rw [hl, List.nil_append, cutFrom, hblank, hfound]
    rfl
  | cons c cs ih =>
    have hmark : isMark (c :: (cs ++ ' ' :: comment)) = false := by
      rw [← List.cons_append, isMark_append (by simp), hu.isMark]
    rw [List.cons_append, cutFrom, hmark, Bool.and_false,
      ih (hu.of_standsAt (.right [c] cs)) hl]
    rfl

theorem cut?_append_comment (hn : code ≠ []) (hu : Uncommented code)
    (hl : Literal.outside.after code = .outside) (hm : isMark comment = true) :
    cut? (code ++ ' ' :: comment) = some (code ++ [' '], comment) := by
  obtain ⟨c, cs, rfl⟩ := List.exists_cons_of_ne_nil hn
  rw [List.cons_append, cut?, cutFrom_append_comment (hu.of_standsAt (.right [c] cs)) hl hm]
  rfl

end Comment

/-! ## Code that a comment can stand behind -/

/-- Code without a mark of its own whose literals are closed at its end, and more than closing
braces. -/
structure TakesComment (code : Chars) : Prop extends Unmarked code where
  closed : Literal.outside.after code = .outside
  not_closers : ∃ c ∈ code, c ≠ '}' ∧ isBlank c = false

namespace TakesComment

variable {code cs comment : Chars}

theorem ne_nil (h : TakesComment code) : code ≠ [] := by
  obtain ⟨c, hc, -⟩ := h.not_closers
  exact List.ne_nil_of_mem hc

theorem behind_closer (h : TakesComment ('}' :: cs)) : TakesComment (trimStart cs) := by
  have hblanks : ∀ c ∈ cs.takeWhile isBlank, isBlank c = true := fun _ => isBlank_of_mem_takeWhile
  refine ⟨h.of_standsAt (.trimStart_right ['}'] cs), ?_, ?_⟩
  · have hclosed : Literal.outside.after cs = .outside := h.closed
    rw [← takeWhile_append_trimStart cs, Literal.after_append] at hclosed
    rwa [Scan.outside_after_of_blank hblanks] at hclosed
  · obtain ⟨c, hc, hne, hb⟩ := h.not_closers
    have hmem : c ∈ cs := (List.mem_cons.1 hc).resolve_left hne
    rw [← takeWhile_append_trimStart cs, List.mem_append] at hmem
    refine ⟨c, hmem.resolve_left fun hm => ?_, hne, hb⟩
    rw [hblanks c hm] at hb
    cases hb

theorem trimStart_append (h : TakesComment (trimStart cs)) (rest : Chars) :
    trimStart (cs ++ rest) = trimStart cs ++ rest := by
  rw [trimStart, List.dropWhile_append]
  split
  · rename_i hn
    exact absurd (List.isEmpty_iff.1 hn) h.ne_nil
  · rfl

theorem ofText_append_comment (h : TakesComment code) (ht : Trimmed code)
    (hc : Block.afterClose? code = none) (hm : Comment.isMark comment = true) (start : Nat) :
    Parts.ofText (code ++ ' ' :: comment) start =
      .beside (Parts.ofText code start) ⟨comment, start + (byteLength code + 1)⟩ := by
  have hbare := bare_append_blank h.ne_nil (Block.afterClose?_eq_none.1 hc) h.isDirective comment
  have hcut := Comment.cut?_append_comment h.ne_nil h.uncommented h.closed hm
  rw [Parts.ofText_beside hbare hcut, trimEnd_append_space ht.solidEnd, byteLength_append]
  rfl

end TakesComment

/-! ## The step of the line -/

namespace State

/-- A comment that ends on the line, shown behind what the code has shown. -/
def showBeside (comment : Piece) (line : Nat) (shown : Step State) : Step State :=
  shown.andThen fun t => .emit t (node comment (besideDepth shown) .comment line)

theorem showBeside_closeBlock (comment : Piece) (line : Nat) (s : State) (f : State → Step State) :
    showBeside comment line ((s.closeBlock line).andThen f) =
      (s.closeBlock line).andThen fun t => showBeside comment line (f t) :=
  Step.andThen_assoc ..

/-- The comment is added to what the code does. -/
theorem run_append_comment {code comment : Chars} (h : TakesComment code) (ht : Trimmed code)
    (hc : Comment.start comment = .singleLine) (s : State) (line start : Nat) :
    run line (.ofText (code ++ ' ' :: comment) start) s =
      showBeside ⟨comment, start + (byteLength code + 1)⟩ line
        (run line (.ofText code start) s) := by
  -- Over the closing braces in front: each is gone before the comment is looked for, and none shows
  -- a node that the comment could take its depth from.
  induction hn : code.length using Nat.strongRecOn generalizing code s start with
  | ind n ih =>
    subst hn
    cases hclose : Block.afterClose? code with
    | none =>
      have hm : Comment.isMark comment = true := by
        rw [← Bool.not_eq_false, ← Comment.start_eq_none, hc]
        decide
      rw [h.ofText_append_comment ht hclose hm, run_beside, showBeside]
      refine congrArg _ (funext fun t => ?_)
      simp only [placeComment, hc]
    | some rest =>
      obtain ⟨cs, rfl, rfl⟩ := Block.afterClose?_eq_some.1 hclose
      have hrest := h.behind_closer
      have hclose' : Block.afterClose? ('}' :: cs ++ ' ' :: comment) =
          some (trimStart cs ++ ' ' :: comment) := by
        rw [← hrest.trimStart_append]
        rfl
      have hlen : (trimStart cs).length < ('}' :: cs).length :=
        Nat.lt_succ_of_le (length_trimStart_le cs)
      have hbytes := (StandsAt.trimStart_right ['}'] cs).stop_le
      have hplace : start + (byteLength ('}' :: cs) - byteLength (trimStart cs)) +
          (byteLength (trimStart cs) + 1) = start + (byteLength ('}' :: cs) + 1) := by
        rw [List.singleton_append] at hbytes
        omega
      rw [Parts.ofText_closer hclose, Parts.ofText_closer hclose', byteLength_append,
        byteLength_append, Nat.add_sub_add_right, run, run, showBeside_closeBlock]
      refine congrArg _ (funext fun t => ?_)
      rw [ih _ hlen hrest (Trimmed.trimStart_right (a := ['}']) ht) t _ rfl, hplace]

end State

/-- A line of code with a comment behind it does what the code does alone and shows the comment.
Only where the nodes lie depends on the place of the line. -/
theorem push_beside_comment {s : State} (hs : s.comment? = none) {l m : Line} {comment : Chars}
    (hl : l.trimmed = m.trimmed ++ ' ' :: comment) (hm : TakesComment m.trimmed)
    (hc : ∃ body, comment = ['/', '/'] ++ body ∨ comment = ['/', '*'] ++ body ++ ['*', '/']) :
    (s.push l).state = (s.push m).state ∧
      (s.push l).flow.outline =
        (s.push m).flow.outline ++ [(comment, State.besideDepth (s.push m), .comment)] ∧
      (l.number = m.number → l.trimmedSpan.start = m.trimmedSpan.start →
        (s.push l).flow = (s.push m).flow ++ .ofNode ⟨comment, State.besideDepth (s.push m),
          .comment, l.number, ⟨l.trimmedSpan.stop - byteLength comment, l.trimmedSpan.stop⟩⟩) := by
  have hsingle : Comment.start comment = .singleLine := by
    obtain ⟨body, rfl | rfl⟩ := hc
    · exact Comment.start_of_line body
    · exact Comment.start_of_block body
  have hn : l.trimmed ≠ [] := by simp [hl]
  have hrun := State.run_append_comment hm m.trimmed_trimmed hsingle s l.number
    l.trimmedSpan.start
  rw [← hl, ← State.push_of_ne_nil hs hn] at hrun
  have hcode := State.run_agrees hm.uncommented m.trimmed_trimmed hs m.number l.number
    m.trimmedSpan.start l.trimmedSpan.start
  rw [← State.push_of_ne_nil hs hm.ne_nil] at hcode
  refine ⟨?_, ?_, fun hnumber hstart => ?_⟩
  · rw [hrun]
    exact hcode.state
  · rw [hrun, State.showBeside, Step.andThen, Flow.outline_append, hcode.outline,
      hcode.besideDepth_eq]
    rfl
  · have hstop : l.trimmedSpan.stop =
        l.trimmedSpan.start + (byteLength m.trimmed + 1) + byteLength comment := by
      rw [Line.trimmedSpan_eq hn, hl, byteLength_append, Nat.add_assoc, Nat.add_assoc]
      rfl
    rw [hrun, hstop, Nat.add_sub_cancel, hnumber, hstart, ← State.push_of_ne_nil hs hm.ne_nil]
    rfl

/-- A comment with a brace, a quote and a mark, behind a closing brace and a head with its block. -/
theorem push_beside_comment_else :
    let s : State := ⟨⟨[⟨1, none⟩]⟩, 2, 1, [0], [], false, none⟩
    let code : Line := ⟨5, 40, "  \x7d else if (c == '\x7b') \x7b\n".toList⟩
    let line : Line := ⟨5, 40, "  \x7d else if (c == '\x7b') \x7b /* \"\x7d // */ \r\n".toList⟩
    let comment := "/* \"\x7d // */".toList
    s.comment? = none ∧ line.trimmed = code.trimmed ++ ' ' :: comment ∧
      TakesComment code.trimmed ∧
      (∃ body, comment = ['/', '/'] ++ body ∨ comment = ['/', '*'] ++ body ++ ['*', '/']) ∧
      (s.push line).state = (s.push code).state ∧
      (s.push line).flow = (s.push code).flow ++
        .ofNode ⟨comment, State.besideDepth (s.push code), .comment, 5, ⟨65, 76⟩⟩ := by
  intro s code line comment
  have hl : line.trimmed = code.trimmed ++ ' ' :: comment := by decide
  have hm : TakesComment code.trimmed :=
    ⟨by decide, by decide, 'e', by decide, by decide, by decide⟩
  have hc : ∃ body, comment = ['/', '/'] ++ body ∨ comment = ['/', '*'] ++ body ++ ['*', '/'] :=
    ⟨" \"\x7d // ".toList, .inr (by decide)⟩
  obtain ⟨hstate, -, hflow⟩ := push_beside_comment (s := s) rfl hl hm hc
  exact ⟨rfl, hl, hm, hc, hstate, hflow rfl (by decide)⟩

end NestChart.Brace
