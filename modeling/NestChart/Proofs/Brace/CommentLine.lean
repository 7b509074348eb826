import NestChart.Proofs.Brace.Run
import NestChart.Proofs.Builder

/-!
# NestChart.Proofs.Brace.CommentLine

Lines that begin a comment. Such a line is looked through for a comment behind it and for braces
inside it before it is taken for a comment, so it stays whole only if neither is found:
`push_comment_line_iff` is the exact condition, and `comment_line_cut_at_brace` a line that a
closing brace takes apart.
-/

namespace NestChart.Brace

open Text

theorem Comment.bare_of_start {text : Chars} (h : Comment.start text ≠ .none) : Bare text := by
  rw [ne_eq, Comment.start_eq_none, Bool.not_eq_false] at h
  obtain ⟨cs, rfl⟩ := List.head?_eq_some_iff.1 (Comment.head?_of_isMark h)
  exact ⟨by simp, rfl, rfl, rfl⟩

theorem classify_of_start {text : Chars} (h : Comment.start text ≠ .none) :
    classify text = .comment := by
  simp [classify, h]

/-- Every piece of a text that falls apart is shorter than the text. -/
theorem Parts.length_lt_of_mem_pieces {text : Chars} {start : Nat} {p : Piece} (ht : Trimmed text)
    (hbare : Bare text) (hcut : ¬(Comment.cut? text = none ∧ Block.cut? text = none))
    (hp : p ∈ (ofText text start).pieces) : p.text.length < text.length := by
  cases hm : Comment.cut? text with
  | some r =>
    obtain ⟨code, behind⟩ := r
    obtain ⟨rfl, hc, hb⟩ := Comment.cut?_append hm
    have hc := List.length_pos_iff.2 hc
    have hb := List.length_pos_iff.2 hb
    rw [ofText_beside hbare hm, pieces, List.mem_append, List.mem_singleton] at hp
    rw [List.length_append]
    rcases hp with hp | rfl
    · have := (fits_of_mem_pieces ht.trimEnd_left hp).length_le
      have := length_trimEnd_le code
      omega
    · simp only
      omega
  | none =>
    cases hb : Block.cut? text with
    | some r =>
      obtain ⟨left, right⟩ := r
      obtain ⟨rfl, hl, hr⟩ := Block.cut?_append hb
      have hl := List.length_pos_iff.2 hl
      have hr := List.length_pos_iff.2 hr
      rw [ofText_both hbare hm hb, pieces, List.mem_append] at hp
      rw [List.length_append]
      rcases hp with hp | hp
      · have := (fits_of_mem_pieces ht.trimEnd_left hp).length_le
        have := length_trimEnd_le left
        omega
      · have := (fits_of_mem_pieces ht.trimStart_right hp).length_le
        have := length_trimStart_le right
        omega
    | none => exact absurd ⟨hm, hb⟩ hcut

namespace State

variable {s : State} {l : Line}

/-- A comment line that does not fall apart is placed as one comment. -/
theorem push_whole (hs : s.comment? = none) (hl : Comment.start l.trimmed ≠ .none)
    (hm : Comment.cut? l.trimmed = none) (hb : Block.cut? l.trimmed = none) :
    s.push l =
      s.placeComment ⟨l.trimmed, l.trimmedSpan.start⟩ s.effectiveDepth l.number := by
  have hbare := Comment.bare_of_start hl
  rw [push_of_ne_nil hs hbare.ne_nil, Parts.ofText_undivided ⟨hbare, hm, hb⟩, classify_of_start hl]
  rfl

/-- A line that falls apart is neither shown nor kept open as a whole. -/
theorem not_whole_of_cut (hs : s.comment? = none) (hbare : Bare l.trimmed)
    (hcut : ¬(Comment.cut? l.trimmed = none ∧ Block.cut? l.trimmed = none)) :
    (∀ n ∈ (s.push l).flow.nodes, n.text ≠ l.trimmed) ∧
      ∀ c ∈ (s.push l).state.comment?, c.lines ≠ [l.trimmed] := by
  have hshows := run_shows l.number (.ofText l.trimmed l.trimmedSpan.start) s
  have hlt : ∀ p ∈ (Parts.ofText l.trimmed l.trimmedSpan.start).pieces,
      p.text.length < l.trimmed.length :=
    fun p hp => Parts.length_lt_of_mem_pieces l.trimmed_trimmed hbare hcut hp
  rw [push_of_ne_nil hs hbare.ne_nil]
  constructor
  · intro n hn he
    obtain ⟨-, p, hp, ht, -⟩ := hshows.node n hn
    have := hlt p hp
    rw [← ht, he] at this
    exact Nat.lt_irrefl _ this
  · intro c hc he
    rcases hshows.comment with h | ⟨p, hp, -, depth, h⟩
    · rw [h, hs] at hc
      cases hc
    · rw [h] at hc
      cases hc
      have := hlt p hp
      rw [show p.text = l.trimmed by simpa using he] at this
      exact Nat.lt_irrefl _ this

end State

/-- A line that begins a comment is shown whole, or opens a comment with the whole line, and changes
nothing else, exactly if no second comment mark and no brace cuts it. -/
theorem push_comment_line_iff {s : State} {l : Line} (hs : s.comment? = none)
    (hl : Comment.start l.trimmed ≠ .none) :
    ((Comment.start l.trimmed = .singleLine →
        s.push l =
          .emit s ⟨l.trimmed, s.effectiveDepth, .comment, l.number, l.trimmedSpan⟩) ∧
      (Comment.start l.trimmed = .opens →
        s.push l =
          .goto { s with
            comment? := some ⟨[l.trimmed], s.effectiveDepth, l.number, l.trimmedSpan⟩ })) ↔
      Comment.cut? l.trimmed = none ∧ Block.cut? l.trimmed = none := by
  have hbare := Comment.bare_of_start hl
  constructor
  · rintro ⟨hsingle, hopens⟩
    refine Decidable.not_not.1 fun hcut => ?_
    obtain ⟨hnode, hcomment⟩ := State.not_whole_of_cut hs hbare hcut
    cases hk : Comment.start l.trimmed with
    | none => exact hl hk
    | singleLine =>
      rw [hsingle hk] at hnode
      exact hnode _ (List.mem_singleton.2 rfl) rfl
    | opens =>
      rw [hopens hk] at hcomment
      exact hcomment _ rfl rfl
  · rintro ⟨hm, hb⟩
    rw [State.push_whole hs hl hm hb, Line.trimmedSpan_eq hbare.ne_nil]
    constructor
    · intro hk
      simp [State.placeComment, hk, State.node, Piece.span]
    · intro hk
      simp [State.placeComment, hk, Piece.span]

/-- A comment that spells braces inside a literal stays whole. -/
theorem push_comment_line_quoted :
    let l : Line := ⟨4, 20, "  /* emits '\x7b' and \"//\" \n".toList⟩
    let s : State := { State.start with depth := 2, pending := 1 }
    s.comment? = none ∧ Comment.start l.trimmed = .opens ∧
      s.push l = .goto { s with comment? := some ⟨[l.trimmed], 3, 4, ⟨22, 43⟩⟩ } := by
  intro l s
  have hl : Comment.start l.trimmed = .opens := by decide
  refine ⟨rfl, hl, ?_⟩
  exact ((push_comment_line_iff (s := s) (l := l) rfl (by rw [hl]; decide)).2
    ⟨by decide, by decide⟩).2 hl

/-- A closing brace takes a comment line apart: what precedes it is shown, and the brace closes a
block. -/
theorem comment_line_cut_at_brace :
    let l : Line := ⟨1, 0, "// \x7d\n".toList⟩
    State.start.comment? = none ∧ Comment.start l.trimmed = .singleLine ∧
      State.start.push l ≠ .emit .start ⟨l.trimmed, 0, .comment, 1, l.trimmedSpan⟩ ∧
      (State.start.push l).flow =
        ⟨[⟨"//".toList, 0, .comment, 1, ⟨0, 2⟩⟩], [⟨1, .unmatchedCloser⟩]⟩ := by
  intro l
  have hl : Comment.start l.trimmed = .singleLine := by decide
  have hbare : Bare l.trimmed := Comment.bare_of_start (by rw [hl]; decide)
  have hpush : State.start.push l = ⟨State.start,
      ⟨[⟨"//".toList, 0, .comment, 1, ⟨0, 2⟩⟩], [⟨1, .unmatchedCloser⟩]⟩⟩ := by
    have hu : Undivided ['/', '/'] := ⟨Comment.bare_of_start (by decide), by decide, by decide⟩
    have hcut : Block.cut? l.trimmed = some ("// ".toList, ['}']) := by decide
    rw [State.push_of_ne_nil rfl hbare.ne_nil, Parts.ofText_both hbare (by decide) hcut,
      show trimEnd "// ".toList = ['/', '/'] by decide, show trimStart ['}'] = ['}'] by decide,
      Parts.ofText_undivided hu, classify_of_start (by decide), Parts.ofText_closer rfl,
      show trimStart [] = [] from rfl, Parts.ofText_nil]
    decide
  rw [hpush]
  exact ⟨rfl, hl, by decide, rfl⟩

end NestChart.Brace
