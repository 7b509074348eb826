import NestChart.Brace.Parts
import NestChart.Proofs.Text.Place

/-!
# NestChart.Proofs.Brace.Parts

How `Parts.ofText` takes a line apart. A text that is `Undivided` is one part by its category
(`ofText_undivided`); any other falls into shorter texts. Every piece that is shown stands in the
line at the byte it carries, without blanks at its ends (`fits_of_mem_pieces`).
-/

namespace NestChart.Brace

open Text

/-! ## Where texts fall apart -/

theorem Block.afterClose?_eq_some {text rest : Chars} :
    Block.afterClose? text = some rest ↔ ∃ cs, text = '}' :: cs ∧ rest = trimStart cs := by
  unfold Block.afterClose?
  constructor
  · intro h
    split at h
    · cases h
      exact ⟨_, rfl, rfl⟩
    · cases h
  · rintro ⟨cs, rfl, rfl⟩
    rfl

theorem Block.afterClose?_eq_none {text : Chars} :
    Block.afterClose? text = none ↔ text.head? ≠ some '}' := by
  unfold Block.afterClose?
  split
  · simp
  · rename_i h
    cases text with
    | nil => simp
    | cons c cs =>
      simp only [List.head?_cons, ne_eq, Option.some.injEq, true_iff]
      rintro rfl
      exact h cs rfl

/-- Nothing is cut where a brace stands at the end at most. -/
theorem Block.cutFrom_of_not_mem {p : Block.Position} {isFirst : Bool} {text : Chars}
    (hc : '}' ∉ text) (ho : '{' ∉ text.dropLast) : Block.cutFrom p isFirst text = none := by
  induction text generalizing p isFirst with
  | nil => rfl
  | cons c cs ih =>
    simp only [List.mem_cons, not_or] at hc
    have hclose : p.closesBlock c = false := by simp [Block.Position.closesBlock, Ne.symm hc.1]
    cases cs with
    | nil => simp [Block.cutFrom, hclose]
    | cons d cs =>
      rw [List.dropLast_cons_cons, List.mem_cons, not_or] at ho
      have hopen : p.opensBlock c = false := by simp [Block.Position.opensBlock, Ne.symm ho.1]
      rw [Block.cutFrom, hopen, hclose, ih hc.2 ho.2]
      rfl

theorem Comment.isMark_of_cutFrom {l : Literal} {text code comment : Chars}
    (h : Comment.cutFrom l text = some (code, comment)) : Comment.isMark comment = true := by
  induction text generalizing l code with
  | nil => simp [Comment.cutFrom] at h
  | cons c cs ih =>
    unfold Comment.cutFrom at h
    split at h
    · rename_i hc
      cases h
      simp only [Bool.and_eq_true] at hc
      exact hc.2
    · obtain ⟨r, hr, he⟩ := Option.map_eq_some_iff.1 h
      cases he
      exact ih hr

theorem Comment.isMark_of_cut? {text code comment : Chars}
    (h : Comment.cut? text = some (code, comment)) : Comment.isMark comment = true := by
  cases text with
  | nil => simp [Comment.cut?] at h
  | cons c cs =>
    obtain ⟨r, hr, he⟩ := Option.map_eq_some_iff.1 h
    cases he
    exact Comment.isMark_of_cutFrom hr

/-- A text begins a comment exactly where a comment mark stands. -/
theorem Comment.start_eq_none {text : Chars} :
    Comment.start text = .none ↔ Comment.isMark text = false := by
  unfold Comment.start Comment.isMark
  split
  · simp
  · split <;> simp
  · simp

theorem Comment.head?_of_isMark {text : Chars} (h : Comment.isMark text = true) :
    text.head? = some '/' := by
  unfold Comment.isMark at h
  split at h <;> simp_all

/-- No comment mark stands in the text, be it code or literal. -/
structure Uncommented (text : Chars) : Prop where
  no_line_mark : contains ['/', '/'] text = false
  no_block_mark : contains ['/', '*'] text = false

namespace Uncommented

variable {text : Chars}

theorem of_standsAt {part : Chars} {i : Nat} (h : Uncommented text) (hp : StandsAt text part i) :
    Uncommented part :=
  ⟨hp.not_contains h.no_line_mark, hp.not_contains h.no_block_mark⟩

theorem isMark (h : Uncommented text) : Comment.isMark text = false := by
  unfold Comment.isMark
  split
  · rename_i cs
    have := contains_iff.2 ⟨_, StandsAt.left ['/', '/'] cs⟩
    rw [show ['/', '/'] ++ cs = '/' :: '/' :: cs from rfl, h.no_line_mark] at this
    cases this
  · rename_i cs
    have := contains_iff.2 ⟨_, StandsAt.left ['/', '*'] cs⟩
    rw [show ['/', '*'] ++ cs = '/' :: '*' :: cs from rfl, h.no_block_mark] at this
    cases this
  · rfl

theorem start (h : Uncommented text) : Comment.start text = .none :=
  Comment.start_eq_none.2 h.isMark

/-- No comment is cut off where no comment mark stands. -/
theorem cut? (h : Uncommented text) : Comment.cut? text = none := by
  cases hc : Comment.cut? text with
  | none => rfl
  | some r =>
    obtain ⟨code, behind⟩ := r
    obtain ⟨rfl, -, -⟩ := Comment.cut?_append hc
    have hm := (h.of_standsAt (.right code behind)).isMark
    rw [Comment.isMark_of_cut? hc] at hm
    cases hm

end Uncommented

namespace Shape

theorem getLast?_of_labelFrom {quoted any : Bool} {text label rest : Chars}
    (h : labelFrom quoted any text = some (label, rest)) : label.getLast? = some ':' := by
  induction text generalizing quoted any label with
  | nil => simp [labelFrom] at h
  | cons c cs ih =>
    unfold labelFrom at h
    split at h
    · rename_i hc
      split at h
      · cases h
        simp only [Bool.and_eq_true, decide_eq_true_eq] at hc
        simp [hc.2]
      · cases h
    · obtain ⟨r, hr, he⟩ := Option.map_eq_some_iff.1 h
      cases he
      simp [List.getLast?_cons, ih hr]

theorem cutLabel?_append {text label rest : Chars} (h : cutLabel? text = some (label, rest)) :
    label ++ rest = text ∧ label ≠ [] := by
  unfold cutLabel? at h
  split at h
  · rename_i r hc
    cases h
    exact caseLabel?_append hc
  · exact defaultLabel?_append h

theorem getLast?_of_cutLabel? {text label rest : Chars} (h : cutLabel? text = some (label, rest)) :
    label.getLast? = some ':' := by
  unfold cutLabel? at h
  split at h
  · rename_i r hc
    cases h
    unfold caseLabel? at hc
    split at hc
    · split at hc
      · obtain ⟨r, hr, he⟩ := Option.map_eq_some_iff.1 hc
        cases he
        simp [List.getLast?_cons, getLast?_of_labelFrom hr]
      · cases hc
    · cases hc
  · unfold defaultLabel? at h
    split at h
    · split at h
      · cases h
        exact List.getLast?_concat
      · cases h
    · cases h

/-- A label is cut off the front, and the blanks behind it are dropped. -/
theorem label?_eq_some {text label rest : Chars} (h : label? text = some (label, rest)) :
    ∃ behind, label ++ behind = text ∧ rest = trimStart behind ∧ label.getLast? = some ':' := by
  obtain ⟨⟨a, b⟩, hr, he⟩ := Option.map_eq_some_iff.1 h
  cases he
  exact ⟨b, (cutLabel?_append hr).1, rfl, getLast?_of_cutLabel? hr⟩

end Shape

/-! ## Pieces -/

/-- The piece is cut out of the text that begins at byte `start`, without blanks at its ends. -/
structure Piece.Fits (p : Piece) (text : Chars) (start : Nat) : Prop where
  standsAt : ∃ i, StandsAt text p.text i ∧ p.start = start + i
  trimmed : Trimmed p.text
  ne_nil : p.text ≠ []

theorem Piece.Fits.of_part {p : Piece} {text part : Chars} {start i : Nat}
    (h : p.Fits part (start + i)) (hp : StandsAt text part i) : p.Fits text start := by
  obtain ⟨⟨j, hj, hs⟩, ht, hn⟩ := h
  exact ⟨⟨i + j, hp.trans hj, by omega⟩, ht, hn⟩

theorem Piece.Fits.whole {text : Chars} {start : Nat} (ht : Trimmed text) (hn : text ≠ []) :
    Piece.Fits ⟨text, start⟩ text start :=
  ⟨⟨0, .refl text, rfl⟩, ht, hn⟩

theorem Piece.Fits.length_le {p : Piece} {text : Chars} {start : Nat} (h : p.Fits text start) :
    p.text.length ≤ text.length := by
  obtain ⟨_, hi, _⟩ := h.standsAt
  exact hi.length_le

/-- The pieces that the parts show, from left to right. -/
def Parts.pieces : Parts → List Piece
  | .nothing => []
  | .closer rest => rest.pieces
  | .opener => []
  | .comment p => [p]
  | .directive p => [p]
  | .header p _ => [p]
  | .label p rest => p :: rest.pieces
  | .declaration _ p _ => [p]
  | .statements ps _ => ps
  | .both left right => left.pieces ++ right.pieces
  | .beside code behind => code.pieces ++ [behind]

/-! ## Statements -/

namespace Statement

theorem flatten_piecesFrom (s : Scan) (current text : Chars) :
    (piecesFrom s current text).flatten = current.reverse ++ text := by
  induction text generalizing s current with
  | nil => simp [piecesFrom]
  | cons c cs ih =>
    unfold piecesFrom
    split <;> simp [ih]

theorem flatten_pieces (text : Chars) : (pieces text).flatten = text := by
  simp [pieces, flatten_piecesFrom]

theorem fits_of_mem_place {start : Nat} {ps : List Chars} {s : Segment} (h : s ∈ place start ps) :
    Piece.Fits ⟨s.text, s.start⟩ ps.flatten start := by
  induction ps generalizing start with
  | nil => simp [place] at h
  | cons p ps ih =>
    have later : s ∈ place (start + byteLength p) ps →
        Piece.Fits ⟨s.text, s.start⟩ (p :: ps).flatten start :=
      fun h => (ih h).of_part (StandsAt.right p ps.flatten)
    simp only [place] at h
    split at h
    · exact later h
    · rename_i hn
      rw [List.mem_cons] at h
      rcases h with rfl | h
      · have hp := (StandsAt.left p ps.flatten).trans (StandsAt.trim p)
        rw [Nat.zero_add] at hp
        exact ⟨⟨_, hp, rfl⟩, trimmed_trim p, fun he => hn (.inl he)⟩
      · exact later h

theorem fits_of_mem_segments {text : Chars} {s : Segment} (h : s ∈ segments text) :
    Piece.Fits ⟨s.text, s.start⟩ text 0 := by
  have := fits_of_mem_place h
  rwa [flatten_pieces] at this

end Statement

/-! ## Taking a text apart -/

/-- The text is neither a brace with or without something behind it nor a directive. -/
structure Bare (text : Chars) : Prop where
  ne_nil : text ≠ []
  no_closer : Block.afterClose? text = none
  not_lone : Block.isLoneOpen text = false
  not_directive : isDirective text = false

/-- No brace stands at the head of the text, none inside it ends a block or begins one, and no
comment stands behind it. -/
structure Undivided (text : Chars) : Prop extends Bare text where
  no_comment : Comment.cut? text = none
  no_brace : Block.cut? text = none

instance (text : Chars) : Decidable (Bare text) :=
  decidable_of_iff
    (text ≠ [] ∧ Block.afterClose? text = none ∧ Block.isLoneOpen text = false ∧
      isDirective text = false)
    ⟨fun ⟨hn, hc, ho, hd⟩ => ⟨hn, hc, ho, hd⟩, fun ⟨hn, hc, ho, hd⟩ => ⟨hn, hc, ho, hd⟩⟩

instance (text : Chars) : Decidable (Undivided text) :=
  decidable_of_iff (Bare text ∧ Comment.cut? text = none ∧ Block.cut? text = none)
    ⟨fun ⟨h, hm, hb⟩ => ⟨h, hm, hb⟩, fun ⟨h, hm, hb⟩ => ⟨h, hm, hb⟩⟩

theorem splitOpener_concat (front : Chars) :
    splitOpener (front ++ ['{']) = (trimEnd front, true) := by
  simp [splitOpener, Block.beforeOpen?, beforeLast?]

theorem splitOpener_of_getLast? {text : Chars} (h : text.getLast? ≠ some '{') :
    splitOpener text = (text, false) := by
  simp [splitOpener, Block.beforeOpen?, beforeLast?, h]

/-- What is left when a brace is taken off the end. -/
theorem fits_of_splitOpener {text : Chars} (ht : Trimmed text) (hu : Undivided text) (start : Nat) :
    Piece.Fits ⟨(splitOpener text).1, start⟩ text start := by
  by_cases hlast : text.getLast? = some '{'
  · obtain ⟨front, rfl⟩ := List.getLast?_eq_some_iff.1 hlast
    rw [splitOpener_concat]
    -- Something stands before the brace, or it would be alone.
    have hf : front ≠ [] := by
      rintro rfl
      cases hu.not_lone
    exact ⟨⟨0, .trimEnd_left front ['{'], rfl⟩, ht.trimEnd_left,
      trimEnd_ne_nil ht.solidStart.append_left hf⟩
  · rw [splitOpener_of_getLast? hlast]
    exact .whole ht hu.ne_nil

/-- A label ends with its colon. -/
theorem fits_label {head behind : Chars} (ht : Trimmed (head ++ behind))
    (hlast : head.getLast? = some ':') (start : Nat) :
    Piece.Fits ⟨head, start⟩ (head ++ behind) start := by
  have hs : SolidEnd head := by
    intro c hc
    rw [hlast] at hc
    cases hc
    decide
  have hn : head ≠ [] := by
    rintro rfl
    cases hlast
  exact ⟨⟨0, .left head behind, rfl⟩, trimmed_iff.2 ⟨ht.solidStart.append_left, hs⟩, hn⟩

namespace Parts

theorem ofText_nil (start : Nat) : ofText [] start = .nothing := by
  rw [ofText]
  rfl

theorem ofText_closer {text rest : Chars} (h : Block.afterClose? text = some rest) (start : Nat) :
    ofText text start = .closer (ofText rest (start + (byteLength text - byteLength rest))) := by
  rw [ofText]
  split
  · rename_i hc
    rw [h] at hc
    cases hc
    rfl
  · rename_i hc
    rw [h] at hc
    cases hc

theorem ofText_lone_closer (start : Nat) : ofText ['}'] start = .closer .nothing := by
  rw [ofText_closer rfl, show trimStart [] = [] from rfl, ofText_nil]

theorem ofText_opener (start : Nat) : ofText ['{'] start = .opener := by
  rw [ofText]
  rfl

theorem ofText_directive {text : Chars} (h : isDirective text = true) (start : Nat) :
    ofText text start = .directive ⟨text, start⟩ := by
  obtain ⟨cs, rfl⟩ : ∃ cs, text = '#' :: cs := by
    cases text <;> simp_all [isDirective]
  rw [ofText]
  rfl

theorem ofText_beside {text code behind : Chars} (h : Bare text)
    (hm : Comment.cut? text = some (code, behind)) (start : Nat) :
    ofText text start =
      .beside (ofText (trimEnd code) start) ⟨behind, start + byteLength code⟩ := by
  have he : text.isEmpty = false := by simpa using h.ne_nil
  rw [ofText]
  split
  · rename_i hc
    rw [h.no_closer] at hc
    cases hc
  simp only [he, h.not_lone, h.not_directive, Bool.false_eq_true, if_false]
  split
  · rename_i hm'
    rw [hm] at hm'
    cases hm'
    rfl
  · rename_i hm'
    rw [hm] at hm'
    cases hm'

theorem ofText_both {text left right : Chars} (h : Bare text) (hm : Comment.cut? text = none)
    (hb : Block.cut? text = some (left, right)) (start : Nat) :
    ofText text start =
      .both (ofText (trimEnd left) start)
        (ofText (trimStart right)
          (start + (byteLength text - byteLength (trimStart right)))) := by
  have he : text.isEmpty = false := by simpa using h.ne_nil
  rw [ofText]
  split
  · rename_i hc
    rw [h.no_closer] at hc
    cases hc
  simp only [he, h.not_lone, h.not_directive, Bool.false_eq_true, if_false]
  split
  · rename_i hm'
    rw [hm] at hm'
    cases hm'
  split
  · rename_i hb'
    rw [hb] at hb'
    cases hb'
    rfl
  · rename_i hb'
    rw [hb] at hb'
    cases hb'

/-- A text that does not fall apart is one part by its category, or a label and what follows. -/
theorem ofText_undivided {text : Chars} (h : Undivided text) (start : Nat) :
    ofText text start =
      match classify text with
      | .comment => .comment ⟨text, start⟩
      | .directive => .directive ⟨text, start⟩
      | .controlHeader =>
        match Shape.label? text with
        | some (head, rest) =>
          .label ⟨head, start⟩ (ofText rest (start + (byteLength text - byteLength rest)))
        | none => .header ⟨(splitOpener text).1, start⟩ (splitOpener text).2
      | .prototype => .declaration .prototype ⟨(splitOpener text).1, start⟩ (splitOpener text).2
      | .declaration =>
        .declaration .declaration ⟨(splitOpener text).1, start⟩ (splitOpener text).2
      | .statement =>
        .statements
          ((Statement.segments (splitOpener text).1).map fun s => ⟨s.text, start + s.start⟩)
          (splitOpener text).2 := by
  have he : text.isEmpty = false := by simpa using h.ne_nil
  rw [ofText]
  split
  · rename_i hc
    rw [h.no_closer] at hc
    cases hc
  simp only [he, h.not_lone, h.not_directive, Bool.false_eq_true, if_false]
  split
  · rename_i hm
    rw [h.no_comment] at hm
    cases hm
  split
  · rename_i hb
    rw [h.no_brace] at hb
    cases hb
  cases hk : classify text with
  | controlHeader =>
    simp only
    split <;> rename_i hl <;> simp only [hl]
  | _ => rfl

/-- A text is taken apart at its head, before its comment, at its first brace or behind its label,
in this order; what is left to take apart is shorter. -/
theorem ofText_induction {P : Chars → Prop} (nil : P [])
    (closer : ∀ cs, P (trimStart cs) → P ('}' :: cs)) (opener : P ['{'])
    (directive : ∀ text, isDirective text = true → P text)
    (beside : ∀ text code behind, Bare text → Comment.cut? text = some (code, behind) →
      P (trimEnd code) → P text)
    (both : ∀ text left right, Bare text → Comment.cut? text = none →
      Block.cut? text = some (left, right) → P (trimEnd left) → P (trimStart right) → P text)
    (undivided : ∀ text, Undivided text →
      (∀ label rest, Shape.label? text = some (label, rest) → P rest) → P text)
    (text : Chars) : P text := by
  induction hn : text.length using Nat.strongRecOn generalizing text with
  | ind n ih =>
    subst hn
    cases hc : Block.afterClose? text with
    | some rest =>
      have hlt := Block.length_afterClose?_lt hc
      obtain ⟨cs, rfl, rfl⟩ := Block.afterClose?_eq_some.1 hc
      exact closer cs (ih _ hlt _ rfl)
    | none =>
      by_cases hn : text = []
      · rw [hn]
        exact nil
      cases ho : Block.isLoneOpen text with
      | true =>
        rw [eq_of_beq ho]
        exact opener
      | false =>
        cases hd : isDirective text with
        | true => exact directive text hd
        | false =>
          have hbare : Bare text := ⟨hn, hc, ho, hd⟩
          cases hm : Comment.cut? text with
          | some r =>
            obtain ⟨code, behind⟩ := r
            obtain ⟨rfl, -, hr⟩ := Comment.cut?_append hm
            have hlt := List.length_pos_iff.2 hr
            have hle := length_trimEnd_le code
            exact beside _ code behind hbare hm
              (ih _ (by rw [List.length_append]; omega) _ rfl)
          | none =>
            cases hb : Block.cut? text with
            | some r =>
              obtain ⟨left, right⟩ := r
              obtain ⟨rfl, hl, hr⟩ := Block.cut?_append hb
              have hl := List.length_pos_iff.2 hl
              have hr := List.length_pos_iff.2 hr
              have hle := length_trimEnd_le left
              have hre := length_trimStart_le right
              exact both _ left right hbare hm hb
                (ih _ (by rw [List.length_append]; omega) _ rfl)
                (ih _ (by rw [List.length_append]; omega) _ rfl)
            | none =>
              refine undivided text ⟨hbare, hm, hb⟩ ?_
              intro label rest hl
              exact ih _ (Shape.length_label?_lt hl) _ rfl

/-- Each piece that is shown stands in the line where it says, without blanks at its ends. -/
theorem fits_of_mem_pieces {text : Chars} {start : Nat} (ht : Trimmed text) {p : Piece}
    (hp : p ∈ (ofText text start).pieces) : p.Fits text start := by
  induction text using ofText_induction generalizing start with
  | nil =>
    rw [ofText_nil] at hp
    cases hp
  | closer cs ih =>
    rw [ofText_closer rfl, pieces] at hp
    exact (ih (Trimmed.trimStart_right (a := ['}']) ht) hp).of_part (.trimStart_right ['}'] cs)
  | opener =>
    rw [ofText_opener] at hp
    cases hp
  | directive text hd =>
    rw [ofText_directive hd, pieces, List.mem_singleton] at hp
    have hn : text ≠ [] := by
      rintro rfl
      cases hd
    exact hp ▸ .whole ht hn
  | beside text code behind hbare hm ih =>
    rw [ofText_beside hbare hm, pieces, List.mem_append, List.mem_singleton] at hp
    obtain ⟨rfl, -, hn⟩ := Comment.cut?_append hm
    rcases hp with hp | rfl
    · exact (ih ht.trimEnd_left hp).of_part (.trimEnd_left code behind)
    · have hs : SolidStart behind := by
        intro c hc
        rw [Comment.head?_of_isMark (Comment.isMark_of_cut? hm)] at hc
        cases hc
        decide
      exact ⟨⟨_, .right code behind, rfl⟩, trimmed_iff.2 ⟨hs, ht.solidEnd.append_right⟩, hn⟩
  | both text left right hbare hm hb ihl ihr =>
    rw [ofText_both hbare hm hb, pieces, List.mem_append] at hp
    obtain ⟨rfl, -, -⟩ := Block.cut?_append hb
    rcases hp with hp | hp
    · exact (ihl ht.trimEnd_left hp).of_part (.trimEnd_left left right)
    · exact (ihr ht.trimStart_right hp).of_part (.trimStart_right left right)
  | undivided text hu ih =>
    have hwhole : Piece.Fits ⟨text, start⟩ text start := .whole ht hu.ne_nil
    have hbody := fits_of_splitOpener ht hu start
    rw [ofText_undivided hu] at hp
    split at hp
    · exact List.mem_singleton.1 hp ▸ hwhole
    · exact List.mem_singleton.1 hp ▸ hwhole
    · split at hp
      · rename_i head rest hl
        obtain ⟨behind, rfl, rfl, hlast⟩ := Shape.label?_eq_some hl
        rw [pieces, List.mem_cons] at hp
        rcases hp with rfl | hp
        · exact fits_label ht hlast start
        · exact (ih _ _ hl ht.trimStart_right hp).of_part (.trimStart_right head behind)
      · exact List.mem_singleton.1 hp ▸ hbody
    · exact List.mem_singleton.1 hp ▸ hbody
    · exact List.mem_singleton.1 hp ▸ hbody
    · rw [pieces, List.mem_map] at hp
      obtain ⟨s, hs, rfl⟩ := hp
      obtain ⟨i, hi, he⟩ := hbody.standsAt
      obtain ⟨⟨j, hj, hej⟩, hst, hsn⟩ := Statement.fits_of_mem_segments hs
      simp only at he hej
      exact ⟨⟨i + j, hi.trans hj, by simp only; omega⟩, hst, hsn⟩

end Parts

/-- No piece of a text without comment marks begins a comment. -/
theorem Uncommented.start_of_mem_pieces {text : Chars} {start : Nat} (h : Uncommented text)
    (ht : Trimmed text) {p : Piece} (hp : p ∈ (Parts.ofText text start).pieces) :
    Comment.start p.text = .none := by
  obtain ⟨_, hi, -⟩ := (Parts.fits_of_mem_pieces ht hp).standsAt
  exact (h.of_standsAt hi).start

end NestChart.Brace
