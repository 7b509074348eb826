import NestChart.Canvas
import Mathlib.Data.List.Forall2

/-!
# NestChart.Proofs.Packing

Boxes in rows. `Holds` says what any way to put boxes into rows must respect; `Packed` adds that a
row ends only where the next box would not fit. Packing gives such rows (`pack_packed`), there are
no other ones (`Packed.eq_of_packed`), and no rows that hold the boxes are fewer
(`Packed.length_le`).

What carries the last two is `Packed.exists_append`: a first row that holds boxes of the same list
never reaches beyond the packed one.
-/

namespace NestChart

/-! ## Sums -/

section Total

variable {α β : Type}

/-- The sum of a quantity over a list. -/
def total (f : α → Nat) (xs : List α) : Nat := (xs.map f).foldl (· + ·) 0

@[simp] theorem total_nil (f : α → Nat) : total f [] = 0 := rfl

@[simp] theorem total_cons (f : α → Nat) (x : α) (xs : List α) :
    total f (x :: xs) = f x + total f xs := by
  simp only [total, List.map_cons, List.foldl_cons, Nat.add_comm 0 (f x)]
  exact List.foldl_assoc

theorem total_append (f : α → Nat) (xs ys : List α) :
    total f (xs ++ ys) = total f xs + total f ys := by
  induction xs with
  | nil => simp
  | cons x xs ih =>
    rw [List.cons_append, total_cons, total_cons, ih]
    omega

theorem total_flatMap (f : β → Nat) (g : α → List β) (xs : List α) :
    total f (xs.flatMap g) = total (fun x => total f (g x)) xs := by
  induction xs with
  | nil => rfl
  | cons x xs ih => rw [List.flatMap_cons, total_append, total_cons, ih]

theorem length_flatMap_eq_total (g : α → List β) (xs : List α) :
    (xs.flatMap g).length = total (fun x => (g x).length) xs := by
  induction xs with
  | nil => rfl
  | cons x xs ih => rw [List.flatMap_cons, List.length_append, total_cons, ih]

theorem total_map (f : β → Nat) (g : α → β) (xs : List α) :
    total f (xs.map g) = total (fun x => f (g x)) xs := by
  rw [total, List.map_map]
  rfl

end Total

namespace Row

/-! ## Widths -/

theorem width_cons (b : PlacedBox) (bs : List PlacedBox) :
    width ⟨b :: bs⟩ = b.width + width ⟨bs⟩ :=
  total_cons PlacedBox.width b bs

theorem width_append (as bs : List PlacedBox) :
    width ⟨as ++ bs⟩ = width ⟨as⟩ + width ⟨bs⟩ :=
  total_append PlacedBox.width as bs

theorem width_reverse (bs : List PlacedBox) : width ⟨bs.reverse⟩ = width ⟨bs⟩ := by
  induction bs with
  | nil => rfl
  | cons b bs ih =>
    rw [List.reverse_cons, width_append, width_cons, width_cons, ih]
    simp only [width, List.map_nil, List.foldl_nil]
    omega

/-! ## Rows that hold boxes -/

/-- The row keeps to the limit, or it holds a single box. -/
def Fits (limit : Nat) (r : Row) : Prop := r.width ≤ limit ∨ r.boxes.length = 1

instance (limit : Nat) (r : Row) : Decidable (r.Fits limit) :=
  inferInstanceAs (Decidable (_ ∨ _))

theorem Fits.mono {limit wider : Nat} {r : Row} (h : r.Fits limit) (hle : limit ≤ wider) :
    r.Fits wider := by
  rcases h with h | h
  · exact .inl (Nat.le_trans h hle)
  · exact .inr h

theorem Fits.right {limit : Nat} {as bs : List PlacedBox} (h : Fits limit ⟨as ++ bs⟩)
    (hb : bs ≠ []) : Fits limit ⟨bs⟩ := by
  rcases h with h | h
  · rw [width_append] at h
    exact .inl (by omega)
  · have := List.length_pos_iff.2 hb
    simp only [List.length_append] at h
    exact .inr (by simp only; omega)

/-- The rows hold the boxes in order; no row is empty, and each fits. -/
structure Holds (limit : Nat) (rows : List Row) (boxes : List PlacedBox) : Prop where
  boxes_eq : rows.flatMap Row.boxes = boxes
  ne_nil : ∀ r ∈ rows, r.boxes ≠ []
  fits : ∀ r ∈ rows, r.Fits limit

/-- A row ends only where the first box of the next one would not fit. -/
structure Packed (limit : Nat) (rows : List Row) (boxes : List PlacedBox) : Prop
    extends Holds limit rows boxes where
  forced : rows.IsChain fun r next => ∀ b ∈ next.boxes.head?, limit < r.width + b.width

namespace Holds

variable {limit : Nat} {r : Row} {rows : List Row} {boxes : List PlacedBox}

theorem nil (limit : Nat) : Holds limit [] [] := ⟨rfl, by simp, by simp⟩

theorem cons (hn : r.boxes ≠ []) (hf : r.Fits limit) (h : Holds limit rows boxes) :
    Holds limit (r :: rows) (r.boxes ++ boxes) where
  boxes_eq := by rw [List.flatMap_cons, h.boxes_eq]
  ne_nil q hq := by
    rcases List.mem_cons.1 hq with rfl | hq
    · exact hn
    · exact h.ne_nil q hq
  fits q hq := by
    rcases List.mem_cons.1 hq with rfl | hq
    · exact hf
    · exact h.fits q hq

theorem of_cons (h : Holds limit (r :: rows) boxes) :
    ∃ rest, boxes = r.boxes ++ rest ∧ r.boxes ≠ [] ∧ r.Fits limit ∧ Holds limit rows rest := by
  refine ⟨rows.flatMap Row.boxes, ?_, h.ne_nil r (by simp), h.fits r (by simp), rfl, ?_, ?_⟩
  · rw [← h.boxes_eq, List.flatMap_cons]
  · exact fun q hq => h.ne_nil q (by simp [hq])
  · exact fun q hq => h.fits q (by simp [hq])

theorem mono {wider : Nat} (h : Holds limit rows boxes) (hle : limit ≤ wider) :
    Holds wider rows boxes :=
  ⟨h.boxes_eq, h.ne_nil, fun r hr => (h.fits r hr).mono hle⟩

theorem head?_boxes (h : Holds limit (r :: rows) boxes) : r.boxes.head? = boxes.head? := by
  obtain ⟨rest, rfl, hn, -, -⟩ := h.of_cons
  obtain ⟨b, bs, he⟩ := List.exists_cons_of_ne_nil hn
  rw [he, List.cons_append, List.head?_cons, List.head?_cons]

/-- Without the boxes at the front no more rows are needed. -/
theorem exists_right {front back : List PlacedBox} (h : Holds limit rows (front ++ back)) :
    ∃ fewer, Holds limit fewer back ∧ fewer.length ≤ rows.length := by
  induction rows generalizing front with
  | nil =>
    have he : front ++ back = [] := h.boxes_eq.symm
    rw [(List.append_eq_nil_iff.1 he).2]
    exact ⟨[], nil limit, Nat.le_refl _⟩
  | cons r rows ih =>
    obtain ⟨rest, he, hn, hf, hrest⟩ := h.of_cons
    rcases List.append_eq_append_iff.1 he with ⟨left, hr, rfl⟩ | ⟨front', rfl, rfl⟩
    · -- The row reaches into what stays, unless it ends with the front.
      by_cases hl : left = []
      · rw [hl]
        exact ⟨rows, hrest, by simp⟩
      · have hf' : Fits limit ⟨front ++ left⟩ := hr ▸ hf
        exact ⟨⟨left⟩ :: rows, hrest.cons hl (hf'.right hl), by simp⟩
    · obtain ⟨fewer, hfew, hle⟩ := ih hrest
      exact ⟨fewer, hfew, by rw [List.length_cons]; omega⟩

end Holds

/-! ## Packed rows -/

namespace Packed

variable {limit : Nat} {r : Row} {rows : List Row} {boxes : List PlacedBox}

theorem nil (limit : Nat) : Packed limit [] [] := ⟨.nil limit, .nil⟩

theorem cons (hn : r.boxes ≠ []) (hf : r.Fits limit)
    (hforced : ∀ b ∈ boxes.head?, limit < r.width + b.width) (h : Packed limit rows boxes) :
    Packed limit (r :: rows) (r.boxes ++ boxes) where
  toHolds := h.toHolds.cons hn hf
  forced := by
    cases rows with
    | nil => exact .singleton r
    | cons next rows => exact .cons_cons (by rwa [h.head?_boxes]) h.forced

theorem of_cons (h : Packed limit (r :: rows) boxes) :
    ∃ rest, boxes = r.boxes ++ rest ∧ (∀ b ∈ rest.head?, limit < r.width + b.width) ∧
      Packed limit rows rest := by
  obtain ⟨rest, he, -, -, hrest⟩ := h.toHolds.of_cons
  refine ⟨rest, he, ?_⟩
  cases rows with
  | nil =>
    rw [show rest = [] from hrest.boxes_eq.symm]
    exact ⟨by simp, nil limit⟩
  | cons next rows =>
    obtain ⟨hn, hforced⟩ := List.isChain_cons_cons.1 h.forced
    exact ⟨hrest.head?_boxes ▸ hn, hrest, hforced⟩

theorem exists_append {q : Row} {qs : List Row} (h : Packed limit (r :: rows) boxes)
    (hq : Holds limit (q :: qs) boxes) : ∃ more, r.boxes = q.boxes ++ more := by
  obtain ⟨rest, he, hforced, -⟩ := h.of_cons
  obtain ⟨rest', he', -, hfits, -⟩ := hq.of_cons
  rcases List.append_eq_append_iff.1 (he.symm.trans he') with ⟨more, hmore, hrest⟩ | ⟨more, hm, -⟩
  · -- A box more than the packed row would be too much.
    cases more with
    | nil => exact ⟨[], by rw [hmore, List.append_nil, List.append_nil]⟩
    | cons b more =>
      have hn := List.length_pos_iff.2 (h.ne_nil r (by simp))
      have hover := hforced b (by simp [hrest])
      have hw : q.width = r.width + (b.width + width ⟨more⟩) := by
        rw [show q = ⟨r.boxes ++ b :: more⟩ from congrArg Row.mk hmore, width_append, width_cons]
      rcases hfits with hfits | hsingle
      · omega
      · rw [hmore, List.length_append, List.length_cons] at hsingle
        omega
  · exact ⟨more, hm⟩

/-- Packed rows are the fewest that hold the boxes. -/
theorem length_le (h : Packed limit rows boxes) {cut : List Row} (hcut : Holds limit cut boxes) :
    rows.length ≤ cut.length := by
  induction rows generalizing boxes cut with
  | nil => exact Nat.zero_le _
  | cons r rows ih =>
    cases cut with
    | nil =>
      have hb : boxes = [] := hcut.boxes_eq.symm
      obtain ⟨rest, he, hn, -, -⟩ := h.toHolds.of_cons
      rw [hb] at he
      exact absurd (List.append_eq_nil_iff.1 he.symm).1 hn
    | cons q qs =>
      obtain ⟨more, hmore⟩ := h.exists_append hcut
      obtain ⟨rest, rfl, -, hrest⟩ := h.of_cons
      obtain ⟨rest', he, -, -, hqs⟩ := hcut.of_cons
      rw [hmore, List.append_assoc, List.append_cancel_left_eq] at he
      -- What follows the shorter first row still holds what follows the packed one.
      obtain ⟨fewer, hfew, hle⟩ := (he ▸ hqs : Holds limit qs (more ++ rest)).exists_right
      have := ih hrest hfew
      rw [List.length_cons, List.length_cons]
      omega

theorem eq_of_packed (h : Packed limit rows boxes) {others : List Row}
    (ho : Packed limit others boxes) : others = rows := by
  induction rows generalizing boxes others with
  | nil =>
    have := ho.length_le h.toHolds
    exact List.eq_nil_of_length_eq_zero (Nat.le_zero.1 this)
  | cons r rows ih =>
    cases others with
    | nil =>
      have := h.length_le ho.toHolds
      exact absurd this (by simp)
    | cons q qs =>
      obtain ⟨more, hr⟩ := h.exists_append ho.toHolds
      obtain ⟨less, hq⟩ := ho.exists_append h.toHolds
      have hnil : more = [] := by
        have hr := congrArg List.length hr
        have hq := congrArg List.length hq
        rw [List.length_append] at hr hq
        exact List.eq_nil_of_length_eq_zero (by omega)
      have hqr : q = r := by
        rw [hnil, List.append_nil] at hr
        exact congrArg Row.mk hr.symm
      obtain ⟨rest, he, -, hrest⟩ := h.of_cons
      obtain ⟨rest', he', -, hqs⟩ := ho.of_cons
      rw [he, hqr, List.append_cancel_left_eq] at he'
      rw [← he'] at hqs
      rw [hqr, ih hrest hqs]

end Packed

/-! ## Packing -/

theorem packFrom_packed {limit : Nat} {filled : List PlacedBox} (boxes : List PlacedBox)
    (h : filled ≠ [] → Fits limit ⟨filled.reverse⟩) :
    Packed limit (packFrom limit filled boxes) (filled.reverse ++ boxes) := by
  -- The row that is being filled fits or is still empty, so it may stand as it is.
  induction boxes generalizing filled with
  | nil =>
    by_cases hn : filled = []
    · rw [hn]
      exact .nil limit
    · rw [packFrom, if_neg (by simpa using hn)]
      exact .cons (by simpa using hn) (h hn) (by simp) (.nil limit)
  | cons b bs ih =>
    rw [packFrom]
    split
    · rename_i hover
      simp only [Bool.and_eq_true, Bool.not_eq_true', List.isEmpty_eq_false_iff,
        decide_eq_true_eq] at hover
      obtain ⟨hn, hover⟩ := hover
      refine .cons (by simpa using hn) (h hn) ?_ (ih fun _ => .inr rfl)
      intro d hd
      cases hd
      rwa [width_reverse]
    · rename_i hroom
      simp only [Bool.and_eq_true, Bool.not_eq_true', List.isEmpty_eq_false_iff,
        decide_eq_true_eq, not_and, Nat.not_lt] at hroom
      have hfits : Fits limit ⟨(b :: filled).reverse⟩ := by
        by_cases hn : filled = []
        · rw [hn]
          exact .inr rfl
        · left
          rw [width_reverse, width_cons, Nat.add_comm]
          exact hroom hn
      have := ih fun _ => hfits
      rwa [List.reverse_cons, List.append_assoc] at this

theorem pack_packed (limit : Nat) (boxes : List PlacedBox) :
    Packed limit (pack limit boxes) boxes :=
  packFrom_packed boxes fun h => absurd rfl h

end Row

/-! ## Sections -/

namespace Canvas

/-- In each section the rows hold one box for each node, in order; none is empty, and each keeps to
the line width or holds a single box; and a row ends only where the next box would not fit. No other
rows do so, whatever other sections there are. -/
theorem ofSections_packed (settings : Settings) (sections : List Section) :
    List.Forall₂
      (fun s laid =>
        let boxes := s.nodes.map (PlacedBox.ofNode settings)
        laid.title? = s.title? ∧ Row.Packed settings.lineWidth laid.rows boxes ∧
          ∀ rows, Row.Packed settings.lineWidth rows boxes → rows = laid.rows)
      sections (ofSections settings sections).sections := by
  rw [ofSections, List.forall₂_map_right_iff, List.forall₂_same]
  intro s _ boxes
  have hpacked := Row.pack_packed settings.lineWidth boxes
  exact ⟨rfl, hpacked, fun rows => hpacked.eq_of_packed⟩

/-- No way to cut the boxes of a section into rows takes fewer rows, and a larger line width never
takes more. -/
theorem ofSections_fewest_rows (settings : Settings) (sections : List Section) :
    List.Forall₂
        (fun s laid => ∀ cut,
          Row.Holds settings.lineWidth cut (s.nodes.map (PlacedBox.ofNode settings)) →
            laid.rows.length ≤ cut.length)
        sections (ofSections settings sections).sections ∧
      ∀ wider, settings.lineWidth ≤ wider →
        List.Forall₂ (fun narrow wide => wide.rows.length ≤ narrow.rows.length)
          (ofSections settings sections).sections
          (ofSections { settings with lineWidth := wider } sections).sections := by
  constructor
  · rw [ofSections, List.forall₂_map_right_iff, List.forall₂_same]
    intro s _ cut hcut
    exact (Row.pack_packed _ _).length_le hcut
  · intro wider hle
    rw [ofSections, ofSections, List.forall₂_map_left_iff, List.forall₂_map_right_iff,
      List.forall₂_same]
    intro s _
    -- The line width changes no box, so the narrow rows hold the boxes of the wider chart too.
    have hnarrow := (Row.pack_packed settings.lineWidth
      (s.nodes.map (PlacedBox.ofNode settings))).toHolds.mono hle
    exact (Row.pack_packed wider _).length_le hnarrow

/-- A box that is wider than the line has a row to itself and ends the row before it; in a line that
takes it, it shares its row. -/
theorem ofSections_fewest_rows_overwide :
    let settings : Settings := { Settings.default with lineWidth := 20 }
    let node (text : String) (line : Nat) : Node := ⟨text.toList, 0, .statement, line, ⟨0, 0⟩⟩
    let s : Section := ⟨none, [node "a" 1, node "a very long statement" 2, node "b" 3]⟩
    let boxes := s.nodes.map (PlacedBox.ofNode settings)
    let cut : List Row := boxes.map fun b => ⟨[b]⟩
    let rowCounts (c : Canvas) : List Nat := c.sections.map fun laid => laid.rows.length
    Row.Holds 20 cut boxes ∧ rowCounts (ofSections settings [s]) = [cut.length] ∧ 20 ≤ 40 ∧
      rowCounts (ofSections { settings with lineWidth := 40 } [s]) = [2] ∧
      (∀ laid ∈ (ofSections settings [s]).sections, laid.rows.length ≤ cut.length) ∧
      List.Forall₂ (fun narrow wide => wide.rows.length ≤ narrow.rows.length)
        (ofSections settings [s]).sections
        (ofSections { settings with lineWidth := 40 } [s]).sections := by
  intro settings node s boxes cut rowCounts
  have hcut : Row.Holds 20 cut boxes := ⟨by decide, by decide, by decide⟩
  obtain ⟨hfewest, hmono⟩ := ofSections_fewest_rows settings [s]
  refine ⟨hcut, by decide, by decide, by decide, ?_, hmono 40 (by decide)⟩
  cases hfewest with
  | cons hs hnone =>
    cases hnone
    intro laid hlaid
    rw [List.mem_singleton.1 hlaid]
    exact hs cut hcut

end Canvas
end NestChart
