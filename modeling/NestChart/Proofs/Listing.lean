import NestChart.Flow.Listing
import NestChart.Proofs.Alike
import NestChart.Proofs.Text.Quoted

/-!
# NestChart.Proofs.Listing

A listing tells all of a flow but the places of its nodes. Each field of a line ends at the first
blank behind it, and the text, which may hold anything, is quoted; so a line tells its node
(`nodeLine_eq_iff`) or its anomaly (`anomalyLine_eq_iff`), and its first character which of the two
it is for. No line holds a line end of its own (`physicalLines_listing`).
-/

namespace NestChart.Flow

open Text

/-! ## Fields -/

theorem isDigit_of_mem_decimal {n : Nat} {c : Char} (h : c ∈ decimal n) : c.isDigit = true :=
  Nat.isDigit_of_mem_toDigits (by decide) (by decide) h

theorem not_mem_decimal {c : Char} (hc : c.isDigit = false) (n : Nat) : c ∉ decimal n := by
  intro h
  rw [isDigit_of_mem_decimal h] at hc
  cases hc

theorem decimal_inj {m n : Nat} (h : decimal m = decimal n) : m = n :=
  toDigits_inj (by decide) (by decide) h

theorem exists_decimal_eq_cons (n : Nat) : ∃ c cs, decimal n = c :: cs ∧ c.isDigit = true := by
  obtain ⟨c, cs, he⟩ := List.exists_cons_of_ne_nil (show decimal n ≠ [] from Nat.toDigits_ne_nil)
  exact ⟨c, cs, he, isDigit_of_mem_decimal (n := n) (by simp [he])⟩

/-- What is put in front of a number is told from it, if it holds no digit. -/
theorem dropWhile_fill_decimal (fill : Char) (hfill : fill.isDigit = false) (k n : Nat)
    (rest : Chars) :
    (List.replicate k fill ++ (decimal n ++ rest)).dropWhile (· == fill) = decimal n ++ rest := by
  obtain ⟨c, cs, he, hc⟩ := exists_decimal_eq_cons n
  have hne : (c == fill) = false := by
    rw [beq_eq_false_iff_ne]
    rintro rfl
    rw [hc] at hfill
    cases hfill
  rw [List.dropWhile_append_of_pos (by simp), he, List.cons_append, List.dropWhile_cons_of_neg]
  simp [hne]

theorem fill_decimal_inj {fill : Char} (hfill : fill.isDigit = false) {j k m n : Nat} {u v : Chars}
    (h : List.replicate j fill ++ (decimal m ++ ' ' :: u) =
      List.replicate k fill ++ (decimal n ++ ' ' :: v)) : m = n ∧ u = v := by
  have hdrop := congrArg (List.dropWhile (· == fill)) h
  -- Behind the filling stand digits, up to the first blank.
  rw [dropWhile_fill_decimal fill hfill, dropWhile_fill_decimal fill hfill] at hdrop
  obtain ⟨hnumber, hrest⟩ :=
    append_cons_inj (not_mem_decimal rfl m) (not_mem_decimal rfl n) hdrop
  exact ⟨decimal_inj hnumber, hrest⟩

theorem padLeft_decimal_inj {width m n : Nat} {u v : Chars}
    (h : padLeft width (decimal m) ++ ' ' :: u = padLeft width (decimal n) ++ ' ' :: v) :
    m = n ∧ u = v := by
  simp only [padLeft, List.append_assoc] at h
  exact fill_decimal_inj rfl h

theorem blank_not_mem_label (category : Category) : ' ' ∉ category.label := by
  cases category <;> decide

theorem newline_not_mem_label (category : Category) : '\n' ∉ category.label := by
  cases category <;> decide

theorem label_inj {x y : Category} (h : x.label = y.label) : x = y := by
  cases x <;> cases y <;> first | rfl | exact absurd h (by decide)

theorem padRight_label_inj {width : Nat} {x y : Category} {u v : Chars}
    (h : padRight width x.label ++ ' ' :: u = padRight width y.label ++ ' ' :: v) :
    x = y ∧ u = v := by
  -- It does not matter whether the blank that ends the field comes before the filling or behind it.
  have hblank (k : Nat) (w : Chars) :
      List.replicate k ' ' ++ ' ' :: w = ' ' :: (List.replicate k ' ' ++ w) := by
    rw [List.append_cons, ← List.replicate_succ', List.replicate_succ, List.cons_append]
  simp only [padRight, List.append_assoc, hblank] at h
  obtain ⟨hlabel, hrest⟩ := append_cons_inj (blank_not_mem_label x) (blank_not_mem_label y) h
  rw [hlabel] at hrest
  exact ⟨label_inj hlabel, List.append_cancel_left hrest⟩

/-! ## Lines -/

/-- The line of a node tells all of it but its span. -/
theorem nodeLine_eq_iff {m n : Node} :
    nodeLine m = nodeLine n ↔
      n.text = m.text ∧ n.depth = m.depth ∧ n.category = m.category ∧ m.line = n.line := by
  constructor
  · intro h
    simp only [nodeLine, List.append_assoc, List.singleton_append] at h
    obtain ⟨hline, hdepths⟩ := padLeft_decimal_inj h
    obtain ⟨hdepth, hlabels⟩ := fill_decimal_inj rfl hdepths
    obtain ⟨hcategory, htexts⟩ := padRight_label_inj hlabels
    exact ⟨(Quoted.encode_inj htexts).symm, hdepth.symm, hcategory.symm, hline⟩
  · rintro ⟨htext, hdepth, hcategory, hline⟩
    rw [nodeLine, nodeLine, htext, hdepth, hcategory, hline]

theorem message_inj {x y : AnomalyKind} (h : x.message = y.message) : x = y := by
  cases x <;> cases y <;> first | rfl | exact absurd h (by decide)

theorem anomalyLine_eq_iff {a b : Anomaly} :
    anomalyLine a = anomalyLine b ↔ b.kind = a.kind ∧ a.line = b.line := by
  constructor
  · intro h
    simp only [anomalyLine, List.append_assoc, List.singleton_append] at h
    obtain ⟨hline, hmessage⟩ := padLeft_decimal_inj (List.cons.inj h).2
    exact ⟨(message_inj hmessage).symm, hline⟩
  · rintro ⟨hkind, hline⟩
    rw [anomalyLine, anomalyLine, hkind, hline]

def isAnomalyLine (line : Chars) : Bool := line.head? == some '!'

theorem isAnomalyLine_anomalyLine (a : Anomaly) : isAnomalyLine (anomalyLine a) = true := rfl

/-- The line of a node begins with a blank or a digit. -/
theorem isAnomalyLine_nodeLine (n : Node) : isAnomalyLine (nodeLine n) = false := by
  obtain ⟨c, cs, he, hc⟩ := exists_decimal_eq_cons n.line
  have hne : c ≠ '!' := by
    rintro rfl
    cases hc
  simp only [isAnomalyLine, nodeLine, padLeft, he]
  cases 3 - (c :: cs).length with
  | zero => simpa using hne
  | succ k => simp [List.replicate_succ]

theorem newline_not_mem_nodeLine (n : Node) : '\n' ∉ nodeLine n := by
  simp [nodeLine, padLeft, padRight, not_mem_decimal, newline_not_mem_label,
    Quoted.newline_not_mem_encode]

theorem newline_not_mem_message (kind : AnomalyKind) : '\n' ∉ kind.message := by
  cases kind <;> decide

theorem newline_not_mem_anomalyLine (a : Anomaly) : '\n' ∉ anomalyLine a := by
  simp [anomalyLine, padLeft, not_mem_decimal, newline_not_mem_message]

/-! ## Listings -/

def lines (f : Flow) : List Chars := f.nodes.map nodeLine ++ f.anomalies.map anomalyLine

theorem newline_not_mem_lines {f : Flow} {line : Chars} (h : line ∈ f.lines) : '\n' ∉ line := by
  rw [lines, List.mem_append, List.mem_map, List.mem_map] at h
  rcases h with ⟨n, -, rfl⟩ | ⟨a, -, rfl⟩
  · exact newline_not_mem_nodeLine n
  · exact newline_not_mem_anomalyLine a

/-- The lines of a listing are those of its nodes and anomalies. -/
theorem physicalLines_listing (f : Flow) :
    physicalLines f.listing = f.lines.map (· ++ ['\n']) :=
  physicalLines_flatMap fun _ => newline_not_mem_lines

/-- The lines of the nodes are told from those of the anomalies. -/
theorem lines_eq_iff {f g : Flow} :
    f.lines = g.lines ↔ f.nodes.map nodeLine = g.nodes.map nodeLine ∧
      f.anomalies.map anomalyLine = g.anomalies.map anomalyLine := by
  have hnodes (f : Flow) : f.lines.filter (!isAnomalyLine ·) = f.nodes.map nodeLine := by
    simp [lines, List.filter_map, Function.comp_def, isAnomalyLine_nodeLine,
      isAnomalyLine_anomalyLine]
  have hanomalies (f : Flow) : f.lines.filter isAnomalyLine = f.anomalies.map anomalyLine := by
    simp [lines, List.filter_map, Function.comp_def, isAnomalyLine_nodeLine,
      isAnomalyLine_anomalyLine]
  constructor
  · intro h
    rw [← hnodes, ← hnodes, ← hanomalies, ← hanomalies, h]
    exact ⟨rfl, rfl⟩
  · rintro ⟨hn, ha⟩
    rw [lines, lines, hn, ha]

theorem map_eq_map_iff_forall₂ {α β : Type} {write : α → β} {R : α → α → Prop}
    (h : ∀ a b, write a = write b ↔ R a b) (xs ys : List α) :
    xs.map write = ys.map write ↔ List.Forall₂ R xs ys := by
  rw [← List.forall₂_eq_eq_eq, List.forall₂_map_left_iff, List.forall₂_map_right_iff]
  exact ⟨fun k => k.imp fun a b => (h a b).1, fun k => k.imp fun a b => (h a b).2⟩

theorem lines_eq_iff_alike {f g : Flow} : f.lines = g.lines ↔ f.Alike (· = ·) g := by
  rw [lines_eq_iff, map_eq_map_iff_forall₂ fun _ _ => nodeLine_eq_iff,
    map_eq_map_iff_forall₂ fun _ _ => anomalyLine_eq_iff]
  exact ⟨fun h => ⟨h.1, h.2⟩, fun h => ⟨h.nodes, h.anomalies⟩⟩

/-- Two flows are listed alike just when they have the same nodes, but for their spans, and the same
anomalies. A listing has one line for each of them, in their order. -/
theorem listing_eq_iff_alike (f g : Flow) :
    (f.listing = g.listing ↔ f.Alike (· = ·) g) ∧
      physicalLines f.listing = f.nodes.map (nodeLine · ++ ['\n']) ++
        f.anomalies.map (anomalyLine · ++ ['\n']) := by
  constructor
  · rw [← lines_eq_iff_alike]
    constructor
    · intro h
      have hlines := congrArg physicalLines h
      rw [physicalLines_listing, physicalLines_listing] at hlines
      exact List.map_injective_iff.2 (List.append_left_injective _) hlines
    · intro h
      exact congrArg (List.flatMap (· ++ ['\n'])) h
  · rw [physicalLines_listing, lines, List.map_append, List.map_map, List.map_map]
    rfl

end NestChart.Flow
