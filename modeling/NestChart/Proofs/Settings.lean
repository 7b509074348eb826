import Mathlib.Data.List.Forall2
import Mathlib.Data.List.Nodup
import NestChart.Settings

/-!
# NestChart.Proofs.Settings

Settings as objects. Each setting is a `Field`: its name, which values mean what, and its default.
An object is read field by field, each from its own entry or from its default (`IsField`), so it is
read just when every entry for a field is well typed (`exists_reads_iff`), and entries of other
names and the order of entries do not count. What is written is read again, if its numbers are in
range (`reads_written_iff`).
-/

namespace NestChart

/-! ## Values -/

namespace Value

/-- The value is the name of `x`, as a text or as an object with nothing but null under the name. -/
inductive Names {α : Type} (name : α → String) (x : α) : Value → Prop
  | text : Names name x (.text (name x))
  | choice : Names name x (.table [(name x, .null)])

/-- The value is the number `n`, below the bound of numbers in settings. -/
def IsNumber (v : Value) (n : Nat) : Prop := v = .int n ∧ n < Settings.numberBound

def IsPalette (v : Value) (p : Palette) : Prop :=
  ∃ vs, v = .list vs ∧ List.Forall₂ (fun v c => Names Color.name c v) vs p.colors

def IsColor? (v : Value) : Option Color → Prop
  | none => v = .null
  | some c => Names Color.name c v

theorem natBelow?_eq_some_iff {bound : Nat} {v : Value} {n : Nat} :
    natBelow? bound v = some n ↔ v = .int n ∧ n < bound := by
  constructor
  · intro h
    unfold natBelow? at h
    split at h
    · split at h
      · rename_i hlt
        cases h
        exact ⟨rfl, hlt⟩
      · cases h
    · cases h
  · rintro ⟨rfl, hlt⟩
    exact if_pos hlt

theorem bool?_eq_some_iff {v : Value} {b : Bool} : bool? v = some b ↔ v = .bool b := by
  cases v <;> simp [bool?]

theorem named?_eq_some_iff {α : Type} {name : α → String} {ofName? : String → Option α}
    (hname : ∀ s x, ofName? s = some x ↔ name x = s) {v : Value} {x : α} :
    named? .json ofName? v = some x ↔ Names name x v := by
  constructor
  · intro h
    unfold named? at h
    split at h
    · rw [hname] at h
      subst h
      exact .text
    · rename_i s w
      cases w with
      | null =>
        rw [show Dialect.json.isBlank .null = true from rfl, if_pos rfl, hname] at h
        subst h
        exact .choice
      | _ => cases h
    · cases h
  · intro h
    cases h with
    | text => exact (hname _ _).2 rfl
    | choice => exact (hname _ _).2 rfl

theorem orNull?_eq_some_iff {v : Value} {c? : Option Color}
    (hname : ∀ c, named? .json Color.ofName? v = some c ↔ Names Color.name c v) :
    orNull? (named? .json Color.ofName?) v = some c? ↔ IsColor? v c? := by
  unfold orNull?
  split
  · cases c? with
    | none => simp [IsColor?]
    | some c =>
      simp only [IsColor?, Option.some.injEq, reduceCtorEq, false_iff]
      nofun
  · rename_i hnull
    cases c? with
    | none => simpa [IsColor?] using hnull
    | some c => simp [IsColor?, hname]

theorem mapM_eq_some_iff {α β : Type} {item? : α → Option β} {R : α → β → Prop}
    (h : ∀ a b, item? a = some b ↔ R a b) {as : List α} {bs : List β} :
    as.mapM item? = some bs ↔ List.Forall₂ R as bs := by
  induction as generalizing bs with
  | nil =>
    rw [List.mapM_nil]
    constructor
    · intro hb
      cases hb
      exact .nil
    · intro hb
      cases hb
      rfl
  | cons a as ih =>
    rw [List.mapM_cons]
    simp only [Option.bind_eq_bind, Option.bind_eq_some_iff, Option.pure_def, Option.some.injEq, h,
      ih]
    constructor
    · rintro ⟨b, hb, cs, hcs, rfl⟩
      exact .cons hb hcs
    · intro hb
      cases hb with
      | cons hb hcs => exact ⟨_, hb, _, hcs, rfl⟩

end Value

/-! ## Names -/

/-- A choice is found by its name, if each finds itself. -/
theorem find?_name_eq_some_iff {α : Type} {all : List α} {name : α → String}
    (hall : ∀ x, all.find? (name · == name x) = some x) (s : String) (x : α) :
    all.find? (name · == s) = some x ↔ name x = s := by
  constructor
  · intro h
    have hx := List.find?_some h
    exact eq_of_beq hx
  · rintro rfl
    exact hall x

theorem Color.ofName?_eq_some_iff (s : String) (c : Color) : ofName? s = some c ↔ c.name = s :=
  find?_name_eq_some_iff (fun c => by cases c <;> rfl) s c

theorem BorderStyle.ofName?_eq_some_iff (s : String) (b : BorderStyle) :
    ofName? s = some b ↔ b.name = s :=
  find?_name_eq_some_iff (fun b => by cases b <;> rfl) s b

theorem OutputFormat.ofName?_eq_some_iff (s : String) (f : OutputFormat) :
    ofName? s = some f ↔ f.name = s :=
  find?_name_eq_some_iff (fun f => by cases f <;> rfl) s f

theorem Value.color?_eq_some_iff {v : Value} {c : Color} :
    named? .json Color.ofName? v = some c ↔ Names Color.name c v :=
  named?_eq_some_iff Color.ofName?_eq_some_iff

/-! ## Objects -/

/-- The entries of an object: each name stands once. -/
def IsObject (object : List (String × Value)) : Prop := (object.map Prod.fst).Nodup

/-- What `object` says of a field: the entry of this name means `x`, or there is none and `x` is the
default. -/
structure IsField {α : Type} (object : List (String × Value)) (name : String)
    (Means : Value → α → Prop) (default x : α) : Prop where
  means_of_mem : ∀ v, (name, v) ∈ object → Means v x
  eq_default : (∀ v, (name, v) ∉ object) → x = default

namespace IsObject

variable {object : List (String × Value)} {name : String} {v : Value}

theorem eq_of_mem (h : IsObject object) {w : Value} (hv : (name, v) ∈ object)
    (hw : (name, w) ∈ object) : v = w :=
  (Prod.mk.inj (List.inj_on_of_nodup_map h hv hw rfl)).2

theorem lookup_eq_some_iff (h : IsObject object) :
    object.lookup name = some v ↔ (name, v) ∈ object := by
  constructor
  · intro hl
    obtain ⟨front, back, rfl, -⟩ := List.lookup_eq_some_iff.1 hl
    simp
  · intro hv
    cases hl : object.lookup name with
    | none =>
      rw [List.lookup_eq_none_iff] at hl
      simpa using hl _ hv
    | some w =>
      obtain ⟨front, back, hsplit, -⟩ := List.lookup_eq_some_iff.1 hl
      have hw : (name, w) ∈ object := by simp [hsplit]
      -- The entry that is found first is the only one of its name.
      rw [h.eq_of_mem hv hw]

variable {α : Type} {Means : Value → α → Prop} {default x : α}

theorem isField_of_mem (h : IsObject object) (hv : (name, v) ∈ object) :
    IsField object name Means default x ↔ Means v x := by
  constructor
  · intro hf
    exact hf.means_of_mem v hv
  · intro hx
    refine ⟨fun w hw => ?_, fun hnone => absurd hv (hnone v)⟩
    rwa [← h.eq_of_mem hv hw]

theorem isField_of_not_mem (hnone : ∀ v, (name, v) ∉ object) :
    IsField object name Means default x ↔ x = default :=
  ⟨fun hf => hf.eq_default hnone, fun hx => ⟨fun v hv => absurd hv (hnone v), fun _ => hx⟩⟩

theorem field?_eq_some_iff (h : IsObject object) {item? : Value → Option α}
    (hitem : ∀ {v x}, item? v = some x ↔ Means v x) :
    Value.field? object name item? default = some x ↔ IsField object name Means default x := by
  unfold Value.field?
  cases hl : object.lookup name with
  | some v => rw [h.isField_of_mem (h.lookup_eq_some_iff.1 hl)]; exact hitem
  | none =>
    have hnone : ∀ v, (name, v) ∉ object := by
      intro v hv
      rw [← h.lookup_eq_some_iff, hl] at hv
      cases hv
    rw [isField_of_not_mem hnone, Option.some.injEq, eq_comm]

theorem exists_isField (h : IsObject object) (default : α)
    (htyped : ∀ v, (name, v) ∈ object → ∃ x, Means v x) :
    ∃ x, IsField object name Means default x := by
  by_cases hmem : ∃ v, (name, v) ∈ object
  · obtain ⟨v, hv⟩ := hmem
    obtain ⟨x, hx⟩ := htyped v hv
    exact ⟨x, (h.isField_of_mem hv).2 hx⟩
  · exact ⟨default, (isField_of_not_mem fun v hv => hmem ⟨v, hv⟩).2 rfl⟩

end IsObject

/-! ## Settings -/

namespace Settings

/-- One setting: its name, which values mean what, and its place among the others. -/
structure Field where
  name : String
  {α : Type}
  Means : Value → α → Prop
  get : Settings → α

def fields : List Field := [
  ⟨"line_width", Value.IsNumber, lineWidth⟩,
  ⟨"indent_unit", Value.IsNumber, indentUnit⟩,
  ⟨"palette", Value.IsPalette, palette⟩,
  ⟨"border", fun v b => Value.Names BorderStyle.name b v, border⟩,
  ⟨"output", fun v f => Value.Names OutputFormat.name f v, output⟩,
  ⟨"comment_color", Value.IsColor?, commentColor⟩,
  ⟨"show_line_numbers", fun v b => v = .bool b, showLineNumbers⟩]

def WellTyped (object : List (String × Value)) : Prop :=
  ∀ f ∈ fields, ∀ v, (f.name, v) ∈ object → ∃ x, f.Means v x

/-- Each setting is what the object says of it, by itself. -/
def Reads (object : List (String × Value)) (s : Settings) : Prop :=
  ∀ f ∈ fields, IsField object f.name f.Means (f.get default) (f.get s)

def InRange (s : Settings) : Prop := s.lineWidth < numberBound ∧ s.indentUnit < numberBound

theorem palette?_eq_some_iff {v : Value} {p : Palette} :
    palette? .json v = some p ↔ v.IsPalette p := by
  have hlist (colors : List Color) :
      (Palette.ofList colors).toOption = some p ↔ colors = p.colors := by
    obtain ⟨own, hown⟩ := p
    unfold Palette.ofList
    split
    · rename_i hnil
      simp [hnil, hown.symm, Except.toOption]
    · simp [Except.toOption]
  have hcolors (vs : List Value) (colors : List Color) :
      vs.mapM (Value.named? .json Color.ofName?) = some colors ↔
        List.Forall₂ (fun v c => Value.Names Color.name c v) vs colors :=
    Value.mapM_eq_some_iff fun _ _ => Value.color?_eq_some_iff
  unfold palette? Value.IsPalette Value.list?
  cases v with
  | list vs =>
    simp only [Option.bind_eq_bind, Option.bind_eq_some_iff, hcolors, hlist, Value.list.injEq,
      exists_eq_right, exists_eq_left']
  | _ => simp

theorem ofFields?_eq_some_iff {object : List (String × Value)} (h : IsObject object)
    {s : Settings} : ofFields? .json object = some s ↔ Reads object s := by
  unfold ofFields?
  simp only [Option.bind_eq_bind, Option.bind_eq_some_iff,
    h.field?_eq_some_iff Value.natBelow?_eq_some_iff,
    h.field?_eq_some_iff palette?_eq_some_iff,
    h.field?_eq_some_iff (Value.named?_eq_some_iff BorderStyle.ofName?_eq_some_iff),
    h.field?_eq_some_iff (Value.named?_eq_some_iff OutputFormat.ofName?_eq_some_iff),
    h.field?_eq_some_iff (Value.orNull?_eq_some_iff fun _ => Value.color?_eq_some_iff),
    h.field?_eq_some_iff Value.bool?_eq_some_iff, Option.pure_def, Option.some.injEq]
  unfold Reads
  simp only [fields, List.forall_mem_cons]
  constructor
  · rintro ⟨_, h1, _, h2, _, h3, _, h4, _, h5, _, h6, _, h7, rfl⟩
    exact ⟨h1, h2, h3, h4, h5, h6, h7, by simp⟩
  · rintro ⟨h1, h2, h3, h4, h5, h6, h7, -⟩
    exact ⟨_, h1, _, h2, _, h3, _, h4, _, h5, _, h6, _, h7, rfl⟩

theorem decode?_eq_some_iff {object : List (String × Value)} (h : IsObject object)
    {s : Settings} : decode? .json (.table object) = some s ↔ Reads object s := by
  rw [← ofFields?_eq_some_iff h]
  rfl

theorem exists_reads_iff {object : List (String × Value)} (h : IsObject object) :
    (∃ s, Reads object s) ↔ WellTyped object := by
  constructor
  · rintro ⟨s, hs⟩ f hf v hv
    exact ⟨f.get s, (hs f hf).means_of_mem v hv⟩
  · intro htyped
    simp only [WellTyped, fields, List.forall_mem_cons] at htyped
    obtain ⟨h1, h2, h3, h4, h5, h6, h7, -⟩ := htyped
    -- No field looks at another one, so the settings are put together from any reading of each.
    obtain ⟨lineWidth, h1⟩ := h.exists_isField default.lineWidth h1
    obtain ⟨indentUnit, h2⟩ := h.exists_isField default.indentUnit h2
    obtain ⟨palette, h3⟩ := h.exists_isField default.palette h3
    obtain ⟨border, h4⟩ := h.exists_isField default.border h4
    obtain ⟨output, h5⟩ := h.exists_isField default.output h5
    obtain ⟨commentColor, h6⟩ := h.exists_isField default.commentColor h6
    obtain ⟨showLineNumbers, h7⟩ := h.exists_isField default.showLineNumbers h7
    refine ⟨⟨lineWidth, indentUnit, palette, border, output, commentColor, showLineNumbers⟩, ?_⟩
    simp only [Reads, fields, List.forall_mem_cons]
    exact ⟨h1, h2, h3, h4, h5, h6, h7, by simp⟩

/-- Only entries for settings count, in any order. -/
theorem reads_congr {object other : List (String × Value)}
    (h : ∀ f ∈ fields, ∀ v, (f.name, v) ∈ other ↔ (f.name, v) ∈ object) (s : Settings) :
    Reads other s ↔ Reads object s := by
  refine forall₂_congr fun f hf => ?_
  constructor
  · rintro ⟨hmeans, hdefault⟩
    simp only [h f hf] at hmeans hdefault
    exact ⟨hmeans, hdefault⟩
  · rintro ⟨hmeans, hdefault⟩
    simp only [← h f hf] at hmeans hdefault
    exact ⟨hmeans, hdefault⟩

theorem inRange_of_reads {object : List (String × Value)} {s : Settings} (h : Reads object s) :
    s.InRange := by
  have hnumber {name : String} {default n : Nat} (hd : default < numberBound)
      (hn : IsField object name Value.IsNumber default n) : n < numberBound := by
    by_cases hmem : ∃ v, (name, v) ∈ object
    · obtain ⟨v, hv⟩ := hmem
      exact (hn.means_of_mem v hv).2
    · rwa [hn.eq_default fun v hv => hmem ⟨v, hv⟩]
  simp only [Reads, fields, List.forall_mem_cons] at h
  obtain ⟨hwidth, hunit, -⟩ := h
  exact ⟨hnumber (by decide) hwidth, hnumber (by decide) hunit⟩

/-! ### Written settings -/

/-- The entries of written settings. -/
def written (s : Settings) : List (String × Value) :=
  [("line_width", .int s.lineWidth), ("indent_unit", .int s.indentUnit),
    ("palette", .list (s.palette.colors.map fun c => .text c.name)),
    ("border", .text s.border.name), ("output", .text s.output.name)] ++
    (s.commentColor.map fun c => ("comment_color", Value.text c.name)).toList ++
    [("show_line_numbers", .bool s.showLineNumbers)]

theorem encode_eq (s : Settings) : s.encode = .table s.written := rfl

theorem isObject_written (s : Settings) : IsObject s.written := by
  cases hc : s.commentColor <;> simp [IsObject, written, hc]

theorem isPalette_written (p : Palette) :
    Value.IsPalette (.list (p.colors.map fun c => .text c.name)) p := by
  refine ⟨_, rfl, ?_⟩
  rw [List.forall₂_map_left_iff, List.forall₂_same]
  exact fun _ _ => .text

theorem reads_written_iff (s : Settings) : Reads s.written s ↔ s.InRange := by
  have h := s.isObject_written
  have hcolor : IsField s.written "comment_color" Value.IsColor? none s.commentColor := by
    cases hc : s.commentColor with
    | none =>
      -- A color that is not set is left out, and to have none is the default.
      exact (IsObject.isField_of_not_mem (by simp [written, hc])).2 rfl
    | some c =>
      have hmem : ("comment_color", Value.text c.name) ∈ s.written := by simp [written, hc]
      exact (h.isField_of_mem hmem).2 .text
  simp only [Reads, fields, List.forall_mem_cons]
  rw [h.isField_of_mem (show ("line_width", Value.int s.lineWidth) ∈ _ by simp [written]),
    h.isField_of_mem (show ("indent_unit", Value.int s.indentUnit) ∈ _ by simp [written]),
    h.isField_of_mem (show ("palette", Value.list _) ∈ _ by simp [written]; rfl),
    h.isField_of_mem (show ("border", Value.text s.border.name) ∈ _ by simp [written]),
    h.isField_of_mem (show ("output", Value.text s.output.name) ∈ _ by simp [written]),
    h.isField_of_mem (show ("show_line_numbers", Value.bool s.showLineNumbers) ∈ _ by
      simp [written])]
  constructor
  · rintro ⟨hwidth, hunit, -⟩
    exact ⟨hwidth.2, hunit.2⟩
  · rintro ⟨hwidth, hunit⟩
    exact ⟨⟨rfl, hwidth⟩, ⟨rfl, hunit⟩, isPalette_written _, .text, .text, hcolor, rfl, by simp⟩

theorem decode?_encode_iff (s : Settings) : decode? .json s.encode = some s ↔ s.InRange := by
  rw [encode_eq, decode?_eq_some_iff s.isObject_written, reads_written_iff]

/-- Settings read from a value and written again. -/
def tidy? (v : Value) : Option Value := (decode? .json v).map encode

/-- Settings that are written are read again, whatever they are, if only their numbers are in range.
An object can be read just when each of its entries for a setting is well typed. Each setting is
then what its own entry says, or its default where there is none; entries of other names and the
order of the entries do not count. So an object that is read and written stays as it is when this is
done again. -/
theorem decode?_object_iff {object : List (String × Value)} (h : IsObject object) :
    (∀ s : Settings, decode? .json s.encode = some s ↔ s.InRange) ∧
      ((∃ s, decode? .json (.table object) = some s) ↔ WellTyped object) ∧
      (∀ s, decode? .json (.table object) = some s ↔ Reads object s) ∧
      (∀ other, IsObject other →
        (∀ f ∈ fields, ∀ v, (f.name, v) ∈ other ↔ (f.name, v) ∈ object) →
          decode? .json (.table other) = decode? .json (.table object)) ∧
      (tidy? (.table object)).bind tidy? = tidy? (.table object) := by
  refine ⟨decode?_encode_iff, ?_, fun s => decode?_eq_some_iff h, ?_, ?_⟩
  · simp only [decode?_eq_some_iff h]
    exact exists_reads_iff h
  · intro other hother hsame
    refine Option.ext fun s => ?_
    rw [decode?_eq_some_iff hother, decode?_eq_some_iff h, reads_congr hsame]
  · cases hd : decode? .json (.table object) with
    | none => simp [tidy?, hd]
    | some s =>
      -- What has been read is in range, so nothing is lost when it is written.
      have hrange := inRange_of_reads ((decode?_eq_some_iff h).1 hd)
      simp [tidy?, hd, (decode?_encode_iff s).2 hrange]

/-- A palette may name its colors in both ways, and a name that is no setting is passed over with
whatever stands under it. -/
theorem decode?_object_iff_unknown :
    let object : List (String × Value) :=
      [("palette", .list [.text "cyan", .table [("yellow", .null)]]), ("width", .huge)]
    IsObject object ∧ WellTyped object ∧ decode? .json (.table object) =
      some { default with palette := ⟨[.cyan, .yellow], by simp⟩ } := by
  intro object
  have hobject : IsObject object := by simp [IsObject, object]
  have hread : decode? .json (.table object) =
      some { default with palette := ⟨[.cyan, .yellow], by simp⟩ } := rfl
  exact ⟨hobject, (decode?_object_iff hobject).2.1.1 ⟨_, hread⟩, hread⟩

/-- A color can be read from what is neither its name nor null. -/
theorem decode?_color_of_object :
    decode? .json (.table [("comment_color", .table [("cyan", .null)])]) =
        some { default with commentColor := some .cyan } ∧
      ¬(Value.table [("cyan", .null)] = .null ∨
        ∃ c : Color, Value.table [("cyan", .null)] = .text c.name) :=
  ⟨rfl, by simp⟩

end Settings
end NestChart
