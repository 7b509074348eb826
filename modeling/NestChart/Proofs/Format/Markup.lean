import NestChart.Format

/-!
# NestChart.Proofs.Format.Markup

A page is its plain text in other words. A page is made of marks, its tags and entities, and of
plain characters, which can belong to no mark (`Shows`). No mark begins another
(`Mark.eq_of_begins`), so a page is made of them in one way only, and `read?` finds it: it reads a
page as a text exactly when the page shows the text (`read?_eq_some_iff`). What a drawn line is
written as shows its plain text, whatever the line holds, because escaping leaves no character of a
text that could belong to a mark (`Shows.escape`).
-/

namespace NestChart.Format

open Text

/-- A part of a page that does not stand for itself: how it is written and what it shows. -/
structure Mark where
  written : Chars
  shown : Chars
  deriving Repr, DecidableEq

namespace Mark

/-- The tag before the text of a box line. -/
def span (color : Color) : Mark :=
  ⟨"<span style='".toList ++ boxStyle color ++ "'>".toList, []⟩

theorem span_written (color : Color) :
    (span color).written = "<span style='".toList ++ boxStyle color ++ "'>".toList := rfl

/-- The tags of a page. Only the line break shows something. -/
def tags : List Mark :=
  [⟨"<br>".toList, ['\n']⟩, ⟨"<pre style='font-family: monospace'>".toList, []⟩,
    ⟨"</pre>".toList, []⟩, ⟨"<b>".toList, []⟩, ⟨"</b>".toList, []⟩, ⟨"</span>".toList, []⟩] ++
  Color.all.map span

/-- The entities of a page. -/
def entities : List Mark :=
  [⟨"&nbsp;".toList, [' ']⟩, ⟨"&amp;".toList, ['&']⟩, ⟨"&lt;".toList, ['<']⟩,
    ⟨"&gt;".toList, ['>']⟩]

def all : List Mark := tags ++ entities

/-- The mark that a text begins with. -/
def at? (text : Chars) : Option Mark := all.find? (·.written.isPrefixOf text)

/-- No mark begins another. -/
theorem eq_of_begins : ∀ a ∈ all, ∀ b ∈ all, a.written <+: b.written → a = b := by
  decide +kernel

theorem head?_written : ∀ m ∈ all, m.written.head? = some '<' ∨ m.written.head? = some '&' := by
  decide +kernel

theorem exists_written_eq {m : Mark} (hm : m ∈ all) :
    ∃ c w, m.written = c :: w ∧ (c = '<' ∨ c = '&') := by
  have hhead := head?_written m hm
  cases hw : m.written with
  | nil => simp [hw] at hhead
  | cons c w => exact ⟨c, w, rfl, by simpa [hw] using hhead⟩

theorem span_mem (color : Color) : span color ∈ all := by
  cases color <;> simp [all, tags, Color.all]

theorem of_at? {text : Chars} {m : Mark} (h : at? text = some m) :
    m ∈ all ∧ ∃ rest, m.written ++ rest = text := by
  have hbegins := List.find?_some (p := fun n : Mark => n.written.isPrefixOf text) h
  exact ⟨List.mem_of_find?_eq_some h, List.isPrefixOf_iff_prefix.1 hbegins⟩

/-- A mark is found whatever follows it. -/
theorem at?_append {m : Mark} (hm : m ∈ all) (rest : Chars) :
    at? (m.written ++ rest) = some m := by
  obtain ⟨n, hn⟩ : ∃ n, at? (m.written ++ rest) = some n :=
    Option.isSome_iff_exists.1 (List.find?_isSome.2 ⟨m, hm, by simp⟩)
  obtain ⟨hmem, hbegins⟩ := of_at? hn
  have he : n = m := by
    rcases List.prefix_or_prefix_of_prefix hbegins (List.prefix_append _ _) with h | h
    · exact eq_of_begins n hmem m hm h
    · exact (eq_of_begins m hm n hmem h).symm
  rw [hn, he]

end Mark

/-- The character can belong to no mark. -/
def IsPlain (c : Char) : Prop := c ≠ '<' ∧ c ≠ '>' ∧ c ≠ '&'

instance : DecidablePred IsPlain := fun _ => inferInstanceAs (Decidable (_ ∧ _ ∧ _))

theorem Mark.at?_of_isPlain {c : Char} (hc : IsPlain c) (rest : Chars) :
    at? (c :: rest) = none := by
  cases hm : at? (c :: rest) with
  | none => rfl
  | some m =>
    obtain ⟨hmem, behind, hbegins⟩ := of_at? hm
    obtain ⟨d, w, hw, hd⟩ := exists_written_eq hmem
    rw [hw, List.cons_append] at hbegins
    obtain ⟨rfl, -⟩ := List.cons.inj hbegins
    exact absurd hd (not_or.2 ⟨hc.1, hc.2.2⟩)

/-! ## Reading a page -/

/-- How a page is made of marks and plain characters, and the text that it shows. -/
inductive Shows : Chars → Chars → Prop
  | nil : Shows [] []
  | mark {m : Mark} {page text : Chars} :
      m ∈ Mark.all → Shows page text → Shows (m.written ++ page) (m.shown ++ text)
  | char {c : Char} {page text : Chars} :
      IsPlain c → Shows page text → Shows (c :: page) (c :: text)

/-- Reads a page as text, from `skip` characters on. A mark is what it shows, and any other
character is itself, unless it is one of those that marks are told by. -/
def readFrom (skip : Nat) : Chars → Option Chars
  | [] => some []
  | c :: cs =>
    match skip with
    | k + 1 => readFrom k cs
    | 0 =>
      match Mark.at? (c :: cs) with
      | some m => (readFrom (m.written.length - 1) cs).map (m.shown ++ ·)
      | none => if IsPlain c then (readFrom 0 cs).map (c :: ·) else none

/-- The text that a page shows; nothing if some `<`, `>` or `&` is part of no mark. -/
def read? (page : Chars) : Option Chars := readFrom 0 page

theorem readFrom_append (a rest : Chars) : readFrom a.length (a ++ rest) = read? rest := by
  induction a with
  | nil => rfl
  | cons c a ih => exact ih

theorem read?_mark_append {m : Mark} (hm : m ∈ Mark.all) (rest : Chars) :
    read? (m.written ++ rest) = (read? rest).map (m.shown ++ ·) := by
  have hat := Mark.at?_append hm rest
  obtain ⟨c, w, hw, -⟩ := Mark.exists_written_eq hm
  have hlength : m.written.length - 1 = w.length := by
    rw [hw, List.length_cons, Nat.add_sub_cancel]
  rw [hw, List.cons_append] at hat ⊢
  rw [read?, readFrom, hat]
  show (readFrom (m.written.length - 1) (w ++ rest)).map _ = _
  rw [hlength, readFrom_append]

theorem read?_cons {c : Char} {rest : Chars} (h : Mark.at? (c :: rest) = none) :
    read? (c :: rest) = if IsPlain c then (read? rest).map (c :: ·) else none := by
  rw [read?, readFrom, h]
  rfl

theorem Shows.read? {page text : Chars} (h : Shows page text) : read? page = some text := by
  induction h with
  | nil => rfl
  | mark hm _ ih => rw [read?_mark_append hm, ih, Option.map_some]
  | char hc _ ih => rw [read?_cons (Mark.at?_of_isPlain hc _), if_pos hc, ih, Option.map_some]

theorem shows_of_read? {page text : Chars} (h : read? page = some text) : Shows page text := by
  induction hn : page.length using Nat.strongRecOn generalizing page text with
  | ind n ih =>
    cases page with
    | nil =>
      cases h
      exact .nil
    | cons c cs =>
      cases hat : Mark.at? (c :: cs) with
      | none =>
        rw [read?_cons hat] at h
        split at h
        · rename_i hc
          obtain ⟨text, ht, rfl⟩ := Option.map_eq_some_iff.1 h
          exact .char hc (ih cs.length (by simp [← hn]) ht rfl)
        · cases h
      | some m =>
        -- What is behind the mark is shorter than the page, for no mark is empty.
        obtain ⟨hm, rest, hpage⟩ := Mark.of_at? hat
        obtain ⟨d, w, hw, -⟩ := Mark.exists_written_eq hm
        have hlt : rest.length < n := by
          rw [← hn, ← hpage, hw, List.length_append, List.length_cons]
          omega
        rw [← hpage, read?_mark_append hm] at h
        obtain ⟨text, ht, rfl⟩ := Option.map_eq_some_iff.1 h
        rw [← hpage]
        exact .mark hm (ih rest.length hlt ht rfl)

/-- A page is read as a text exactly when it shows it. -/
theorem read?_eq_some_iff {page text : Chars} : read? page = some text ↔ Shows page text :=
  ⟨shows_of_read?, Shows.read?⟩

/-! ## What a page is written with -/

namespace Shows

variable {a b t u : Chars}

theorem append (ha : Shows a t) (hb : Shows b u) : Shows (a ++ b) (t ++ u) := by
  induction ha with
  | nil => exact hb
  | mark hm _ ih =>
    rw [List.append_assoc, List.append_assoc]
    exact .mark hm ih
  | char hc _ ih => exact .char hc ih

theorem flatMap {α : Type} {f g : α → Chars} (h : ∀ x, Shows (f x) (g x)) (xs : List α) :
    Shows (xs.flatMap f) (xs.flatMap g) := by
  induction xs with
  | nil => exact .nil
  | cons x xs ih => exact (h x).append ih

theorem ofMark (m : Mark) (hm : m ∈ Mark.all) : Shows m.written m.shown := by
  simpa using Shows.mark hm .nil

theorem ofChar (c : Char) (hc : IsPlain c) : Shows [c] [c] := .char hc .nil

theorem escapeChar (c : Char) : Shows (Markup.escapeChar c) [c] := by
  unfold Markup.escapeChar
  split
  · rename_i hc
    rw [hc]
    exact ofMark ⟨"&amp;".toList, ['&']⟩ (by decide)
  split
  · rename_i hc
    rw [hc]
    exact ofMark ⟨"&lt;".toList, ['<']⟩ (by decide)
  split
  · rename_i hc
    rw [hc]
    exact ofMark ⟨"&gt;".toList, ['>']⟩ (by decide)
  · exact ofChar c ⟨‹_›, ‹_›, ‹_›⟩

/-- An escaped text shows the text. -/
theorem escape (text : Chars) : Shows (Markup.escape text) text := by
  simpa [Markup.escape] using flatMap escapeChar text

theorem spaces (n : Nat) : Shows (List.replicate n "&nbsp;".toList).flatten (spaces n) := by
  induction n with
  | zero => exact .nil
  | succ n ih =>
    rw [List.replicate_succ, List.flatten_cons]
    exact (ofMark ⟨"&nbsp;".toList, [' ']⟩ (by decide)).append ih

theorem lineBreak : Shows "<br>".toList ['\n'] := ofMark ⟨"<br>".toList, ['\n']⟩ (by decide)

end Shows

theorem htmlLine_boxed (offset : Nat) (color : Color) (text : Chars) (suffix? : Option Chars) :
    htmlLine (.boxed offset color text suffix?) =
      (List.replicate offset "&nbsp;".toList).flatten ++ (Mark.span color).written ++
        Markup.escape text ++ "</span>".toList ++ Markup.escape (suffix?.getD []) ++
          "<br>".toList := by
  rw [htmlLine, Mark.span_written]
  simp only [List.append_assoc]

/-- Every line shows its plain text and a line end. -/
theorem htmlLine_shows (l : DrawnLine) : Shows (htmlLine l) (plainLine l ++ ['\n']) := by
  cases l with
  | title text =>
    have hopen : Shows "<b>".toList [] := .ofMark ⟨"<b>".toList, []⟩ (by decide)
    have hclose : Shows "</b>".toList [] := .ofMark ⟨"</b>".toList, []⟩ (by decide)
    have hcolon : Shows [':'] [':'] := .ofChar ':' (by decide)
    have hend : ":</b><br>".toList = [':'] ++ "</b>".toList ++ "<br>".toList := by decide
    have h := (hopen.append (.escape text)).append ((hcolon.append hclose).append .lineBreak)
    rw [htmlLine, plainLine, hend, List.append_assoc text]
    exact h
  | blank => exact .lineBreak
  | boxed offset color text suffix? =>
    have hopen : Shows (Mark.span color).written [] :=
      .ofMark (Mark.span color) (Mark.span_mem color)
    have hclose : Shows "</span>".toList [] := .ofMark ⟨"</span>".toList, []⟩ (by decide)
    have h := (((((Shows.spaces offset).append hopen).append (.escape text)).append hclose).append
      (.escape (suffix?.getD []))).append .lineBreak
    rw [List.append_nil, List.append_nil] at h
    rw [htmlLine_boxed]
    exact h

theorem plain_eq_flatMap (lines : List DrawnLine) :
    plain lines = lines.flatMap fun l => plainLine l ++ ['\n'] := by
  rw [plain, endLines, List.flatMap_map]

theorem html_shows (lines : List DrawnLine) : Shows (html lines) (plain lines) := by
  have hopen : Shows "<pre style='font-family: monospace'>".toList [] :=
    .ofMark ⟨"<pre style='font-family: monospace'>".toList, []⟩ (by decide)
  have hclose : Shows "</pre>".toList [] := .ofMark ⟨"</pre>".toList, []⟩ (by decide)
  have hpage := (hopen.append (.flatMap htmlLine_shows lines)).append hclose
  rw [List.append_nil, ← plain_eq_flatMap] at hpage
  cases lines with
  | nil => exact .nil
  | cons l lines => exact hpage

/-- Whatever the lines hold, their page is made of its own tags and entities and of plain
characters, so that every `<`, `>` and `&` in it belongs to one of them; and without the tags, with
a line end for each line break and each entity read once, it is the plain text of the lines. -/
theorem page_reads_as_plain (lines : List DrawnLine) :
    Shows (html lines) (plain lines) ∧ read? (html lines) = some (plain lines) :=
  ⟨html_shows lines, read?_eq_some_iff.2 (html_shows lines)⟩

end NestChart.Format
