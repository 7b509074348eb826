import NestChart.Proofs.Indent.Lexing
import NestChart.Proofs.Text.Slice

/-!
# NestChart.Proofs.Indent.Bytes

A line of an indentation language scanned for strings by byte positions. A `Cursor` stands at a byte
and looks at what follows it; a turn moves it behind one character or behind a whole marker. Each
turn of a scan meets no fault, moves the cursor on and leaves it at a place of the line
(`Cursor.turn_of_append`), so the scan ends, and with the string that is left open.
-/

namespace NestChart.Indent

open Text

/-- A scan of a line that stands at byte `index`, just after a backslash or not. -/
structure Cursor where
  scan : QuoteScan
  escaped : Bool
  index : Nat
  deriving Repr, DecidableEq

namespace Cursor

def start : Cursor := ⟨.code, false, 0⟩

/-- The cursor behind character `c`, or behind the marker that it begins; `cs` follows it. A scan
ends at a comment. -/
def pass (x : Cursor) (c : Char) (cs : Chars) : Option Cursor :=
  let i := x.index + c.utf8Size
  if x.escaped then some ⟨x.scan, false, i⟩
  else
    match x.scan with
    | .code =>
      match QuoteStyle.leading? (c :: cs) with
      | some style => some ⟨.triple style, false, i + 2⟩
      | none => if c = '#' then none else some ⟨if isQuote c then .plain c else .code, false, i⟩
    | .plain q =>
      if c = '\\' then some ⟨.plain q, true, i⟩
      else some ⟨if c = q then .code else .plain q, false, i⟩
    | .triple style =>
      if c = '\\' then some ⟨.triple style, true, i⟩
      else if style.marker.isPrefixOf (c :: cs) then some ⟨.code, false, i + 2⟩
      else some ⟨.triple style, false, i⟩

/-- One turn of the scan of a line; nothing if it ends here. -/
def turn (text : Chars) (x : Cursor) : Except Fault (Option Cursor) := do
  let cut ← cutAt x.index text
  match cut.2 with
  | [] => return none
  | c :: cs => return x.pass c cs

inductive Reached (text : Chars) : Cursor → Prop
  | start : Reached text start
  | turn {x y : Cursor} (h : Reached text x) (ht : x.turn text = .ok (some y)) : Reached text y

/-- Where the scan stands at the end of a line of which `cs` is left. -/
def finish (x : Cursor) (cs : Chars) : QuoteScan := x.scan.finish (if x.escaped then 1 else 0) cs

theorem finish_start (text : Chars) : start.finish text = QuoteScan.code.finish 0 text := rfl

/-- What one turn does where `rest` follows the cursor: it ends the scan, or it passes over some of
it and leaves the same to be found. -/
inductive Turns (x : Cursor) (rest : Chars) : Option Cursor → Prop
  | stop (h : x.finish rest = x.scan) : Turns x rest none
  | move {y : Cursor} {front back : Chars} (hrest : front ++ back = rest) (hne : front ≠ [])
      (hindex : y.index = x.index + byteLength front) (h : x.finish rest = y.finish back) :
      Turns x rest (some y)

namespace Turns

variable {x y : Cursor} {c : Char} {cs back : Chars}

/-- A turn over one character. -/
theorem one (hindex : y.index = x.index + c.utf8Size) (h : x.finish (c :: cs) = y.finish cs) :
    Turns x (c :: cs) (some y) :=
  @move x (c :: cs) y [c] cs rfl (by simp) (by simpa using hindex) h

/-- A turn over a marker. Its quotes take one byte each. -/
theorem marker {style : QuoteStyle} (hm : style.marker ++ back = c :: cs)
    (hindex : y.index = x.index + c.utf8Size + 2) (h : x.finish (c :: cs) = y.finish back) :
    Turns x (c :: cs) (some y) := by
  have hc : c.utf8Size = 1 := by
    rw [style.marker_eq] at hm
    rw [← (List.cons.inj hm).1]
    cases style <;> rfl
  have hlength : byteLength style.marker = 3 := by cases style <;> rfl
  have hne : style.marker ≠ [] := by cases style <;> simp [QuoteStyle.marker]
  refine .move hm hne ?_ h
  rw [hindex, hc, hlength]

end Turns

/-- What the turn sees of the rest decides what it does with it. -/
theorem turns_pass (x : Cursor) (c : Char) (cs : Chars) : Turns x (c :: cs) (x.pass c cs) := by
  obtain ⟨scan, escaped, index⟩ := x
  cases escaped with
  | true => exact .one rfl rfl
  | false =>
    cases scan with
    | code =>
      simp only [pass, Bool.false_eq_true, if_false]
      split
      · rename_i style hstyle
        obtain ⟨back, hback⟩ := QuoteStyle.leading?_eq_some.1 hstyle
        refine .marker hback rfl ?_
        simp only [finish, Bool.false_eq_true, if_false, QuoteScan.finish, hstyle]
        -- The scan passes over a marker in one go, and has the same left as the cursor.
        rw [style.marker_eq] at hback
        obtain ⟨-, rfl⟩ := List.cons.inj hback
        rfl
      · rename_i hnone
        split
        · rename_i hc
          subst hc
          refine .stop ?_
          simp only [finish, Bool.false_eq_true, if_false, QuoteScan.finish, hnone, if_true]
        · rename_i hc
          refine .one rfl ?_
          simp only [finish, Bool.false_eq_true, if_false, QuoteScan.finish, hnone, hc]
    | plain q =>
      simp only [pass, Bool.false_eq_true, if_false]
      split
      · rename_i hc
        refine .one rfl ?_
        simp only [finish, Bool.false_eq_true, if_false, QuoteScan.finish, hc, if_true]
      · rename_i hc
        refine .one rfl ?_
        simp only [finish, Bool.false_eq_true, if_false, QuoteScan.finish, hc]
    | triple style =>
      simp only [pass, Bool.false_eq_true, if_false]
      split
      · rename_i hc
        refine .one rfl ?_
        simp only [finish, Bool.false_eq_true, if_false, QuoteScan.finish, hc, if_true]
      · rename_i hc
        split
        · rename_i hmarker
          obtain ⟨back, hback⟩ := List.isPrefixOf_iff_prefix.1 hmarker
          refine .marker hback rfl ?_
          simp only [finish, Bool.false_eq_true, if_false, QuoteScan.finish, hc, hmarker, if_true]
          rw [style.marker_eq] at hback
          obtain ⟨-, rfl⟩ := List.cons.inj hback
          rfl
        · rename_i hmarker
          refine .one rfl ?_
          simp only [finish, Bool.false_eq_true, if_false, QuoteScan.finish, hc, hmarker]

/-- A turn at a place of the line meets no fault. -/
theorem turn_of_append {x : Cursor} {before rest : Chars} (h : byteLength before = x.index) :
    ∃ y?, x.turn (before ++ rest) = .ok y? ∧ Turns x rest y? := by
  rw [turn, ← h, cutAt_append]
  cases rest with
  | nil => exact ⟨none, rfl, .stop rfl⟩
  | cons c cs => exact ⟨x.pass c cs, rfl, turns_pass x c cs⟩

theorem isPlace_of_reached {text : Chars} {x : Cursor} (h : Reached text x) :
    IsPlace text x.index := by
  induction h with
  | start => exact ⟨[], text, rfl, rfl⟩
  | turn _ ht ih =>
    obtain ⟨before, rest, rfl, hx⟩ := ih
    obtain ⟨_, hy, hturns⟩ := turn_of_append hx
    rw [ht] at hy
    cases hy
    cases hturns with
    | @move _ front back hrest _ hindex _ =>
      exact ⟨before ++ front, back, by rw [List.append_assoc, hrest], by simp [hindex, hx]⟩

/-- The scan of a line moves on with every turn and stays at places of the line. -/
theorem exists_turn_of_reached {text : Chars} {x : Cursor} (h : Reached text x) :
    ∃ y?, x.turn text = .ok y? ∧ ∀ y ∈ y?, x.index < y.index ∧ IsPlace text y.index := by
  obtain ⟨before, rest, rfl, hx⟩ := isPlace_of_reached h
  obtain ⟨y?, hy, hturns⟩ := turn_of_append hx
  refine ⟨y?, hy, ?_⟩
  rintro y rfl
  refine ⟨?_, isPlace_of_reached (h.turn hy)⟩
  cases hturns with
  | move _ hne hindex _ =>
    have hpos := byteLength_pos.2 hne
    omega

theorem exists_stop {text before rest : Chars} {x : Cursor} (h : Reached text x)
    (ht : before ++ rest = text) (hx : byteLength before = x.index) :
    ∃ z, Reached text z ∧ z.turn text = .ok none ∧ z.scan = x.finish rest := by
  induction hn : rest.length using Nat.strongRecOn generalizing before rest x with
  | ind n ih =>
    obtain ⟨y?, hy, hturns⟩ := @turn_of_append x before rest hx
    rw [ht] at hy
    cases hturns with
    | stop hfinish => exact ⟨x, h, hy, hfinish.symm⟩
    | @move y front back hrest hne hindex hfinish =>
      -- Each turn leaves less of the line.
      have hlt : back.length < n := by
        have hpos := List.length_pos_iff.2 hne
        rw [← hn, ← hrest, List.length_append]
        omega
      rw [hfinish]
      exact @ih _ hlt (before ++ front) back y (h.turn hy) (by rw [List.append_assoc, hrest, ht])
        (by rw [byteLength_append, hx, hindex]) rfl

/-- The scan of a line ends with the string that the line leaves open. -/
theorem exists_stop_leftOpen? (text : Chars) :
    ∃ x, Reached text x ∧ x.turn text = .ok none ∧ x.scan.open? = QuoteStyle.leftOpen? text := by
  obtain ⟨z, hz, hstop, hscan⟩ := @exists_stop text [] text start .start rfl rfl
  exact ⟨z, hz, hstop, by rw [hscan, finish_start]; rfl⟩

end Cursor
end NestChart.Indent
