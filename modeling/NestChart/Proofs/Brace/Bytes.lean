import NestChart.Proofs.Brace.Statement
import NestChart.Proofs.Text.Slice

/-!
# NestChart.Proofs.Brace.Bytes

A line of a brace language taken apart by byte positions. The scans count bytes as they go and say
where to cut; each cut, each length taken away and each part that is read in turn is checked.
`Parts.readWith` is one reading, which reads the parts by `call`: it gives only shorter texts to it
(`readWith_onShorter`). So a reading of any depth beyond the length of the text meets no fault and
gives the parts (`read_eq`).
-/

namespace NestChart.Brace

open Text

/-! ## Comments -/

namespace Comment

/-- The byte of the first comment mark outside literals that does not begin the text. The characters
left to scan begin at byte `i`. -/
def markFrom (text : Chars) (l : Literal) (i : Nat) : Chars → Except Fault (Option Nat)
  | [] => .ok none
  | c :: cs =>
    if l = .outside ∧ c = '/' ∧ 0 < i then do
      let cut ← cutAt i text
      if isMark cut.2 then return some i else markFrom text (l.next c) (i + c.utf8Size) cs
    else markFrom text (l.next c) (i + c.utf8Size) cs

def markAt (text : Chars) : Except Fault (Option Nat) := markFrom text .outside 0 text

theorem markFrom_append {before : Chars} (hne : before ≠ []) (l : Literal) (cs : Chars) :
    markFrom (before ++ cs) l (byteLength before) cs =
      .ok ((cutFrom l cs).map fun r => byteLength (before ++ r.1)) := by
  induction cs generalizing before l with
  | nil => rfl
  | cons c cs ih =>
    have hrest : markFrom (before ++ c :: cs) (l.next c) (byteLength before + c.utf8Size) cs =
        .ok ((cutFrom (l.next c) cs).map fun r => byteLength (before ++ c :: r.1)) := by
      have h := @ih (before ++ [c]) (by simp) (l.next c)
      simpa using h
    have hpos := byteLength_pos.2 hne
    rw [markFrom, cutFrom, cutAt_append]
    by_cases hm : (l = .outside && isMark (c :: cs)) = true
    · rw [if_pos hm]
      simp only [Bool.and_eq_true, decide_eq_true_eq] at hm
      obtain ⟨rfl, hmark⟩ := hm
      have hslash : c = '/' := by simpa using head?_of_isMark hmark
      rw [if_pos ⟨rfl, hslash, hpos⟩]
      simp [bind, Except.bind, hmark, pure, Except.pure]
    · rw [if_neg hm, Option.map_map]
      split
      · rename_i hc
        have hmark : isMark (c :: cs) = false := by simpa [hc.1] using hm
        simp only [bind, Except.bind, hmark, Bool.false_eq_true, if_false]
        exact hrest
      · exact hrest

/-- The scan meets no fault, and finds where the comment is cut off. -/
theorem markAt_eq (text : Chars) :
    markAt text = .ok ((cut? text).map fun r => byteLength r.1) := by
  cases text with
  | nil => rfl
  | cons c cs =>
    have h := @markFrom_append [c] (by simp) (Literal.outside.next c) cs
    simp only [List.singleton_append, byteLength_cons, byteLength_nil, Nat.add_zero] at h
    rw [markAt, markFrom, if_neg (by simp), Nat.zero_add, h, cut?, Option.map_map]
    rfl

end Comment

/-! ## Braces -/

namespace Block

/-- The byte behind the first opening brace of a block that does not end the text, or of the first
closing one that does not begin it. The characters left to scan begin at byte `i`. -/
def splitFrom (length : Nat) (p : Position) (i : Nat) : Chars → Option Nat
  | [] => none
  | c :: cs =>
    if p.opensBlock c && i + 1 < length then some (i + 1)
    else if p.closesBlock c && 0 < i then some i
    else splitFrom length (p.next c) (i + c.utf8Size) cs

def splitAt? (text : Chars) : Option Nat := splitFrom (byteLength text) .start 0 text

theorem Position.eq_of_opensBlock {p : Position} {c : Char} (h : p.opensBlock c = true) :
    c = '{' := by
  simp only [opensBlock, Bool.and_eq_true, beq_iff_eq] at h
  exact h.1.1

theorem splitFrom_append (before : Chars) (p : Position) (cs : Chars) :
    splitFrom (byteLength (before ++ cs)) p (byteLength before) cs =
      (cutFrom p before.isEmpty cs).map fun r => byteLength (before ++ r.1) := by
  induction cs generalizing before p with
  | nil => rfl
  | cons c cs ih =>
    have hrest : splitFrom (byteLength (before ++ c :: cs)) (p.next c)
        (byteLength before + c.utf8Size) cs =
          (cutFrom (p.next c) false cs).map fun r => byteLength (before ++ c :: r.1) := by
      have h := ih (before ++ [c]) (p.next c)
      have hfirst : (before ++ [c]).isEmpty = false := by simp
      rw [hfirst] at h
      simpa using h
    -- An opening brace takes one byte, so the next byte is the end just when no character follows.
    have hopen : (p.opensBlock c && byteLength before + 1 < byteLength (before ++ c :: cs)) =
        (p.opensBlock c && !cs.isEmpty) := by
      cases ho : p.opensBlock c with
      | false => rfl
      | true =>
        have hone : c.utf8Size = 1 := by rw [Position.eq_of_opensBlock ho]; rfl
        rw [byteLength_append, byteLength_cons, hone, Bool.true_and, Bool.true_and]
        cases cs with
        | nil => simp
        | cons d cs =>
          have hd := d.utf8Size_pos
          rw [List.isEmpty_cons, Bool.not_false, decide_eq_true_iff, byteLength_cons]
          omega
    have hfirst : decide (0 < byteLength before) = !before.isEmpty := by
      rw [Bool.eq_iff_iff, decide_eq_true_eq, byteLength_pos]
      simp
    rw [splitFrom, cutFrom, hopen, hfirst]
    split
    · rename_i hc
      have hopens := (Bool.and_eq_true_iff.1 hc).1
      rw [Position.eq_of_opensBlock hopens, Option.map_some, byteLength_append]
      rfl
    · split
      · rw [Option.map_some, List.append_nil]
      · rw [hrest, Option.map_map]
        rfl

theorem splitAt?_eq (text : Chars) :
    splitAt? text = (cut? text).map fun r => byteLength r.1 := splitFrom_append [] .start text

/-- In front of the place where a text is cut there is no other one. -/
theorem cutFrom_of_prefix {p : Position} {isFirst : Bool} {text left right : Chars}
    (h : cutFrom p isFirst text = some (left, right)) {front : Chars} (hf : front <+: left) :
    cutFrom p isFirst front = none := by
  induction text generalizing p isFirst left front with
  | nil => cases h
  | cons c cs ih =>
    cases front with
    | nil => rfl
    | cons d front =>
      rw [cutFrom] at h
      split at h
      · -- The opening brace itself is now the last character.
        rename_i hc
        cases h
        obtain ⟨rfl, hnil⟩ := List.cons_prefix_cons.1 hf
        rw [List.prefix_nil] at hnil
        have hopens := (Bool.and_eq_true_iff.1 hc).1
        simp [hnil, cutFrom, Position.closesBlock, Position.eq_of_opensBlock hopens]
      split at h
      · cases h
        rw [List.prefix_nil] at hf
        cases hf
      · rename_i hopens hcloses
        obtain ⟨⟨l, r⟩, hr, he⟩ := Option.map_eq_some_iff.1 h
        cases he
        obtain ⟨rfl, htail⟩ := List.cons_prefix_cons.1 hf
        have hcs : cs.isEmpty = false := by
          cases cs with
          | nil => cases hr
          | cons => rfl
        have hopens : p.opensBlock d = false := by simpa [hcs] using hopens
        rw [cutFrom, hopens, if_neg hcloses, ih hr htail]
        rfl

end Block

/-! ## Statements -/

namespace Statement

/-- The bytes of a piece without its outer blanks, if more than a terminator is left. -/
def trimRange (text : Chars) (start stop : Nat) : Except Fault (List (Nat × Nat)) := do
  let piece ← cutOut text start stop
  let lead ← lengthLeft (byteLength piece) (byteLength (trimStart piece))
  if trim piece = [] ∨ trim piece = [';'] then return []
  else return [(start + lead, start + lead + byteLength (trim piece))]

/-- The bytes of the statements. The piece that is being read begins at byte `first`, the characters
left to scan at byte `i`. -/
def rangesFrom (text : Chars) (s : Scan) (first i : Nat) :
    Chars → Except Fault (List (Nat × Nat))
  | [] => trimRange text first (byteLength text)
  | c :: cs =>
    if s.isTop && c == ';' then do
      let range ← trimRange text first (i + 1)
      let rest ← rangesFrom text (s.next c) (i + 1) (i + c.utf8Size) cs
      return range ++ rest
    else rangesFrom text (s.next c) first (i + c.utf8Size) cs

def ranges (text : Chars) : Except Fault (List (Nat × Nat)) := rangesFrom text .start 0 0 text

def Segment.range (g : Segment) : Nat × Nat := (g.start, g.stop)

theorem trimRange_append (a p b : Chars) :
    trimRange (a ++ p ++ b) (byteLength a) (byteLength a + byteLength p) =
      .ok ((place (byteLength a) [p]).map Segment.range) := by
  have hlead : lengthLeft (byteLength p) (byteLength (trimStart p)) =
      .ok (byteLength (p.takeWhile isBlank)) := by
    have hlen : byteLength p = byteLength (p.takeWhile isBlank) + byteLength (trimStart p) := by
      rw [← byteLength_append, takeWhile_append_trimStart]
    rw [lengthLeft, if_pos (by omega), hlen, Nat.add_sub_cancel]
  have hcut : cutOut (a ++ p ++ b) (byteLength a) (byteLength a + byteLength p) = .ok p :=
    cutOut_eq_ok ⟨a, b, rfl, rfl⟩
  rw [trimRange, hcut]
  simp only [bind, Except.bind, hlead, place]
  split <;> rfl

theorem rangesFrom_append (front current : Chars) (s : Scan) (cs : Chars) :
    rangesFrom (front ++ current.reverse ++ cs) s (byteLength front)
        (byteLength (front ++ current.reverse)) cs =
      .ok ((place (byteLength front) (piecesFrom s current cs)).map Segment.range) := by
  induction cs generalizing front current s with
  | nil =>
    have h := trimRange_append front current.reverse []
    rw [List.append_nil, ← byteLength_append] at h
    rw [List.append_nil, rangesFrom, h, piecesFrom]
  | cons c cs ih =>
    rw [rangesFrom, piecesFrom]
    split
    · -- The terminator takes one byte and belongs to the piece that it ends.
      rename_i hcut
      have hc : c = ';' := by simpa using (Bool.and_eq_true_iff.1 hcut).2
      have hone : c.utf8Size = 1 := by rw [hc]; rfl
      have hpiece := trimRange_append front (c :: current).reverse cs
      have hrest := ih (front ++ (c :: current).reverse) [] (s.next c)
      simp only [List.reverse_cons, List.reverse_nil, List.append_nil, List.append_assoc,
        List.singleton_append, byteLength_append, byteLength_cons, byteLength_nil, hone,
        Nat.add_assoc, Nat.add_zero] at hpiece hrest ⊢
      rw [hpiece]
      simp only [bind, Except.bind, hrest]
      rw [place_cons _ _ (piecesFrom (s.next c) [] cs), List.map_append]
      simp [pure, Except.pure, hone]
    · have h := ih front (c :: current) (s.next c)
      simpa [Nat.add_assoc] using h

theorem ranges_eq (text : Chars) :
    ranges text = .ok ((segments text).map Segment.range) := rangesFrom_append [] [] .start text

theorem cutOut_of_mem_segments {text : Chars} {g : Segment} (h : g ∈ segments text) :
    cutOut text g.start g.stop = .ok g.text := by
  obtain ⟨i, hi, he⟩ := (fits_of_mem_segments h).standsAt
  simp only [Nat.zero_add] at hi he
  rw [Segment.stop, he]
  exact cutOut_eq_ok hi

end Statement

/-! ## Labels -/

def Shape.labelEnd? (text : Chars) : Option Nat := (cutLabel? text).map fun r => byteLength r.1

theorem Shape.prefix_of_label? {text label rest : Chars} (h : label? text = some (label, rest)) :
    label ≠ [] ∧ label <+: text := by
  obtain ⟨behind, he, -, hlast⟩ := label?_eq_some h
  refine ⟨?_, behind, he⟩
  -- A label ends with a colon.
  rintro rfl
  cases hlast

/-! ## Parts -/

namespace Parts

/-- How the parts that a text falls into are read. -/
abbrev Reader := Chars → Nat → Except Fault Parts

/-- Reads what is left of a text without the blanks in front of it. -/
def readRest (call : Reader) (text rest : Chars) (start : Nat) : Except Fault Parts := do
  let moved ← lengthLeft (byteLength text) (byteLength rest)
  call rest (start + moved)

/-- The statements of a line, each cut out by its bytes. -/
def readStatements (body : Chars) (start : Nat) : Except Fault (List Piece) := do
  let ranges ← Statement.ranges body
  ranges.mapM fun r => do
    let text ← cutOut body r.1 r.2
    return ⟨text, start + r.1⟩

/-- A text without a comment behind it or a brace inside it. -/
def readUndivided (call : Reader) (text : Chars) (start : Nat) : Except Fault Parts :=
  let (body, opens) := splitOpener text
  match classify text with
  | .comment => .ok (.comment ⟨text, start⟩)
  | .directive => .ok (.directive ⟨text, start⟩)
  | .controlHeader =>
    match Shape.labelEnd? text with
    | some n => do
      let cut ← cutAt n text
      let rest ← readRest call text (trimStart cut.2) start
      return .label ⟨cut.1, start⟩ rest
    | none => .ok (.header ⟨body, start⟩ opens)
  | .prototype => .ok (.declaration .prototype ⟨body, start⟩ opens)
  | .declaration => .ok (.declaration .declaration ⟨body, start⟩ opens)
  | .statement => do
    let pieces ← readStatements body start
    return .statements pieces opens

/-- A text without a comment behind it. -/
def readBlocks (call : Reader) (text : Chars) (start : Nat) : Except Fault Parts :=
  match Block.splitAt? text with
  | some n => do
    let cut ← cutAt n text
    let left ← call (trimEnd cut.1) start
    let right ← readRest call text (trimStart cut.2) start
    return .both left right
  | none => readUndivided call text start

/-- A text that is neither a brace nor a directive, with a comment from byte `n` on or without. -/
def readBare (call : Reader) (text : Chars) (start : Nat) : Option Nat → Except Fault Parts
  | some n => do
    let cut ← cutAt n text
    let code ← call (trimEnd cut.1) start
    return .beside code ⟨cut.2, start + n⟩
  | none => readBlocks call text start

/-- One reading of a text that begins at byte `start` of the source. -/
def readWith (call : Reader) (text : Chars) (start : Nat) : Except Fault Parts :=
  match Block.afterClose? text with
  | some rest => do
    let parts ← readRest call text rest start
    return .closer parts
  | none =>
    if text.isEmpty then .ok .nothing
    else if Block.isLoneOpen text then .ok .opener
    else if isDirective text then .ok (.directive ⟨text, start⟩)
    else do
      let mark? ← Comment.markAt text
      readBare call text start mark?

/-- The reader that refuses a part that is no shorter than the text. -/
def onShorter (text : Chars) (call : Reader) : Reader := fun part start =>
  if byteLength part < byteLength text then call part start else .error .part

/-- A reading of at most `depth` readings inside each other. -/
def read : Nat → Reader
  | 0 => fun _ _ => .error .depth
  | depth + 1 => readWith (read depth)

/-! ### One reading -/

section One

variable (call : Reader) {text : Chars} (start : Nat)

theorem readRest_of_standsAt {rest : Chars} {i : Nat} (h : StandsAt text rest i) :
    readRest call text rest start = call rest (start + (byteLength text - byteLength rest)) := by
  rw [readRest, lengthLeft_of_standsAt h]
  rfl

theorem readStatements_eq (body : Chars) :
    readStatements body start =
      .ok ((Statement.segments body).map fun g => ⟨g.text, start + g.start⟩) := by
  have hpieces : ∀ gs : List Statement.Segment, (∀ g ∈ gs, g ∈ Statement.segments body) →
      (gs.map Statement.Segment.range).mapM (fun r => do
        let text ← cutOut body r.1 r.2
        return (⟨text, start + r.1⟩ : Piece)) =
          .ok (gs.map fun g => ⟨g.text, start + g.start⟩) := by
    intro gs hgs
    induction gs with
    | nil => rfl
    | cons g gs ih =>
      have hcut := Statement.cutOut_of_mem_segments (hgs g (by simp))
      have hrest := ih fun k hk => hgs k (by simp [hk])
      rw [List.map_cons, List.mapM_cons, hrest]
      simp only [Statement.Segment.range, hcut, bind, Except.bind]
      rfl
  rw [readStatements, Statement.ranges_eq]
  exact hpieces _ fun _ h => h

theorem readWith_closer (cs : Chars) :
    readWith call ('}' :: cs) start = (call (trimStart cs)
      (start + (byteLength ('}' :: cs) - byteLength (trimStart cs)))).map .closer := by
  have hrest := readRest_of_standsAt call start (StandsAt.trimStart_right ['}'] cs)
  rw [List.singleton_append] at hrest
  rw [readWith, show Block.afterClose? ('}' :: cs) = some (trimStart cs) from rfl]
  simp only [hrest]
  cases call (trimStart cs) _ <;> rfl

theorem readWith_directive (h : isDirective text = true) :
    readWith call text start = .ok (.directive ⟨text, start⟩) := by
  obtain ⟨cs, rfl⟩ : ∃ cs, text = '#' :: cs := by
    cases text <;> simp_all [isDirective]
  rfl

theorem readWith_of_bare (h : Bare text) :
    readWith call text start =
      readBare call text start ((Comment.cut? text).map fun r => byteLength r.1) := by
  have he : text.isEmpty = false := by simpa using h.ne_nil
  rw [readWith, h.no_closer]
  simp only [he, h.not_lone, h.not_directive, Bool.false_eq_true, if_false, Comment.markAt_eq]
  rfl

theorem readWith_beside {code behind : Chars} (h : Bare text)
    (hm : Comment.cut? text = some (code, behind)) :
    readWith call text start = (call (trimEnd code) start).map fun parts =>
      .beside parts ⟨behind, start + byteLength code⟩ := by
  obtain ⟨rfl, -, -⟩ := Comment.cut?_append hm
  rw [readWith_of_bare call start h, hm]
  simp only [Option.map_some, readBare, cutAt_append, bind, Except.bind]
  cases call (trimEnd code) start <;> rfl

theorem readWith_both {left right : Chars} (h : Bare text) (hm : Comment.cut? text = none)
    (hb : Block.cut? text = some (left, right)) :
    readWith call text start = (call (trimEnd left) start).bind fun before =>
      (call (trimStart right) (start + (byteLength text - byteLength (trimStart right)))).map
        fun behind => .both before behind := by
  obtain ⟨rfl, -, -⟩ := Block.cut?_append hb
  have hrest := readRest_of_standsAt call start (StandsAt.trimStart_right left right)
  rw [readWith_of_bare call start h, hm]
  simp only [Option.map_none, readBare, readBlocks, Block.splitAt?_eq, hb, Option.map_some,
    cutAt_append, bind, Except.bind, hrest]
  cases call (trimEnd left) start with
  | error => rfl
  | ok => cases call (trimStart right) _ <;> rfl

theorem readWith_undivided (h : Undivided text) :
    readWith call text start = readUndivided call text start := by
  rw [readWith_of_bare call start h.toBare, h.no_comment]
  simp only [Option.map_none, readBare, readBlocks, Block.splitAt?_eq, h.no_brace]

theorem readUndivided_label {label rest : Chars} (hk : classify text = .controlHeader)
    (hl : Shape.label? text = some (label, rest)) :
    readUndivided call text start =
      (call rest (start + (byteLength text - byteLength rest))).map (.label ⟨label, start⟩) := by
  obtain ⟨⟨front, back⟩, hcut, he⟩ := Option.map_eq_some_iff.1 hl
  cases he
  obtain ⟨rfl, -⟩ := Shape.cutLabel?_append hcut
  have hrest := readRest_of_standsAt call start (StandsAt.trimStart_right front back)
  simp only [readUndivided, hk, Shape.labelEnd?, hcut, Option.map_some, cutAt_append, bind,
    Except.bind, hrest]
  cases call (trimStart back) _ <;> rfl

theorem readUndivided_of_no_label (h : Undivided text)
    (hl : classify text = .controlHeader → Shape.label? text = none) :
    readUndivided call text start = .ok (ofText text start) := by
  rw [ofText_undivided h]
  cases hk : classify text with
  | controlHeader =>
    have hnone := hl hk
    have hend : Shape.labelEnd? text = none := by
      rw [Shape.label?, Option.map_eq_none_iff] at hnone
      rw [Shape.labelEnd?, hnone]
      rfl
    simp only [readUndivided, hk, hend, hnone]
  | statement =>
    simp only [readUndivided, hk, readStatements_eq, bind, Except.bind]
    rfl
  | _ => simp only [readUndivided, hk]

end One

/-! ### Readings inside readings -/

theorem byteLength_trimStart_le (cs : Chars) : byteLength (trimStart cs) ≤ byteLength cs := by
  have h := (StandsAt.trimStart_right [] cs).stop_le
  rw [List.nil_append] at h
  omega

theorem byteLength_trimEnd_le (cs : Chars) : byteLength (trimEnd cs) ≤ byteLength cs := by
  have h := (StandsAt.trimEnd cs).stop_le
  omega

theorem onShorter_of_lt (call : Reader) {text part : Chars}
    (h : byteLength part < byteLength text) (start : Nat) :
    onShorter text call part start = call part start := if_pos h

/-- Each part that is read is shorter than the text. -/
theorem readWith_onShorter (call : Reader) (text : Chars) (start : Nat) :
    readWith (onShorter text call) text start = readWith call text start := by
  cases text using ofText_induction with
  | nil => rfl
  | closer cs =>
    have hlt : byteLength (trimStart cs) < byteLength ('}' :: cs) := by
      have hle := byteLength_trimStart_le cs
      have hpos := Char.utf8Size_pos '}'
      rw [byteLength_cons]
      omega
    rw [readWith_closer, readWith_closer, onShorter_of_lt call hlt]
  | opener => rfl
  | directive text hd => rw [readWith_directive _ _ hd, readWith_directive _ _ hd]
  | beside text code behind hbare hm =>
    obtain ⟨he, -, hne⟩ := Comment.cut?_append hm
    have hlt : byteLength (trimEnd code) < byteLength text := by
      have hle := byteLength_trimEnd_le code
      have hpos := byteLength_pos.2 hne
      rw [← he, byteLength_append]
      omega
    rw [readWith_beside _ _ hbare hm, readWith_beside _ _ hbare hm, onShorter_of_lt call hlt]
  | both text left right hbare hm hb =>
    obtain ⟨he, hleft, hright⟩ := Block.cut?_append hb
    have hlt : byteLength (trimEnd left) < byteLength text ∧
        byteLength (trimStart right) < byteLength text := by
      have hl := byteLength_pos.2 hleft
      have hr := byteLength_pos.2 hright
      have hle := byteLength_trimEnd_le left
      have hre := byteLength_trimStart_le right
      rw [← he, byteLength_append]
      omega
    rw [readWith_both _ _ hbare hm hb, readWith_both _ _ hbare hm hb, onShorter_of_lt call hlt.1,
      onShorter_of_lt call hlt.2]
  | undivided text hu =>
    rw [readWith_undivided _ _ hu, readWith_undivided _ _ hu]
    by_cases hl : classify text = .controlHeader → Shape.label? text = none
    · rw [readUndivided_of_no_label _ _ hu hl, readUndivided_of_no_label _ _ hu hl]
    · rw [Classical.not_imp, ← ne_eq, Option.ne_none_iff_exists'] at hl
      obtain ⟨hk, ⟨label, rest⟩, hlabel⟩ := hl
      have hlt : byteLength rest < byteLength text := by
        obtain ⟨behind, he, hrest, -⟩ := Shape.label?_eq_some hlabel
        have hpos := byteLength_pos.2 (Shape.prefix_of_label? hlabel).1
        have hle := byteLength_trimStart_le behind
        rw [hrest, ← he, byteLength_append]
        omega
      rw [readUndivided_label _ _ hk hlabel, readUndivided_label _ _ hk hlabel,
        onShorter_of_lt call hlt]

/-- The parts of a text are what a reading gives if its parts are read right. -/
theorem readWith_ofText (text : Chars) (start : Nat) :
    readWith (fun part start => .ok (ofText part start)) text start = .ok (ofText text start) := by
  cases text using ofText_induction with
  | nil => rw [ofText_nil]; rfl
  | closer cs =>
    rw [readWith_closer, @ofText_closer ('}' :: cs) _ rfl]
    rfl
  | opener => rw [ofText_opener]; rfl
  | directive text hd => rw [readWith_directive _ _ hd, ofText_directive hd]
  | beside text code behind hbare hm =>
    rw [readWith_beside _ _ hbare hm, ofText_beside hbare hm]
    rfl
  | both text left right hbare hm hb =>
    rw [readWith_both _ _ hbare hm hb, ofText_both hbare hm hb]
    rfl
  | undivided text hu =>
    rw [readWith_undivided _ _ hu]
    by_cases hl : classify text = .controlHeader → Shape.label? text = none
    · rw [readUndivided_of_no_label _ _ hu hl]
    · rw [Classical.not_imp, ← ne_eq, Option.ne_none_iff_exists'] at hl
      obtain ⟨hk, ⟨label, rest⟩, hlabel⟩ := hl
      rw [readUndivided_label _ _ hk hlabel, ofText_undivided hu]
      simp only [hk, hlabel]
      rfl

/-- A reading that may go deeper than the text is long meets no fault and gives the parts. -/
theorem read_eq {depth : Nat} {text : Chars} (h : byteLength text < depth) (start : Nat) :
    read depth text start = .ok (ofText text start) := by
  induction depth generalizing text start with
  | zero => omega
  | succ depth ih =>
    -- For the parts, which are shorter than the text, the smaller depth is enough.
    have hcall : onShorter text (read depth) =
        onShorter text fun part start => .ok (ofText part start) := by
      funext part i
      unfold onShorter
      split
      · exact ih (by omega) i
      · rfl
    calc read (depth + 1) text start = readWith (read depth) text start := rfl
      _ = readWith (onShorter text (read depth)) text start := (readWith_onShorter _ _ _).symm
      _ = readWith (fun part start => .ok (ofText part start)) text start := by
        rw [hcall, readWith_onShorter]
      _ = .ok (ofText text start) := readWith_ofText text start

end Parts
end NestChart.Brace
