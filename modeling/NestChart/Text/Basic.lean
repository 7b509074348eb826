/-!
# NestChart.Text.Basic

Texts as lists of characters: their length in UTF-8 bytes, blanks and trimming, cutting into lines
and searching. Positions shown to a reader count bytes, widths count characters.
-/

namespace NestChart

/-- A text, character by character. -/
abbrev Chars := List Char

/-- The white space of Unicode: tabs, line ends and spaces of every width. -/
def isBlank (c : Char) : Bool :=
  let n := c.toNat
  (0x09 ≤ n && n ≤ 0x0D) || n == 0x20 || n == 0x85 || n == 0xA0 || n == 0x1680 ||
  (0x2000 ≤ n && n ≤ 0x200A) || n == 0x2028 || n == 0x2029 || n == 0x202F || n == 0x205F ||
  n == 0x3000

namespace Text

/-- Bytes that the text takes in UTF-8. -/
def byteLength : Chars → Nat
  | [] => 0
  | c :: cs => c.utf8Size + byteLength cs

@[simp] theorem byteLength_nil : byteLength [] = 0 := rfl

@[simp] theorem byteLength_cons (c : Char) (cs : Chars) :
    byteLength (c :: cs) = c.utf8Size + byteLength cs := rfl

@[simp] theorem byteLength_append (a b : Chars) :
    byteLength (a ++ b) = byteLength a + byteLength b := by
  induction a with
  | nil => simp
  | cons c a ih => simp [ih, Nat.add_assoc]

theorem byteLength_eq_zero {cs : Chars} : byteLength cs = 0 ↔ cs = [] := by
  cases cs with
  | nil => simp
  | cons c cs => simp [Nat.ne_of_gt c.utf8Size_pos]

/-! ## Blanks at the ends -/

def trimStart (cs : Chars) : Chars := cs.dropWhile isBlank

def trimEnd (cs : Chars) : Chars := (cs.reverse.dropWhile isBlank).reverse

/-- The text without the blanks at its two ends. -/
def trim (cs : Chars) : Chars := trimEnd (trimStart cs)

theorem length_trimStart_le (cs : Chars) : (trimStart cs).length ≤ cs.length :=
  (List.dropWhile_sublist _).length_le

theorem length_trimEnd_le (cs : Chars) : (trimEnd cs).length ≤ cs.length := by
  have := (List.dropWhile_sublist isBlank (l := cs.reverse)).length_le
  simpa [trimEnd] using this

/-! ## Lines -/

/-- Cuts after each line end; `current` holds the line read so far, last character first. -/
def linesFrom (current : Chars) : Chars → List Chars
  | [] => if current.isEmpty then [] else [current.reverse]
  | c :: cs =>
    if c = '\n' then (c :: current).reverse :: linesFrom [] cs
    else linesFrom (c :: current) cs

/-- The physical lines of a text, each with the line end that closes it. -/
def physicalLines (cs : Chars) : List Chars := linesFrom [] cs

/-- Cuts between line ends; `current` holds the line read so far, last character first. -/
def splitFrom (current : Chars) : Chars → List Chars
  | [] => [current.reverse]
  | c :: cs =>
    if c = '\n' then current.reverse :: splitFrom [] cs
    else splitFrom (c :: current) cs

/-- The lines between the line ends; a text without one is a single line. -/
def splitLines (cs : Chars) : List Chars := splitFrom [] cs

/-- Puts a line end between each two lines. -/
def joinLines (ls : List Chars) : Chars := ['\n'].intercalate ls

/-! ## Search -/

/-- Whether `needle` occurs somewhere in the text. -/
def contains (needle : Chars) : Chars → Bool
  | [] => needle.isEmpty
  | c :: cs => needle.isPrefixOf (c :: cs) || contains needle cs

/-- What follows `start` in a text that begins with it. -/
def after? (start cs : Chars) : Option Chars :=
  if start.isPrefixOf cs then some (cs.drop start.length) else none

theorem after?_append {start text rest : Chars} (h : after? start text = some rest) :
    start ++ rest = text := by
  unfold after? at h
  split at h
  · rename_i hp
    cases h
    obtain ⟨t, ht⟩ := List.isPrefixOf_iff_prefix.1 hp
    subst ht
    simp
  · cases h

/-- What precedes the character `c` in a text that ends with it. -/
def beforeLast? (c : Char) (cs : Chars) : Option Chars :=
  if cs.getLast? = some c then some cs.dropLast else none

end Text
end NestChart
