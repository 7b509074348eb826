import NestChart.Text.Basic
import NestChart.Text.Width.Ranges

/-!
# NestChart.Text.Width

Columns that a text takes on a screen. A wide character of East Asia or an emoji takes two, a mark
none and any other character one; but what a character takes depends on what follows it, since a
sequence can be shown as one emoji or one letter. `columns` reads a text from its end.
-/

namespace NestChart

namespace Width

/-- The second half of a letter or sign that is written as one with what stands before it. -/
inductive Ligature
  /-- A letter that may stand under a Khmer letter. -/
  | subscript
  /-- The Hebrew letter lamed. -/
  | lamed
  /-- The Buginese letter ya. -/
  | ya
  /-- The Buginese letter ya with a vowel before it. -/
  | vowelYa
  | tifinagh
  /-- A Tifinagh consonant with the sign before it that ties it to another. -/
  | tiedTifinagh
  /-- A second tone letter of Lisu. -/
  | tone
  /-- The Old Turkic letter i. -/
  | turkicI
  /-- The Kirat Rai vowel e. -/
  | vowelE
  /-- The Kirat Rai vowel ai. -/
  | vowelAi
  deriving Repr, DecidableEq

/-- What stands behind a character, as far as the width of the character depends on it. -/
inductive Follower
  | nothing
  | lineFeed
  /-- A selector for text. -/
  | textSelector
  /-- A selector for emoji. -/
  | emojiSelector
  | emoji
  | skinTone
  /-- Halves of flags. -/
  | flags
  /-- A joiner with an emoji behind it; a selector for emoji may stand before it. -/
  | joinedEmoji (selected : Bool)
  /-- The same, and halves of flags before it, so many. -/
  | joinedFlags (count : Nat)
  /-- An Arabic alef. -/
  | alef
  /-- The second half of a ligature; a joiner may stand before it. -/
  | ligature (l : Ligature) (joined : Bool)
  deriving Repr, DecidableEq

/-- A character that the emoji selector turns into an emoji or leaves one. -/
def isEmoji (c : Char) : Bool := emojiRanges.contains c || textEmojiRanges.contains c

def isFlagHalf (c : Char) : Bool := 0x1F1E6 ≤ c.toNat && c.toNat ≤ 0x1F1FF

def isSkinTone (c : Char) : Bool := 0x1F3FB ≤ c.toNat && c.toNat ≤ 0x1F3FF

def isTifinagh (c : Char) : Bool := (0x2D31 ≤ c.toNat && c.toNat ≤ 0x2D65) || c.toNat == 0x2D6F

/-- An Arabic letter that is written as one with an alef behind it. -/
def isLam (c : Char) : Bool :=
  let n := c.toNat
  n == 0x644 || (0x6B5 ≤ n && n ≤ 0x6B8) || n == 0x76A || n == 0x8A6 || n == 0x8C7

def isAlef (c : Char) : Bool :=
  Ranges.contains [(0x622, 0x623), (0x625, 0x625), (0x627, 0x627), (0x671, 0x673), (0x675, 0x675),
    (0x773, 0x774), (0x870, 0x882)] c

/-- A Khmer letter that may be written under another. -/
def isSubscript (c : Char) : Bool :=
  Ranges.contains [(0x1780, 0x1782), (0x1784, 0x1787), (0x1789, 0x178C), (0x178E, 0x1793),
    (0x1795, 0x1798), (0x179B, 0x179D), (0x17A0, 0x17A0), (0x17A2, 0x17A2), (0x17A7, 0x17A7),
    (0x17AB, 0x17AC), (0x17AF, 0x17AF)] c

/-- A mark that may stand between an Arabic lam and its alef. -/
def isArabicMark (c : Char) : Bool :=
  columnlessRanges.contains c && !([0x605, 0x890, 0x891, 0x8E2, 0x200C, 0x200D].contains c.toNat)

/-- An invisible mark that leaves ligatures as they are. -/
def isIgnoredMark (c : Char) : Bool :=
  Ranges.contains [(0x34F, 0x34F), (0x17B4, 0x17B5), (0x180B, 0x180D), (0x180F, 0x180F),
    (0xFE00, 0xFE0F), (0xE0100, 0xE01EF)] c

/-- The width of a character by itself, and what it is to the character before it. -/
def alone (c : Char) : Int × Follower :=
  let n := c.toNat
  if n = 0xFE0E then (0, .textSelector)
  else if n = 0xFE0F then (0, .emojiSelector)
  else if isFlagHalf c then (1, .flags)
  else if isSkinTone c then (2, .skinTone)
  else if n = 0x17D8 then (3, .nothing)
  else if columnlessRanges.contains c then (0, .nothing)
  else if emojiRanges.contains c then (2, .emoji)
  else if wideRanges.contains c then (2, .nothing)
  else if isAlef c then (1, .alef)
  else if isSubscript c then (1, .ligature .subscript false)
  else if isTifinagh c then (1, .ligature .tifinagh false)
  else if n = 0x5DC then (1, .ligature .lamed false)
  else if n = 0x1A10 then (1, .ligature .ya false)
  else if n = 0xA4FC ∨ n = 0xA4FD then (1, .ligature .tone false)
  else if n = 0x10C03 then (1, .ligature .turkicI false)
  else if n = 0x16D67 then (1, .ligature .vowelE false)
  else if n = 0x16D68 then (1, .ligature .vowelAi false)
  else (1, .nothing)

/-- The width that the first half of a ligature adds, and what it is to the character before it;
nothing if the character forms none with the second half. -/
def tied? (c : Char) (l : Ligature) (joined : Bool) : Option (Int × Follower) :=
  let n := c.toNat
  match l with
  | .subscript => if n = 0x17D2 then some (-1, .nothing) else none
  | .lamed => if joined ∧ n = 0x5D0 then some (0, .nothing) else none
  | .ya => if joined ∧ n = 0x1A17 then some (0, .ligature .vowelYa false) else none
  | .vowelYa => if n = 0x1A15 then some (0, .nothing) else none
  | .tifinagh =>
    if n = 0x2D7F then some (1, .ligature .tiedTifinagh false)
    else if joined && isTifinagh c then some (0, .nothing)
    else none
  | .tiedTifinagh => if isTifinagh c then some (-1, .nothing) else none
  | .tone => if 0xA4F8 ≤ n ∧ n ≤ 0xA4FB then some (0, .nothing) else none
  | .turkicI => if joined ∧ n = 0x10C32 then some (0, .nothing) else none
  | .vowelE =>
    if n = 0x16D63 ∨ n = 0x16D69 then some (0, .nothing)
    else if n = 0x16D67 then some (0, .ligature .vowelAi false)
    else if n = 0x16D68 then some (1, .ligature .vowelE false)
    else none
  | .vowelAi => if n = 0x16D63 then some (0, .nothing) else none

/-- What a character above the first block adds in front of its follower. -/
def inFrontOf (c : Char) (follower : Follower) : Int × Follower :=
  let isSelector := c.toNat = 0xFE0F
  let isJoiner := c.toNat = 0x200D
  match follower with
  | .textSelector => if plainEmojiRanges.contains c then (1, .nothing) else alone c
  | .emoji | .flags | .skinTone =>
    if isJoiner then (0, .joinedEmoji false)
    else if follower = .skinTone ∧ tonedRanges.contains c then (0, .emoji)
    else alone c
  | .joinedEmoji _ =>
    if isSelector then (0, .joinedEmoji true)
    else if isFlagHalf c then (1, .joinedFlags 1)
    else if isSkinTone c then (0, .skinTone)
    else if emojiRanges.contains c then (0, .emoji)
    else alone c
  | .joinedFlags count =>
    if isJoiner ∧ 1 < count then (0, .joinedEmoji false)
    else if isFlagHalf c then (if count % 2 = 1 then -1 else 3, .joinedFlags (count + 1))
    else alone c
  | .alef =>
    if isLam c then (0, .nothing)
    else if isArabicMark c then (0, .alef)
    else alone c
  | .ligature l joined =>
    if isJoiner then (0, .ligature l true)
    else if isIgnoredMark c then (0, follower)
    else (tied? c l joined).getD (alone c)
  | .nothing | .lineFeed | .emojiSelector => alone c

/-- What a character adds to the width of the text that it stands in front of. -/
def add (c : Char) (follower : Follower) : Int × Follower :=
  if follower = .emojiSelector ∧ isEmoji c then (2, .emoji)
  else if follower = .joinedEmoji true ∧ isEmoji c then (0, .emoji)
  else if c.toNat ≤ 0xA0 then
    if c = '\n' then (1, .lineFeed)
    else if c = '\r' ∧ follower = .lineFeed then (0, .nothing)
    else (1, .nothing)
  else inFrontOf c follower

/-- The width of a text, and what its beginning is to a character before it. -/
def measure : Chars → Int × Follower
  | [] => (0, .nothing)
  | c :: cs =>
    let (width, follower) := measure cs
    let (added, first) := add c follower
    (width + added, first)

end Width

/-- Columns that a text takes; a control character in it counts as one. -/
def columns (text : Chars) : Nat := (Width.measure text).1.toNat

end NestChart
