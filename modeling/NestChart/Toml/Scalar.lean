import NestChart.Text.Basic
import NestChart.Value

/-!
# NestChart.Toml.Scalar

The values of TOML that are written in one word: booleans, numbers, dates and times.
-/

namespace NestChart.Toml.Scalar

/-- The digits without the underscores, each of which stands between two digits. -/
def digitsFrom (isDigit : Char → Bool) (behindDigit : Bool) : Chars → Option Chars
  | [] => if behindDigit then some [] else none
  | c :: cs =>
    if isDigit c then (digitsFrom isDigit true cs).map (c :: ·)
    else if c = '_' && behindDigit then digitsFrom isDigit false cs
    else none

def digits? (isDigit : Char → Bool) (cs : Chars) : Option Chars := digitsFrom isDigit false cs

def digitValue (c : Char) : Nat :=
  if c.isDigit then c.toNat - '0'.toNat else c.toLower.toNat - 'a'.toNat + 10

def numberOf (base : Nat) (digits : Chars) : Nat :=
  digits.foldl (fun n c => n * base + digitValue c) 0

/-- Digits of a decimal number; only zero itself begins with a zero. -/
def decimal? (cs : Chars) : Option Chars := do
  let ds ← digits? Char.isDigit cs
  if ds.head? = some '0' && 1 < ds.length then none else some ds

/-- Takes a sign off the head; the flag says that it is a minus. -/
def splitSign : Chars → Bool × Chars
  | '-' :: cs => (true, cs)
  | '+' :: cs => (false, cs)
  | cs => (false, cs)

def isHexDigit (c : Char) : Bool :=
  c.isDigit || ('a' ≤ c && c ≤ 'f') || ('A' ≤ c && c ≤ 'F')

def int? (cs : Chars) : Option Int :=
  match cs with
  | '0' :: 'x' :: ds => (digits? isHexDigit ds).map fun ds => numberOf 16 ds
  | '0' :: 'o' :: ds => (digits? (fun c => '0' ≤ c && c ≤ '7') ds).map fun ds => numberOf 8 ds
  | '0' :: 'b' :: ds => (digits? (fun c => c == '0' || c == '1') ds).map fun ds => numberOf 2 ds
  | _ =>
    let (negative, ds) := splitSign cs
    (decimal? ds).map fun ds => if negative then -(numberOf 10 ds : Int) else numberOf 10 ds

/-- Integers have 128 bits, with or without a sign. -/
def inRange (i : Int) : Bool := decide (-(Nat.pow 2 127 : Int) ≤ i ∧ i < Nat.pow 2 128)

/-! ## Numbers with a fraction or an exponent -/

/-- A decimal number without its sign: its digits, those of the fraction last, how many belong to
the fraction, and the power of ten behind it. -/
structure Decimal where
  digits : Nat
  places : Nat
  exponent : Int
  deriving Repr, DecidableEq

/-- From here on a number rounds to infinity: half a unit above the largest binary fraction of
53 digits below 2 ^ 1024. -/
def Decimal.bound : Nat := Nat.pow 2 1024 - Nat.pow 2 970

/-- The number is too large for a binary fraction of 64 bits. Its count of digits settles all but
the numbers around the bound. -/
def Decimal.isHuge (d : Decimal) : Bool :=
  if d.digits = 0 then false
  else
    let power := d.exponent - d.places
    let magnitude := (Nat.toDigits 10 d.digits).length + power
    if magnitude ≤ 308 then false
    else if 310 ≤ magnitude then true
    else d.digits * Nat.pow 10 power.toNat ≥ Decimal.bound * Nat.pow 10 (-power).toNat

/-- The exponent behind the digits, zero if there is none. -/
def exponent? : Chars → Option Int
  | [] => some 0
  | c :: cs =>
    if c = 'e' || c = 'E' then
      let (negative, ds) := splitSign cs
      (digits? Char.isDigit ds).map fun ds =>
        if negative then -(numberOf 10 ds : Int) else numberOf 10 ds
    else none

/-- A number with a fraction, an exponent or both, without its sign. -/
def fraction? (cs : Chars) : Option Decimal :=
  let inNumber (c : Char) : Bool := c.isDigit || c == '_'
  (decimal? (cs.takeWhile inNumber)).bind fun whole =>
    match cs.dropWhile inNumber with
    | [] => none
    | '.' :: rest => do
      let places ← digits? Char.isDigit (rest.takeWhile inNumber)
      let exponent ← exponent? (rest.dropWhile inNumber)
      return ⟨numberOf 10 (whole ++ places), places.length, exponent⟩
    | rest => (exponent? rest).map fun exponent => ⟨numberOf 10 whole, 0, exponent⟩

/-- A number that is no integer; infinity and the absence of a number have names. -/
def real? (cs : Chars) : Option Value :=
  let rest := (splitSign cs).2
  if rest == "inf".toList || rest == "nan".toList then some .real
  else (fraction? rest).map fun d => if d.isHuge then .huge else .real

/-! ## Dates and times -/

/-- Reads a number of exactly so many digits. -/
def fixed? (count : Nat) (cs : Chars) : Option (Nat × Chars) :=
  let ds := cs.take count
  if ds.length = count && ds.all Char.isDigit then some (numberOf 10 ds, cs.drop count) else none

def afterChar? (c : Char) : Chars → Option Chars
  | d :: cs => if d = c then some cs else none
  | [] => none

def daysIn (year month : Nat) : Nat :=
  if month = 2 then
    if year % 4 = 0 && (year % 100 != 0 || year % 400 == 0) then 29 else 28
  else if month ∈ [4, 6, 9, 11] then 30
  else 31

/-- Passes over a date of the calendar. -/
def afterDate? (cs : Chars) : Option Chars := do
  let (year, cs) ← fixed? 4 cs
  let (month, cs) ← fixed? 2 (← afterChar? '-' cs)
  let (day, cs) ← fixed? 2 (← afterChar? '-' cs)
  if 1 ≤ month && month ≤ 12 && 1 ≤ day && day ≤ daysIn year month then some cs else none

/-- Passes over the seconds of a time, with or without a fraction, if there are any. -/
def afterSeconds? : Chars → Option Chars
  | ':' :: cs => do
    let (second, cs) ← fixed? 2 cs
    if 60 < second then none
    else
      match cs with
      | '.' :: rest =>
        if (rest.head?.map Char.isDigit).getD false then some (rest.dropWhile Char.isDigit)
        else none
      | _ => some cs
  | cs => some cs

/-- Passes over a time of day. -/
def afterTime? (cs : Chars) : Option Chars := do
  let (hour, cs) ← fixed? 2 cs
  let (minute, cs) ← fixed? 2 (← afterChar? ':' cs)
  if hour ≤ 23 && minute ≤ 59 then afterSeconds? cs else none

/-- An offset from universal time, or none. -/
def isOffset (cs : Chars) : Bool :=
  match cs with
  | [] => true
  | ['Z'] => true
  | ['z'] => true
  | sign :: rest =>
    (sign == '+' || sign == '-') &&
    match (do
      let (hour, cs) ← fixed? 2 rest
      let (minute, cs) ← fixed? 2 (← afterChar? ':' cs)
      if hour ≤ 23 && minute ≤ 59 then some cs else none : Option Chars) with
    | some rest => rest.isEmpty
    | none => false

/-- The word is a date, a time, or a date and a time. -/
def isMoment (cs : Chars) : Bool :=
  match afterDate? cs with
  | some [] => true
  | some (sep :: rest) =>
    (sep == 'T' || sep == 't' || sep == ' ') &&
    match afterTime? rest with
    | some rest => isOffset rest
    | none => false
  | none => afterTime? cs == some []

/-- The value of a word. -/
def value? (word : Chars) : Option Value :=
  if word == "true".toList then some (.bool true)
  else if word == "false".toList then some (.bool false)
  else if isMoment word then some .moment
  else
    match int? word with
    | some i => some (if inRange i then .int i else .huge)
    | none => real? word

/-! ## Words -/

def isWordChar (c : Char) : Bool :=
  c.isAlphanum || c == '_' || c == '+' || c == '-' || c == '.' || c == ':'

/-- Cuts off the word at the head; a date goes on over a space to the digit behind it. -/
def splitWord (cs : Chars) : Chars × Chars :=
  let word := cs.takeWhile isWordChar
  let rest := cs.dropWhile isWordChar
  match afterDate? word, rest with
  | some [], ' ' :: d :: more =>
    if d.isDigit then
      (word ++ [' '] ++ (d :: more).takeWhile isWordChar, (d :: more).dropWhile isWordChar)
    else (word, rest)
  | _, _ => (word, rest)

end NestChart.Toml.Scalar
