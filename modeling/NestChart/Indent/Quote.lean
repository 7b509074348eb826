import NestChart.Literal
import NestChart.Text.Basic

/-!
# NestChart.Indent.Quote

Triple-quoted strings, which may run over several lines. A marker inside an ordinary literal or
behind `#` opens nothing, and inside a triple-quoted string only its own marker closes it.
-/

namespace NestChart.Indent

open Text

/-- Which quote a triple-quoted string is written with. -/
inductive QuoteStyle
  | double
  | single
  deriving Repr, DecidableEq

namespace QuoteStyle

/-- Three of the quote. -/
def marker : QuoteStyle → Chars
  | double => ['"', '"', '"']
  | single => ['\'', '\'', '\'']

/-- The style of a text that begins with a marker. -/
def leading? : Chars → Option QuoteStyle
  | '"' :: '"' :: '"' :: _ => some double
  | '\'' :: '\'' :: '\'' :: _ => some single
  | _ => none

/-- Whether a line that is inside a string of the style closes it. -/
def closes (style : QuoteStyle) (text : Chars) : Bool := contains style.marker text

end QuoteStyle

/-- Where a scan of a line stands. -/
inductive QuoteScan
  /-- In code. -/
  | code
  /-- In an ordinary literal that `quote` closes. -/
  | plain (quote : Char)
  /-- In a triple-quoted string. -/
  | triple (style : QuoteStyle)
  deriving Repr, DecidableEq

namespace QuoteScan

/-- The style of the triple-quoted string that is open, if any. -/
def open? : QuoteScan → Option QuoteStyle
  | triple style => some style
  | _ => none

/-- Where the scan stands at the end of the line; `skip` characters are passed over first. -/
def finish (s : QuoteScan) (skip : Nat) : Chars → QuoteScan
  | [] => s
  | c :: cs =>
    match skip with
    | k + 1 => finish s k cs
    | 0 =>
      match s with
      | code =>
        match QuoteStyle.leading? (c :: cs) with
        | some style => finish (triple style) 2 cs
        | none =>
          if c = '#' then code
          else finish (if isQuote c then plain c else code) 0 cs
      | plain q =>
        if c = '\\' then finish s 1 cs else finish (if c = q then code else s) 0 cs
      | triple style =>
        if c = '\\' then finish s 1 cs
        else if style.marker.isPrefixOf (c :: cs) then finish code 2 cs
        else finish s 0 cs

end QuoteScan

/-- The triple-quoted string that a line of code leaves open. -/
def QuoteStyle.leftOpen? (text : Chars) : Option QuoteStyle :=
  (QuoteScan.code.finish 0 text).open?

end NestChart.Indent
