import NestChart.Text.Basic

/-!
# NestChart.Web.Target

What a request asks for: a path with an optional query, alone or behind a scheme and an authority,
or an authority alone. `path?` gives the path that decides which page answers.
-/

namespace NestChart.Web.Target

/-- A character of a path. -/
def isPathChar (c : Char) : Bool :=
  let n := c.toNat
  n == 0x21 || n == 0x22 || (0x24 ≤ n && n ≤ 0x3B) || n == 0x3D || (0x40 ≤ n && n ≤ 0x5F) ||
    (0x61 ≤ n && n ≠ 0x60)

/-- A character of a query. -/
def isQueryChar (c : Char) : Bool :=
  let n := c.toNat
  n == 0x21 || (0x24 ≤ n && n ≤ 0x3B) || n == 0x3D || 0x3F ≤ n

/-- Ends what stands before a path, a query or a fragment. -/
def isBreak (c : Char) : Bool := c == '/' || c == '?' || c == '#'

/-- The path in front of a query and a fragment. The fragment may hold anything. -/
def local? (cs : Chars) : Option Chars :=
  let path := cs.takeWhile fun c => c ≠ '?' && c ≠ '#'
  let query := match cs.drop path.length with
    | '?' :: rest => rest.takeWhile (· ≠ '#')
    | _ => []
  if path.all isPathChar && query.all isQueryChar then some path else none

/-! ## Authorities -/

/-- A character of an authority other than the percent sign. -/
def isAuthorityChar (c : Char) : Bool :=
  c.isAlphanum || "!$&'()*+,-.:;=@[]_~".toList.contains c

/-- What has been seen of an authority. Only what stands behind the last `@` and outside brackets
is counted. -/
structure Authority where
  colons : Nat
  opened : Bool
  closed : Bool
  percent : Bool
  deriving Repr, DecidableEq

/-- Takes in one character; a bracketed address may hold seven colons, and one more may stand
before it is known to be an address. -/
def Authority.step? (a : Authority) (c : Char) : Option Authority :=
  match c with
  | ':' => if 8 ≤ a.colons then none else some { a with colons := a.colons + 1 }
  | '[' => if a.percent || a.opened then none else some { a with opened := true }
  | ']' =>
    if !a.opened || a.closed then none
    else some { a with closed := true, colons := 0, percent := false }
  | '@' => some { a with colons := 0, percent := false }
  | '%' => some { a with percent := true }
  | _ => if isAuthorityChar c then some a else none

/-- The text is an authority; it may be empty. -/
def isAuthority (cs : Chars) : Bool :=
  match cs.foldlM Authority.step? ⟨0, false, false, false⟩ with
  | some a => a.opened == a.closed && a.colons ≤ 1 && !a.percent && cs.getLast? != some '@'
  | none => false

/-! ## Schemes -/

def isSchemeChar (c : Char) : Bool := c.isAlphanum || "+-.~".toList.contains c

/-- Characters that a scheme may have. -/
def schemeLimit : Nat := 64

/-- How a target begins. -/
inductive Scheme
  | none
  /-- A scheme, and what stands behind its two slashes. -/
  | before (rest : Chars)
  | tooLong

/-- Takes a scheme off the head. -/
def scheme (cs : Chars) : Scheme :=
  let name := cs.takeWhile isSchemeChar
  match cs.drop name.length with
  | ':' :: '/' :: '/' :: rest => if schemeLimit < name.length then .tooLong else .before rest
  | _ => .none

/-- Bytes that a target may have. -/
def lengthLimit : Nat := 65534

/-- The path of a target, or nothing if the target is malformed. A target that is an authority
alone has the empty path. -/
def path? (target : Chars) : Option Chars :=
  if target.isEmpty || lengthLimit < Text.byteLength target then none
  else if target = ['*'] then some target
  else if target.head? = some '/' then local? target
  else
    match scheme target with
    | .tooLong => none
    | .none => if isAuthority target then some [] else none
    | .before rest =>
      let authority := rest.takeWhile fun c => !isBreak c
      if authority.isEmpty || !isAuthority authority then none
      else (local? (rest.drop authority.length)).map fun path => if path.isEmpty then ['/'] else path

end NestChart.Web.Target
