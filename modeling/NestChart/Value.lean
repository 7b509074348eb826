/-!
# NestChart.Value

Values of configuration data, as objects and settings files give them: the form in which settings
are read and written. Numbers that are no integers, and dates, keep no content, since no setting
has one. What a value means can depend on the notation it is written in.
-/

namespace NestChart

inductive Value
  | null
  | bool (b : Bool)
  | int (i : Int)
  /-- A number that is no integer. -/
  | real
  /-- A number too large to be read. It may stand where no one looks. -/
  | huge
  | text (s : String)
  /-- A date, a time or both. -/
  | moment
  | list (vs : List Value)
  /-- Named values, each name once. -/
  | table (fields : List (String × Value))
  deriving Repr, Inhabited

/-- How a notation writes what a value leaves open. -/
structure Dialect where
  /-- The values of names that a record does not have are read before they are passed over. -/
  readsAll : Bool
  /-- A record given by position may have more values than fields; the rest is not looked at. -/
  allowsSurplus : Bool
  /-- The value stands for nothing behind the name of a choice. -/
  isBlank : Value → Bool

namespace Dialect

/-- Objects: a choice without content may be written as its name with null. -/
def json : Dialect where
  readsAll := false
  allowsSurplus := false
  isBlank
    | .null => true
    | _ => false

/-- Settings files: a choice without content may be written as its name with an empty table or an
empty array. -/
def toml : Dialect where
  readsAll := true
  allowsSurplus := true
  isBlank
    | .table [] => true
    | .list [] => true
    | _ => false

end Dialect

namespace Value

mutual

/-- No number in the value is too large. -/
def isReadable : Value → Bool
  | huge => false
  | list vs => areReadable vs
  | table fields => areReadableFields fields
  | _ => true

/-- No number in one of the values is too large. -/
def areReadable : List Value → Bool
  | [] => true
  | v :: vs => v.isReadable && areReadable vs

/-- No number in one of the fields is too large. -/
def areReadableFields : List (String × Value) → Bool
  | [] => true
  | (_, v) :: rest => v.isReadable && areReadableFields rest

end

/-- A whole number from zero up to and without `bound`. -/
def natBelow? (bound : Nat) : Value → Option Nat
  | int (.ofNat n) => if n < bound then some n else none
  | _ => none

def bool? : Value → Option Bool
  | bool b => some b
  | _ => none

/-- What a name stands for, given as a text or with a blank value behind it. -/
def named? {α : Type} (d : Dialect) (ofName? : String → Option α) : Value → Option α
  | text s => ofName? s
  | table [(s, v)] => if d.isBlank v then ofName? s else none
  | _ => none

def list? {α : Type} (item? : Value → Option α) : Value → Option (List α)
  | list vs => vs.mapM item?
  | _ => none

/-- Nothing for null, else the value. -/
def orNull? {α : Type} (item? : Value → Option α) : Value → Option (Option α)
  | null => some none
  | v => (item? v).map some

/-- A named field, or the default where the name is absent. -/
def field? {α : Type} (fields : List (String × Value)) (name : String)
    (item? : Value → Option α) (default : α) : Option α :=
  match fields.lookup name with
  | some v => item? v
  | none => some default

/-- The fields of a record with fields of these names: a table, in which other names are passed
over, a list by position, or a date, which has none of the fields. -/
def fieldsOf? (d : Dialect) (names : List String) : Value → Option (List (String × Value))
  | table fields =>
    if d.readsAll && !areReadableFields (fields.filter fun f => !names.contains f.1) then none
    else some fields
  | list vs =>
    if d.allowsSurplus || vs.length ≤ names.length then some (names.zip vs) else none
  | moment => some []
  | _ => none

end Value
end NestChart
