import NestChart.Value

/-!
# NestChart.Toml.Tree

The tables of a TOML document while it is read. How a table came to be decides what may still be
added to it: nothing is defined twice, and a table belongs to one header or one group of dotted
keys.
-/

namespace NestChart.Toml

/-- How a table came to be. -/
inductive Origin
  /-- On the way to a table with a header of its own. -/
  | passed
  /-- By dotted keys. -/
  | dotted
  /-- By its header. -/
  | header
  deriving Repr, DecidableEq

/-- A value or table of a document. -/
inductive Tree
  | leaf (v : Value)
  | table (origin : Origin) (fields : List (String × Tree))
  /-- An array of tables, the latest first. -/
  | tables (items : List (List (String × Tree)))

/-- The fields of a table, in the order of their first definition. -/
abbrev Fields := List (String × Tree)

namespace Tree

mutual

/-- The value that a tree stands for. -/
def value : Tree → Value
  | leaf v => v
  | table _ fields => .table (fieldValues fields)
  | tables items => .list (itemValues items).reverse

/-- The values of the fields. -/
def fieldValues : List (String × Tree) → List (String × Value)
  | [] => []
  | (k, t) :: rest => (k, t.value) :: fieldValues rest

/-- The values of the tables of an array. -/
def itemValues : List (List (String × Tree)) → List Value
  | [] => []
  | fields :: rest => .table (fieldValues fields) :: itemValues rest

end

end Tree

namespace Fields

/-- Replaces what stands under a key, or adds it; nothing if that is refused. -/
def alter? (k : String) (f : Option Tree → Option Tree) : Fields → Option Fields
  | [] => (f none).map fun t => [(k, t)]
  | (k', t) :: rest =>
    if k' = k then (f (some t)).map fun t => (k, t) :: rest
    else (alter? k f rest).map ((k', t) :: ·)

/-- Goes along the keys of a header to the fields at their end; missing tables are made on the way,
and an array of tables is entered at its latest table. -/
def within? (f : Fields → Option Fields) : List String → Fields → Option Fields
  | [], fields => f fields
  | k :: ks, fields =>
    alter? k (fun
      | none => (within? f ks []).map (.table .passed)
      | some (.table origin inner) => (within? f ks inner).map (.table origin)
      | some (.tables (latest :: earlier)) =>
        (within? f ks latest).map fun inner => .tables (inner :: earlier)
      | some _ => none) fields

/-- Opens the table of a header. Only a table that was passed on the way may be there already. -/
def openTable? (k : String) : Fields → Option Fields :=
  alter? k fun
    | none => some (.table .header [])
    | some (.table .passed fields) => some (.table .header fields)
    | some _ => none

/-- Adds a table to the array of a doubled header. -/
def openItem? (k : String) : Fields → Option Fields :=
  alter? k fun
    | none => some (.tables [[]])
    | some (.tables items) => some (.tables ([] :: items))
    | some _ => none

/-- Defines a value under keys with dots between them. The tables on the way must have no header of
their own, and the last of them must come from dotted keys alone. -/
def put? (v : Value) : List String → Fields → Option Fields
  | [], _ => none
  | [k], fields =>
    alter? k (fun
      | none => some (.leaf v)
      | some _ => none) fields
  | k :: k' :: ks, fields =>
    alter? k (fun
      | none => (put? v (k' :: ks) []).map (.table .dotted)
      | some (.table .dotted inner) => (put? v (k' :: ks) inner).map (.table .dotted)
      | some (.table .passed inner) =>
        if ks.isEmpty then none else (put? v (k' :: ks) inner).map (.table .passed)
      | some (.tables (latest :: earlier)) =>
        if ks.isEmpty then none
        else (put? v (k' :: ks) latest).map fun inner => .tables (inner :: earlier)
      | some _ => none) fields

end Fields
end NestChart.Toml
