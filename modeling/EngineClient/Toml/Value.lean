/-!
# TOML values and tables

A table remembers how it came about, because that decides how it may still be extended: a table
written inline is closed, a table with a header has no second header, and a table made by dotted
keys is extended by dotted keys alone. `Fields.within`, `Fields.openTable`, `Fields.openElement` and
`Fields.assign` are the steps by which a document builds its tables; each fails where the document
contradicts itself.
-/

namespace EngineClient.Toml

/-- How a table came about. -/
inductive Origin where
  /-- Written inline. -/
  | inline
  /-- Named by a header. -/
  | header
  /-- Implied by the header of a table inside it. -/
  | implied
  /-- Made by a dotted key. -/
  | dotted
  deriving DecidableEq

/-- A TOML value. -/
inductive Value where
  | string (s : String)
  | integer (n : Int)
  /-- A float, the value of which does not matter here. -/
  | float
  | bool (b : Bool)
  /-- A date, a time or both. -/
  | moment
  | array (items : List Value)
  | table (origin : Origin) (fields : List (String × Value))
  /-- An array of tables with headers, the latest first. -/
  | tables (elements : List (List (String × Value)))

/-- The fields of a table, in the order in which they appear. -/
abbrev Fields := List (String × Value)

namespace Fields

/-- Replaces the value of a key that is there. -/
def replace (key : String) (value : Value) (fields : Fields) : Fields :=
  fields.map fun field => if field.1 = key then (key, value) else field

/-- Changes the table at a path of headers. Tables on the way are implied where they are missing;
of an array of tables the latest counts. -/
def within (change : Fields → Option Fields) : List String → Fields → Option Fields
  | [], fields => change fields
  | key :: path, fields =>
    match fields.lookup key with
    | none => do
      return fields ++ [(key, .table .implied (← within change path []))]
    | some (.table .inline _) => none
    | some (.table origin inner) => do
      return fields.replace key (.table origin (← within change path inner))
    | some (.tables (latest :: earlier)) => do
      return fields.replace key (.tables ((← within change path latest) :: earlier))
    | some _ => none

/-- Opens a table by its header. -/
def openTable (key : String) (fields : Fields) : Option Fields :=
  match fields.lookup key with
  | none => some (fields ++ [(key, .table .header [])])
  | some (.table .implied inner) => some (fields.replace key (.table .header inner))
  | some _ => none

/-- Opens the next element of an array of tables by its header. -/
def openElement (key : String) (fields : Fields) : Option Fields :=
  match fields.lookup key with
  | none => some (fields ++ [(key, .tables [[]])])
  | some (.tables elements) => some (fields.replace key (.tables ([] :: elements)))
  | some _ => none

/-- Gives a dotted key a value. Only a table made by dotted keys takes it, except that the key may
lead through a table that a header implied. `origin` is that of the table reached so far, absent
before the first part of the key. -/
def assign (value : Value) (origin : Option Origin) : List String → Fields → Option Fields
  | [], _ => none
  | [key], fields =>
    if (fields.lookup key).isSome ∨ origin.any (· ≠ .dotted) then none
    else some (fields ++ [(key, value)])
  | key :: path, fields =>
    match fields.lookup key with
    | none => do
      return fields ++ [(key, .table .dotted (← assign value (some .dotted) path []))]
    | some (.table .dotted inner) => do
      return fields.replace key (.table .dotted (← assign value (some .dotted) path inner))
    | some (.table .implied inner) => do
      return fields.replace key (.table .implied (← assign value (some .implied) path inner))
    | some (.tables (latest :: earlier)) => do
      return fields.replace key
        (.tables ((← assign value (some .header) path latest) :: earlier))
    | some _ => none

end Fields

end EngineClient.Toml
