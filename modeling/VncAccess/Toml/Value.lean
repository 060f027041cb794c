import VncAccess.Text.Basic

/-!
The values of a TOML document, and reading and changing a table along a path of keys.
-/

namespace VncAccess.Toml

inductive Value where
  | text (t : Text)
  | integer (n : Int)
  | float
  | boolean (b : Bool)
  /-- A date, a time of day, or both. -/
  | moment
  | array (items : List Value)
  /-- The keys are in the order in which they were first written. -/
  | table (entries : List (Text × Value))
  deriving Repr, Inhabited

abbrev Key := List Text

abbrev Table := List (Text × Value)

namespace Table

def get? (t : Table) (k : Text) : Option Value := t.lookup k

def has (t : Table) (k : Text) : Bool := (t.get? k).isSome

/-- Keeps the place of a key that was there. -/
def set (t : Table) (k : Text) (v : Value) : Table :=
  if t.has k then t.map fun x => if x.1 = k then (k, v) else x else t ++ [(k, v)]

/-- Changes the table at the end of a path, making the tables that are missing. A path may lead
through an array, to the last of its tables, if `throughArrays` allows it. -/
def change (throughArrays : Bool) (f : Table → Option Table) : Key → Table → Option Table
  | [], t => f t
  | k :: path, t =>
    match t.get? k with
    | none => do return t.set k (.table (← change throughArrays f path []))
    | some (.table inner) => do return t.set k (.table (← change throughArrays f path inner))
    | some (.array items) =>
      match throughArrays, items.getLast? with
      | true, some (.table inner) => do
        let changed ← change throughArrays f path inner
        return t.set k (.array (items.dropLast ++ [.table changed]))
      | _, _ => none
    | some _ => none

/-- Adds a value under a key that is not there yet. -/
def add (k : Text) (v : Value) (t : Table) : Option Table :=
  if t.has k then none else some (t.set k v)

/-- Adds an empty table to the array under a key. -/
def addToArray (k : Text) (t : Table) : Option Table :=
  match t.get? k with
  | none => some (t.set k (.array [.table []]))
  | some (.array items) => some (t.set k (.array (items ++ [.table []])))
  | some _ => none

end Table
end VncAccess.Toml
