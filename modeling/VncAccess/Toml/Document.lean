import VncAccess.Toml.Number

/-!
TOML documents. Besides the tables read so far, a reader keeps marks on paths of keys: a frozen path
can no longer change, and a path that was declared cannot be declared again.
-/

namespace VncAccess.Toml

open Reader

/-! ## Marks -/

inductive MarkKind where
  | frozen
  | declared
  deriving DecidableEq, Repr

structure Mark where
  path : Key
  kind : MarkKind
  /-- Whether the mark holds for all longer paths too. -/
  below : Bool
  deriving DecidableEq, Repr

abbrev Marks := List Mark

namespace Marks

def has (marks : Marks) (kind : MarkKind) (path : Key) : Bool :=
  marks.any fun m =>
    m.kind = kind && (m.path = path || (m.below && m.path.isPrefixOf path)) && path ≠ []

/-- Forgets the marks on a path and on all longer ones. -/
def clear (marks : Marks) (path : Key) : Marks := marks.filter fun m => !path.isPrefixOf m.path

end Marks

/-! ## Values -/

def isContainer : Value → Bool
  | .array _ | .table _ => true
  | _ => false

/-- A key, the sign between, and the value that `value` reads. -/
def keyAndValue (value : Reader Value) : Reader (Key × Value) := do
  let k ← key
  if (← peek) ≠ some '=' then fail
  skip 1
  skipBlanks
  return (k, ← value)

/-- The items of an array, one at each turn, after the opening bracket or a comma. -/
def arrayItems (value : Reader Value) : Nat → Reader (List Value)
  | 0 => fail
  | turns + 1 => do
    skipBetweenItems
    if (← peek) = some ']' then
      skip 1
      return []
    let item ← value
    skipBetweenItems
    match ← peek with
    | some ']' =>
      skip 1
      return [item]
    | some ',' =>
      skip 1
      return item :: (← arrayItems value turns)
    | _ => fail

/-- The entries of an inline table, one at each turn. -/
def inlineEntries (value : Reader Value) (marks : Marks) (table : Table) : Nat → Reader Table
  | 0 => fail
  | turns + 1 => do
    let (k, v) ← keyAndValue value
    if marks.has .frozen k then fail
    let stem ← ofOption k.getLast?
    let table ← ofOption (table.change false (Table.add stem v) k.dropLast)
    skipBlanks
    match ← peek with
    | some '\x7d' =>
      skip 1
      return table
    | some ',' =>
      skip 1
      skipBlanks
      let marks := if isContainer v then ⟨k, .frozen, true⟩ :: marks else marks
      inlineEntries value marks table turns
    | _ => fail

def inlineTable (value : Reader Value) : Reader Table := do
  skipBlanks
  if (← peek) = some '\x7d' then
    skip 1
    return []
  else
    inlineEntries value [] [] ((← get).length + 1)

/-- A value that holds no other; `c` is its first character. -/
def scalar (c : Char) : Reader Value := do
  if c = '"' ∨ c = '\'' then
    if ← startsWith [c, c, c] then
      return .text (Text.ofChars (← multilineString c))
    else if c = '"' then
      return .text (Text.ofChars (← oneLineBasic))
    else
      return .text (Text.ofChars (← oneLineLiteral))
  else if ← startsWith ['t', 'r', 'u', 'e'] then
    skip 4
    return .boolean true
  else if ← startsWith ['f', 'a', 'l', 's', 'e'] then
    skip 5
    return .boolean false
  else
    numberOrMoment

/-- A value, if the room is enough for it. The items of an array find two parts less of the room,
the values in an inline table three. -/
def valueWithin : Nat → Reader Value
  | 0 | 1 | 2 => throw .nestedTooDeep
  | room + 3 => do
    let some c ← peek | fail
    if c = '[' then
      skip 1
      return .array (← arrayItems (valueWithin (room + 1)) ((← get).length + 1))
    else if c = '\x7b' then
      skip 1
      return .table (← inlineTable (valueWithin room))
    else
      scalar c

/-! ## Statements -/

/-- How documents are read: what room there is for the value of an entry, which is what the callers
leave of a stack, and what is said of content that is malformed. -/
structure Reading where
  room : Nat := 984
  complaint : Bytes → Text := fun _ => "syntax error"

structure Draft where
  table : Table := []
  marks : Marks := []
  /-- Paths that count as declared from the next header on. -/
  pending : Marks := []
  header : Key := []

/-- A header of a table of its own. -/
def tableHeader (d : Draft) : Reader Draft := do
  skip 1
  skipBlanks
  let k ← key
  if d.marks.has .declared k || d.marks.has .frozen k then fail
  let table ← ofOption (d.table.change true some k)
  if !(← startsWith [']']) then fail
  skip 1
  return { d with table, header := k, marks := ⟨k, .declared, false⟩ :: d.marks }

/-- A header of one more table in an array. -/
def arrayHeader (d : Draft) : Reader Draft := do
  skip 2
  skipBlanks
  let k ← key
  if d.marks.has .frozen k then fail
  let stem ← ofOption k.getLast?
  let table ← ofOption (d.table.change true (Table.addToArray stem) k.dropLast)
  if !(← startsWith [']', ']']) then fail
  skip 2
  return { d with table, header := k, marks := ⟨k, .declared, false⟩ :: d.marks.clear k }

def header (d : Draft) : Reader Draft := do
  let d := { d with marks := d.pending ++ d.marks, pending := [] }
  if ← startsWith ['[', '['] then arrayHeader d else tableHeader d

/-- The paths from the header down to the table that a dotted key names. -/
def pathsBetween (head key : Key) : List Key :=
  (List.range (key.length - 1)).map fun i => head ++ key.take (i + 1)

def entry (room : Nat) (d : Draft) : Reader Draft := do
  let (k, v) ← keyAndValue (valueWithin room)
  let between := pathsBetween d.header k
  if between.any (d.marks.has .declared) then fail
  let parent := d.header ++ k.dropLast
  if d.marks.has .frozen parent then fail
  let stem ← ofOption k.getLast?
  let table ← ofOption (d.table.change true (Table.add stem v) parent)
  let marks := if isContainer v then ⟨d.header ++ k, .frozen, true⟩ :: d.marks else d.marks
  let pending := between.map (⟨·, .declared, false⟩) ++ d.pending
  return { d with table, marks, pending }

/-- One line at each turn, up to the end of the document. -/
def statements (room : Nat) (d : Draft) : Nat → Reader Table
  | 0 => fail
  | turns + 1 => do
    skipBlanks
    match ← peek with
    | none => return d.table
    | some '\n' =>
      skip 1
      statements room d turns
    | some c =>
      let d ←
        if c = '[' then header d
        else if isBareKeyChar c || c = '"' || c = '\'' then entry room d
        else if c = '#' then pure d
        else fail
      skipBlanks
      skipComment
      match ← peek with
      | none => return d.table
      | some '\n' =>
        skip 1
        statements room d turns
      | some _ => fail

/-- A line end may be written with a carriage return. -/
def unifyLineEnds : List Char → List Char
  | '\r' :: '\n' :: rest => '\n' :: unifyLineEnds rest
  | c :: rest => c :: unifyLineEnds rest
  | [] => []

/-- The document, if the room is enough for the value of each entry. -/
def parse (room : Nat) (document : List Char) : Except Fault Table :=
  let document := unifyLineEnds document
  (statements room {} (document.length + 1)).run' document

end VncAccess.Toml
