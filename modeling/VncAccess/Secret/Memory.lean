import VncAccess.Password.Slot

/-!
Where plaintext passwords live. A cell holds the bytes; a buffer owns a cell until it is released,
which fills the cell with zeros and gives it up. Cells are never reused, so that a view taken
earlier, and anyone who asks what became of the bytes, can still look at them.
-/

namespace VncAccess.Secret

structure Cell where
  index : Nat
  deriving DecidableEq, Repr

structure Buffer where
  index : Nat
  deriving DecidableEq, Repr

/-- What a buffer is at one moment: without a cell it has been released. -/
structure Holding where
  cell : Option Cell
  capacity : Option Int
  deriving DecidableEq, Repr

structure Memory where
  cells : List Bytes := []
  holdings : List Holding := []
  deriving DecidableEq, Repr

/-- A full-control password and perhaps a view-only one. -/
structure Pair where
  primary : Buffer
  viewOnly : Option Buffer
  deriving DecidableEq, Repr

/-- What a view of a buffer looks at: a buffer released before had no bytes to show. -/
structure View where
  cell : Option Cell
  deriving DecidableEq, Repr

def zeros (bytes : Bytes) : Bytes := List.replicate bytes.length 0

namespace Memory

/-! ## Cells -/

def store (m : Memory) (bytes : Bytes) : Cell × Memory :=
  (⟨m.cells.length⟩, { m with cells := m.cells ++ [bytes] })

def read (m : Memory) (c : Cell) : Bytes := m.cells.getD c.index []

/-- Overwrites every byte of the cell. -/
def wipe (m : Memory) (c : Cell) : Memory := { m with cells := m.cells.modify c.index zeros }

/-! ## Buffers -/

def holding (m : Memory) (b : Buffer) : Holding := m.holdings.getD b.index ⟨none, none⟩

def contents (m : Memory) (b : Buffer) : Bytes :=
  match (m.holding b).cell with
  | some c => m.read c
  | none => []

def isReleased (m : Memory) (b : Buffer) : Bool := (m.holding b).cell.isNone

/-- A buffer that owns a new cell. -/
def hold (m : Memory) (bytes : Bytes) (capacity : Option Int) : Buffer × Memory :=
  let (c, m) := m.store bytes
  (⟨m.holdings.length⟩, { m with holdings := m.holdings ++ [⟨some c, capacity⟩] })

/-- A buffer of its own copy of the bytes, which must not exceed the capacity. -/
def newBuffer (m : Memory) (bytes : Bytes) :
    Option Int → Except ValueFault (Buffer × Memory)
  | none => .ok (m.hold bytes none)
  | some limit =>
    if limit < (bytes.length : Int) then
      .error (.overCapacity bytes.length limit)
    else
      .ok (m.hold bytes (some limit))

/-- Releasing again changes nothing. -/
def release (m : Memory) (b : Buffer) : Memory :=
  match (m.holding b).cell with
  | some c =>
    { m.wipe c with holdings := m.holdings.modify b.index fun h => { h with cell := none } }
  | none => m

def sameContents (m : Memory) (a b : Buffer) : Bool := m.contents a == m.contents b

/-- The bytes before `limit`; a negative limit counts from the end. -/
def significant (bytes : Bytes) (limit : Int) : Bytes :=
  bytes.take (if limit < 0 then bytes.length + limit else limit).toNat

/-- A buffer of the significant bytes, and whether there were more. -/
def truncated (m : Memory) (bytes : Bytes) (limit : Int) :
    Except ValueFault ((Buffer × Bool) × Memory) := do
  let (b, m) ← m.newBuffer (significant bytes limit) (some limit)
  return ((b, limit < bytes.length), m)

/-! ## Pairs -/

/-- An empty second buffer is released at once and counts as none. -/
def pair (m : Memory) (primary : Buffer) : Option Buffer → Pair × Memory
  | none => (⟨primary, none⟩, m)
  | some b =>
    if m.contents b = [] then (⟨primary, none⟩, m.release b) else (⟨primary, some b⟩, m)

def releasePair (m : Memory) (p : Pair) : Memory :=
  match p.viewOnly with
  | some b => (m.release p.primary).release b
  | none => m.release p.primary

/-- The encrypted slots of the passwords in two buffers. -/
def encode (m : Memory) (primary : Buffer) (secondary : Option Buffer) :
    Except ValueFault Bytes :=
  Password.encode (m.contents primary) (secondary.map m.contents)

/-! ## Views -/

def view (m : Memory) (b : Buffer) : View := ⟨(m.holding b).cell⟩

def readView (m : Memory) (v : View) : Bytes := (v.cell.map m.read).getD []

end Memory

/-! ## Descriptions -/

/-- How a buffer is named without showing its bytes. -/
def Memory.describe (m : Memory) (b : Buffer) : Text :=
  if m.isReleased b then
    "<SensitiveBuffer released>"
  else
    "<SensitiveBuffer " ++ Decimal.natural (m.contents b).length ++ " bytes>"

end VncAccess.Secret
