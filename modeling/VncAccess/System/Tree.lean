import VncAccess.System.Errno
import VncAccess.System.Path

/-!
A tree of files, directories and symbolic links, and the way a path leads through it.
-/

namespace VncAccess

/-- The names from the root down to an entry. -/
abbrev Location := List Bytes

inductive Entry where
  | directory (mode : Nat) (owner : Int)
  | file (mode : Nat) (owner : Int) (content : Bytes)
  | link (target : Bytes)
  deriving DecidableEq, Repr

/-- What a user may do with an entry. Searching is following a name in a directory. -/
inductive Permission where
  | read
  | write
  | search
  deriving DecidableEq, Repr

def Permission.bit : Permission → Nat
  | read => 4
  | write => 2
  | search => 1

/-- The last octal digit of the mode says what is permitted, for the owner the third to last. -/
def Entry.permits (user : Int) (p : Permission) : Entry → Bool
  | directory mode owner | file mode owner _ =>
    (if owner = user then mode / 0o100 else mode) / p.bit % 2 = 1
  | link _ => true

/-- The root, which is a directory and always there, and the entries below it. -/
structure Tree where
  entries : List (Location × Entry)
  rootMode : Nat := 0o755
  rootOwner : Int := 0
  deriving DecidableEq, Repr

namespace Tree

def lookup (t : Tree) (l : Location) : Option Entry :=
  if l = [] then some (.directory t.rootMode t.rootOwner) else t.entries.lookup l

def erase (t : Tree) (l : Location) : Tree := { t with entries := t.entries.filter (·.1 ≠ l) }

/-- Puts the entry in the place of whatever was there. -/
def put (t : Tree) (l : Location) (e : Entry) : Tree :=
  let rest := t.erase l
  { rest with entries := rest.entries ++ [(l, e)] }

/-- Moves an entry to the place of whatever was at the target. -/
def move (t : Tree) (source target : Location) : Tree :=
  match t.lookup source with
  | some e => (t.erase source).put target e
  | none => t

def isDirectory (t : Tree) (l : Location) : Bool :=
  match t.lookup l with
  | some (.directory ..) => true
  | _ => false

def permits (t : Tree) (user : Int) (p : Permission) (l : Location) : Bool :=
  (t.lookup l).any (·.permits user p)

/-! ## Walking a path -/

/-- Where a path leads: to an entry, or to a free name in a directory. -/
inductive Spot where
  | taken (location : Location) (entry : Entry)
  | free (location : Location)
  deriving DecidableEq, Repr

def dot : Bytes := [46]
def dotDot : Bytes := [46, 46]
def slash : UInt8 := 47

/-- The longest name of an entry, the longest path, and the most links on one way. -/
def nameLimit : Nat := 255
def pathLimit : Nat := 4095
def linkLimit : Nat := 40

/-- The names in a link's target. A slash at its end is an empty name, which asks for a
directory. -/
def targetNames (target : Bytes) : List Bytes :=
  let names := (target.splitOn slash).filter (· ≠ [])
  if target.getLast? = some slash then names ++ [[]] else names

/-- Follows the names from a location as far as the user may. `jump` goes on from a link: it gets
the directory of the link and the names still ahead. -/
def walkWith (t : Tree) (user : Int) (followLast : Bool)
    (jump : Location → List Bytes → Except Errno Spot) (here : Location) :
    List Bytes → Except Errno Spot
  | [] =>
    match t.lookup here with
    | some e => .ok (.taken here e)
    | none => .error .noEntry
  | name :: rest =>
    if !t.isDirectory here then .error .notDirectory
    else if name = [] then walkWith t user followLast jump here rest
    else if !t.permits user .search here then .error .accessDenied
    else if name = dot then walkWith t user followLast jump here rest
    else if name = dotDot then walkWith t user followLast jump here.dropLast rest
    else if nameLimit < name.length then .error .nameTooLong
    else
      let next := here ++ [name]
      match t.lookup next with
      | none => if rest = [] then .ok (.free next) else .error .noEntry
      | some (.link target) =>
        if rest = [] ∧ ¬ followLast then
          .ok (.taken next (.link target))
        else
          jump (if target.head? = some slash then [] else here) (targetNames target ++ rest)
      | some _ => walkWith t user followLast jump next rest

/-- Walks over at most the given number of links. -/
def walk (t : Tree) (user : Int) (followLast : Bool) :
    Nat → Location → List Bytes → Except Errno Spot
  | 0 => t.walkWith user followLast fun _ _ => .error .linkLoop
  | links + 1 => t.walkWith user followLast (t.walk user followLast links)

def startOf (current : Location) (p : Path) : Location :=
  if p.anchor = .relative then current else []

/-- Where a path leads that starts in the directory `current`, if it does not start at the root. -/
def resolve (t : Tree) (user : Int) (current : Location) (followLast : Bool) (p : Path) :
    Except Errno Spot :=
  if pathLimit < p.text.toBytes.length then
    .error .nameTooLong
  else
    t.walk user followLast linkLimit (startOf current p) (p.names.map Text.toBytes)

end Tree
end VncAccess
