import VncAccess.System.Tree

/-!
System calls on a file tree. Each may fail for a reason of its own, or because the list of faults
says that this call fails.
-/

namespace VncAccess

inductive Call where
  | lstat
  | stat
  | makeDirectory
  | readFile
  | create
  | changeMode
  | write
  | rename
  | unlink
  deriving DecidableEq, Repr

structure Fault where
  call : Call
  /-- The first call of its kind has number one. -/
  number : Nat
  errno : Errno
  deriving DecidableEq, Repr

structure FileSystem where
  tree : Tree
  /-- The working directory. -/
  current : Location
  /-- Who makes the calls, and owns what they create. -/
  owner : Int := 0
  /-- Who the system says the caller is. -/
  caller : Int := 0
  /-- The bits of a mode that a new entry does not get. -/
  umask : Nat := 0o022
  faults : List Fault := []
  calls : List Call := []
  deriving Repr

/-- The status word of an entry: its type in the upper bits, its permissions in the lower twelve. -/
structure Status where
  mode : Nat
  owner : Int
  deriving DecidableEq, Repr

namespace Status

def isDirectory (s : Status) : Bool := s.mode / 0o10000 % 0o20 = 0o4

def isOpenToOthers (s : Status) : Bool := s.mode % 0o100 ≠ 0

end Status

def Entry.status : Entry → Status
  | .directory mode owner => ⟨0o40000 + mode, owner⟩
  | .file mode owner _ => ⟨0o100000 + mode, owner⟩
  | .link _ => ⟨0o120777, 0⟩

/-- Why a call is not carried out. -/
inductive CallError where
  | errno (e : Errno)
  /-- No path with a NUL can be handed to the system. -/
  | embeddedNul
  deriving DecidableEq, Repr

abbrev FileCall := ExceptT CallError (StateM FileSystem)

namespace FileCall

def fail {α : Type} (e : Errno) : FileCall α := throw (.errno e)

def ofExcept {α : Type} : Except Errno α → FileCall α
  | .ok a => pure a
  | .error e => fail e

end FileCall

namespace FileSystem

open FileCall

def faultAt (fs : FileSystem) (call : Call) : Option Errno :=
  (fs.faults.find? fun f => f.call = call ∧ f.number = fs.calls.count call + 1).map (·.errno)

/-- Counts a call, which fails if a fault is set for it. -/
def enter (call : Call) : FileCall Unit := do
  let fs ← get
  set { fs with calls := fs.calls ++ [call] }
  match fs.faultAt call with
  | some e => fail e
  | none => pure ()

def locate (followLast : Bool) (p : Path) : FileCall Tree.Spot := do
  if p.hasNul then throw .embeddedNul
  let fs ← get
  ofExcept (fs.tree.resolve fs.owner fs.current followLast p)

def entryAt (followLast : Bool) (p : Path) : FileCall Entry := do
  match ← locate followLast p with
  | .taken _ e => return e
  | .free _ => fail .noEntry

/-- Fails unless the entry at a location permits what is asked for. -/
def demand (p : Permission) (l : Location) : FileCall Unit := do
  let fs ← get
  if !fs.tree.permits fs.owner p l then fail .accessDenied

def modifyTree (f : Tree → Tree) : FileCall Unit :=
  modify fun fs => { fs with tree := f fs.tree }

/-! ## Looking -/

/-- The status of the entry itself, also of a link. -/
def lstat (p : Path) : FileCall Status := do
  enter .lstat
  return (← entryAt false p).status

/-- The status of the entry that the path leads to. -/
def stat (p : Path) : FileCall Status := do
  enter .stat
  return (← entryAt true p).status

def readFile (p : Path) : FileCall Bytes := do
  enter .readFile
  let e ← entryAt true p
  if !e.permits (← get).owner .read then fail .accessDenied
  match e with
  | .file _ _ content => return content
  | _ => fail .isDirectory

/-- Whether the path leads to something that the caller may not read. -/
def forbidsReading (fs : FileSystem) (p : Path) : Bool :=
  match fs.tree.resolve fs.owner fs.current true p with
  | .ok (.taken _ e) => !e.permits fs.owner .read
  | _ => false

/-! ## Directories -/

/-- What a new entry gets of the mode that is asked for. -/
def masked (fs : FileSystem) (mode : Nat) : Nat := mode ^^^ (mode &&& fs.umask)

/-- A new directory takes over the set-group bit of the one it is made in. -/
def newDirectoryMode (fs : FileSystem) (l : Location) : Nat :=
  match fs.tree.lookup l.dropLast with
  | some (.directory mode _) => fs.masked 0o700 + mode / 0o2000 % 2 * 0o2000
  | _ => fs.masked 0o700

/-- A directory for its owner alone. -/
def makeDirectory (p : Path) : FileCall Unit := do
  enter .makeDirectory
  match ← locate false p with
  | .taken .. => fail .alreadyThere
  | .free l =>
    demand .write l.dropLast
    let fs ← get
    modifyTree (·.put l (.directory (newDirectoryMode fs l) fs.owner))

/-! ## Writing a file under a temporary name -/

/-- One step of simplifying names by their text alone. -/
def simplifyName (names : List Bytes) (name : Bytes) : List Bytes :=
  if name = Tree.dotDot then names.dropLast else names ++ [name]

/-- The location that a directory's path spells, links and missing entries left aside. -/
def spelledLocation (current : Location) (p : Path) : Location :=
  (p.names.map Text.toBytes).foldl simplifyName (Tree.startOf current p)

/-- The names tried for a temporary file, all of one length. -/
def temporaryName (n : Nat) : Bytes :=
  (Text.ofString ".passwd-" ++ Text.ofChars (Decimal.padded 8 n) ++ Text.ofString ".tmp").toBytes

def temporaryTries : Nat := 10000

def freshName (t : Tree) (directory : Location) : Option Location :=
  ((List.range temporaryTries).map fun n => directory ++ [temporaryName n]).find? fun l =>
    (t.lookup l).isNone

/-- The directory's own length, with a slash before each name, and the temporary name. -/
def temporaryPathLength (directory : Location) : Nat :=
  (directory ++ [temporaryName 0]).foldl (fun n name => n + 1 + name.length) 0

/-- An empty file under a fresh name in the directory, open to its owner alone. -/
def createTemporary (directory : Path) : FileCall Location := do
  enter .create
  let fs ← get
  let spelled := spelledLocation fs.current directory
  if spelled.any (·.contains 0) then throw .embeddedNul
  if Tree.pathLimit < temporaryPathLength spelled then fail .nameTooLong
  match ← ofExcept (fs.tree.walk fs.owner true Tree.linkLimit [] spelled) with
  | .taken l (.directory ..) =>
    demand .search l
    demand .write l
    match freshName fs.tree l with
    | some temporary =>
      modifyTree (·.put temporary (.file (fs.masked 0o600) fs.owner []))
      return temporary
    | none => fail .alreadyThere
  | .taken .. => fail .notDirectory
  | .free _ => fail .noEntry

def changeMode (l : Location) (mode : Nat) : FileCall Unit := do
  enter .changeMode
  modifyTree fun t =>
    match t.lookup l with
    | some (.file _ owner content) => t.put l (.file mode owner content)
    | _ => t

def write (l : Location) (content : Bytes) : FileCall Unit := do
  enter .write
  modifyTree fun t =>
    match t.lookup l with
    | some (.file mode owner _) => t.put l (.file mode owner content)
    | _ => t

/-- Whether the path ends in a name, and not in `.`, `..` or the root. -/
def endsInName (p : Path) : Bool :=
  match p.names.getLast? with
  | some name => name ≠ Text.ofString ".."
  | none => false

/-- Moves a file to where the path leads, in place of a file or link, but not of a directory. A
directory that the file is in is refused as one that is not empty, whatever it permits. -/
def rename (source : Location) (p : Path) : FileCall Unit := do
  enter .rename
  let spot ← locate false p
  if !endsInName p then fail .busy
  match spot with
  | .taken target e =>
    if target.isPrefixOf source.dropLast then fail .notEmpty
    demand .write target.dropLast
    match e with
    | .directory .. => fail .isDirectory
    | _ => modifyTree (·.move source target)
  | .free target =>
    demand .write target.dropLast
    modifyTree (·.move source target)

/-- Removes a file. Its directory is the one that the caller made it in, and permits that. -/
def unlink (l : Location) : FileCall Unit := do
  enter .unlink
  if ((← get).tree.lookup l).isNone then fail .noEntry
  modifyTree (·.erase l)

end FileSystem
end VncAccess
