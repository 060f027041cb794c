import VncAccess.Command

/-!
The tool as a program. A run is computed on a picture of the host, again from the start whenever the
operator has answered, and what it has changed in the picture is done to the host at the end.

The picture is coarse: it holds the entries on the paths that the command line names, takes them to
be the caller's own and closed to others, and has no display that answers.
-/

namespace VncAccess.Main

def bytesOf (s : String) : Bytes := s.toUTF8.toList

def textOf (s : String) : Text := Text.ofBytes (bytesOf s)

/-- The name under which the system knows a location. -/
def pathText (l : Location) : String :=
  String.join (l.map fun name => "/" ++ Text.toString (Text.ofBytes name))

/-! ## The picture -/

def variableNames : List String := ["HOME", "USER", "DISPLAY", "NO_COLOR"]

def readEnvironment : IO Environment :=
  variableNames.filterMapM fun name => do
    return (← IO.getEnv name).map fun value => (textOf name, textOf value)

/-- Two numbers of 32 bits, if the system has them. -/
def readEntropy : IO Random.Entropy := do
  try
    let bytes := (← IO.getRandomBytes 8).toList.map UInt8.toNat
    let number (digits : List Nat) : Nat := digits.foldl (fun n b => 256 * n + b) 0
    return { values := [number (bytes.take 4), number (bytes.drop 4)] }
  catch _ =>
    return { fault := some "no random bytes", now := ⟨← IO.monoMsNow, 10⟩ }

/-- What is at a location that can be opened: a directory gives no bytes. -/
def lookInside (whole : Bool) (path : String) (handle : IO.FS.Handle) : IO Entry := do
  try
    let _ ← handle.read 1
    let content ← if whole then IO.FS.readBinFile path else pure .empty
    return .file 0o600 0 content.toList
  catch _ => return .directory 0o700 0

/-- What is at a location. The content is only read where `whole` asks for it. -/
def look (whole : Bool) (l : Location) : IO (Option Entry) := do
  try
    return some (← lookInside whole (pathText l) (← IO.FS.Handle.mk (pathText l) .read))
  catch e =>
    match e with
    | .noFileOrDirectory .. => return none
    | _ => return some (.directory 0o700 0)

/-- All locations on the way to one, and the location itself. -/
def waysTo (l : Location) : List Location :=
  (List.range l.length).map fun i => l.take (i + 1)

def addToTree (whole : Bool) (t : Tree) (l : Location) : IO Tree :=
  (waysTo l).foldlM (fun t l => do
    match ← look (whole && l.length = (waysTo l).length) l with
    | some e => return t.put l e
    | none => return t) t

/-- The path of the settings, and the paths of the password file, that the words lead to. -/
def pathsFor (words : List Text) (h : Host) : List Path × List Path :=
  match CommandLine.parse words with
  | .ok (.carryOut o rest) =>
    let o := (o.withRest rest).toOption.getD o
    let settings := match (Settings.pathOf (o.config.map Path.ofText)).run h with
      | (.ok p, _) => [p]
      | (.error _, _) => []
    let written := match Invocation.ofRequest h.environment o.request with
      | .ok i => i.directory.toList ++ i.file.toList
      | .error _ => []
    (settings, written)
  | _ => ([], [])

def readHost (words : List Text) : IO Host := do
  let current := ((← IO.getEnv "PWD").map fun p =>
    (Path.ofText (textOf p)).names.map Text.toBytes).getD []
  let h : Host := {
    files := { tree := { entries := [] }, current }
    environment := ← readEnvironment
    entropy := ← readEntropy
    server := { refusal := some (.bySystem ⟨111⟩) } }
  let (settings, written) := pathsFor words h
  let tree ← settings.foldlM (fun t p =>
    addToTree true t (FileSystem.spelledLocation current p)) { entries := [] }
  let tree ← (written.foldlM (fun t p =>
    addToTree false t (FileSystem.spelledLocation current p)) tree)
  return { h with files := { tree, current } }

/-! ## The dialogue -/

/-- What the operator and the input have said so far. -/
structure Dialogue where
  answers : List Answer := []
  input : Bytes := []
  lines : Nat := 0
  isOver : Bool := false
  shown : Nat := 0

/-- A line of the standard input with its newline. -/
partial def readLine (stdin : IO.FS.Stream) (line : Bytes) : IO Bytes := do
  let next := (← stdin.read 1).toList
  if next = [] || next = [10] then return line ++ next else readLine stdin (line ++ next)

/-- The host as far as it has answered. What nobody has said yet is an interruption or a fault, so
that the run stops there. -/
def withDialogue (h : Host) (d : Dialogue) : Host :=
  if d.isOver then
    { h with terminal := { answers := d.answers }, input := { rest := d.input } }
  else
    { h with
      terminal := { answers := d.answers ++ [.interrupt] }
      input := { rest := d.input, faultAt := some (d.lines + 1) } }

/-- Shows the lines that have not been shown before. -/
def showLines (d : Dialogue) (lines : List Line) : IO Dialogue := do
  IO.eprint (Text.toString ((lines.drop d.shown).flatMap (·.text)))
  return { d with shown := lines.length }

/-- Runs again until nothing more is asked. -/
partial def converse (words : List Text) (h : Host) (d : Dialogue) :
    IO (Except Failure Nat × Host) := do
  let (result, after) := (Command.main words).run (withDialogue h d)
  let lines := after.console.lines
  if !d.isOver && d.answers.length < after.terminal.prompts.length then
    let d ← showLines d lines.dropLast
    IO.eprint (Text.toString (after.terminal.prompts.getLastD []))
    let line ← readLine (← IO.getStdin) []
    if line = [] then
      converse words h { d with isOver := true }
    else
      converse words h { d with answers := d.answers ++ [.typed (Password.stripLineEnd line)] }
  else if !d.isOver && d.lines < after.input.linesRead then
    let d ← showLines d lines
    let line ← readLine (← IO.getStdin) []
    converse words h { d with input := d.input ++ line, lines := d.lines + 1, isOver := line = [] }
  else
    let _ ← showLines d lines
    return (result, after)

/-! ## The changes -/

/-- Does to the system what was done to an entry. -/
def apply (before : Tree) (x : Location × Entry) : IO Unit := do
  if before.lookup x.1 ≠ some x.2 then
    let own : IO.FileRight := { user := { read := true, write := true } }
    match x.2 with
    | .directory .. =>
      IO.FS.createDir (pathText x.1)
      IO.setAccessRights (pathText x.1)
        { user := { read := true, write := true, execution := true } }
    | .file _ _ content =>
      let temporary := pathText (x.1.dropLast ++ [FileSystem.temporaryName 0])
      IO.FS.writeBinFile temporary .empty
      IO.setAccessRights temporary own
      IO.FS.writeBinFile temporary ⟨content.toArray⟩
      IO.FS.rename temporary (pathText x.1)
    | .link _ => pure ()

def run (args : List String) : IO UInt32 := do
  let words := args.map textOf
  let h ← readHost words
  let (result, after) ← converse words h {}
  (← IO.getStdout).write ⟨after.output.written.toArray⟩
  after.files.tree.entries.forM (apply h.files.tree)
  match result with
  | .ok status => return .ofNat status
  | .error _ =>
    IO.eprintln "vncpasswd: an unexpected failure"
    return 1

end VncAccess.Main

def main (args : List String) : IO UInt32 := VncAccess.Main.run args
