import VncAccess.Console.Notice
import VncAccess.Display.Server
import VncAccess.Failure
import VncAccess.Random.Provider
import VncAccess.Secret.Memory
import VncAccess.System.FileSystem
import VncAccess.System.Input
import VncAccess.Toml.Document

/-!
The host that a request runs on: its files, its environment, the operator's terminal, the standard
streams, the display server and the sources of random numbers. `Run` is a computation that looks at
a host and changes it, and that may fail.
-/

namespace VncAccess

abbrev Environment := List (Text × Text)

/-! ## Terminal and streams -/

inductive Answer where
  /-- The text that getpass returns, in bytes. A byte that is part of no character stands for
  itself. -/
  | typed (bytes : Bytes)
  | interrupt
  deriving DecidableEq, Repr

/-- A terminal that asks without showing what is typed. -/
structure Terminal where
  answers : List Answer := []
  prompts : List Text := []
  deriving Repr

inductive OutputFault where
  | atWrite (errno : Errno)
  | atFlush (errno : Errno)
  deriving DecidableEq, Repr

structure Output where
  written : Bytes := []
  fault : Option OutputFault := none
  deriving Repr

/-- The stream after it was given the bytes, and whether it took them. -/
def Output.emit (o : Output) (bytes : Bytes) : Except Errno Unit × Output :=
  match o.fault with
  | some (.atWrite e) => (.error e, o)
  | some (.atFlush e) => (.error e, { o with written := o.written ++ bytes })
  | none => (.ok (), { o with written := o.written ++ bytes })

/-! ## Console -/

/-- A notice and what was written for it. -/
structure Line where
  notice : Notice
  text : Text
  deriving Repr

structure Console where
  isTerminal : Bool := false
  colour : Bool := true
  verbose : Bool := false
  /-- Whether the log is written too. -/
  logging : Bool := false
  lines : List Line := []
  deriving Repr

def Console.text (c : Console) : Text := c.lines.flatMap (·.text)

structure Host where
  files : FileSystem
  environment : Environment := []
  /-- The home directories of the known users. -/
  homes : List (Text × Text) := [("root", "/root")]
  terminal : Terminal := {}
  input : Input := {}
  output : Output := {}
  console : Console := {}
  memory : Secret.Memory := {}
  server : Display.Server := {}
  entropy : Random.Entropy := {}
  /-- How TOML documents are read. -/
  reading : Toml.Reading := {}

/-! ## Computations -/

abbrev Run := ExceptT Failure (StateM Host)

namespace Run

def fail {α : Type} (f : Failure) : Run α := throw f

def refuse {α : Type} (e : AccessError) : Run α := throw (.refused e)

/-- The body, then the change, whether or not the body fails. -/
def always {α : Type} (change : Host → Host) (body : Run α) : Run α := fun h =>
  let (result, h) := body.run h
  (result, change h)

/-- The body with its failure as a result. -/
def attempt {α : Type} (body : Run α) : Run (Except Failure α) := fun h =>
  let (result, h) := body.run h
  (.ok result, h)

/-- The body, and if it fails the clean-up before its failure is passed on. If the clean-up fails
too, that is the failure. -/
def cleaning {α : Type} (cleanUp : Run Unit) (body : Run α) : Run α := do
  match ← attempt body with
  | .ok a => return a
  | .error f =>
    cleanUp
    fail f

/-- The body, then the change if the body fails. -/
def onFailure {α : Type} (change : Host → Host) (body : Run α) : Run α :=
  cleaning (modify change) body

/-- System calls on the files, with the system's error as a result. -/
def files {α : Type} (call : FileCall α) : Run (Except Errno α) := fun h =>
  let (result, files) := call.run h.files
  let h := { h with files }
  match result with
  | .ok a => (.ok (.ok a), h)
  | .error (.errno e) => (.ok (.error e), h)
  | .error .embeddedNul => (.error (.badValue .embeddedNul), h)

/-- System calls whose error is reported in words. -/
def filesOr {α : Type} (report : Errno → AccessError) (call : FileCall α) : Run α := do
  match ← files call with
  | .ok a => return a
  | .error e => refuse (report e)

/-- Writes to standard output, with the error as a result. -/
def emit (bytes : Bytes) : Run (Except Errno Unit) := fun h =>
  let (result, output) := h.output.emit bytes
  (.ok result, { h with output })

def ofValue {α : Type} : Except ValueFault α → Run α
  | .ok a => pure a
  | .error f => fail (.badValue f)

def environmentValue (name : Text) : Run (Option Text) := do
  return (← get).environment.lookup name

/-! ## Telling the operator -/

def tell (n : Notice) : Run Unit :=
  modify fun h =>
    let line : Line := ⟨n, n.render h.console.isTerminal h.console.colour⟩
    { h with console := { h.console with lines := h.console.lines ++ [line] } }

def say (n : Notice) : Run Unit := do
  match n with
  | .verbose _ => if (← get).console.verbose then tell n
  | _ => tell n

/-- An error, and what may help against it unless there is nothing to say about that. -/
def sayError (message : Text) (hint : Option Text) : Run Unit := do
  say (.error message)
  match hint with
  | none | some [] => return
  | some hint => say (.hint hint)

/-- Writes a line of the log of one part of the program. -/
def log (part : String) (message : Text) : Run Unit := do
  if (← get).console.logging then
    tell (.verbatim (Text.ofString part ++ ": " ++ message ++ [Text.newline]))

end Run
end VncAccess
