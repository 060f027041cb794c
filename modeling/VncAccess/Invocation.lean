import VncAccess.Failure

/-!
What one run of the tool is to do, decided from the options before anything is touched: options that
do not go together are refused, and so are variables that are needed and unusable.
-/

namespace VncAccess

/-- The options as they were given. -/
structure Request where
  viewOnly : Bool := false
  display : Option Text := none
  fromInput : Bool := false
  temporary : Bool := false
  oneTime : Bool := false
  clearOneTime : Bool := false
  addUser : Option Text := none
  removeUser : Option Text := none
  file : Option Text := none
  deriving DecidableEq, Repr

inductive Mode where
  | file
  | stream
  | temporary
  | oneTime
  | clearOneTime
  | accessList
  deriving DecidableEq, Repr

def Mode.label : Mode → Text
  | file => "file"
  | stream => "stdin"
  | temporary => "temp-dir"
  | oneTime => "otp"
  | clearOneTime => "otp-clear"
  | accessList => "acl"

structure Invocation where
  mode : Mode
  viewOnly : Bool := false
  /-- The display of the server, where one is talked to. -/
  display : Option Text := none
  directory : Option Path := none
  file : Option Path := none
  makeDirectory : Bool := false
  /-- Whether the directory must be closed to everyone but its owner. -/
  strict : Bool := false
  user : Option Text := none
  add : Bool := true
  deriving DecidableEq, Repr

namespace Invocation

/-! ## Conflicts -/

inductive Conflict where
  | addWithRemove
  | streamWithOneTime
  | temporaryWithOneTime
  | userWithOneTime
  | fileWithOneTime
  | streamWithUser
  | temporaryWithUser
  | fileWithUser
  | fileTooLong
  | fileWithStream
  | temporaryWithStream
  | fileWithTemporary
  deriving DecidableEq, Repr

def Conflict.message : Conflict → Text
  | addWithRemove => "-a and -r are incompatible"
  | streamWithOneTime => "-f is incompatible with -o"
  | temporaryWithOneTime => "-t is incompatible with -o"
  | userWithOneTime => "-a and -r are incompatible with -o"
  | fileWithOneTime => "cannot specify filename with -o"
  | streamWithUser => "-f is incompatible with -a and -r"
  | temporaryWithUser => "-t is incompatible with -a and -r"
  | fileWithUser => "cannot specify filename with -a and -r"
  | fileTooLong => "file name too long"
  | fileWithStream => "cannot specify filename with -f"
  | temporaryWithStream => "-t is incompatible with -f"
  | fileWithTemporary => "cannot specify filename with -t"

def conflict {α : Type} (c : Conflict) : Except AccessError α := .error (.usage c.message)

/-! ## Variables -/

def longestHome : Nat := 240

def longestUser : Nat := 32

def longestFileName : Nat := 4095

/-- A variable that must be set, to at most so many characters. -/
def boundedVariable (environment : List (Text × Text)) (name : Text) (longest : Int) :
    Except AccessError Text :=
  match environment.lookup name with
  | none => .error (.environment name ("no " ++ name ++ " environment variable"))
  | some value =>
    if longest < (value.length : Int) then
      .error (.environment name (name ++ " environment variable string too long"))
    else
      .ok value

def defaultDirectory (environment : List (Text × Text)) : Except AccessError Path := do
  return (Path.ofText (← boundedVariable environment "HOME" longestHome)).child ".vnc"

/-- A directory of the user's own among those that all users share. -/
def temporaryDirectory (environment : List (Text × Text)) : Except AccessError Path := do
  return (Path.ofText "/tmp").child ((← boundedVariable environment "USER" longestUser) ++ "-vnc")

def passwordFile (directory : Path) : Path := directory.child "passwd"

/-! ## Choosing -/

def oneTimeFor (r : Request) : Except AccessError Invocation :=
  if r.fromInput then conflict .streamWithOneTime
  else if r.temporary then conflict .temporaryWithOneTime
  else if r.addUser.isSome || r.removeUser.isSome then conflict .userWithOneTime
  else if r.file.isSome then conflict .fileWithOneTime
  else .ok {
    mode := if r.clearOneTime then .clearOneTime else .oneTime
    viewOnly := r.viewOnly
    display := r.display }

def accessListFor (r : Request) : Except AccessError Invocation :=
  if r.fromInput then conflict .streamWithUser
  else if r.temporary then conflict .temporaryWithUser
  else if r.file.isSome then conflict .fileWithUser
  else .ok {
    mode := .accessList
    viewOnly := r.viewOnly
    display := r.display
    user := r.addUser <|> r.removeUser
    add := r.addUser.isSome }

def streamFor (r : Request) : Except AccessError Invocation :=
  match r.file with
  | some name =>
    if longestFileName < name.length then conflict .fileTooLong else conflict .fileWithStream
  | none =>
    if r.temporary then conflict .temporaryWithStream
    else .ok { mode := .stream, viewOnly := r.viewOnly }

/-- The file is written as named, and no directory is made for it. -/
def namedFileFor (r : Request) (name : Text) : Except AccessError Invocation :=
  if longestFileName < name.length then conflict .fileTooLong
  else if r.temporary then conflict .fileWithTemporary
  else .ok { mode := .file, viewOnly := r.viewOnly, file := some (.ofText name) }

def fileIn (mode : Mode) (r : Request) (directory : Path) : Invocation where
  mode := mode
  viewOnly := r.viewOnly
  directory := some directory
  file := some (passwordFile directory)
  makeDirectory := true
  strict := mode = .temporary

/-- What a request asks for. -/
def ofRequest (environment : List (Text × Text)) (r : Request) :
    Except AccessError Invocation :=
  if r.addUser.isSome && r.removeUser.isSome then conflict .addWithRemove
  else if r.oneTime || r.clearOneTime then oneTimeFor r
  else if r.addUser.isSome || r.removeUser.isSome then accessListFor r
  else if r.fromInput then streamFor r
  else match r.file with
    | some name => namedFileFor r name
    | none =>
      if r.temporary then
        return fileIn .temporary r (← temporaryDirectory environment)
      else
        return fileIn .file r (← defaultDirectory environment)

end Invocation
end VncAccess
