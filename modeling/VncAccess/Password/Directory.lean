import VncAccess.Host

/-!
The directory that holds the password file. A missing one is made for its owner alone; one that is
there is judged and never changed.
-/

namespace VncAccess.Password.Directory

/-- Whether an entry with this status may hold the caller's password file. -/
def judge (path : Path) (status : Status) (caller : Int) (strict : Bool) :
    Except AccessError Unit :=
  if !status.isDirectory then
    .error (.fileAccess path (path.text ++ " is not a directory"))
  else if status.owner ≠ caller then
    .error (.fileAccess path ("bad ownership on " ++ path.text))
  else if strict && status.isOpenToOthers then
    .error (.fileAccess path ("bad access modes on " ++ path.text))
  else
    .ok ()

def check (path : Path) (status : Status) (strict : Bool) : Run Unit := do
  match judge path status (← get).files.caller strict with
  | .error e => Run.refuse e
  | .ok () =>
    Run.log "vncpasswd.directory"
      ("Directory " ++ path.text ++ " passed checks (strict=" ++
        (if strict then "True" else "False") ++ ")")

def failed (path : Path) (doing : Text) (e : Errno) : AccessError :=
  .fileAccess path (doing ++ path.text ++ ": " ++ e.message)

def make (path : Path) : Run Unit := do
  Run.say (.info ("VNC directory " ++ path.text ++ " does not exist, creating."))
  Run.filesOr (failed path "Error creating directory ") (FileSystem.makeDirectory path)
  Run.log "vncpasswd.directory" ("Created " ++ path.text ++ " with mode 0o700")

/-- Makes the directory if nothing is there, and checks what is there then. A link never counts as
the directory that it leads to. -/
def ensure (path : Path) (strict : Bool) : Run Unit := do
  match ← Run.files (FileSystem.lstat path) with
  | .ok _ => pure ()
  | .error e =>
    if e = .noEntry then make path else Run.refuse (failed path "lstat() failed for " e)
  let status ← Run.filesOr (failed path "Error in lstat() for ") (FileSystem.lstat path)
  check path status strict
  Run.say (.verbose ("Using directory " ++ path.text))

end VncAccess.Password.Directory
