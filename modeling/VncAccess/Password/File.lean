import VncAccess.Host

/-!
Password files. A file is written under another name in the same directory and then moved into
place, so that nobody ever sees half of it.
-/

namespace VncAccess.Password.File

open Secret

def mode : Nat := 0o600

def slotLength : Nat := 8

def cannotWrite (path : Path) (e : Errno) : AccessError :=
  .fileAccess path ("Cannot write password file " ++ path.text ++ ": " ++ e.message)

/-- Removes a temporary file, which may be gone already. -/
def discard (temporary : Location) : Run Unit := do
  match ← Run.files (FileSystem.unlink temporary) with
  | .ok () => return
  | .error e => if e ≠ .noEntry then Run.fail (.system (some e))

/-- Puts a file with the content where the path leads. -/
def replace (path : Path) (content : Bytes) : Run Unit := do
  let temporary ← Run.filesOr (cannotWrite path) (FileSystem.createTemporary path.parent)
  Run.cleaning (discard temporary) do
    Run.filesOr (cannotWrite path) do
      FileSystem.changeMode temporary mode
      FileSystem.write temporary content
    Run.filesOr (cannotWrite path) (FileSystem.rename temporary path)

/-- Writes the passwords of two buffers, which stay with the caller. -/
def persist (primary : Buffer) (secondary : Option Buffer) (path : Path) : Run Unit := do
  let content ← Run.ofValue ((← get).memory.encode primary secondary)
  replace path content
  Run.log "vncpasswd.store"
    ("Wrote " ++ Decimal.natural (content.length / slotLength) ++ " password slot(s) to " ++
      path.text)

/-- The passwords in the content of a file: one, and a second if there is a whole second slot. -/
def decode (content : Bytes) : Except ValueFault (Bytes × Option Bytes) := do
  let primary ← decrypt (content.take slotLength)
  if 2 * slotLength ≤ content.length then
    return (primary, some (← decrypt ((content.drop slotLength).take slotLength)))
  else
    return (primary, none)

/-- New buffers for the passwords, as a pair. -/
def holdPair (primary : Bytes) (secondary : Option Bytes) : Run Pair :=
  modifyGetThe Host fun h =>
    let (first, m) := h.memory.hold primary none
    let (second, m) :=
      match secondary with
      | some bytes => let (b, m) := m.hold bytes none; (some b, m)
      | none => (none, m)
    let (p, m) := m.pair first second
    (p, { h with memory := m })

def load (path : Path) : Run Pair := do
  let content ← Run.filesOr
    (fun e => .fileAccess path ("Cannot read password file " ++ path.text ++ ": " ++ e.message))
    (FileSystem.readFile path)
  if content.length < slotLength then
    Run.refuse (.fileAccess path ("Password file " ++ path.text ++ " is too short"))
  let (primary, secondary) ← Run.ofValue (decode content)
  holdPair primary secondary

/-- Writes the content of a password file to standard output. -/
def writeStream (primary : Buffer) (secondary : Option Buffer) : Run Unit := do
  let content ← Run.ofValue ((← get).memory.encode primary secondary)
  match ← Run.emit content with
  | .ok () => pure ()
  | .error e =>
    Run.refuse (.fileAccess (.ofText "-") ("Cannot write password data: " ++ e.message))

end VncAccess.Password.File
