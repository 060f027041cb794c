import VncAccess.Host

/-!
Passwords from their owner: typed twice at the terminal, or one to a line of the input. Whatever was
read is wiped on every way out, except for what is given to the caller.
-/

namespace VncAccess.Password

open Secret

def truncationWarning : Notice := .warning "password truncated to the length of 8."

def onMemory (change : Memory → Memory) (h : Host) : Host := { h with memory := change h.memory }

def store (bytes : Bytes) : Run Cell :=
  modifyGetThe Host fun h =>
    let (c, m) := h.memory.store bytes
    (c, { h with memory := m })

def wipe (c : Cell) : Host → Host := onMemory (·.wipe c)

def release (b : Buffer) : Host → Host := onMemory (·.release b)

def releasePair (p : Pair) : Host → Host := onMemory (·.releasePair p)

/-- A buffer of the significant bytes, and whether there were more. -/
def keepSignificant (bytes : Bytes) : Run (Buffer × Bool) := do
  if significantLength < bytes.length then
    Run.log "vncpasswd.utils.secure"
      ("Discarding " ++ Decimal.natural (bytes.length - significantLength) ++
        " bytes beyond the significant length")
  let (kept, memory) ← Run.ofValue ((← get).memory.truncated bytes significantLength)
  modify fun h => { h with memory }
  return kept

def makePair (primary : Buffer) (secondary : Option Buffer) : Run Pair :=
  modifyGetThe Host fun h =>
    let (p, m) := h.memory.pair primary secondary
    (p, { h with memory := m })

/-! ## At the terminal -/

def firstLabel : Text := "Password: "

def secondLabel : Text := "Verify:   "

def mismatchMessage : Text := "Passwords do not match. Please try again."

/-- The text that getpass returns for a label, as bytes in a cell of their own. -/
def prompt (label : Text) : Run Cell := do
  let t := (← get).terminal
  let asked := { t with prompts := t.prompts ++ [label], answers := t.answers.tail }
  modify fun h => { h with terminal := asked }
  match t.answers.head? with
  | some (.typed bytes) => store (Text.ofBytes bytes).toBytes
  | some .interrupt => Run.fail .interrupted
  | none => Run.refuse (.inputClosed "Can't get password: not a tty?")

/-- The first entry, cut to its significant bytes. -/
def askFirst : Run Buffer := do
  let raw ← prompt firstLabel
  let (candidate, cut) ← Run.always (wipe raw) do
    let bytes := (← get).memory.read raw
    if bytes.length < shortestLength then Run.refuse .passwordTooShort
    keepSignificant bytes
  if cut then Run.say truncationWarning
  return candidate

/-- The second entry. -/
def askSecond : Run Buffer := do
  let raw ← prompt secondLabel
  let (confirmation, _) ← keepSignificant ((← get).memory.read raw)
  modify (wipe raw)
  return confirmation

/-- Asks twice, in at most so many cycles, until both entries agree. -/
def askWithin : Nat → Run Buffer
  | 0 => Run.refuse (.inputClosed "Can't get password: not a tty?")
  | cycles + 1 => do
    let candidate ← askFirst
    let confirmation ← Run.onFailure (release candidate) askSecond
    let agreed ← Run.always (release confirmation) do
      let agreed := (← get).memory.sameContents candidate confirmation
      if agreed then Run.log "vncpasswd.prompt" "Password confirmed"
      return agreed
    if agreed then
      return candidate
    else
      modify (release candidate)
      Run.say (.plain (mismatchMessage ++ [Text.newline]) [Text.newline])
      askWithin cycles

/-- Asks for a password until it has been typed twice. Each cycle takes at least one answer, so that
there are never more cycles than answers and one. -/
def ask : Run Buffer := do askWithin ((← get).terminal.answers.length + 1)

/-- Whether a line says yes. -/
def isYes (line : List Char) : Bool := line.head? = some 'y' || line.head? = some 'Y'

/-- The operator is asked on the console and answers on standard input. -/
def askViewOnly : Run Bool := do
  Run.say (.plain "Would you like to enter a view-only password (y/n)? " "")
  let (line, input) := (← get).input.readTextLine
  modify fun h => { h with input }
  match line with
  | .ok line => return isYes line
  | .error f => Run.fail f

/-- Whether there is to be a view-only password, where `confirm` asks if nobody has said. -/
def wantsViewOnly (viewOnly : Option Bool) (confirm : Run Bool) : Run Bool := do
  match viewOnly with
  | some true =>
    Run.say (.plain "Enter the view-only password" [Text.newline])
    return true
  | some false => return false
  | none => confirm

def askPair (viewOnly : Option Bool) (confirm : Run Bool) : Run Pair := do
  let primary ← ask
  let secondary ← Run.onFailure (release primary) do
    if ← wantsViewOnly viewOnly confirm then
      return some (← ask)
    else
      return none
  makePair primary secondary

/-! ## From the input -/

/-- A line without its newline and a carriage return just before it. -/
def stripLineEnd (line : Bytes) : Bytes :=
  if line.getLast? = some 10 then
    let line := line.dropLast
    if line.getLast? = some 13 then line.dropLast else line
  else
    line

def nextLine : Run Bytes := do
  let (line, input) := (← get).input.readLine
  modify fun h => { h with input }
  match line with
  | .ok line => return line
  | .error f => Run.fail f

/-- The password on the next line, if there is one; it may be empty. -/
def readLine : Run (Option Buffer) := do
  let line ← nextLine
  let raw ← store line
  let kept ← Run.always (wipe raw) do
    if line = [] then
      return none
    else
      return some (← keepSignificant (stripLineEnd line))
  match kept with
  | none => return none
  | some (password, cut) =>
    if cut then Run.say truncationWarning
    return some password

/-- The passwords on the first two lines; the second may be missing. -/
def readPair : Run Pair := do
  match ← readLine with
  | none => Run.refuse (.inputClosed "Could not read password")
  | some primary =>
    if (← get).memory.contents primary = [] then Run.say (.warning "empty password read")
    let secondary ← Run.onFailure (release primary) readLine
    makePair primary secondary

end VncAccess.Password
