import VncAccess.Display.Session

/-!
Changes to a server's list of users. An entry is a control byte, whose bits say whether the user is
added and whether only for viewing, and the name.
-/

namespace VncAccess.AccessList

open Display

def longestName : Nat := 63

def addBit : Nat := 0x01

def viewOnlyBit : Nat := 0x10

def controlByte (add viewOnly : Bool) : Nat :=
  (if add then addBit else 0) ||| (if viewOnly then viewOnlyBit else 0)

inductive NameFault where
  | missing
  | tooLong
  | unencodable
  deriving DecidableEq, Repr

def NameFault.failure : NameFault → Failure
  | missing => .refused (.username "missing the username!")
  | tooLong => .refused (.username "username is too large")
  | unencodable => .unencodable

def entry (user : Text) (add viewOnly : Bool) : Except NameFault Bytes :=
  match user.utf8? with
  | none => .error .unencodable
  | some [] => .error .missing
  | some name =>
    if longestName < name.length then
      .error .tooLong
    else
      .ok (.ofNat (controlByte add viewOnly) :: name)

/-- What an entry says: its user, and the two flags. -/
def readEntry : Bytes → Option (Text × Bool × Bool)
  | [] => none
  | control :: name =>
    (Text.decode? name).map fun user =>
      (Text.ofChars user, control.toNat.testBit 0, control.toNat.testBit 4)

/-- Adds a user to the list of a server or removes one. A name that no entry can hold is refused
before the server is asked. -/
def publish (user : Text) (add viewOnly : Bool) (display : Option Text) : Run Unit := do
  match entry user add viewOnly with
  | .error f => Run.fail f.failure
  | .ok payload =>
    let s ← Session.during display fun s => do
      Run.say (.verbose ("Connected to display " ++ s.display))
      s.setProperty accessListKey payload
      return s
    Run.log "vncpasswd.acl"
      ((if add then "Added " else "Removed ") ++ user ++ " (view_only=" ++
        (if viewOnly then "True" else "False") ++ ") on " ++ s.display)

end VncAccess.AccessList
