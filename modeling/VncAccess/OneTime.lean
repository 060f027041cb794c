import VncAccess.Display.Session

/-!
One-time passwords. A fresh pair is shown to the operator once and handed to the server; an empty
payload takes back a pair that has not been used.
-/

namespace VncAccess.OneTime

open Display

def digits : Nat := 8

def modulus : Int := Int.pow 10 digits

/-- The last eight decimal digits of a number, counted upward from below for negative ones. -/
def format (value : Int) : Text :=
  Text.ofChars (Decimal.padded digits (value % modulus).toNat)

def ascii? (t : Text) : Option Bytes :=
  t.mapM fun
    | .char c => if c.toNat < 128 then some (.ofNat c.toNat) else none
    | .stray _ => none

/-- Puts a part in the place of the bytes from `start` up to `stop`. Those behind it move. -/
def replaceRange (buffer part : Bytes) (start stop : Nat) : Bytes :=
  buffer.take start ++ part ++ buffer.drop stop

/-- The passwords are put in the place of the two slots of an empty buffer. What the first leaves
behind its own slot gives way to the second, or to nothing. -/
def payload? (full : Text) (view : Option Text) : Option Bytes := do
  let blank := List.replicate (2 * digits) 0
  let buffer := replaceRange blank (← ascii? full) 0 digits
  match view with
  | none => return replaceRange buffer [] digits buffer.length
  | some view => return replaceRange buffer (← ascii? view) digits buffer.length

/-- A draw that must succeed. -/
def draw (p : Random.Provider) : Run (Int × Random.Provider) := do
  let (value, p, entropy) := p.draw (← get).entropy
  modify fun h => { h with entropy }
  match value with
  | some n => return (n, p)
  | none => Run.fail (.system none)

/-- The strongest source of random numbers that works. -/
def bestProvider : Run Random.Provider := do
  let entropy := (← get).entropy
  if let some reason := entropy.fault then
    Run.log "vncpasswd.randomness" ("Strong randomness unavailable: " ++ reason)
  return .best entropy

/-- Draws a password and shows it under a label. -/
def issue (label : Text) (p : Random.Provider) : Run (Text × Random.Provider) := do
  let (value, p) ← draw p
  let password := format value
  Run.say (.secret label password)
  return (password, p)

/-- The passwords as the server takes them: one, or two if a view-only one is wanted. -/
def issueAll (p : Random.Provider) (wantView : Bool) : Run Bytes := do
  let (full, p) ← issue "Full control one-time password" p
  let view ←
    if wantView then
      let (view, _) ← issue "View-only one-time password" p
      pure (some view)
    else
      pure none
  match payload? full view with
  | some payload => return payload
  | none => Run.fail .unencodable

/-- Issues passwords, or takes back pending ones. -/
def publish (display : Option Text) (wantView revoke : Bool) (provider : Option Random.Provider) :
    Run Unit :=
  Session.during display fun s => do
    Run.say (.verbose ("Connected to display " ++ s.display))
    s.require oneTimeKey
    if revoke then
      s.setProperty oneTimeKey []
      Run.log "vncpasswd.otp" ("Revoked one-time passwords on " ++ s.display)
    else
      let p ← match provider with
        | some p => pure p
        | none => bestProvider
      Run.say (.verbose ("Using " ++ p.name ++ " randomness"))
      if !p.strong then
        Run.say (.warning ("using " ++ p.name ++
          " randomness, one-time passwords may be predictable"))
      let payload ← issueAll p wantView
      s.setProperty oneTimeKey payload

end VncAccess.OneTime
