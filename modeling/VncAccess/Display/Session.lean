import VncAccess.Host

/-!
A connection to the display of a running server. Requests of the tool are properties of the root
window, which the server watches; the connection is closed however its use ends.
-/

namespace VncAccess.Display

def oneTimeKey : Text := "VNC_OTP"

def accessListKey : Text := "VNC_ACL"

/-- What a server without the key does not support, in words. -/
def feature (key : Text) : Text :=
  if key = oneTimeKey then "VNC one-time passwords"
  else if key = accessListKey then "VNC user access control lists"
  else key

structure Session where
  display : Text

/-- The display that is meant: without a name, the one of the environment. -/
def describe (display : Option Text) (environment : Environment) : Text :=
  match display with
  | some name@(_ :: _) => name
  | _ => (environment.lookup (Text.ofString "DISPLAY")).getD []

def onServer {α : Type} (request : Server → α × Server) : Run α :=
  modifyGetThe Host fun h =>
    let (a, server) := request h.server
    (a, { h with server })

def orFail {α : Type} : Except Errno α → Run α
  | .ok a => pure a
  | .error e => Run.fail (.system (some e))

def refusalText (display : Option Text) : Refusal → Text
  | .byDisplay => "Can't connect to display \"" ++ display.getD "None" ++ "\": refused"
  | .bySystem e => "[Errno " ++ Decimal.natural e.code ++ "] " ++ e.message

namespace Session

def connect (display : Option Text) : Run Session := do
  let name := describe display (← get).environment
  match ← onServer (·.connect display) with
  | .ok () => return ⟨name⟩
  | .error r =>
    Run.log "vncpasswd.session" ("Display connection failed: " ++ refusalText display r)
    Run.refuse (.noDisplay name)

/-- The atom of a key, which the server must know. -/
def atom (s : Session) (key : Text) : Run Nat := do
  let atom ← onServer (·.lookup key)
  if atom = 0 then Run.refuse (.unsupported s.display key (feature key))
  Run.log "vncpasswd.session"
    ("Resolved property " ++ key ++ " to atom " ++ Decimal.natural atom)
  return atom

def require (s : Session) (key : Text) : Run Unit := do let _ ← s.atom key

def setProperty (s : Session) (key : Text) (payload : Bytes) : Run Unit := do
  let atom ← s.atom key
  orFail (← onServer (·.change atom payload))
  orFail (← onServer (·.sync))
  Run.log "vncpasswd.session"
    ("Published " ++ Decimal.natural payload.length ++ " byte(s) under " ++ key)

/-- Opens a session for the body and closes it afterwards. -/
def during {α : Type} (display : Option Text) (body : Session → Run α) : Run α := do
  let s ← connect display
  Run.always (fun h => { h with server := h.server.close }) (body s)

end Session
end VncAccess.Display
