import VncAccess.System.Errno

/-!
An X display server as a client sees it. It keeps the list of requests that reached it and the last
payload of every property of its root window.
-/

namespace VncAccess.Display

/-- The property type for text, and the mode that replaces a property as a whole. -/
def stringType : Nat := 31
def replaceMode : Nat := 0

inductive Event where
  | opened (display : Option Text)
  | lookedUp (key : Text) (onlyIfExists : Bool) (atom : Nat)
  /-- A property of the root window; no other window is written to. -/
  | changed (atom type format : Nat) (payload : Bytes) (mode : Nat)
  | synced
  | closed
  deriving DecidableEq, Repr

inductive Refusal where
  /-- The display did not accept the connection. -/
  | byDisplay
  | bySystem (errno : Errno)
  deriving DecidableEq, Repr

structure Server where
  /-- A name that is not listed has the atom zero, which stands for none. -/
  atoms : List (Text × Nat) := []
  refusal : Option Refusal := none
  /-- After so many lookups every name has the atom zero. -/
  vanishAfter : Option Nat := none
  changeFault : Option Errno := none
  syncFault : Option Errno := none
  lookups : Nat := 0
  events : List Event := []
  properties : List (Nat × Bytes) := []
  deriving Repr

namespace Server

def record (s : Server) (e : Event) : Server := { s with events := s.events ++ [e] }

def connect (s : Server) (display : Option Text) : Except Refusal Unit × Server :=
  (match s.refusal with | some r => .error r | none => .ok (), s.record (.opened display))

/-- The atom of a name at the next lookup. -/
def atomOf (s : Server) (key : Text) : Nat :=
  if s.vanishAfter.any (· < s.lookups + 1) then 0 else (s.atoms.lookup key).getD 0

/-- Asks for the atom of a name without making a new one. -/
def lookup (s : Server) (key : Text) : Nat × Server :=
  let atom := s.atomOf key
  (atom, { s with lookups := s.lookups + 1 }.record (.lookedUp key true atom))

def putProperty (properties : List (Nat × Bytes)) (atom : Nat) (payload : Bytes) :
    List (Nat × Bytes) :=
  properties.filter (·.1 ≠ atom) ++ [(atom, payload)]

/-- Replaces a property of the root window by bytes of text. -/
def change (s : Server) (atom : Nat) (payload : Bytes) : Except Errno Unit × Server :=
  match s.changeFault with
  | some e => (.error e, s.record (.changed atom stringType 8 payload replaceMode))
  | none =>
    (.ok (), { s with properties := putProperty s.properties atom payload }.record
      (.changed atom stringType 8 payload replaceMode))

def sync (s : Server) : Except Errno Unit × Server :=
  (match s.syncFault with | some e => .error e | none => .ok (), s.record .synced)

def close (s : Server) : Server := s.record .closed

end Server
end VncAccess.Display
