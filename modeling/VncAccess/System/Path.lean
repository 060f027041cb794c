import VncAccess.Text.Basic

/-!
Paths as names below an anchor. Reading a path drops empty names and dots, and keeps `..`, which
only the file tree can interpret.
-/

namespace VncAccess

/-- Two leading slashes are kept apart from one; more than two count as one. -/
inductive Anchor where
  | relative
  | root
  | doubleRoot
  deriving DecidableEq, Repr

def Anchor.text : Anchor → Text
  | .relative => ""
  | .root => "/"
  | .doubleRoot => "//"

structure Path where
  anchor : Anchor
  names : List Text
  deriving DecidableEq, Repr

namespace Path

def dot : Text := "."

def anchorOf (t : Text) : Anchor :=
  match (t.takeWhile (· = Text.slash)).length with
  | 0 => .relative
  | 2 => .doubleRoot
  | _ => .root

def ofText (t : Text) : Path where
  anchor := anchorOf t
  names := (Text.splitOn Text.slash t).filter fun name => name ≠ [] ∧ name ≠ dot

def text (p : Path) : Text :=
  if p.anchor = .relative ∧ p.names = [] then dot
  else p.anchor.text ++ Text.joinWith [Text.slash] p.names

/-- An anchored path on the right discards the left one. -/
def join (p q : Path) : Path :=
  if q.anchor = .relative then { p with names := p.names ++ q.names } else q

def child (p : Path) (name : Text) : Path := p.join (ofText name)

def parent (p : Path) : Path := { p with names := p.names.dropLast }

/-- A path holding a zero byte cannot be given to the system. -/
def hasNul (p : Path) : Bool := p.names.any (·.contains (.char '\x00'))

end Path
end VncAccess
