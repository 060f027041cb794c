import VncAccess.Text.Basic
import VncAccess.Random.Clock
import VncAccess.Random.Twister

/-!
Sources of random numbers. The system's source is strong; a generator seeded by the clock can be
guessed and is only used where the system's fails.
-/

namespace VncAccess.Random

/-- What the system's source and the clock will say, and what has been drawn. -/
structure Entropy where
  /-- Why the system gives no random bytes, if it gives none. -/
  fault : Option Text := none
  /-- The numbers still to come; after the last, drawing fails. -/
  values : List Int := []
  now : Instant := ⟨0, 0⟩
  /-- What every draw gave, from whatever source. -/
  drawn : List (Option Int) := []
  deriving Repr

def Entropy.record (e : Entropy) (value : Option Int) : Entropy :=
  { e with drawn := e.drawn ++ [value] }

inductive Source where
  | system
  | generator (state : Twister)
  /-- The numbers in order; a draw without one fails. -/
  | listed (values : List (Option Int))

structure Provider where
  name : Text
  strong : Bool
  source : Source

namespace Provider

def system : Provider := ⟨"system", true, .system⟩

def timeSeeded (seed : Int) : Provider := ⟨"time-seeded", false, .generator (.ofSeed seed)⟩

/-- The strongest source there is. -/
def best (e : Entropy) : Provider := if e.fault.isSome then timeSeeded e.now.seed else system

/-- The next number, unless the source fails. -/
def draw (p : Provider) (e : Entropy) : Option Int × Provider × Entropy :=
  match p.source with
  | .system => (e.values.head?, p, { e with values := e.values.tail }.record e.values.head?)
  | .generator t =>
    let (w, t) := t.next
    (some w.toNat, { p with source := .generator t }, e.record (some w.toNat))
  | .listed values =>
    (values.head?.join, { p with source := .listed values.tail }, e.record values.head?.join)

end Provider
end VncAccess.Random
