/-!
The Mersenne Twister: a generator of 32-bit words with a state of 624 words, and the way a seed of
any length fills that state.
-/

namespace VncAccess.Random

abbrev Words := Vector UInt32 624

structure Twister where
  words : Words
  /-- How many words of the state have been given out. -/
  used : Nat

namespace Twister

/-! ## Seeding -/

def folded (w : UInt32) : UInt32 := w ^^^ (w >>> 30)

/-- The state that one word fills, each place from the one before. -/
def fill (seed : UInt32) : Words :=
  ((List.finRange 624).drop 1).foldl
    (fun words (i : Fin 624) => words.set i (1812433253 * folded words[i - 1] + .ofNat i.val))
    (Vector.replicate 624 seed)

/-- Changes the word at a place and goes on to the next; after the last place the state begins
again, at its second place. -/
def stir (change : UInt32 → UInt32 → UInt32) (state : Words × Fin 624) : Words × Fin 624 :=
  let (words, i) := state
  let words := words.set i (change (folded words[i - 1]) words[i])
  if i = 623 then (words.set 0 words[i], 1) else (words, i + 1)

def stirWith (key : List UInt32) (state : Words × Fin 624) (n : Nat) : Words × Fin 624 :=
  let j := n % key.length
  stir (fun before word => (word ^^^ (before * 1664525)) + key.getD j 0 + .ofNat j) state

def settle (state : Words × Fin 624) : Words × Fin 624 :=
  stir (fun before word => (word ^^^ (before * 1566083941)) - .ofNat state.2.val) state

def ofKey (key : List UInt32) : Twister :=
  let mixed := (List.range (max 624 key.length)).foldl (stirWith key) (fill 19650218, 1)
  let settled := (List.range 623).foldl (fun state _ => settle state) mixed
  ⟨settled.1.set 0 0x80000000, 624⟩

/-- The 32-bit words of a number, the lowest first; zero has one. -/
def keyOf (n : Nat) : List UInt32 :=
  (List.range (n.log2 / 32 + 1)).map fun i => .ofNat (n >>> (32 * i))

/-- The sign of a seed makes no difference. -/
def ofSeed (seed : Int) : Twister := ofKey (keyOf seed.natAbs)

/-! ## Drawing -/

def twist (words : Words) (i : Fin 624) : Words :=
  let joined := (words[i] &&& 0x80000000) ||| (words[i + 1] &&& 0x7fffffff)
  let shifted := if joined % 2 = 0 then joined >>> 1 else (joined >>> 1) ^^^ 0x9908b0df
  words.set i (words[i + 397] ^^^ shifted)

def temper (w : UInt32) : UInt32 :=
  let w := w ^^^ (w >>> 11)
  let w := w ^^^ ((w <<< 7) &&& 0x9d2c5680)
  let w := w ^^^ ((w <<< 15) &&& 0xefc60000)
  w ^^^ (w >>> 18)

/-- The state renewed once all of its words have been given out. -/
def renewed (t : Twister) : Twister :=
  if t.used < 624 then t else ⟨(List.finRange 624).foldl twist t.words, 0⟩

def next (t : Twister) : UInt32 × Twister :=
  let t := t.renewed
  (temper (t.words[Fin.ofNat 624 t.used]), { t with used := t.used + 1 })

end Twister
end VncAccess.Random
