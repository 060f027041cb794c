/-! Moments as a clock gives them, and the seed made from one. -/

namespace VncAccess.Random

/-- The number `mantissa / 2 ^ scale` of seconds. -/
structure Instant where
  mantissa : Int
  scale : Nat
  deriving DecidableEq, Repr

namespace Instant

/-- The finite number that a 64-bit floating-point word stands for. -/
def ofBits (word : UInt64) : Instant :=
  let n := word.toNat
  let exponent : Nat := n >>> 52 % 2048
  let fraction : Nat := n % 1 <<< 52
  let magnitude : Nat := if exponent = 0 then fraction else fraction + 1 <<< 52
  let signed : Int := if n >>> 63 = 1 then -magnitude else magnitude
  let power := max exponent 1
  if power ≤ 1075 then
    ⟨signed, 1075 - power⟩
  else
    ⟨signed * (1 <<< (power - 1075) : Nat), 0⟩

/-- The nearest number of at most 53 significant binary digits; a tie goes to the even one. -/
def rounded (n : Nat) : Nat :=
  let excess := n.log2 + 1 - 53
  let unit := 1 <<< excess
  let low := n / unit
  let twice := 2 * (n % unit)
  if twice > unit ∨ (twice = unit ∧ low % 2 = 1) then (low + 1) * unit else low * unit

/-- The whole seconds plus the microseconds that a floating-point product gives. -/
def seed (t : Instant) : Int :=
  let unit : Nat := 1 <<< t.scale
  let fraction := rounded (t.mantissa % unit).toNat
  t.mantissa.tdiv unit + (rounded (fraction * 1000000) / unit : Nat)

end Instant
end VncAccess.Random
