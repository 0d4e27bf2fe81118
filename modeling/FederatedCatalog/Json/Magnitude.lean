/-!
# The magnitude of decimals

A decimal is accepted only if a double-precision number can hold its magnitude. It is brought into
the range of doubles by one multiplication: the significand and the power of ten are each rounded
to the nearest double, and the product must not round to infinity. Small magnitudes are never
refused.
-/

namespace FederatedCatalog.Json

/-- `n` rounded to 53 significant bits, a tie going to the even neighbour. -/
def nearestDouble (n : Nat) : Nat :=
  if n < 1 <<< 53 then n
  else
    let unit := 1 <<< (n.log2 - 52)
    let quotient := n / unit
    let rest := n % unit
    if 2 * rest < unit ∨ 2 * rest = unit ∧ quotient % 2 = 0 then quotient * unit
    else (quotient + 1) * unit

/-- The least magnitude that rounds to infinity: halfway between the largest finite double and
`2 ^ 1024`. -/
def infinityThreshold : Nat := 1 <<< 1024 - 1 <<< 970

/-- Whether `significand * 10 ^ exponent` stays finite as a double. -/
def isFinite (significand : Nat) (exponent : Int) : Bool :=
  if significand = 0 ∨ exponent < 0 then true
  else if exponent > 308 then false
  else nearestDouble significand * nearestDouble (Nat.pow 10 exponent.toNat) < infinityThreshold

end FederatedCatalog.Json
