import PropForge.Number.Digits

/-!
Numbers of the 64-bit binary format, exactly. A finite one is a whole number of units, the unit
being the least positive one, so that comparing them is comparing whole numbers; what a decimal
denotes is the number nearest to it, a tie going to the even neighbour.
-/

namespace PropForge.Number

/-- A number of the 64-bit binary format. -/
inductive Binary64 where
  | finite (negative : Bool) (units : Nat)
  | infinite (negative : Bool)
  | nan
  deriving DecidableEq, Repr

namespace Binary64

/-- The unit is two to the power of minus this. -/
def unitExponent : Nat := 1074

/-- Two to this power is the first that is too large, counted in units. -/
def limitExponent : Nat := 2098

/-- A finite number keeps this many leading binary digits. -/
def precision : Nat := 53

/-- The distance between the numbers around `units`, as a power of two. -/
def stepExponent (units : Nat) : Nat := units.log2 + 1 - precision

/-- The whole number nearest to a quotient, a tie going to the even one. -/
def roundDiv (num den : Nat) : Nat :=
  let q := num / den
  let twice := 2 * (num % den)
  if twice < den then q
  else if den < twice then q + 1
  else if q % 2 = 0 then q else q + 1

/-- The units of the number nearest to a quotient of units, none if it is out of range. -/
def nearestUnits (num den : Nat) : Option Nat :=
  let e := stepExponent (num / den)
  let units := roundDiv num (den * Nat.pow 2 e) * Nat.pow 2 e
  if units < Nat.pow 2 limitExponent then some units else none

/-- The number nearest to a quotient of units; out of range it is infinite. -/
def ofQuotient (negative : Bool) (num den : Nat) : Binary64 :=
  match nearestUnits num den with
  | some units => finite negative units
  | none => infinite negative

/-- The number nearest to `mantissa` times ten to the `exponent`. -/
def ofDecimal (negative : Bool) (mantissa : Nat) (exponent : Int) : Binary64 :=
  let size := ((digits mantissa).length : Int) + exponent
  if mantissa = 0 || size < -400 then finite negative 0
  else if 400 < size then infinite negative
  else match exponent with
    | .ofNat e => ofQuotient negative (mantissa * Nat.pow 10 e * Nat.pow 2 unitExponent) 1
    | .negSucc e => ofQuotient negative (mantissa * Nat.pow 2 unitExponent)
      (Nat.pow 10 (e + 1))

/-- The number nearest to a whole number, none if that is too large. -/
def ofInt? (n : Int) : Option Binary64 :=
  (nearestUnits (n.natAbs * Nat.pow 2 unitExponent) 1).map (finite (n < 0))

/-- A number with the other sign. -/
def negated : Binary64 → Binary64
  | finite s u => finite (!s) u
  | infinite s => infinite (!s)
  | nan => nan

/-- A finite number in units, with its sign. -/
def signedUnits (negative : Bool) (units : Nat) : Int :=
  if negative then -(units : Int) else units

/-- The number nearest to a whole number of units. -/
def ofUnits (n : Int) : Binary64 := ofQuotient (n < 0) n.natAbs 1

/-- The number nearest to `x` plus `n` times `y`, where the product is rounded first. What is not
finite stays so. -/
def plusTimes (x : Binary64) (n : Nat) (y : Binary64) : Binary64 :=
  match y with
  | finite t v =>
    match x, ofUnits (signedUnits t (n * v)) with
    | finite s u, finite r w => ofUnits (signedUnits s u + signedUnits r w)
    | finite _ _, product => product
    | x, _ => x
  | y => y

/-- Whether a number is a whole number. -/
def equalsInt (x : Binary64) (n : Int) : Bool :=
  match x with
  | finite s u => signedUnits s u = n * (Nat.pow 2 unitExponent : Nat)
  | _ => false

/-- Equality of numbers: the two zeros are equal and nothing equals a number that is none. -/
def equals : Binary64 → Binary64 → Bool
  | finite s u, finite t v => signedUnits s u = signedUnits t v
  | infinite s, infinite t => s = t
  | _, _ => false

/-- The order of numbers; one that is no number is not ordered. -/
def less : Binary64 → Binary64 → Bool
  | finite s u, finite t v => signedUnits s u < signedUnits t v
  | infinite s, finite _ _ => s
  | finite _ _, infinite t => !t
  | infinite s, infinite t => s && !t
  | _, _ => false

end Binary64

end PropForge.Number
