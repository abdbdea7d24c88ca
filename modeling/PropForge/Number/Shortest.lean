import PropForge.Number.Binary64

/-!
The decimal text of a number of the 64-bit format: the fewest digits that read back to it, and
among those the nearest, laid out positionally or with an exponent.
-/

namespace PropForge.Number

namespace Binary64

/-- A decimal: digits, the leading one worth ten to the `exponent`. -/
structure Scientific where
  digits : List Char
  exponent : Int
  deriving DecidableEq, Repr

/-- A positive number in units against powers of ten: `value / grid` is the number in steps of
ten to the `power`, and the reals that round to the number reach from `below` under it to `above`
over it, all doubled. -/
structure Scale where
  value : Nat
  grid : Nat
  below : Nat
  above : Nat
  closed : Bool

def scale (units : Nat) (power : Int) : Scale :=
  let step := Nat.pow 2 (stepExponent units)
  let narrow := units = Nat.pow 2 units.log2 && 0 < stepExponent units
  let up := Nat.pow 10 (-power).toNat
  { value := units * up
    grid := Nat.pow 10 power.toNat * Nat.pow 2 unitExponent
    below := if narrow then step / 2 * up else step * up
    above := step * up
    closed := units / step % 2 = 0 }

/-- Whether `count` steps of the grid read back to the number. -/
def Scale.readsBack (s : Scale) (count : Nat) : Bool :=
  let x := 2 * (count * s.grid)
  let v := 2 * s.value
  if x ≤ v then v - x < s.below || (s.closed && v - x = s.below)
  else x - v < s.above || (s.closed && x - v = s.above)

/-- The nearer of the grid's neighbours of the number that reads back. -/
def Scale.nearest? (s : Scale) : Option Nat :=
  let low := s.value / s.grid
  let toLow := s.value % s.grid
  let toHigh := s.grid - toLow
  match s.readsBack low, s.readsBack (low + 1) with
  | true, true =>
    some (if toLow < toHigh || (toLow = toHigh && low % 2 = 0) then low else low + 1)
  | true, false => some low
  | false, true => some (low + 1)
  | false, false => none

/-- The power of ten of the leading digit. -/
def leadingPower (units : Nat) : Int :=
  let atLeast (p : Int) : Bool :=
    let s := scale units p
    s.grid ≤ s.value
  let guess : Int := ((units.log2 : Int) - unitExponent) * 30103 / 100000
  if atLeast (guess + 1) then guess + 1 else if atLeast guess then guess else guess - 1

/-- The digits of a number in steps of ten to the `power`, if such a step reads back. -/
def candidate? (units : Nat) (power : Int) : Option Scientific :=
  (scale units power).nearest?.map fun n =>
    let ds := Number.digits n
    ⟨ds, power + ds.length - 1⟩

/-- Tries one digit, then two, up to as many as always suffice. -/
def searchDigits (units : Nat) (leading : Int) : Scientific :=
  ((List.range 17).findSome? fun more : Nat => candidate? units (leading - more)).getD ⟨['0'], 0⟩

/-- The fewest digits of a positive finite number, without closing zeros. -/
def shortest (units : Nat) : Scientific :=
  let s := searchDigits units (leadingPower units)
  { s with digits := match (s.digits.reverse.dropWhile (· = '0')).reverse with
      | [] => ['0']
      | ds => ds }

/-- From ten to this power on, numbers are written with an exponent. -/
def positionalLimit : Int := 16

/-- Below ten to this power, numbers are written with an exponent. -/
def positionalFloor : Int := -4

/-- The exponent with its sign, in two digits or more. -/
def exponentText (e : Int) : List Char :=
  (if e < 0 then '-' else '+') :: padded 2 e.natAbs

/-- Digits with a point between whole and fraction; a whole number ends in `.0`. -/
def positional (s : Scientific) : List Char :=
  if s.exponent < 0 then
    '0' :: '.' :: (List.replicate (s.exponent.natAbs - 1) '0' ++ s.digits)
  else
    let whole := s.exponent.toNat + 1
    let front := s.digits.take whole ++ List.replicate (whole - s.digits.length) '0'
    let back := s.digits.drop whole
    front ++ '.' :: (if back.isEmpty then ['0'] else back)

def scientific (s : Scientific) : List Char :=
  let point := match s.digits with
    | d :: e :: rest => d :: '.' :: e :: rest
    | ds => ds
  point ++ 'e' :: exponentText s.exponent

/-- The text of a finite number without its sign. -/
def magnitudeText (units : Nat) : List Char :=
  if units = 0 then ['0', '.', '0']
  else
    let s := shortest units
    if s.exponent < positionalFloor || positionalLimit ≤ s.exponent then scientific s
    else positional s

/-- The text of a number, with the given words for those that are not finite. -/
def text (infinity notANumber : String) : Binary64 → List Char
  | finite s u => if s then '-' :: magnitudeText u else magnitudeText u
  | infinite s => if s then '-' :: infinity.toList else infinity.toList
  | nan => notANumber.toList

end Binary64

end PropForge.Number
