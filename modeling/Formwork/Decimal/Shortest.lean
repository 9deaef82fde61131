import Formwork.Decimal.Double

/-!
Decimal text of floating point numbers. The shortest text has the fewest digits that read back as
the same number and, of those, the nearest ones. It is positional from 10^-4 up to 10^16 and
otherwise has an exponent of at least two digits; an integral number shows one zero after the
point. Text with a fixed number of places rounds half to even.
-/
namespace Formwork.Double

/-- The digits of a natural number in base ten. -/
def digits (n : Nat) : List Char :=
  Nat.toDigits 10 n

/-- The number of digits of a natural number in base ten. -/
def digitCount (n : Nat) : Nat :=
  (digits n).length

/-- A positive number `n / d` times ten to a power, as a quotient again. -/
def scaleTen (n d : Nat) (power : Int) : Nat × Nat :=
  if power ≥ 0 then (n * Nat.pow 10 power.toNat, d) else (n, d * Nat.pow 10 (-power).toNat)

/-- The largest power of ten that is not above the positive quotient `n / d`. -/
def powerBelow (n d : Nat) : Int :=
  let guess : Int := (digitCount n : Int) - (digitCount d : Int)
  let (a, b) := scaleTen n d (-guess)
  if a ≥ b then guess else guess - 1

/-- Twice the bounds of the reals that round to `m · 2^e`, in units of `2^(e-1)`: the lower gap is
half as wide where the numbers below lie closer. -/
def neighbourBounds (m : Nat) (e : Int) : Nat × Nat :=
  if m == Nat.pow 2 52 && e > leastExponent then (4 * m - 1, 4 * m + 2) else (4 * m - 2, 4 * m + 2)

/-- The best decimal with `count` digits among the two neighbours of `m · 2^e` on the grid of that
many digits, if one of them rounds to it: a natural number and the power of ten it is taken at. -/
def digitsAt? (m : Nat) (e : Int) (count : Nat) : Option (Nat × Int) :=
  let (n, d) : Nat × Nat := if e ≥ 0 then (m * Nat.pow 2 e.toNat, 1) else (m, Nat.pow 2 (-e).toNat)
  let unit : Int := powerBelow n d - (count : Int) + 1
  let (a, b) := scaleTen n d (-unit)
  let low := a / b
  let (lower, upper) := neighbourBounds m e
  let inside (k : Nat) : Bool :=
    -- k · 10^unit against the bounds, which are quarters of 2^e
    let (kn, kd) := scaleTen (4 * k) 1 unit
    let (p, q) : Nat × Nat :=
      if e ≥ 0 then (kn, kd * Nat.pow 2 e.toNat) else (kn * Nat.pow 2 (-e).toNat, kd)
    if m % 2 == 0 then lower * q ≤ p && p ≤ upper * q else lower * q < p && p < upper * q
  let below := inside low
  let above := inside (low + 1)
  let twice := 2 * (a % b)
  if below && above then
    if twice < b || (twice == b && low % 2 == 0) then some (low, unit) else some (low + 1, unit)
  else if below then some (low, unit)
  else if above then some (low + 1, unit)
  else none

/-- The fewest digits that read back, from `count` digits on; 17 always suffice. -/
def shortestFrom (m : Nat) (e : Int) (count : Nat) : Nat → Nat × Int
  | 0 => (digitsAt? m e count).getD (m, 0)
  | more + 1 =>
    match digitsAt? m e count with
    | some found => found
    | none => shortestFrom m e (count + 1) more

/-- Move trailing zeros of a numeral into its power of ten. -/
def dropZeros (n : Nat) (power : Int) : Nat → Nat × Int
  | 0 => (n, power)
  | fuel + 1 => if n != 0 && n % 10 == 0 then dropZeros (n / 10) (power + 1) fuel else (n, power)

/-- Digits with the point before the digit at `place`. -/
def withPoint (ds : List Char) (place : Int) : List Char :=
  if place ≤ 0 then '0' :: '.' :: (List.replicate (-place).toNat '0' ++ ds)
  else if place.toNat < ds.length then ds.take place.toNat ++ '.' :: ds.drop place.toNat
  else ds ++ List.replicate (place.toNat - ds.length) '0' ++ ['.', '0']

/-- Digits with the point after the first one and an exponent. -/
def withExponent (ds : List Char) (exponent : Int) : List Char :=
  let point := match ds with
    | d :: e :: rest => d :: '.' :: e :: rest
    | ds => ds
  let size := digits exponent.natAbs
  point ++ 'e' :: (if exponent < 0 then '-' else '+') ::
    (if size.length < 2 then '0' :: size else size)

/-- The shortest decimal text that reads back as the number. -/
def toText : Double → String
  | .nan => "nan"
  | .infinite s => if s then "-inf" else "inf"
  | .finite s m e =>
    let sign := if s then ['-'] else []
    if m == 0 then String.ofList (sign ++ ['0', '.', '0'])
    else
      let (n, power) := shortestFrom m e 1 17
      let (n, power) := dropZeros n power 400
      let ds := digits n
      let place := (ds.length : Int) + power
      let body :=
        if -4 < place && place ≤ 16 then withPoint ds place else withExponent ds (place - 1)
      String.ofList (sign ++ body)

/-- The text with exactly `places` digits after the point. -/
def toFixed (places : Nat) : Double → String
  | .nan => "nan"
  | .infinite s => if s then "-inf" else "inf"
  | .finite s m e =>
    let (n, d) : Nat × Nat :=
      if e ≥ 0 then (m * Nat.pow 2 e.toNat, 1) else (m, Nat.pow 2 (-e).toNat)
    let ds := digits (divNearest (n * Nat.pow 10 places) d)
    let ds := List.replicate (places + 1 - ds.length) '0' ++ ds
    let whole := ds.take (ds.length - places)
    let body := if places == 0 then whole else whole ++ '.' :: ds.drop (ds.length - places)
    String.ofList ((if s then ['-'] else []) ++ body)

end Formwork.Double
