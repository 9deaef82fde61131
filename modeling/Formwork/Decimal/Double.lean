/-!
Binary floating point numbers of 64 bits, as exact values. A finite number is a sign, a mantissa
and a power of two; rounding a quotient of natural numbers to the nearest of them, ties to the even
mantissa, is the one operation that everything else is built on.
-/
namespace Formwork

/-- A floating point number: `±mantissa · 2^exponent`, an infinity, or no number. -/
inductive Double where
  /-- A finite number; its mantissa has 53 bits unless the exponent is the least one. -/
  | finite (negative : Bool) (mantissa : Nat) (exponent : Int)
  | infinite (negative : Bool)
  /-- The result of an operation without one. -/
  | nan
  deriving DecidableEq, Repr, Inhabited

namespace Double

def leastExponent : Int := -1074

def greatestExponent : Int := 971

def zero : Double := .finite false 0 leastExponent

/-- The quotient rounded to the nearest natural number, ties to the even one. -/
def divNearest (n d : Nat) : Nat :=
  let q := n / d
  let r := n % d
  if 2 * r < d then q
  else if 2 * r > d then q + 1
  else if q % 2 == 0 then q else q + 1

/-- The quotient `n / (d · 2^e)`, rounded to the nearest natural number. -/
def divNearestAt (n d : Nat) (e : Int) : Nat :=
  if e ≥ 0 then divNearest n (d * Nat.pow 2 e.toNat) else divNearest (n * Nat.pow 2 (-e).toNat) d

/-- The nearest floating point number to `±n / d`. -/
def ofRatio (negative : Bool) (n d : Nat) : Double :=
  if n == 0 then .finite negative 0 leastExponent
  else
    let guess : Int := (n.log2 : Int) - (d.log2 : Int) - 52
    let fits (e : Int) : Bool :=
      if e ≥ 0 then decide (Nat.pow 2 52 * (d * Nat.pow 2 e.toNat) ≤ n)
      else decide (Nat.pow 2 52 * d ≤ n * Nat.pow 2 (-e).toNat)
    let e := max leastExponent (if fits guess then guess else guess - 1)
    let m := divNearestAt n d e
    let (m, e) := if m == Nat.pow 2 53 then (Nat.pow 2 52, e + 1) else (m, e)
    if e > greatestExponent then .infinite negative else .finite negative m e

/-- The nearest floating point number to an integer. -/
def ofInt (i : Int) : Double :=
  ofRatio (i < 0) i.natAbs 1

/-- The value of a finite number as a signed numerator over a positive denominator. -/
def ratio (negative : Bool) (mantissa : Nat) (exponent : Int) : Int × Nat :=
  let size : Nat := if exponent ≥ 0 then mantissa * Nat.pow 2 exponent.toNat else mantissa
  let unit : Nat := if exponent ≥ 0 then 1 else Nat.pow 2 (-exponent).toNat
  (if negative then -(size : Int) else size, unit)

/-- The nearest floating point number to a signed quotient. -/
def ofSigned (n : Int) (d : Nat) : Double :=
  ofRatio (n < 0) n.natAbs d

/-- The sum, rounded. -/
def add : Double → Double → Double
  | .nan, _ => .nan
  | _, .nan => .nan
  | .infinite a, .infinite b => if a == b then .infinite a else .nan
  | .infinite a, _ => .infinite a
  | _, .infinite b => .infinite b
  | .finite s m e, .finite s' m' e' =>
    let (n, d) := ratio s m e
    let (n', d') := ratio s' m' e'
    let total := n * d' + n' * d
    if total == 0 then .finite (s && s') 0 leastExponent else ofSigned total (d * d')

/-- The opposite number. -/
def neg : Double → Double
  | .nan => .nan
  | .infinite s => .infinite (!s)
  | .finite s m e => .finite (!s) m e

/-- The difference, rounded. -/
def sub (a b : Double) : Double :=
  add a (neg b)

/-- The product with a natural number, rounded. -/
def scale (count : Nat) : Double → Double
  | .nan => .nan
  | .infinite s => if count == 0 then .nan else .infinite s
  | .finite s m e =>
    let (n, d) := ratio s m e
    if n * count == 0 then .finite s 0 leastExponent else ofSigned (n * count) d

/-- Half of the number, rounded. -/
def half : Double → Double
  | .nan => .nan
  | .infinite s => .infinite s
  | .finite s m e =>
    let (n, d) := ratio s m e
    if n == 0 then .finite s m e else ofSigned n (2 * d)

/-- Whether the first number is less than the second; no number is less than or above `nan`. -/
def lt : Double → Double → Bool
  | .nan, _ => false
  | _, .nan => false
  | .infinite a, .infinite b => a && !b
  | .infinite a, _ => a
  | _, .infinite b => !b
  | .finite s m e, .finite s' m' e' =>
    let (n, d) := ratio s m e
    let (n', d') := ratio s' m' e'
    decide (n * d' < n' * d)

/-- Whether the number is zero, of either sign. -/
def isZero : Double → Bool
  | .finite _ m _ => m == 0
  | _ => false

/-- The integer part of a finite number. -/
def truncate? : Double → Option Int
  | .finite s m e =>
    let (n, d) := ratio s m e
    some (n.tdiv d)
  | _ => none

end Double

end Formwork
