namespace TokenStream.Decimal

/-! The shortest decimal text of a floating point number.

A finite number stands for all reals that round to it.  Among the decimals in
that interval the ones with the fewest digits are chosen, and of these the one
nearest to the number itself.
-/

/-- The number `significand * 2 ^ exponent`.  The reals that round to it reach half a unit up, and half a unit
down, or a quarter where the number below is closer. -/
structure Binary where
  significand : Nat
  exponent : Int
  closerBelow : Bool
deriving Repr, DecidableEq

def Binary.ofFloat (value : Float) : Binary :=
  let bits := value.toBits.toNat % 0x8000000000000000
  let field := bits / 0x10000000000000
  let fraction := bits % 0x10000000000000
  if field = 0 then { significand := fraction, exponent := -1074, closerBelow := false }
  else
    { significand := fraction + 0x10000000000000
      exponent := Int.ofNat field - 1075
      closerBelow := fraction == 0 && 1 < field }

structure Scientific where
  coefficient : Nat
  exponent : Int
deriving Repr, DecidableEq

/-- The interval of a number in quarters of its last binary place, over one denominator. -/
structure Interval where
  low : Nat
  value : Nat
  high : Nat
  denominator : Nat
  closed : Bool
deriving Repr, DecidableEq

namespace Binary

def interval (number : Binary) : Interval :=
  let unit := 1 <<< number.exponent.toNat
  { low := (4 * number.significand - if number.closerBelow then 1 else 2) * unit
    value := 4 * number.significand * unit
    high := (4 * number.significand + 2) * unit
    denominator := 4 <<< (-number.exponent).toNat
    closed := number.significand % 2 == 0 }

/-- The power of ten of the first digit. -/
def magnitude (number : Binary) : Int :=
  let scaled := number.interval.value * Nat.pow 10 400 / number.interval.denominator
  ((Nat.toDigits 10 scaled).length : Int) - 401

end Binary

namespace Interval

/-- Whether `coefficient * scaled`, over the same denominator as the bounds, lies inside. -/
def contains (interval : Interval) (up down coefficient : Nat) : Bool :=
  let point := coefficient * down * interval.denominator
  if interval.closed then interval.low * up ≤ point && point ≤ interval.high * up
  else interval.low * up < point && point < interval.high * up

/-- The nearest multiple of `10 ^ exponent` inside the interval, if there is one: it is one of the
two neighbours of the number on that grid. -/
def nearestOnGrid (interval : Interval) (exponent : Int) : Option Scientific :=
  let up := Nat.pow 10 (-exponent).toNat
  let down := Nat.pow 10 exponent.toNat
  let numerator := interval.value * up
  let step := down * interval.denominator
  let below := numerator / step
  let twiceLeft := 2 * (numerator % step)
  match interval.contains up down below, interval.contains up down (below + 1) with
  | false, false => none
  | true, false => some { coefficient := below, exponent }
  | false, true => some { coefficient := below + 1, exponent }
  | true, true =>
      if twiceLeft < step || (twiceLeft == step && below % 2 == 0) then
        some { coefficient := below, exponent }
      else some { coefficient := below + 1, exponent }

end Interval

/-- The decimal with the fewest digits that reads back as the number.  Seventeen digits always
do. -/
def shortest (number : Binary) : Scientific :=
  if number.significand = 0 then { coefficient := 0, exponent := 0 }
  else
    let found := (List.range 17).findSome? fun count =>
      number.interval.nearestOnGrid (number.magnitude - Int.ofNat count)
    found.getD { coefficient := number.significand, exponent := 0 }

structure Spelling where
  /-- The powers of ten of the first digit at which digits are written in place. -/
  inPlaceFrom : Int
  inPlaceTo : Int
  exponentMark : List Char
  negativeMark : List Char

/-- In place from five zeros behind the point up to sixteen digits before it, always with a point;
otherwise with a signed power of ten. -/
def signedExponents : Spelling where
  inPlaceFrom := -5
  inPlaceTo := 15
  exponentMark := ['e', '+']
  negativeMark := ['e', '-']

/-- The digits without zeros at the end, and how many were dropped. -/
def dropZeros (digits : List Char) : List Char × Nat :=
  let kept := (digits.reverse.dropWhile (· == '0')).reverse
  (kept, digits.length - kept.length)

def Spelling.write (style : Spelling) (number : Scientific) : List Char :=
  if number.coefficient = 0 then ['0', '.', '0']
  else
    let (digits, dropped) := dropZeros (Nat.toDigits 10 number.coefficient)
    let exponent := number.exponent + dropped
    let power := exponent + digits.length - 1
    if style.inPlaceFrom ≤ power ∧ power ≤ style.inPlaceTo then
      if 0 ≤ exponent then digits ++ List.replicate exponent.toNat '0' ++ ['.', '0']
      else if 0 ≤ power then
        digits.take (power.toNat + 1) ++ '.' :: digits.drop (power.toNat + 1)
      else ['0', '.'] ++ List.replicate (-power - 1).toNat '0' ++ digits
    else
      let mantissa := if digits.length ≤ 1 then digits else digits.take 1 ++ '.' :: digits.drop 1
      mantissa ++ (if 0 ≤ power then style.exponentMark else style.negativeMark) ++
        Nat.toDigits 10 power.natAbs

def write (value : Float) : List Char :=
  let sign := if value.toBits.toNat < 0x8000000000000000 then [] else ['-']
  sign ++ signedExponents.write (shortest (Binary.ofFloat value))

end TokenStream.Decimal
