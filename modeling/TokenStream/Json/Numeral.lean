import TokenStream.Json.Reader
import TokenStream.Decimal.Shortest

namespace TokenStream.Json

structure Numeral where
  whole : List Char
  fraction : List Char
  /-- The sign and the digits of the power of ten. -/
  power : Option (Bool × List Char)
deriving Repr, DecidableEq

def isDigit (c : Char) : Bool :=
  '0' ≤ c && c ≤ '9'

namespace Reader

def digits : Reader (List Char) := fun text =>
  .ok (text.takeWhile isDigit, text.dropWhile isDigit)

/-- Takes at least one digit.  `atEnd` is the fault when the text stops instead. -/
def someDigits (atEnd : Cause) : Reader (List Char) := do
  match ← peek with
  | none => failAtNext atEnd
  | some c => if isDigit c then digits else failAtNext .malformedNumber

/-- Takes the digits before the point.  They start with zero only when they are just a zero. -/
def wholeDigits (atEnd : Cause) : Reader (List Char) := do
  match ← peek with
  | some '0' =>
      drop
      match ← peek with
      | none => return ['0']
      | some c => if isDigit c then failAtNext .malformedNumber else return ['0']
  | _ => someDigits atEnd

/-- Takes the point and the digits behind it, if there is a point. -/
def fractionDigits (atEnd : Cause) : Reader (List Char) := do
  match ← peek with
  | some '.' =>
      drop
      someDigits atEnd
  | _ => return []

/-- Takes a sign, if there is one, and answers whether it is a minus. -/
def sign : Reader Bool := do
  match ← peek with
  | some '+' =>
      drop
      return false
  | some '-' =>
      drop
      return true
  | _ => return false

def powerDigits (atEnd : Cause) : Reader (Option (Bool × List Char)) := do
  match ← peek with
  | some 'e' | some 'E' =>
      drop
      let negative ← sign
      return some (negative, ← someDigits atEnd)
  | _ => return none

def numeral (atEnd : Cause) : Reader Numeral := do
  let whole ← wholeDigits atEnd
  let fraction ← fractionDigits atEnd
  return { whole, fraction, power := ← powerDigits atEnd }

theorem Shrinks.digits : Shrinks digits := by
  intro text value left read
  cases read
  exact (List.dropWhile_suffix isDigit).length_le

theorem Shrinks.someDigits (atEnd : Cause) : Shrinks (someDigits atEnd) := by
  refine Shrinks.peek.bind fun next => ?_
  cases next with
  | none => exact Shrinks.failAtNext _
  | some c =>
      dsimp only
      split
      · exact Shrinks.digits
      · exact Shrinks.failAtNext _

theorem Shrinks.wholeDigits (atEnd : Cause) : Shrinks (wholeDigits atEnd) := by
  refine Shrinks.peek.bind fun next => ?_
  split
  · refine Shrinks.drop.bind fun _ => Shrinks.peek.bind fun next => ?_
    cases next with
    | none => exact Shrinks.pure _
    | some c =>
        dsimp only
        split
        · exact Shrinks.failAtNext _
        · exact Shrinks.pure _
  · exact Shrinks.someDigits atEnd

theorem Shrinks.fractionDigits (atEnd : Cause) : Shrinks (fractionDigits atEnd) := by
  refine Shrinks.peek.bind fun next => ?_
  split
  · exact Shrinks.drop.bind fun _ => Shrinks.someDigits atEnd
  · exact Shrinks.pure _

theorem Shrinks.sign : Shrinks sign := by
  refine Shrinks.peek.bind fun next => ?_
  split
  · exact Shrinks.drop.bind fun _ => Shrinks.pure _
  · exact Shrinks.drop.bind fun _ => Shrinks.pure _
  · exact Shrinks.pure _

theorem Shrinks.powerDigits (atEnd : Cause) : Shrinks (powerDigits atEnd) := by
  refine Shrinks.peek.bind fun next => ?_
  split
  · exact Shrinks.drop.bind fun _ => Shrinks.sign.bind fun _ =>
      (Shrinks.someDigits atEnd).bind fun _ => Shrinks.pure _
  · exact Shrinks.drop.bind fun _ => Shrinks.sign.bind fun _ =>
      (Shrinks.someDigits atEnd).bind fun _ => Shrinks.pure _
  · exact Shrinks.pure _

theorem Shrinks.numeral (atEnd : Cause) : Shrinks (numeral atEnd) :=
  (Shrinks.wholeDigits atEnd).bind fun _ => (Shrinks.fractionDigits atEnd).bind fun _ =>
    (Shrinks.powerDigits atEnd).bind fun _ => Shrinks.pure _

end Reader

inductive Number where
  | integer (value : Int)
  | real (value : Float)

/-- Appends digits to a number for as long as it stays below `limit`, and counts them. -/
def appendDigits (limit number : Nat) (digits : List Char) : Nat × Nat :=
  go number 0 digits
where
  go (number count : Nat) : List Char → Nat × Nat
    | [] => (number, count)
    | c :: digits =>
        let longer := number * 10 + (c.toNat - '0'.toNat)
        if longer < limit then go longer (count + 1) digits else (number, count)

/-- A power of ten, which is exact up to twenty-two and else rounded. -/
def tenTo (power : Nat) : Float :=
  Float.ofScientific 1 false power

/-- A number divided by a power of ten, in steps that a floating point number can take. -/
def divideByTenTo (value : Float) (power : Nat) : Float :=
  if power ≤ 308 then value / tenTo power
  else if value == 0 then value
  else divideByTenTo (value / tenTo 308) (power - 308)
termination_by power

/-- The number `significand * 10 ^ power`, unless it is too large. -/
def scale (significand : Nat) (power : Int) : Option Float :=
  let value := significand.toUInt64.toFloat
  if power < 0 then some (divideByTenTo value power.natAbs)
  else if power ≤ 308 then
    let scaled := value * tenTo power.toNat
    if scaled.isInf then none else some scaled
  else if significand = 0 then some value
  else none

namespace Numeral

/-- The significand that fits into 64 bits and the power of ten that belongs to it. -/
def significand (numeral : Numeral) : Nat × Int :=
  let (whole, wholeCount) := appendDigits 0x10000000000000000 0 numeral.whole
  let (all, fractionCount) := appendDigits 0x10000000000000000 whole numeral.fraction
  (all, ((numeral.whole.length - wholeCount : Nat) : Int) - fractionCount)

/-- The integer that a numeral without fraction and power of ten spells, if it fits. -/
def integer? (numeral : Numeral) (negative : Bool) : Option Int :=
  let (whole, count) := appendDigits 0x10000000000000000 0 numeral.whole
  if numeral.fraction.isEmpty && numeral.power.isNone && count == numeral.whole.length then
    if !negative then some whole
    else if whole = 0 ∨ 0x8000000000000000 < whole then none
    else some (-whole)
  else none

/-- The value of a numeral.  When it is too large, the answer is the digits that were not needed
to see it. -/
def evaluate (numeral : Numeral) (negative : Bool) : Except (List Char) Number :=
  match numeral.integer? negative with
  | some value => .ok (.integer value)
  | none =>
      let (significand, shift) := numeral.significand
      let signed (value : Float) : Number := .real (if negative then -value else value)
      match numeral.power with
      | none => (scale significand shift).elim (.error []) fun value => .ok (signed value)
      | some (minus, digits) =>
          let (power, count) := appendDigits 0x80000000 0 digits
          if count < digits.length then
            if significand = 0 ∨ minus then .ok (signed 0)
            else .error (digits.drop (count + 1))
          else
            (scale significand (shift + if minus then -(power : Int) else power)).elim
              (.error []) fun value => .ok (signed value)

end Numeral

/-- What a message calls a number. -/
def Number.describe : Number → String
  | .integer value => "integer `" ++ toString value ++ "`"
  | .real value => "floating point `" ++ String.ofList (Decimal.write value) ++ "`"

/-- Takes a number from behind its sign and evaluates it. -/
def Reader.number (negative : Bool) : Reader Number := do
  let numeral ← Reader.numeral .valueMissing
  match numeral.evaluate negative with
  | .ok value => return value
  | .error unread => failBefore .numberTooLarge unread

end TokenStream.Json
