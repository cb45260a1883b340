/-!
# Decimal numbers in double precision

A decimal is read as the nearest double-precision number, and such a number is written with the
fewest digits that read back as the same one, in positional notation. A double-precision number
that is not zero is `m * 2 ^ q` with `m < 2 ^ 53` and `-1074 ≤ q ≤ 971`.
-/

namespace ClassFields

/-- The number `digits * 10 ^ exponent`, with a sign. -/
structure Decimal where
  negative : Bool
  digits : Nat
  exponent : Int
  deriving DecidableEq, Repr

namespace Decimal

/-- How many decimal digits a number has. -/
def digitCount (n : Nat) : Nat := (Nat.toDigits 10 n).length

/-- A power as a fraction, numerator and denominator. -/
def power (base : Nat) (exponent : Int) : Nat × Nat :=
  if 0 ≤ exponent then (base.pow exponent.toNat, 1) else (1, base.pow (-exponent).toNat)

/-- The size of a decimal as a fraction. -/
def fraction (x : Decimal) : Nat × Nat :=
  let (num, den) := power 10 x.exponent
  (x.digits * num, den)

/-- Whether a decimal is so large that the nearest double-precision number is infinite: at least
halfway from the largest one to the next power of two. -/
def overflows (x : Decimal) : Bool :=
  x.digits != 0 &&
    let size := Int.ofNat (digitCount x.digits) + x.exponent
    if 310 < size then true
    else if size < 300 then false
    else
      let (num, den) := x.fraction
      (Nat.pow 2 1024 - Nat.pow 2 970) * den ≤ num

/-- A quotient rounded to the nearest integer, a half to the even one. -/
def roundQuotient (num den : Nat) : Nat :=
  let n := num / den
  let twice := 2 * (num % den)
  if den < twice || (den == twice && n % 2 == 1) then n + 1 else n

/-- The double-precision number nearest to a positive fraction, as `m` and `q`. -/
def nearest (num den : Nat) : Nat × Int :=
  let estimate : Int := Int.ofNat num.log2 - Int.ofNat den.log2
  let (p, r) := power 2 estimate
  let log := if p * den ≤ num * r then estimate else estimate - 1
  let q := max (log - 52) (-1074)
  let (p, r) := power 2 q
  let m := roundQuotient (num * r) (den * p)
  if m == Nat.pow 2 53 then (Nat.pow 2 52, q + 1) else (m, q)

/-- Whether a decimal reads as a given double-precision number: it is between the midpoints to its
neighbours, which count if `m` is even. -/
def readsAs (m : Nat) (q : Int) (digits : Nat) (exponent : Int) : Bool :=
  let (num, den) := power 10 exponent
  let (p, r) := power 2 (q - 2)
  -- Both sides in quarters of `2 ^ q`.
  let x := digits * num * r
  let unit := den * p
  let below := if m == Nat.pow 2 52 && -1074 < q then 4 * m - 1 else 4 * m - 2
  let above := 4 * m + 2
  if m % 2 == 0 then below * unit ≤ x && x ≤ above * unit else below * unit < x && x < above * unit

/-- The digits and the exponent of the shortest decimal that reads as a double-precision number,
tried with `count` digits and, at most `more` times, with more. -/
def shortestFrom (m : Nat) (q : Int) (log : Int) : Nat → Nat → Nat × Int
  | 0, _ => (m, 0)
  | more + 1, count =>
    let exponent := log - Int.ofNat count + 1
    let (num, den) := power 10 exponent
    let (p, r) := power 2 q
    let value := m * p * den
    let unit := num * r
    let down := value / unit
    let up := down + 1
    let nearer := roundQuotient value unit
    let other := if nearer == down then up else down
    if readsAs m q nearer exponent then (nearer, exponent)
    else if readsAs m q other exponent then (other, exponent)
    else shortestFrom m q log more (count + 1)

/-- The exponent of the leading decimal digit of a positive fraction. -/
def leading (num den : Nat) : Int :=
  let estimate : Int := Int.ofNat (digitCount num) - Int.ofNat (digitCount den)
  let (p, r) := power 10 estimate
  if p * den ≤ num * r then estimate else estimate - 1

/-- The shortest decimal that reads as the double-precision number nearest to a positive
fraction. -/
def shortest (num den : Nat) : Nat × Int :=
  let (m, q) := nearest num den
  if m == 0 then (0, 0)
  else
    let (p, r) := power 2 q
    shortestFrom m q (leading (m * p) r) 20 1

/-- Digits without the zeros at their end. -/
def trimZeros (digits : List Char) (exponent : Int) : List Char × Int :=
  let zeros := (digits.reverse.takeWhile (· == '0')).length
  (digits.take (digits.length - zeros), exponent + Int.ofNat zeros)

/-- Digits in positional notation, with at least one digit on either side of the point. -/
def positional (digits : List Char) (exponent : Int) : List Char :=
  if 0 ≤ exponent then digits ++ List.replicate exponent.toNat '0' ++ ['.', '0']
  else
    let places := (-exponent).toNat
    if places < digits.length then
      digits.take (digits.length - places) ++ '.' :: digits.drop (digits.length - places)
    else ['0', '.'] ++ List.replicate (places - digits.length) '0' ++ digits

/-- A decimal as it is written once it has been read in double precision. -/
def text (x : Decimal) : String :=
  let size := Int.ofNat (digitCount x.digits) + x.exponent
  let body :=
    if x.digits == 0 || size < -330 then ['0', '.', '0']
    else
      let (num, den) := x.fraction
      let (digits, exponent) := shortest num den
      if digits == 0 then ['0', '.', '0']
      else
        let (digits, exponent) := trimZeros (Nat.toDigits 10 digits) exponent
        positional digits exponent
  String.ofList (if x.negative then '-' :: body else body)

end Decimal

end ClassFields
