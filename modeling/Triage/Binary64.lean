import Triage.Text.Digits

namespace Triage

structure Binary64 where
  negative : Bool
  size : Nat
  deriving DecidableEq, Repr

namespace Binary64

def twoTo (power : Nat) : Nat := Nat.pow 2 power

def tenTo (power : Nat) : Nat := Nat.pow 10 power

def infinitySize : Nat := 0x7FF * twoTo 52

def infinity (negative : Bool) : Binary64 := ⟨negative, infinitySize⟩

def nan (mark : Nat) : Binary64 := ⟨false, infinitySize + twoTo 51 + mark⟩

def isZero (x : Binary64) : Bool := x.size == 0

def isInfinite (x : Binary64) : Bool := x.size == infinitySize

def isNaN (x : Binary64) : Bool := infinitySize < x.size

def roundDiv (num den : Nat) : Nat :=
  let rest := num % den
  if den < 2 * rest || (2 * rest == den && num / den % 2 == 1) then num / den + 1 else num / den

def scaled (num den : Nat) (power : Int) : Nat × Nat :=
  if 0 ≤ power then (num, den * twoTo power.toNat) else (num * twoTo (-power).toNat, den)

-- The size nearest to a positive quotient. A carry out of the fraction raises the exponent by
-- itself, because the two stand side by side.
def sizeNear (num den : Nat) : Nat :=
  if num = 0 then 0
  else
    let power : Int := (Nat.log2 num : Int) - (Nat.log2 den : Int)
    let (n, d) := scaled num den power
    let unit := max (if d ≤ n then power - 52 else power - 53) (-1074)
    let (n, d) := scaled num den unit
    min infinitySize ((unit + 1074).toNat * twoTo 52 + roundDiv n d)

def ofDecimal (negative : Bool) (digits : Nat) (exponent : Int) : Binary64 :=
  let top : Int := ((Text.decimal digits).length : Int) + exponent
  if digits = 0 then ⟨negative, 0⟩
  else if 400 < top then infinity negative
  else if top < -400 then ⟨negative, 0⟩
  else if 0 ≤ exponent then ⟨negative, sizeNear (digits * tenTo exponent.toNat) 1⟩
  else ⟨negative, sizeNear digits (tenTo (-exponent).toNat)⟩

def parts (x : Binary64) : Nat × Int :=
  let biased : Nat := x.size / twoTo 52
  let fraction : Nat := x.size % twoTo 52
  if biased = 0 then (fraction, -1074) else (fraction + twoTo 52, (biased : Int) - 1075)

def ratio (x : Binary64) : Nat × Nat :=
  let (whole, power) := x.parts
  if 0 ≤ power then (whole * twoTo power.toNat, 1) else (whole, twoTo (-power).toNat)

def integer? (x : Binary64) : Option Int :=
  if infinitySize ≤ x.size then none
  else
    let (num, den) := x.ratio
    if num % den = 0 then some (if x.negative then -((num / den : Nat) : Int) else ((num / den : Nat) : Int))
    else none

def opposite (x : Binary64) : Binary64 := { x with negative := !x.negative }

def ofNat (n : Nat) : Binary64 := ⟨false, sizeNear n 1⟩

def quotient (x : Binary64) : Int × Nat :=
  let (num, den) := x.ratio
  (if x.negative then -(num : Int) else num, den)

def add (x y : Binary64) : Binary64 :=
  if x.isNaN || y.isNaN then nan 0
  else if x.isInfinite then if y.isInfinite && x.negative != y.negative then nan 0 else x
  else if y.isInfinite then y
  else
    let (m, c) := x.quotient
    let (n, d) := y.quotient
    let sum := m * d + n * c
    if sum = 0 then ⟨x.negative && y.negative, 0⟩ else ⟨sum < 0, sizeNear sum.natAbs (c * d)⟩

def mul (x y : Binary64) : Binary64 :=
  let negative := x.negative != y.negative
  if x.isNaN || y.isNaN then nan 0
  else if x.isInfinite || y.isInfinite then if x.isZero || y.isZero then nan 0 else infinity negative
  else ⟨negative, sizeNear (x.ratio.1 * y.ratio.1) (x.ratio.2 * y.ratio.2)⟩

def lead (num den : Nat) : Int :=
  if den ≤ num then (Text.decimal (num / den)).length
  else
    let width := (Text.decimal (den / num)).length
    if den = num * tenTo (width - 1) then 2 - (width : Int) else 1 - (width : Int)

-- The numbers of `count` digits just below and just above a positive number, the nearer one first.
-- Of two that are as near the even one comes first.
def neighbours (num den count : Nat) : List Nat :=
  let shift := (count : Int) - lead num den
  let num := if 0 ≤ shift then num * tenTo shift.toNat else num
  let den := if 0 ≤ shift then den else den * tenTo (-shift).toNat
  let below := num / den
  let rest := num % den
  if rest = 0 then [below]
  else if 2 * rest < den || (2 * rest = den && below % 2 = 0) then [below, below + 1]
  else [below + 1, below]

def shortest (x : Binary64) : Nat × Int :=
  let (num, den) := x.ratio
  let point := lead num den
  let candidates : List (Nat × Nat) :=
    (List.range 17).flatMap fun k => (neighbours num den (k + 1)).map fun digits => (k + 1, digits)
  match candidates.find? fun (count, digits) => (ofDecimal false digits (point - count)).size == x.size with
  | some (count, digits) => (digits, point + (Text.decimal digits).length - count)
  | none => (num / den, point)

def text (x : Binary64) (infinite notANumber : String) : List Char :=
  let sign := if x.negative then ['-'] else []
  if x.isNaN then notANumber.toList
  else if x.isInfinite then sign ++ infinite.toList
  else if x.isZero then sign ++ "0.0".toList
  else
    let (digits, point) := x.shortest
    let ds := (((Text.decimal digits).reverse.dropWhile (· == '0')).reverse)
    let body :=
      if -4 < point && point ≤ 16 then
        if point ≤ 0 then '0' :: '.' :: List.replicate (-point).toNat '0' ++ ds
        else
          let front := ds.take point.toNat
          let back := ds.drop point.toNat
          front ++ List.replicate (point.toNat - front.length) '0' ++
            '.' :: (if back.isEmpty then ['0'] else back)
      else
        let exponent := point - 1
        let width := Text.decimal exponent.natAbs
        ds.take 1 ++ (if ds.length ≤ 1 then [] else '.' :: ds.drop 1) ++
          'e' :: (if exponent < 0 then '-' else '+') :: (if width.length < 2 then ['0'] else []) ++ width
    sign ++ body

end Binary64

end Triage
