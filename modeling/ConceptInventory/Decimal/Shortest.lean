/-!
# Shortest decimals of binary numbers

A positive binary number m · 2^q stands for the real numbers that round to it.
Its shortest decimal is the one of fewest digits among those numbers, and of
several with that many digits the nearest; a tie goes to the even last digit.
All arithmetic is on natural numbers: a number is a fraction, the decimals of a
given number of digits are a grid, and only the two grid points next to the
number can be nearest to it.
-/
namespace ConceptInventory.Decimal

/-- A positive decimal: its digits as a number and the power of ten of the
first digit. -/
structure Scientific where
  digits : Nat
  exponent : Int
deriving DecidableEq, Repr

/-- Numerator and denominator of n · base^k. -/
def scaled (n base : Nat) (k : Int) : Nat × Nat :=
  match k with
  | .ofNat j => (n * Nat.pow base j, 1)
  | .negSucc j => (n, Nat.pow base (j + 1))

def digitCount (n : Nat) : Nat := (Nat.toDigits 10 n).length

/-- The power of ten at or below a positive fraction. -/
def magnitude (num den : Nat) : Int :=
  if den ≤ num then digitCount (num / den) - 1
  else
    let l := digitCount (den / num)
    if den ≤ num * Nat.pow 10 (l - 1) then 1 - (l : Int) else -(l : Int)

/-- The neighbourhood of a binary number: the number and the ends of the
interval that rounds to it, as numerators over one denominator. -/
structure Rounded where
  low : Nat
  value : Nat
  high : Nat
  den : Nat
  /-- Whether the ends of the interval round to the number as well. -/
  closed : Bool

/-- The number m · 2^q; below a power of two the next number is only half as
far away. -/
def Rounded.ofBinary (m : Nat) (q : Int) (narrowBelow : Bool) : Rounded :=
  let (scale, den) := scaled 1 2 (q - 2)
  ⟨(4 * m - if narrowBelow then 1 else 2) * scale, 4 * m * scale, (4 * m + 2) * scale, den,
    m % 2 == 0⟩

namespace Rounded

/-- A grid point d · 10^k as a fraction lies in the interval. -/
def admits (r : Rounded) (num den : Nat) : Bool :=
  if r.closed then r.low * den ≤ num * r.den && num * r.den ≤ r.high * den
  else r.low * den < num * r.den && num * r.den < r.high * den

/-- The better of the two grid points around the number on the grid of step
10^k, if one of them rounds to the number. The number is a / b grid steps. -/
def onGrid (r : Rounded) (k : Int) : Option Nat :=
  let (up, down) := scaled 1 10 (-k)
  let a := r.value * up
  let b := r.den * down
  let below := a / b
  let fits (d : Nat) : Bool := let (n, m) := scaled d 10 k; r.admits n m
  match fits below, fits (below + 1) with
  | false, false => none
  | true, false => some below
  | false, true => some (below + 1)
  | true, true =>
    let rest := 2 * (a - below * b)
    if rest < b then some below
    else if b < rest then some (below + 1)
    else some (if below % 2 == 0 then below else below + 1)

/-- Tries one digit, two digits and so on, up to as many as always suffice. -/
def search (r : Rounded) (top : Int) : Nat → Nat → Scientific
  | 0, n => ⟨(r.onGrid (top - n)).getD 0, top⟩
  | more + 1, n =>
    match r.onGrid (top - n) with
    | some d => ⟨d, if digitCount d ≤ n + 1 then top else top + 1⟩
    | none => search r top more (n + 1)

def shortest (r : Rounded) : Scientific := r.search (magnitude r.value r.den) 17 0

end Rounded

/-- The digits without zeros at the end. -/
def significant (n : Nat) : List Char :=
  match ((Nat.toDigits 10 n).reverse.dropWhile (· == '0')).reverse with
  | [] => ['0']
  | ds => ds

/-- How a binary number is written: not a number, infinite, zero or finite,
with its sign. -/
inductive Class
  | nan
  | infinite (negative : Bool)
  | zero (negative : Bool)
  | finite (negative : Bool) (magnitude : Scientific)

def classOf (x : Float) : Class :=
  let bits := x.toBits.toNat
  let negative := bits / Nat.pow 2 63 == 1
  let field : Nat := bits / Nat.pow 2 52 % Nat.pow 2 11
  let fraction : Nat := bits % Nat.pow 2 52
  if field == 0x7FF then if fraction == 0 then .infinite negative else .nan
  else if field == 0 then
    if fraction == 0 then .zero negative
    else .finite negative (Rounded.ofBinary fraction (-1074) false).shortest
  else
    .finite negative (Rounded.ofBinary (Nat.pow 2 52 + fraction) ((field : Int) - 1075)
      (fraction == 0 && 1 < field)).shortest

end ConceptInventory.Decimal
