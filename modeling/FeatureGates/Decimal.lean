import FeatureGates.Tree

namespace FeatureGates

/-!
# The floating-point number nearest to a decimal

A decimal is a ratio of two natural numbers. Its nearest 64-bit number has the quotient for its
significand, rounded with ties to even.
-/

namespace Binary64

/-- The quotient rounded to the nearest integer, a tie to the even one. -/
def roundDiv (num den : Nat) : Nat :=
  let q := num / den
  let twice := 2 * (num % den)
  if den < twice ∨ twice = den ∧ q % 2 = 1 then q + 1 else q

/-- The exponent of the greatest power of two that is at most the ratio. -/
def floorLog (num den : Nat) : Int :=
  let guess := (num.log2 : Int) - den.log2
  let below := if 0 ≤ guess then num < den <<< guess.toNat else num <<< (-guess).toNat < den
  if below then guess - 1 else guess

def ofRatio (num den : Nat) : Binary64 :=
  let unit := max (floorLog num den - 52) (-1074)
  let significand :=
    if 0 ≤ unit then roundDiv num (den <<< unit.toNat) else roundDiv (num <<< (-unit).toNat) den
  let bits := ((unit + 1074).toNat <<< 52) + significand
  if infinity.bits.toNat ≤ bits then infinity else ⟨UInt64.ofNat bits⟩

def ofDecimal (digits : Nat) (exponent : Int) : Binary64 :=
  let length : Int := (Nat.toDigits 10 digits).length
  if digits = 0 ∨ length + exponent < -330 then ⟨0⟩
  else if 310 < length + exponent then infinity
  else if 0 ≤ exponent then ofRatio (digits * Nat.pow 10 exponent.toNat) 1
  else ofRatio digits (Nat.pow 10 (-exponent).toNat)

end Binary64

/-- Digits with at most one point among them, then an exponent: the value of all digits, and the
power of ten by which they count. -/
structure Decimal where
  digits : Nat
  exponent : Int

namespace Decimal

def digitsValue (cs : List Char) : Nat := cs.foldl (fun n c => 10 * n + (c.toNat - '0'.toNat)) 0

def splitDigits (cs : List Char) : List Char × List Char :=
  (cs.takeWhile Char.isDigit, cs.dropWhile Char.isDigit)

def exponentValue? (cs : List Char) : Option Int :=
  let (sign, ds) : Int × List Char := match cs with
    | '-' :: ds => (-1, ds)
    | '+' :: ds => (1, ds)
    | ds => (1, ds)
  if ds ≠ [] ∧ ds.all Char.isDigit then some (sign * digitsValue ds) else none

def read? (cs : List Char) : Option Decimal := do
  let (whole, rest) := splitDigits cs
  let (part, rest) := match rest with
    | '.' :: rest => splitDigits rest
    | rest => ([], rest)
  let exponent ← match rest with
    | [] => some 0
    | c :: rest => if c = 'e' ∨ c = 'E' then exponentValue? rest else none
  if whole = [] ∧ part = [] then none
  else some ⟨digitsValue (whole ++ part), exponent - part.length⟩

def toBinary64 (d : Decimal) : Binary64 := .ofDecimal d.digits d.exponent

end Decimal

end FeatureGates
