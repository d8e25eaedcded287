import FixCorpus.Binary64
import FixCorpus.Json.Value

/-! Numbers in JSON. An integer that 64 bits hold keeps its value, and any other
number its text. One that is too large for a binary fraction of 64 bits can be
passed over but not read: of its digits, those count that 64 bits can hold. -/

namespace FixCorpus.Json

open Text

def digits (text : List Char) : Option (List Char × List Char) :=
  match text.takeWhile Char.isDigit with
  | [] => none
  | run => some (run, text.dropWhile Char.isDigit)

def wholePart (text : List Char) : Option (List Char × List Char) := do
  let (run, rest) ← digits text
  if run.head? = some '0' ∧ 1 < run.length then none else return (run, rest)

def fractionPart : List Char → Option (List Char × List Char)
  | '.' :: text => digits text
  | text => some ([], text)

structure Exponent where
  letter : Char
  sign : List Char
  digits : List Char

namespace Exponent

def text (e : Exponent) : List Char :=
  e.letter :: (e.sign ++ e.digits)

def value (e : Exponent) : Int :=
  if e.sign = ['-'] then -(digitsValue e.digits : Int) else digitsValue e.digits

end Exponent

def exponentPart : List Char → Option (Option Exponent × List Char)
  | e :: text =>
    if e = 'e' ∨ e = 'E' then do
      let (sign, text) := match text with
        | '+' :: text => (['+'], text)
        | '-' :: text => (['-'], text)
        | text => ([], text)
      let (run, rest) ← digits text
      return (some ⟨e, sign, run⟩, rest)
    else some (none, e :: text)
  | [] => some (none, [])

structure Numeral where
  whole : List Char
  fraction : List Char
  exponent : Option Exponent

namespace Numeral

def text (n : Numeral) : List Char :=
  n.whole ++ (if n.fraction = [] then [] else '.' :: n.fraction) ++
    (n.exponent.map Exponent.text).getD []

/-- Puts digits behind a number as long as 64 bits hold it, and counts those that are left. -/
def absorb : (n : Nat) → (digits : List Char) → Nat × Nat
  | n, [] => (n, 0)
  | n, d :: digits =>
    let next := n * 10 + (d.toNat - '0'.toNat)
    if greatestNat < next then (n, digits.length + 1) else absorb next digits

def scaled (n : Numeral) : Nat × Int :=
  let (whole, dropped) := absorb 0 n.whole
  let (significand, ignored) := absorb whole n.fraction
  let taken := n.fraction.length - ignored
  (significand, dropped - taken + ((n.exponent.map Exponent.value).getD 0))

def isTooLarge (n : Numeral) : Bool :=
  Binary64.exceeds n.scaled.1 n.scaled.2

/-- The value of a number that has a minus sign in front or not. A negative zero has no integer
value. -/
def toJson (negative : Bool) (n : Numeral) : Json :=
  let literal := String.ofList ((if negative then ['-'] else []) ++ n.text)
  let real := if n.isTooLarge then .unreadable else .real literal
  let value : Int := digitsValue n.whole
  if n.fraction ≠ [] ∨ n.exponent.isSome then real
  else if negative then
    if value = 0 ∨ -value < leastInt then real else .int (-value)
  else if (greatestNat : Int) < value then real
  else .int value

end Numeral

def number (text : List Char) : Option (Json × List Char) := do
  let (negative, text) := match text with
    | '-' :: text => (true, text)
    | text => (false, text)
  let (whole, rest) ← wholePart text
  let (fraction, rest) ← fractionPart rest
  let (exponent, rest) ← exponentPart rest
  return (Numeral.toJson negative ⟨whole, fraction, exponent⟩, rest)

end FixCorpus.Json
