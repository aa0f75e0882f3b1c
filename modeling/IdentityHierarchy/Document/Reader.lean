import IdentityHierarchy.Bytes.Hex
import IdentityHierarchy.Document.Basic

set_option autoImplicit false

namespace IdentityHierarchy.Document

def skipBlanks (input : List Char) : List Char :=
  input.dropWhile fun c => c = ' ' || c = '\t' || c = '\n' || c = '\r'

def escapedUnit? : Char → Option Nat
  | '"' => some 34
  | '\\' => some 92
  | '/' => some 47
  | 'b' => some 8
  | 'f' => some 12
  | 'n' => some 10
  | 'r' => some 13
  | 't' => some 9
  | _ => none

def hexUnit? (digits : List Char) : Option Nat := do
  Bytes.toNatBE (← Bytes.ofHexChars? digits)

def readUnits : List Char → Option (List Nat × List Char)
  | '"' :: rest => some ([], rest)
  | '\\' :: 'u' :: a :: b :: c :: d :: rest => do
    let unit ← hexUnit? [a, b, c, d]
    let (units, rest) ← readUnits rest
    return (unit :: units, rest)
  | '\\' :: c :: rest => do
    let unit ← escapedUnit? c
    let (units, rest) ← readUnits rest
    return (unit :: units, rest)
  | c :: rest =>
    if c < ' ' then none
    else do
      let (units, rest) ← readUnits rest
      return (c.toNat :: units, rest)
  | [] => none

def isSurrogate (n : Nat) : Bool :=
  decide (0xd800 ≤ n ∧ n < 0xe000)

def joinUnits : List Nat → Option (List Char)
  -- Joins surrogates in pairs. One that stands alone is refused.
  | [] => some []
  | [n] => if isSurrogate n then none else some [Char.ofNat n]
  | n :: m :: rest =>
    if isSurrogate n then
      if n < 0xdc00 ∧ 0xdc00 ≤ m ∧ m < 0xe000 then do
        let chars ← joinUnits rest
        return Char.ofNat (0x10000 + 0x400 * (n - 0xd800) + (m - 0xdc00)) :: chars
      else none
    else do
      let chars ← joinUnits (m :: rest)
      return Char.ofNat n :: chars

def readText (input : List Char) : Option (String × List Char) := do
  let (units, rest) ← readUnits input
  let chars ← joinUnits units
  return (String.ofList chars, rest)

def readDigits (input : List Char) : Option (List Char × List Char) :=
  let digits := input.takeWhile Char.isDigit
  if digits = [] then none else some (digits, input.dropWhile Char.isDigit)

def skipExponent (input : List Char) : Option (Bool × List Char) :=
  match input with
  | 'e' :: '+' :: rest | 'e' :: '-' :: rest | 'E' :: '+' :: rest | 'E' :: '-' :: rest
  | 'e' :: rest | 'E' :: rest => (readDigits rest).map fun read => (true, read.2)
  | _ => some (false, input)

def skipFraction (input : List Char) : Option (Bool × List Char) :=
  match input with
  | '.' :: rest => (readDigits rest).map fun read => (true, read.2)
  | _ => some (false, input)

def decimal (digits : List Char) : Nat :=
  digits.foldl (fun n digit => 10 * n + (digit.toNat - 48)) 0

def readNumber (input : List Char) : Option (Document × List Char) := do
  let negative := input.head? = some '-'
  let (digits, rest) ← readDigits (if negative then input.tail else input)
  if digits.head? = some '0' ∧ digits ≠ ['0'] then none
  else
    let (fractional, rest) ← skipFraction rest
    let (scientific, rest) ← skipExponent rest
    let n := decimal digits
    if fractional || scientific || (negative && n == 0) then return (fraction, rest)
    else return (integer (if negative then -n else n), rest)

def expect (word input : List Char) : Option (List Char) :=
  if word.isPrefixOf input then some (input.drop word.length) else none

def maxNesting : Nat := 127

mutual

/-- Reads a value whose width is bounded by the fuel, and whose nesting by the levels left. -/
def readValue : Nat → Nat → List Char → Option (Document × List Char)
  | 0, _, _ => none
  | fuel + 1, levels, input =>
    match skipBlanks input, levels with
    | 'n' :: rest, _ => (expect ['u', 'l', 'l'] rest).map fun rest => (null, rest)
    | 't' :: rest, _ => (expect ['r', 'u', 'e'] rest).map fun rest => (boolean true, rest)
    | 'f' :: rest, _ => (expect ['a', 'l', 's', 'e'] rest).map fun rest => (boolean false, rest)
    | '"' :: rest, _ => (readText rest).map fun read => (text read.1, read.2)
    | '[' :: _, 0 | '\x7b' :: _, 0 => none
    | '[' :: rest, levels + 1 =>
      match skipBlanks rest with
      | ']' :: rest => some (list [], rest)
      | rest => (readItems fuel levels rest).map fun read => (list read.1, read.2)
    | '\x7b' :: rest, levels + 1 =>
      match skipBlanks rest with
      | '\x7d' :: rest => some (record [], rest)
      | rest => (readFields fuel levels rest).map fun read => (record read.1, read.2)
    | rest, _ => readNumber rest

def readItems : Nat → Nat → List Char → Option (List Document × List Char)
  | 0, _, _ => none
  | fuel + 1, levels, input => do
    let (item, rest) ← readValue fuel levels input
    match skipBlanks rest with
    | ']' :: rest => return ([item], rest)
    | ',' :: rest => do
      let (items, rest) ← readItems fuel levels rest
      return (item :: items, rest)
    | _ => none

def readFields : Nat → Nat → List Char → Option (List (String × Document) × List Char)
  | 0, _, _ => none
  | fuel + 1, levels, input => do
    let rest ← expect ['"'] (skipBlanks input)
    let (name, rest) ← readText rest
    let rest ← expect [':'] (skipBlanks rest)
    let (value, rest) ← readValue fuel levels rest
    match skipBlanks rest with
    | '\x7d' :: rest => return ([(name, value)], rest)
    | ',' :: rest => do
      let (fields, rest) ← readFields fuel levels rest
      return ((name, value) :: fields, rest)
    | _ => none

end

def parse? (source : String) : Option Document := do
  -- Every step takes a character, so the fuel is never short.
  let chars := source.toList
  let (document, rest) ← readValue (2 * chars.length + 1) maxNesting chars
  if skipBlanks rest = [] then some document else none

end IdentityHierarchy.Document
