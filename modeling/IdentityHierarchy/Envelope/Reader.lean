import IdentityHierarchy.Error
import IdentityHierarchy.Groups

set_option autoImplicit false

namespace IdentityHierarchy

abbrev Reader (A : Type) := StateT Bytes (Except DecodingFault) A

namespace Reader

def take (count : Nat) : Reader Bytes := fun bytes =>
  let front := bytes.take count
  if front.length < count then .error .unexpectedEnd else .ok (front, bytes.drop count)

def numberLE (width : Nat) : Reader Nat := do
  return Bytes.toNatLE (← take width)

def number : Reader Nat := do
  -- A number in one byte, or after a tag for its width. Longer forms than needed are read too.
  let tag ← numberLE 1
  if tag < 251 then return tag
  else if tag = 251 then numberLE 2
  else if tag = 252 then numberLE 4
  else if tag = 253 then numberLE 8
  else if tag = 254 then throw .wideInteger
  else throw .reservedInteger

def version : Reader Nat := do
  let value ← number
  if value < 0x100000000 then return value else throw (.versionRange value)

def element {A : Type} (width : Nat) (decode? : Bytes → Option A) : Reader A := do
  match decode? (← take width) with
  | some value => return value
  | none => throw (.invalidPoint width)

def first (S : PairingGroups) : Reader S.First :=
  element PairingGroups.firstWidth S.decodeFirst?

def second (S : PairingGroups) : Reader S.Second :=
  element PairingGroups.secondWidth S.decodeSecond?

def replicate {A : Type} (read : Reader A) : Nat → Reader (List A)
  | 0 => return []
  | count + 1 => do
    let head ← read
    let tail ← replicate read count
    return head :: tail

def list {A : Type} (read : Reader A) : Reader (List A) := do
  replicate read (← number)

def runAll {A : Type} (read : Reader A) (bytes : Bytes) : Except DecodingFault A := do
  let (value, rest) ← read bytes
  if rest = [] then return value else throw .trailingBytes

end Reader

def Bytes.ofNumber (n : Nat) : Bytes :=
  if n < 251 then ofNatLE 1 n
  else if n < 0x10000 then 251 :: ofNatLE 2 n
  else if n < 0x100000000 then 252 :: ofNatLE 4 n
  else 253 :: ofNatLE 8 n

def Bytes.ofList {A : Type} (encode : A → Bytes) (values : List A) : Bytes :=
  ofNumber values.length ++ values.flatMap encode

end IdentityHierarchy
