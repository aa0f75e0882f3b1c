import IdentityHierarchy.Groups
import IdentityHierarchy.Random.Stream

set_option autoImplicit false

namespace IdentityHierarchy.PairingGroups

variable (S : PairingGroups)

def markCompressed : Bytes → Bytes
  -- Sets the flags of a compressed point that is not infinite, and keeps the choice of its sign.
  | [] => []
  | flags :: rest => ((flags &&& 0x3f) ||| 0x80) :: rest

def hasZeroCoordinate : Bytes → Bool
  | [] => true
  | flags :: rest => decide (flags &&& 0x1f = 0) && rest.all fun byte => decide (byte = 0)

def elementOfBlock? (block : Bytes) : Option S.First :=
  let marked := markCompressed block
  if hasZeroCoordinate marked then none
  else
    match S.decodeCurvePoint? marked with
    | none => none
    | some point =>
      let element := S.clearCofactor point
      if element = 0 then none else some element

def drawElement (attempts : Nat) (stream : ByteStream) : Option (S.First × ByteStream) :=
  stream.search firstWidth S.elementOfBlock? attempts

def drawElements (attempts : Nat) : Nat → ByteStream → Option (List S.First × ByteStream)
  | 0, stream => some ([], stream)
  | count + 1, stream => do
    let (element, stream) ← S.drawElement attempts stream
    let (elements, stream) ← drawElements attempts count stream
    return (element :: elements, stream)

def nontrivialTarget? (block : Bytes) : Option S.Target :=
  match S.targetOfBlock? block with
  | none => none
  | some target => if target = 1 then none else some target

def drawTarget (attempts : Nat) (stream : ByteStream) : Option (S.Target × ByteStream) :=
  stream.search targetBlockWidth S.nontrivialTarget? attempts

end IdentityHierarchy.PairingGroups
