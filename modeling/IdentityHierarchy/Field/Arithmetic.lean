set_option autoImplicit false

namespace IdentityHierarchy

class Arithmetic (F : Type) extends Zero F, One F, Add F, Sub F, Neg F, Mul F, Inv F where
  decEq : DecidableEq F

instance {F : Type} [Arithmetic F] : DecidableEq F := Arithmetic.decEq

def binaryDigits (n : Nat) : List Bool :=
  (List.range (n.log2 + 1)).reverse.map n.testBit

@[specialize]
def power {F : Type} [One F] [Mul F] (base : F) (exponent : Nat) : F :=
  (binaryDigits exponent).foldl
    (fun result digit => if digit then result * result * base else result * result) 1

end IdentityHierarchy
