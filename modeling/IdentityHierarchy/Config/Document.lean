import IdentityHierarchy.Config.Basic
import IdentityHierarchy.Document.Basic

set_option autoImplicit false

namespace IdentityHierarchy

def Curve.ofDocument? : Document → Option Curve
  | .text name => Curve.all.find? fun curve => curve.name = name
  | .record [(name, .null)] => Curve.all.find? fun curve => curve.name = name
  | _ => none

namespace SchemeConfig

def heightOfDocument? : Document → Option Nat
  | .integer n => if 0 ≤ n ∧ n < 0x10000000000000000 then some n.toNat else none
  | _ => none

def ofDocument? : Document → Option SchemeConfig
  | .record fields => do
    let height ← heightOfDocument? (← Document.field? fields "max_height")
    match Document.field? fields "curve" with
    | none => return ofHeight height
    | some curve => return ⟨height, ← Curve.ofDocument? curve⟩
  | .list [height] => do return ofHeight (← heightOfDocument? height)
  | .list [height, curve] => do return ⟨← heightOfDocument? height, ← Curve.ofDocument? curve⟩
  | _ => none

end SchemeConfig

end IdentityHierarchy
