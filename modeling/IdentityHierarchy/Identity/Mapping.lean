import IdentityHierarchy.Error
import IdentityHierarchy.Identity.Chain

set_option autoImplicit false

namespace IdentityHierarchy

abbrev IdentityMapping (A : Type) := A → Except Error IdentityChain

def IdentityMapping.epoch : IdentityMapping (Bytes × UInt64)
  | (domain, epoch) => .ok ⟨[domain, Bytes.ofNatBE 8 epoch.toNat]⟩

end IdentityHierarchy
