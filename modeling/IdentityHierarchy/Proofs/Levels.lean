import IdentityHierarchy.Proofs.Delegation
import IdentityHierarchy.Proofs.Envelope

set_option autoImplicit false

namespace IdentityHierarchy

variable {S : PairingGroups}

section Checked

def difference? (whole part : Nat) : Option Nat :=
  if part ≤ whole then some (whole - part) else none

def valuesFrom? {A : Type} (values : List A) (start : Nat) : Option (List A) :=
  if start ≤ values.length then some (values.drop start) else none

theorem difference?_of_le {whole part : Nat} (inside : part ≤ whole) :
    difference? whole part = some (whole - part) :=
  if_pos inside

theorem valuesFrom?_of_le {A : Type} {values : List A} {start : Nat} (inside : start ≤ values.length) :
    valuesFrom? values start = some (values.drop start) :=
  if_pos inside

def DelegatedKey.ofParts? (params : PublicParams S) (a0 : S.First) (a1 : S.Second)
    (b : List S.First) (depth : Nat) : Option (Except Error (DelegatedKey S)) := do
  if params.height < depth then
    return .error (.delegationDepthExceeded depth params.height)
  let expected ← difference? params.height depth
  if b.length ≠ expected then
    return .error (.configuration (.componentCount depth expected b.length))
  return .ok ⟨a0, a1, b, depth⟩

def DelegatedKey.delegate? (key : DelegatedKey S) (params : PublicParams S)
    (chain : IdentityChain) (child : Bytes) (stream : ByteStream) :
    Option (Except Error (DelegatedKey S) × ByteStream) := do
  if params.height ≤ key.depth then
    return (.error (.delegationDepthExceeded key.depth params.height), stream)
  if chain.length ≠ key.depth then
    return (.error (.identityChainMismatch key.depth chain.length), stream)
  let expected ← difference? params.height key.depth
  if key.b.length ≠ expected then
    return (.error (.configuration (.foreignKey key.depth params.height)), stream)
  let (w, stream) := drawExponent params.curve stream
  let x := Scalar.hash child
  let first ← key.b[0]?
  let components ← valuesFrom? key.b 1
  let elements ← valuesFrom? params.h (key.depth + 1)
  let next : DelegatedKey S :=
    { a0 := x • first + w • params.identityElement (chain.hashes ++ [x]) + key.a0
      a1 := w • params.gHead + key.a1
      b := List.zipWith (fun b h => b + w • h) components elements
      depth := key.depth + 1 }
  return (.ok next, stream)

def MasterKey.delegate? (master : MasterKey S) (params : PublicParams S) (child : Bytes)
    (stream : ByteStream) : Option (Except Error (DelegatedKey S) × ByteStream) := do
  if params.height = 0 then
    return (.error (.delegationDepthExceeded 0 params.height), stream)
  let (v, stream) := drawExponent params.curve stream
  let h1 ← params.h[0]?
  let elements ← valuesFrom? params.h 1
  return (.ok (master.childKey params h1 elements child v), stream)

end Checked

namespace DelegatedKey

def Fits (key : DelegatedKey S) (params : PublicParams S) : Prop :=
  key.depth + key.b.length = params.height

inductive DelegateOutcome (key : DelegatedKey S) (params : PublicParams S) (chain : IdentityChain)
    (child : Bytes) (stream : ByteStream) : Except Error (DelegatedKey S) × ByteStream → Prop where
  | deep (full : params.height ≤ key.depth) :
      DelegateOutcome key params chain child stream
        (.error (.delegationDepthExceeded key.depth params.height), stream)
  | miscounted (room : key.depth < params.height) (count : chain.length ≠ key.depth) :
      DelegateOutcome key params chain child stream
        (.error (.identityChainMismatch key.depth chain.length), stream)
  | foreign (room : key.depth < params.height) (count : chain.length = key.depth)
      (components : key.b.length ≠ params.height - key.depth) :
      DelegateOutcome key params chain child stream
        (.error (.configuration (.foreignKey key.depth params.height)), stream)
  | made (room : key.depth < params.height) (count : chain.length = key.depth)
      (components : key.b.length = params.height - key.depth) :
      DelegateOutcome key params chain child stream
        (.ok (key.childKey params chain child (drawExponent params.curve stream).1),
          (drawExponent params.curve stream).2)

variable (key : DelegatedKey S) (params : PublicParams S) (chain : IdentityChain) (child : Bytes)
  (stream : ByteStream)

theorem delegate_outcome :
    key.DelegateOutcome params chain child stream (key.delegate params chain child stream) := by
  rcases Nat.lt_or_ge key.depth params.height with room | full
  next =>
    by_cases count : chain.length = key.depth
    next =>
      by_cases components : key.b.length = params.height - key.depth
      next =>
        rw [key.delegate_of_fits params chain child stream room count components]
        exact .made room count components
      next =>
        rw [delegate, delegationFault?, if_neg (Nat.not_le.mpr room), if_neg (not_not_intro count),
          if_pos components]
        exact .foreign room count components
    next =>
      rw [delegate, delegationFault?, if_neg (Nat.not_le.mpr room), if_pos count]
      exact .miscounted room count
  next =>
    rw [delegate, delegationFault?, if_pos full]
    exact .deep full

theorem delegate_eq_ok_iff :
    (∃ next, (key.delegate params chain child stream).1 = .ok next) ↔
      key.depth < params.height ∧ chain.length = key.depth ∧
        key.b.length = params.height - key.depth := by
  have outcome := key.delegate_outcome params chain child stream
  generalize key.delegate params chain child stream = result at outcome
  cases outcome with
  | deep full => simp [Nat.not_lt.mpr full]
  | miscounted room count => simp [count]
  | foreign room count components => simp [components]
  | made room count components => simp [room, count, components]

theorem delegate_refusals (error : Error) :
    (key.delegate params chain child stream).1 = .error error ↔
      (error = .delegationDepthExceeded key.depth params.height ∧ params.height ≤ key.depth) ∨
      (error = .identityChainMismatch key.depth chain.length ∧
        key.depth < params.height ∧ chain.length ≠ key.depth) ∨
      (error = .configuration (.foreignKey key.depth params.height) ∧
        key.depth < params.height ∧ chain.length = key.depth ∧
          key.b.length ≠ params.height - key.depth) := by
  have outcome := key.delegate_outcome params chain child stream
  generalize key.delegate params chain child stream = result at outcome
  cases outcome with
  | deep full => simp [full, Nat.not_lt.mpr full, eq_comm]
  | miscounted room count => simp [room, Nat.not_le.mpr room, count, eq_comm]
  | foreign room count components =>
    simp [room, Nat.not_le.mpr room, count, components, eq_comm]
  | made room count components => simp [Nat.not_le.mpr room, count, components]

theorem stream_of_refusal (error : Error)
    (refused : (key.delegate params chain child stream).1 = .error error) :
    (key.delegate params chain child stream).2 = stream := by
  have outcome := key.delegate_outcome params chain child stream
  generalize key.delegate params chain child stream = result at outcome refused
  cases outcome with
  | made room count components => cases refused
  | _ => rfl

theorem fits_childKey (w : Scalar) (room : key.depth < params.height)
    (components : key.b.length = params.height - key.depth) :
    (key.childKey params chain child w).Fits params := by
  have count : (key.childKey params chain child w).b.length =
      min (key.b.length - 1) (params.height - (key.depth + 1)) := by
    simp [childKey, PublicParams.height]
  rw [Fits, count, components]
  change key.depth + 1 + _ = _
  omega

theorem fits_of_delegate (next : DelegatedKey S)
    (made : (key.delegate params chain child stream).1 = .ok next) :
    key.depth < params.height ∧ next.depth = key.depth + 1 ∧ next.Fits params := by
  have outcome := key.delegate_outcome params chain child stream
  generalize key.delegate params chain child stream = result at outcome made
  cases outcome with
  | made room count components =>
    cases made
    exact ⟨room, rfl, key.fits_childKey params chain child _ room components⟩
  | _ => cases made

theorem delegate?_eq :
    key.delegate? params chain child stream = some (key.delegate params chain child stream) := by
  have outcome := key.delegate_outcome params chain child stream
  generalize key.delegate params chain child stream = result at outcome
  cases outcome with
  | deep full => simp [delegate?, full]
  | miscounted room count => simp [delegate?, Nat.not_le.mpr room, count]
  | foreign room count components =>
    simp [delegate?, Nat.not_le.mpr room, count, difference?_of_le (Nat.le_of_lt room), components]
  | made room count components =>
    -- There is room for one more level, so there is a component for it.
    have level : key.depth + 1 ≤ params.h.length := room
    obtain ⟨a0, a1, b, depth⟩ := key
    cases b with
    | nil => exact absurd components (Nat.sub_ne_zero_of_lt room).symm
    | cons first rest =>
      have inside : 1 ≤ (first :: rest).length := Nat.le_add_left 1 rest.length
      simp [delegate?, Nat.not_le.mpr room, count, difference?_of_le (Nat.le_of_lt room),
        ← components, valuesFrom?_of_le inside, valuesFrom?_of_le level, childKey, drawExponent]

theorem ofParts?_eq (a0 : S.First) (a1 : S.Second) (b : List S.First) (depth : Nat) :
    ofParts? params a0 a1 b depth = some (ofParts params a0 a1 b depth) := by
  rcases Nat.lt_or_ge params.height depth with deep | shallow
  next => simp [ofParts?, ofParts, deep]
  next =>
    by_cases components : b.length = params.height - depth <;>
      simp [ofParts?, ofParts, Nat.not_lt.mpr shallow, difference?_of_le shallow, components]

end DelegatedKey

namespace MasterKey

variable (master : MasterKey S) (params : PublicParams S) (child : Bytes) (stream : ByteStream)

theorem delegate_cases :
    (params.height = 0 ∧
      master.delegate params child stream = (.error (.delegationDepthExceeded 0 0), stream)) ∨
    ∃ h1 h, params.h = h1 :: h ∧
      master.delegate params child stream =
        (.ok (master.childKey params h1 h child (drawExponent params.curve stream).1),
          (drawExponent params.curve stream).2) := by
  cases elements : params.h with
  | nil => exact .inl ⟨congrArg List.length elements, by rw [delegate, elements]⟩
  | cons h1 h => exact .inr ⟨h1, h, rfl, by rw [delegate, elements]⟩

theorem delegate_eq_ok_iff :
    (∃ next, (master.delegate params child stream).1 = .ok next) ↔ 0 < params.height := by
  rcases master.delegate_cases params child stream with ⟨flat, refused⟩ | ⟨h1, h, elements, made⟩
  next => simp [refused, flat]
  next => simp [made, PublicParams.height, elements]

theorem delegate_refused (error : Error)
    (failed : (master.delegate params child stream).1 = .error error) :
    error = .delegationDepthExceeded 0 params.height ∧
      (master.delegate params child stream).2 = stream := by
  rcases master.delegate_cases params child stream with ⟨flat, refused⟩ | ⟨h1, h, elements, made⟩
  next =>
    rw [refused] at failed ⊢
    cases failed
    exact ⟨by rw [flat], rfl⟩
  next =>
    rw [made] at failed
    cases failed

theorem delegate?_eq :
    master.delegate? params child stream = some (master.delegate params child stream) := by
  rcases master.delegate_cases params child stream with ⟨flat, refused⟩ | ⟨h1, h, elements, made⟩
  next => simp [delegate?, refused, flat]
  next =>
    have tall : params.height ≠ 0 := by simp [PublicParams.height, elements]
    have inside : 1 ≤ (h1 :: h).length := Nat.le_add_left 1 h.length
    simp [delegate?, made, tall, elements, valuesFrom?_of_le inside, drawExponent]

theorem fits_of_delegate (next : DelegatedKey S)
    (given : (master.delegate params child stream).1 = .ok next) :
    next.depth = 1 ∧ next.Fits params := by
  rcases master.delegate_cases params child stream with ⟨flat, refused⟩ | ⟨h1, h, elements, made⟩
  next =>
    rw [refused] at given
    cases given
  next =>
    rw [made] at given
    cases given
    exact ⟨rfl, by simp [DelegatedKey.Fits, childKey, PublicParams.height, elements, Nat.add_comm]⟩

section Wrapped

variable [ElementGroup.Commutative S.First] [ElementGroup.Commutative S.Second]

theorem childKey_ofMaster (neutral : ∀ x : Scalar, x • (0 : S.First) = 0) (h1 : S.First)
    (h : List S.First) (elements : params.h = h1 :: h) (w : Scalar) :
    (DelegatedKey.ofMaster params master).childKey params .root child w =
      master.childKey params h1 h child w := by
  have height : params.height = h.length + 1 := congrArg List.length elements
  have element : params.identityElement (IdentityChain.root.hashes ++ [Scalar.hash child]) =
      Scalar.hash child • h1 + params.g3 := by
    rw [PublicParams.identityElement, elements]
    exact congrArg (· + params.g3) (ElementGroup.Commutative.add_zero _)
  have components (w : Scalar) : List.zipWith (fun b h => b + w • h) (List.replicate h.length 0) h =
      h.map fun h => w • h := by
    rw [← List.map_const', List.zipWith_map_left, List.zipWith_self]
    simp only [ElementGroup.Commutative.zero_add]
  simp only [DelegatedKey.childKey, DelegatedKey.ofMaster, childKey, height, element,
    List.replicate_succ, List.headD_cons, List.tail_cons, neutral,
    ElementGroup.Commutative.zero_add, ElementGroup.Commutative.add_zero, elements,
    List.drop_succ_cons, List.drop_zero, components]

theorem delegate_eq_delegate_ofMaster (neutral : ∀ x : Scalar, x • (0 : S.First) = 0) :
    let answer := master.delegate params child stream
    (DelegatedKey.ofMaster params master).delegate params .root child stream = answer ∧
    (params.height = 0 → answer = (.error (.delegationDepthExceeded 0 0), stream)) ∧
    (0 < params.height → ∃ key, answer = (.ok key, stream.skip 32)) := by
  intro answer
  rcases master.delegate_cases params child stream with ⟨flat, refused⟩ | ⟨h1, h, elements, made⟩
  next =>
    have wrapped : (DelegatedKey.ofMaster params master).delegate params .root child stream =
        (.error (.delegationDepthExceeded 0 0), stream) := by
      have full : params.height ≤ (DelegatedKey.ofMaster params master).depth := Nat.le_of_eq flat
      rw [DelegatedKey.delegate, DelegatedKey.delegationFault?, if_pos full, flat]
      rfl
    exact ⟨wrapped.trans refused.symm, fun _ => refused, fun room => absurd flat (Nat.ne_of_gt room)⟩
  next =>
    have height : params.height = h.length + 1 := congrArg List.length elements
    have room : (DelegatedKey.ofMaster params master).depth < params.height := by
      rw [height]
      exact Nat.succ_pos _
    have wrapped := (DelegatedKey.ofMaster params master).delegate_of_fits params .root child stream
      room rfl (List.length_replicate ..)
    rw [master.childKey_ofMaster params child neutral h1 h elements] at wrapped
    refine ⟨wrapped.trans made.symm, fun flat => ?_, fun _ => ⟨_, made⟩⟩
    rw [height] at flat
    cases flat

theorem delegate_eq_delegate_ofMaster_height_two :
    let params := Exponents.params [7, 11]
    let master := (params.masterKeys 13).masterKey
    let stream : ByteStream := ⟨UInt8.ofNat, 0⟩
    let answer := master.delegate params [97] stream
    (∀ x : Scalar, x • (0 : exponents.First) = 0) ∧
      (DelegatedKey.ofMaster params master).delegate params .root [97] stream = answer ∧
      ∃ key, answer = (.ok key, stream.skip 32) := by
  intro params master stream answer
  have neutral : ∀ x : Scalar, x • (0 : exponents.First) = 0 := fun x => Fin.mul_zero x
  obtain ⟨same, -, made⟩ := delegate_eq_delegate_ofMaster master params [97] stream neutral
  exact ⟨neutral, same, made (by decide)⟩

end Wrapped

end MasterKey

/-- A call of `delegate` on some key. The chain is what the caller takes for the chain of the key. -/
structure DelegationCall where
  chain : IdentityChain
  child : Bytes
  stream : ByteStream

namespace DelegatedKey

inductive Obtained (params : PublicParams S) : DelegatedKey S → Prop where
  | wrapped (master : MasterKey S) : Obtained params (ofMaster params master)
  | assembled (a0 : S.First) (a1 : S.Second) (b : List S.First) (depth : Nat) (key : DelegatedKey S)
      (made : ofParts params a0 a1 b depth = .ok key) : Obtained params key
  | decoded (encoding : Bytes) (key : DelegatedKey S) (read : decode params encoding = .ok key) :
      Obtained params key
  | issued (master : MasterKey S) (child : Bytes) (stream : ByteStream) (key : DelegatedKey S)
      (made : (master.delegate params child stream).1 = .ok key) : Obtained params key
  | delegated (key : DelegatedKey S) (obtained : Obtained params key) (call : DelegationCall)
      (next : DelegatedKey S)
      (made : (key.delegate params call.chain call.child call.stream).1 = .ok next) :
      Obtained params next

def delegateThrough (params : PublicParams S) :
    DelegatedKey S → List DelegationCall → Except Error (DelegatedKey S)
  | key, [] => .ok key
  | key, call :: rest => do
    let next ← (key.delegate params call.chain call.child call.stream).1
    next.delegateThrough params rest

theorem fits_ofMaster (params : PublicParams S) (master : MasterKey S) :
    (ofMaster params master).Fits params := by
  simp [Fits, ofMaster]

theorem fits_of_decode (params : PublicParams S) (encoding : Bytes) (key : DelegatedKey S)
    (read : decode params encoding = .ok key) : key.Fits params := by
  rcases decode_cases params encoding with ⟨fault, failed⟩ | ⟨other, decoded, components⟩
  next => cases failed.symm.trans read
  next =>
    cases decoded.symm.trans read
    exact components

theorem Obtained.fits {params : PublicParams S} {key : DelegatedKey S}
    (obtained : key.Obtained params) : key.Fits params := by
  induction obtained with
  | wrapped master => exact fits_ofMaster params master
  | assembled a0 a1 b depth key made =>
    obtain ⟨rfl, components⟩ := ofParts_eq_ok params a0 a1 b depth key made
    exact components
  | decoded encoding key read => exact fits_of_decode params encoding key read
  | issued master child stream key made =>
    exact (master.fits_of_delegate params child stream key made).2
  | delegated key _ call next made _ =>
    exact (key.fits_of_delegate params call.chain call.child call.stream next made).2.2

theorem delegateThrough_cons_eq_ok (params : PublicParams S) (key last : DelegatedKey S)
    (call : DelegationCall) (rest : List DelegationCall) :
    key.delegateThrough params (call :: rest) = .ok last ↔ ∃ next,
      (key.delegate params call.chain call.child call.stream).1 = .ok next ∧
        next.delegateThrough params rest = .ok last := by
  rw [delegateThrough]
  cases (key.delegate params call.chain call.child call.stream).1 with
  | error error => simp [bind, Except.bind]
  | ok next => simp [bind, Except.bind]

theorem depth_of_delegateThrough (params : PublicParams S) (key last : DelegatedKey S)
    (calls : List DelegationCall) (reached : key.delegateThrough params calls = .ok last) :
    calls.length ≤ params.height - key.depth ∧ last.depth = key.depth + calls.length := by
  induction calls generalizing key with
  | nil =>
    cases reached
    exact ⟨Nat.zero_le _, rfl⟩
  | cons call rest ih =>
    obtain ⟨next, made, reached⟩ :=
      (delegateThrough_cons_eq_ok params key last call rest).mp reached
    obtain ⟨room, depth, -⟩ := key.fits_of_delegate params _ _ _ next made
    obtain ⟨bound, level⟩ := ih next reached
    rw [depth] at bound level
    rw [List.length_cons]
    omega

theorem delegateThrough_eq_ok_iff (key : DelegatedKey S) (params : PublicParams S)
    (fits : key.Fits params) (calls : List DelegationCall) :
    (∃ last, key.delegateThrough params calls = .ok last) ↔
      calls.length ≤ params.height - key.depth ∧
        calls.map (fun call => call.chain.length) = List.range' key.depth calls.length := by
  induction calls generalizing key with
  | nil => simp [delegateThrough]
  | cons call rest ih =>
    -- Only lengths decide on the first call, and what comes of it fits again.
    have allowed := key.delegate_eq_ok_iff params call.chain call.child call.stream
    simp only [delegateThrough_cons_eq_ok, List.map_cons, List.length_cons, List.range'_succ,
      List.cons.injEq]
    constructor
    next =>
      rintro ⟨last, next, made, reached⟩
      obtain ⟨room, count, -⟩ := allowed.mp ⟨next, made⟩
      obtain ⟨-, depth, still⟩ := key.fits_of_delegate params _ _ _ next made
      obtain ⟨bound, chains⟩ := (ih next still).mp ⟨last, reached⟩
      rw [depth] at bound chains
      exact ⟨by omega, count, chains⟩
    next =>
      rintro ⟨bound, count, chains⟩
      have components : key.b.length = params.height - key.depth := by
        unfold Fits at fits
        omega
      obtain ⟨next, made⟩ := allowed.mpr ⟨by omega, count, components⟩
      obtain ⟨-, depth, still⟩ := key.fits_of_delegate params _ _ _ next made
      have further : rest.length ≤ params.height - next.depth := by omega
      obtain ⟨last, reached⟩ := (ih next still).mpr ⟨further, depth ▸ chains⟩
      exact ⟨last, next, made, reached⟩

/-- No call looks outside a key or the parameters, whatever is given to it: it is refused before, and
then draws nothing. All keys that can be had for the parameters fit them, and from a key at depth `d`
there are as many further levels as there are left, and no more. -/
theorem delegation_safe (params : PublicParams S) :
    (∀ (key : DelegatedKey S) (chain : IdentityChain) (child : Bytes) (stream : ByteStream),
      let answer := key.delegate params chain child stream
      key.delegate? params chain child stream = some answer ∧
      (answer.1 = .error (.delegationDepthExceeded key.depth params.height) ↔
        params.height ≤ key.depth) ∧
      (answer.1 = .error (.identityChainMismatch key.depth chain.length) ↔
        key.depth < params.height ∧ chain.length ≠ key.depth) ∧
      ((∃ fault, answer.1 = .error (.configuration fault)) ↔
        key.depth < params.height ∧ chain.length = key.depth ∧
          key.b.length ≠ params.height - key.depth) ∧
      ((∃ next, answer.1 = .ok next) ↔
        key.depth < params.height ∧ chain.length = key.depth ∧
          key.b.length = params.height - key.depth) ∧
      (∀ next, answer.1 = .ok next →
        next.depth = key.depth + 1 ∧ next.b.length = params.height - key.depth - 1) ∧
      ∀ error, answer.1 = .error error → answer.2 = stream) ∧
    (∀ (master : MasterKey S) (child : Bytes) (stream : ByteStream),
      let answer := master.delegate params child stream
      master.delegate? params child stream = some answer ∧
      ((∃ next, answer.1 = .ok next) ↔ 0 < params.height) ∧
      ∀ error, answer.1 = .error error →
        error = .delegationDepthExceeded 0 params.height ∧ answer.2 = stream) ∧
    (∀ a0 a1 b depth, ofParts? params a0 a1 b depth = some (ofParts params a0 a1 b depth)) ∧
    (∀ key, Obtained params key →
      key.depth ≤ params.height ∧ key.depth + key.b.length = params.height ∧
      ∀ calls, (∃ last, key.delegateThrough params calls = .ok last) ↔
        calls.length ≤ params.height - key.depth ∧
          calls.map (fun call => call.chain.length) = List.range' key.depth calls.length) ∧
    ∀ (key last : DelegatedKey S) calls, key.delegateThrough params calls = .ok last →
      calls.length ≤ params.height - key.depth ∧ last.depth = key.depth + calls.length := by
  refine ⟨?_, ?_, ofParts?_eq params, ?_, ?_⟩
  next =>
    intro key chain child stream answer
    have refusals := key.delegate_refusals params chain child stream
    refine ⟨key.delegate?_eq params chain child stream, ?_, ?_, ?_,
      key.delegate_eq_ok_iff params chain child stream, ?_,
      key.stream_of_refusal params chain child stream⟩
    next => simp [answer, refusals]
    next => simp [answer, refusals]
    next => simp [answer, refusals]
    next =>
      intro next made
      obtain ⟨room, depth, fits⟩ := key.fits_of_delegate params chain child stream next made
      unfold Fits at fits
      exact ⟨depth, by omega⟩
  next =>
    intro master child stream answer
    exact ⟨master.delegate?_eq params child stream, master.delegate_eq_ok_iff params child stream,
      master.delegate_refused params child stream⟩
  next =>
    intro key obtained
    have fits := obtained.fits
    exact ⟨Nat.le.intro fits, fits, key.delegateThrough_eq_ok_iff params fits⟩
  next =>
    exact depth_of_delegateThrough params

theorem delegation_safe_two_levels :
    let params := Exponents.params [7, 11]
    let key : DelegatedKey exponents := ⟨(5 : Scalar), (4 : Scalar), [(3 : Scalar)], 1⟩
    let down : DelegationCall := ⟨⟨[[97]]⟩, [98], .seeded [1] []⟩
    let again : DelegationCall := ⟨⟨[[97], [98]]⟩, [99], .seeded [2] []⟩
    Obtained params key ∧
      (∃ last, key.delegateThrough params [down] = .ok last) ∧
      ¬ (∃ last, key.delegateThrough params [down, again] = .ok last) := by
  intro params key down again
  have obtained : Obtained params key :=
    .assembled (5 : Scalar) (4 : Scalar) [(3 : Scalar)] 1 key rfl
  obtain ⟨-, -, -, keys, -⟩ := delegation_safe params
  obtain ⟨-, -, through⟩ := keys key obtained
  exact ⟨obtained, (through [down]).mpr (by decide), mt (through [down, again]).mp (by decide)⟩

end DelegatedKey

end IdentityHierarchy
