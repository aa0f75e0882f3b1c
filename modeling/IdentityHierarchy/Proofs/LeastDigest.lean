import IdentityHierarchy.Proofs.Rehashing

set_option autoImplicit false

namespace IdentityHierarchy.Scalar

def ReadsReduced (read? : Bytes → Option Scalar) : Prop :=
  ∀ bytes s, read? bytes = some s ↔ bytes.length = 32 ∧ Bytes.toNatLE bytes = s.val

def ofBytesLE? (bytes : Bytes) : Option Scalar :=
  if h : bytes.length = 32 ∧ Bytes.toNatLE bytes < groupOrder then some ⟨Bytes.toNatLE bytes, h.2⟩
  else none

theorem readsReduced_ofBytesLE? : ReadsReduced ofBytesLE? := by
  intro bytes s
  by_cases width : bytes.length = 32 <;> by_cases below : Bytes.toNatLE bytes < groupOrder
  next => simp [ofBytesLE?, width, below, Fin.ext_iff]
  next =>
    have other : Bytes.toNatLE bytes ≠ s.val := by omega
    simp [ofBytesLE?, below, other]
  next => simp [ofBytesLE?, width]
  next => simp [ofBytesLE?, width]

/-- From a digest on, the search takes `count` digests and ends with a scalar. -/
inductive Search (read? : Bytes → Option Scalar) : Bytes → Nat → Scalar → Prop where
  | found {digest : Bytes} {s : Scalar} (read : read? digest.reverse = some s) :
      Search read? digest 1 s
  | again {digest : Bytes} {count : Nat} {s : Scalar} (refused : read? digest.reverse = none)
      (rest : Search read? (Sha256.digest digest) count s) : Search read? digest (count + 1) s

variable {read? : Bytes → Option Scalar}

section Reader

variable (reads : ReadsReduced read?) (message : Bytes)
include reads

theorem read_digest_eq_some_iff (s : Scalar) :
    read? (Sha256.digest message).reverse = some s ↔
      s.val = Bytes.toNatBE (Sha256.digest message) := by
  simp [reads _ s, Bytes.toNatBE, eq_comm]

theorem read_digest_eq_none_iff :
    read? (Sha256.digest message).reverse = none ↔ ¬ Reduced (Sha256.digest message) := by
  constructor
  next =>
    intro refused reduced
    have read := (read_digest_eq_some_iff reads message ⟨_, reduced⟩).mpr rfl
    simp [refused] at read
  next =>
    intro above
    by_contra accepted
    obtain ⟨s, read⟩ := Option.ne_none_iff_exists'.mp accepted
    have value := (read_digest_eq_some_iff reads message s).mp read
    have below := s.isLt
    unfold Reduced at above
    omega

end Reader

theorem Search.pos {digest : Bytes} {count : Nat} {s : Scalar} (search : Search read? digest count s) :
    0 < count := by
  cases search <;> omega

theorem search_one_iff (digest : Bytes) (s : Scalar) :
    Search read? digest 1 s ↔ read? digest.reverse = some s := by
  constructor
  next =>
    intro search
    cases search with
    | found read => exact read
    | again refused rest => exact absurd rest.pos (Nat.lt_irrefl 0)
  next => exact Search.found

theorem search_add_two_iff (digest : Bytes) (count : Nat) (s : Scalar) :
    Search read? digest (count + 2) s ↔
      read? digest.reverse = none ∧ Search read? (Sha256.digest digest) (count + 1) s := by
  constructor
  next =>
    intro search
    cases search with
    | again refused rest => exact ⟨refused, rest⟩
  next => exact fun ⟨refused, rest⟩ => .again refused rest

theorem endsAfter_zero_iff (message : Bytes) :
    EndsAfter message 0 ↔ Reduced (Sha256.digest message) := by
  constructor
  next => exact EndsAfter.reduced
  next => exact fun reduced => ⟨by simp [Rejects], reduced⟩

theorem endsAfter_succ_iff (message : Bytes) (count : Nat) :
    EndsAfter message (count + 1) ↔
      ¬ Reduced (Sha256.digest message) ∧ EndsAfter (Sha256.digest message) count := by
  constructor
  next =>
    intro ends
    exact ⟨ends.rejects 0 (Nat.succ_pos count), ends.iterate 1 (Nat.succ_pos count)⟩
  next =>
    rintro ⟨above, ends⟩
    refine ⟨fun i before => ?_, ends.reduced⟩
    cases i with
    | zero => exact above
    | succ i => exact ends.rejects i (Nat.lt_of_succ_lt_succ before)

theorem search_iff_endsAfter (reads : ReadsReduced read?) (message : Bytes) (count : Nat)
    (s : Scalar) :
    Search read? (Sha256.digest message) (count + 1) s ↔
      EndsAfter message count ∧ s.val = Bytes.toNatBE (Sha256.digest^[count + 1] message) := by
  induction count generalizing message with
  | zero =>
    have below (same : s.val = Bytes.toNatBE (Sha256.digest message)) :
        Reduced (Sha256.digest message) := by
      rw [Reduced, ← same]
      exact s.isLt
    simpa [search_one_iff, read_digest_eq_some_iff reads, endsAfter_zero_iff] using below
  | succ count ih =>
    rw [search_add_two_iff, read_digest_eq_none_iff reads, ih, endsAfter_succ_iff, and_assoc]
    rfl

def reducedPlaces (message : Bytes) : Set Nat :=
  {i | 0 < i ∧ Reduced (Sha256.digest^[i] message)}

theorem isLeast_reducedPlaces_iff (message : Bytes) (count : Nat) :
    IsLeast (reducedPlaces message) (count + 1) ↔ EndsAfter message count := by
  constructor
  next =>
    rintro ⟨⟨-, reduced⟩, least⟩
    refine ⟨fun i before reduced' => ?_, reduced⟩
    have bound := least ⟨Nat.succ_pos i, reduced'⟩
    omega
  next =>
    intro ends
    refine ⟨⟨Nat.succ_pos count, ends.reduced⟩, ?_⟩
    rintro place ⟨positive, reduced⟩
    obtain ⟨i, rfl⟩ := Nat.exists_eq_add_one.mpr positive
    by_contra before
    exact ends.rejects i (by omega) reduced

theorem search_iff (reads : ReadsReduced read?) (message : Bytes) (count : Nat) (s : Scalar) :
    Search read? (Sha256.digest message) count s ↔
      IsLeast (reducedPlaces message) count ∧ s = hash message := by
  cases count with
  | zero =>
    constructor
    next => exact fun search => absurd search.pos (Nat.lt_irrefl 0)
    next => exact fun least => absurd least.1.1.1 (Nat.lt_irrefl 0)
  | succ count =>
    rw [search_iff_endsAfter reads, isLeast_reducedPlaces_iff]
    apply and_congr_right
    intro ends
    rw [Fin.ext_iff, ends.val_hash]

theorem searchEnds_iff_nonempty (message : Bytes) :
    SearchEnds message ↔ (reducedPlaces message).Nonempty := by
  constructor
  next => exact fun ⟨i, reduced⟩ => ⟨i + 1, Nat.succ_pos i, reduced⟩
  next =>
    rintro ⟨place, positive, reduced⟩
    obtain ⟨i, rfl⟩ := Nat.exists_eq_add_one.mpr positive
    exact ⟨i, reduced⟩

/-- The search ends if and only if there is a digest below the order. It takes the digests up to the
first of these, and the number that this one writes is the hash of the message. A digest that is not
below the order has the same hash as its message. -/
theorem hash_eq_least_digest (reads : ReadsReduced read?) (message : Bytes) :
    (∀ count s, Search read? (Sha256.digest message) count s ↔
      IsLeast (reducedPlaces message) count ∧ s = hash message) ∧
    ((reducedPlaces message).Nonempty →
      (∃ n, IsLeast (reducedPlaces message) n ∧
        (hash message).val = Bytes.toNatBE (Sha256.digest^[n] message) ∧
        Bytes.toNatBE (Sha256.digest^[n] message) < groupOrder) ∧
      (groupOrder ≤ Bytes.toNatBE (Sha256.digest message) →
        hash message = hash (Sha256.digest message))) := by
  refine ⟨search_iff reads message, fun places => ?_⟩
  have ended : SearchEnds message := (searchEnds_iff_nonempty message).mpr places
  obtain ⟨count, ends⟩ := ended.endsAfter
  constructor
  next =>
    exact ⟨count + 1, (isLeast_reducedPlaces_iff message count).mpr ends, ends.val_hash, ends.reduced⟩
  next =>
    intro above
    have rejects : Rejects message 1 := by
      intro i before
      obtain rfl : i = 0 := by omega
      exact Nat.not_lt.mpr above
    exact (hash_iterate ended 1 rejects).symm

theorem hash_eq_third_digest :
    Search ofBytesLE? (Sha256.digest [5]) 3 (hash [5]) ∧
      (hash [5]).val = Bytes.toNatBE (Sha256.digest^[3] [5]) ∧
      hash [5] = hash (Sha256.digest [5]) := by
  have ends : EndsAfter [5] 2 := ⟨by decide +kernel, by decide +kernel⟩
  have least := (isLeast_reducedPlaces_iff [5] 2).mpr ends
  obtain ⟨searched, found⟩ := hash_eq_least_digest readsReduced_ofBytesLE? [5]
  obtain ⟨⟨n, first, value, -⟩, again⟩ := found ⟨3, least.1⟩
  obtain rfl : n = 3 := first.unique least
  exact ⟨(searched 3 _).mpr ⟨least, rfl⟩, value, again (Nat.not_lt.mp (ends.rejects 0 (by decide)))⟩

end IdentityHierarchy.Scalar
