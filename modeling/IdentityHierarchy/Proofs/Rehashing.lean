import IdentityHierarchy.Bytes.Lemmas
import IdentityHierarchy.Scalar

set_option autoImplicit false

namespace IdentityHierarchy.Scalar

def Reduced (bytes : Bytes) : Prop :=
  Bytes.toNatBE bytes < groupOrder

instance (bytes : Bytes) : Decidable (Reduced bytes) :=
  inferInstanceAs (Decidable (Bytes.toNatBE bytes < groupOrder))

def Rejects (message : Bytes) (count : Nat) : Prop :=
  ∀ i < count, ¬ Reduced (Sha256.digest^[i + 1] message)

instance (message : Bytes) (count : Nat) : Decidable (Rejects message count) :=
  inferInstanceAs (Decidable (∀ i < count, ¬ Reduced (Sha256.digest^[i + 1] message)))

/-- The digest after `count` rejected ones is the first below the order. -/
structure EndsAfter (message : Bytes) (count : Nat) : Prop where
  rejects : Rejects message count
  reduced : Reduced (Sha256.digest^[count + 1] message)

def SearchEnds (message : Bytes) : Prop :=
  ∃ i, Reduced (Sha256.digest^[i + 1] message)

theorem SearchEnds.endsAfter {message : Bytes} (ends : SearchEnds message) :
    ∃ count, EndsAfter message count :=
  ⟨Nat.find ends, fun _ before => Nat.find_min ends before, Nat.find_spec ends⟩

theorem Rejects.le {message : Bytes} {count rejected : Nat} (rejects : Rejects message rejected)
    (ends : EndsAfter message count) : rejected ≤ count := by
  by_contra beyond
  exact rejects count (Nat.lt_of_not_le beyond) ends.reduced

theorem length_iterate_digest (message : Bytes) (i : Nat) :
    (Sha256.digest^[i + 1] message).length = 32 := by
  rw [Function.iterate_succ_apply', Sha256.length_digest]

namespace EndsAfter

variable {message : Bytes} {count : Nat}

theorem iterate (ends : EndsAfter message count) (rejected : Nat) (within : rejected ≤ count) :
    EndsAfter (Sha256.digest^[rejected] message) (count - rejected) where
  rejects := by
    intro i before
    rw [← Function.iterate_add_apply, Nat.add_right_comm]
    exact ends.rejects (i + rejected) (Nat.add_lt_of_lt_sub before)
  reduced := by
    rw [← Function.iterate_add_apply, Nat.add_right_comm, Nat.sub_add_cancel within]
    exact ends.reduced

theorem digests_ne (ends : EndsAfter message count) {i j : Nat} (before : i < j)
    (within : j ≤ count) : Sha256.digest^[i + 1] message ≠ Sha256.digest^[j + 1] message := by
  intro same
  -- After the second of two equal digests comes what comes after the first, so the last digest
  -- would have been there before.
  have last : Sha256.digest^[count - j + i + 1] message = Sha256.digest^[count + 1] message := by
    rw [Nat.add_assoc, Function.iterate_add_apply, same, ← Function.iterate_add_apply,
      ← Nat.add_assoc, Nat.sub_add_cancel within]
  apply ends.rejects (count - j + i) (by omega)
  rw [last]
  exact ends.reduced

theorem count_lt (ends : EndsAfter message count) (size : Nat) (large : 256 ^ 32 ≤ size) :
    count < size := by
  -- Different digests are different numbers of 32 bytes, and there are not more of these.
  let number (i : Nat) := Bytes.toNatBE (Sha256.digest^[i + 1] message)
  have bound (i : Nat) : number i < size := by
    have digits := Bytes.toNatBE_lt (Sha256.digest^[i + 1] message)
    rw [length_iterate_digest] at digits
    exact Nat.lt_of_lt_of_le digits large
  have ne {i j : Nat} (before : i < j) (within : j ≤ count) : number i ≠ number j := by
    intro same
    apply ends.digests_ne before within
    apply Bytes.eq_of_toNatBE_eq _ _ _ same
    rw [length_iterate_digest, length_iterate_digest]
  have injective : Set.InjOn number (Finset.range (count + 1)) := by
    intro i inside j inside' same
    rw [Finset.coe_range, Set.mem_Iio, Nat.lt_succ_iff] at inside inside'
    rcases Nat.lt_trichotomy i j with before | rfl | after
    next => exact absurd same (ne before inside')
    next => rfl
    next => exact absurd same.symm (ne after inside)
  have card := Finset.card_le_card_of_injOn number
    (fun i _ => Finset.mem_coe.mpr (Finset.mem_range.mpr (bound i))) injective
  rw [Finset.card_range, Finset.card_range] at card
  exact card

end EndsAfter

theorem firstReduced_of_reduced (attempts : Nat) (digest : Bytes) (reduced : Reduced digest) :
    (firstReduced (attempts + 1) digest).val = Bytes.toNatBE digest := by
  have read : ofBytes? digest = some ⟨Bytes.toNatBE digest, reduced⟩ := dif_pos reduced
  simp only [firstReduced, read]

theorem firstReduced_of_not_reduced (attempts : Nat) (digest : Bytes) (above : ¬ Reduced digest) :
    firstReduced (attempts + 1) digest = firstReduced attempts (Sha256.digest digest) := by
  have refused : ofBytes? digest = none := dif_neg above
  simp only [firstReduced, refused]

theorem EndsAfter.val_firstReduced {message : Bytes} {count : Nat} (ends : EndsAfter message count)
    (attempts : Nat) (enough : count < attempts) :
    (firstReduced attempts (Sha256.digest message)).val =
      Bytes.toNatBE (Sha256.digest^[count + 1] message) := by
  induction count generalizing message attempts with
  | zero =>
    obtain ⟨attempts, rfl⟩ := Nat.exists_eq_add_one_of_ne_zero (Nat.ne_of_gt enough)
    exact firstReduced_of_reduced attempts _ ends.reduced
  | succ count ih =>
    obtain ⟨attempts, rfl⟩ := Nat.exists_eq_add_one_of_ne_zero (Nat.ne_zero_of_lt enough)
    have above : ¬ Reduced (Sha256.digest message) := ends.rejects 0 (Nat.succ_pos count)
    rw [firstReduced_of_not_reduced attempts _ above]
    exact ih (ends.iterate 1 (Nat.succ_pos count)) attempts (Nat.lt_of_succ_lt_succ enough)

theorem EndsAfter.val_hash {message : Bytes} {count : Nat} (ends : EndsAfter message count) :
    (hash message).val = Bytes.toNatBE (Sha256.digest^[count + 1] message) := by
  have enough : count < 1 <<< 256 := ends.count_lt _ (by norm_num [Nat.shiftLeft_eq])
  exact ends.val_firstReduced _ enough

theorem hash_eq_hash_iff {first second : Bytes} {count other : Nat}
    (ends : EndsAfter first count) (ends' : EndsAfter second other) :
    hash first = hash second ↔
      Sha256.digest^[count + 1] first = Sha256.digest^[other + 1] second := by
  rw [Fin.ext_iff, ends.val_hash, ends'.val_hash]
  constructor
  next =>
    apply Bytes.eq_of_toNatBE_eq
    rw [length_iterate_digest, length_iterate_digest]
  next => exact congrArg Bytes.toNatBE

theorem hash_iterate {message : Bytes} (ends : SearchEnds message) (rejected : Nat)
    (rejects : Rejects message rejected) :
    hash (Sha256.digest^[rejected] message) = hash message := by
  obtain ⟨count, ends⟩ := ends.endsAfter
  have within : rejected ≤ count := rejects.le ends
  rw [hash_eq_hash_iff (ends.iterate rejected within) ends, ← Function.iterate_add_apply,
    Nat.add_right_comm, Nat.sub_add_cancel within]

theorem hash_eq_of_digest_eq {first second : Bytes}
    (same : Sha256.digest first = Sha256.digest second) : hash first = hash second := by
  rw [hash, hash, same]

def Rehashes (first second : Bytes) : Prop :=
  ∃ i, Rejects first (i + 1) ∧ second = Sha256.digest^[i + 1] first

/-- Two different inputs with the same digest, each of them one of the messages or a digest that is
hashed again. -/
structure Collides (first second : Bytes) (i j : Nat) : Prop where
  rejects : Rejects first i
  rejects' : Rejects second j
  inputs : Sha256.digest^[i] first ≠ Sha256.digest^[j] second
  digests : Sha256.digest (Sha256.digest^[i] first) = Sha256.digest (Sha256.digest^[j] second)

inductive SearchesMeet (first second : Bytes) : Prop where
  | digest (same : Sha256.digest first = Sha256.digest second)
  | behind (rehashes : Rehashes first second)
  | ahead (rehashes : Rehashes second first)
  | collision (i j : Nat) (collides : Collides first second i j)

theorem Rejects.of_succ {message : Bytes} {count : Nat} (rejects : Rejects message (count + 1)) :
    Rejects message count :=
  fun i before => rejects i (Nat.lt_succ_of_lt before)

theorem inputs_eq_or_collides {first second : Bytes} (i j : Nat) (rejects : Rejects first i)
    (rejects' : Rejects second j)
    (same : Sha256.digest^[i + 1] first = Sha256.digest^[j + 1] second) :
    Sha256.digest^[i] first = Sha256.digest^[j] second ∨ Collides first second i j := by
  rw [Function.iterate_succ_apply', Function.iterate_succ_apply'] at same
  by_cases inputs : Sha256.digest^[i] first = Sha256.digest^[j] second
  next => exact .inl inputs
  next => exact .inr ⟨rejects, rejects', inputs, same⟩

theorem searchesMeet_of_digests {first second : Bytes} (i j : Nat) (rejects : Rejects first i)
    (rejects' : Rejects second j)
    (same : Sha256.digest^[i + 1] first = Sha256.digest^[j + 1] second) :
    SearchesMeet first second := by
  -- Backwards from the common digest, one digest of each search at a time.
  induction i generalizing j with
  | zero =>
    cases j with
    | zero => exact .digest same
    | succ j =>
      rcases inputs_eq_or_collides 0 (j + 1) rejects rejects' same with inputs | collides
      next => exact .ahead ⟨j, rejects', inputs⟩
      next => exact .collision 0 (j + 1) collides
  | succ i ih =>
    rcases inputs_eq_or_collides (i + 1) j rejects rejects' same with inputs | collides
    next =>
      cases j with
      | zero => exact .behind ⟨i, rejects, inputs.symm⟩
      | succ j => exact ih j rejects.of_succ rejects'.of_succ inputs
    next => exact .collision (i + 1) j collides

theorem hash_eq_iff_searchesMeet {first second : Bytes} (ends : SearchEnds first)
    (ends' : SearchEnds second) : hash first = hash second ↔ SearchesMeet first second := by
  constructor
  next =>
    intro same
    obtain ⟨count, last⟩ := ends.endsAfter
    obtain ⟨other, last'⟩ := ends'.endsAfter
    exact searchesMeet_of_digests count other last.rejects last'.rejects
      ((hash_eq_hash_iff last last').mp same)
  next =>
    rintro (same | ⟨i, rejects, rfl⟩ | ⟨i, rejects, rfl⟩ | ⟨i, j, rejects, rejects', -, same⟩)
    next => exact hash_eq_of_digest_eq same
    next => exact (hash_iterate ends (i + 1) rejects).symm
    next => exact hash_iterate ends' (i + 1) rejects
    next =>
      rw [← hash_iterate ends i rejects, ← hash_iterate ends' j rejects']
      exact hash_eq_of_digest_eq same

end IdentityHierarchy.Scalar
