import IdentityHierarchy.Proofs.Envelope

set_option autoImplicit false

namespace IdentityHierarchy

open PairingGroups

namespace Bytes

/-- The forms of a number: one byte if it is small, or a tag and any width that has room for it. -/
inductive NumberForm (n : Nat) : Bytes → Prop where
  | one (small : n < 251) : NumberForm n (ofNatLE 1 n)
  | two (small : n < 0x10000) : NumberForm n (251 :: ofNatLE 2 n)
  | four (small : n < 0x100000000) : NumberForm n (252 :: ofNatLE 4 n)
  | eight (small : n < 0x10000000000000000) : NumberForm n (253 :: ofNatLE 8 n)

structure ElementForm {A : Type} (width : Nat) (decode? : Bytes → Option A) (value : A)
    (bytes : Bytes) : Prop where
  length : bytes.length = width
  decoded : decode? bytes = some value

inductive SequenceForm {A : Type} (form : A → Bytes → Prop) : List A → Bytes → Prop where
  | nil : SequenceForm form [] []
  | cons {value : A} {values : List A} {front back : Bytes} (head : form value front)
      (tail : SequenceForm form values back) : SequenceForm form (value :: values) (front ++ back)

def ListForm {A : Type} (form : A → Bytes → Prop) (values : List A) (bytes : Bytes) : Prop :=
  ∃ count back, bytes = count ++ back ∧ NumberForm values.length count ∧
    SequenceForm form values back

theorem SequenceForm.length_eq {A : Type} {width : Nat} {decode? : Bytes → Option A}
    {values : List A} {bytes : Bytes}
    (sequence : SequenceForm (ElementForm width decode?) values bytes) :
    bytes.length = values.length * width := by
  induction sequence with
  | nil => simp
  | cons head tail ih =>
    rw [List.length_append, head.length, ih, List.length_cons]
    ring

end Bytes

open Bytes

namespace Reader

variable {A B : Type}

theorem bind_eq_ok (read : Reader A) (next : A → Reader B) (bytes rest : Bytes) (b : B)
    (accepted : (read >>= next) bytes = .ok (b, rest)) :
    ∃ a between, read bytes = .ok (a, between) ∧ next a between = .ok (b, rest) := by
  change Except.bind (read bytes) (fun result => next result.1 result.2) = _ at accepted
  cases first : read bytes with
  | error fault => simp [first, Except.bind] at accepted
  | ok result => exact ⟨result.1, result.2, rfl, by simpa [first, Except.bind] using accepted⟩

/-- The reader accepts the strings that start with a form of a value, and leaves the rest. -/
structure Recognizes (read : Reader A) (form : A → Bytes → Prop) : Prop where
  reads (value : A) (bytes : Bytes) : form value bytes → Reads read bytes value
  takes (value : A) (bytes rest : Bytes) : read bytes = .ok (value, rest) →
    ∃ front, bytes = front ++ rest ∧ form value front

theorem Recognizes.congr {read : Reader A} {form other : A → Bytes → Prop}
    (recognizes : Recognizes read form) (same : ∀ value bytes, form value bytes ↔ other value bytes) :
    Recognizes read other where
  reads value bytes shaped := recognizes.reads value bytes ((same value bytes).mpr shaped)
  takes value bytes rest accepted := by
    obtain ⟨front, split, shaped⟩ := recognizes.takes value bytes rest accepted
    exact ⟨front, split, (same value front).mp shaped⟩

theorem Recognizes.append_inj {read : Reader A} {form : A → Bytes → Prop}
    (recognizes : Recognizes read form) {a b : A} {front before rest back : Bytes}
    (first : form a front) (second : form b before) (same : front ++ rest = before ++ back) :
    a = b ∧ rest = back := by
  have whole := recognizes.reads a front first rest
  rw [same, recognizes.reads b before second back] at whole
  cases whole
  exact ⟨rfl, rfl⟩

theorem recognizes_pure (value : A) :
    Recognizes (pure value) fun given bytes => given = value ∧ bytes = [] where
  reads := by
    rintro given _ ⟨rfl, rfl⟩
    exact Reads.pure given
  takes given bytes rest accepted := by
    cases accepted
    exact ⟨[], rfl, rfl, rfl⟩

theorem Recognizes.bind {read : Reader A} {next : A → Reader B} {form : A → Bytes → Prop}
    {forms : A → B → Bytes → Prop} (first : Recognizes read form)
    (second : ∀ a, Recognizes (next a) (forms a)) :
    Recognizes (read >>= next) fun b bytes =>
      ∃ a front back, bytes = front ++ back ∧ form a front ∧ forms a b back where
  reads := by
    rintro _ _ ⟨a, front, back, rfl, head, tail⟩
    exact (first.reads a front head).bind ((second a).reads _ back tail)
  takes b bytes rest accepted := by
    obtain ⟨a, between, head, tail⟩ := bind_eq_ok _ _ _ _ _ accepted
    obtain ⟨front, rfl, shaped⟩ := first.takes a _ _ head
    obtain ⟨back, rfl, later⟩ := (second a).takes b _ _ tail
    exact ⟨front ++ back, (List.append_assoc front back _).symm, a, front, back, rfl, shaped, later⟩

theorem Recognizes.map {read : Reader A} {form : A → Bytes → Prop}
    (recognizes : Recognizes read form) (f : A → B) :
    Recognizes (f <$> read) fun b bytes => ∃ a, f a = b ∧ form a bytes := by
  apply (recognizes.bind fun a => recognizes_pure (f a)).congr
  intro b bytes
  constructor
  next =>
    rintro ⟨a, front, _, rfl, shaped, rfl, rfl⟩
    exact ⟨a, rfl, by rwa [List.append_nil]⟩
  next =>
    rintro ⟨a, rfl, shaped⟩
    exact ⟨a, bytes, [], (List.append_nil bytes).symm, shaped, rfl, rfl⟩

theorem recognizes_take (count : Nat) :
    Recognizes (take count) fun value bytes => value = bytes ∧ bytes.length = count where
  reads := by
    rintro _ bytes ⟨rfl, exact⟩
    exact reads_take _ count exact
  takes value bytes rest accepted := by
    simp only [take] at accepted
    split at accepted
    next => cases accepted
    next enough =>
      cases accepted
      rw [List.length_take] at enough
      refine ⟨bytes.take count, (List.take_append_drop count bytes).symm, rfl, ?_⟩
      rw [List.length_take]
      omega

theorem recognizes_numberLE (width : Nat) :
    Recognizes (numberLE width) fun n bytes => n < 256 ^ width ∧ bytes = ofNatLE width n where
  reads := by
    rintro n _ ⟨small, rfl⟩
    exact reads_numberLE width n small
  takes n bytes rest accepted := by
    obtain ⟨word, between, taken, done⟩ := bind_eq_ok _ _ _ _ _ accepted
    cases done
    obtain ⟨front, split, rfl, rfl⟩ := (recognizes_take width).takes word _ _ taken
    exact ⟨word, split, toNatLE_lt word, (ofNatLE_toNatLE word).symm⟩

theorem recognizes_number : Recognizes number NumberForm where
  reads n bytes shaped := by
    cases shaped with
    | one small =>
      apply (reads_numberLE 1 n (by omega)).finish
      rw [if_pos small]
      exact Reads.pure n
    | two small => exact reads_tagged 251 2 n (by omega) fun _ => rfl
    | four small => exact reads_tagged 252 4 n (by omega) fun _ => rfl
    | eight small => exact reads_tagged 253 8 n (by omega) fun _ => rfl
  takes n bytes rest accepted := by
    obtain ⟨tag, between, head, tail⟩ := bind_eq_ok _ _ _ _ _ accepted
    obtain ⟨_, rfl, -, rfl⟩ := (recognizes_numberLE 1).takes tag _ _ head
    -- What follows a tag is the number in the width that the tag stands for.
    have tagged (width : Nat) (wide : numberLE width between = .ok (n, rest)) :
        n < 256 ^ width ∧ ofNatLE 1 tag ++ between = (UInt8.ofNat tag :: ofNatLE width n) ++ rest := by
      obtain ⟨_, rfl, small, rfl⟩ := (recognizes_numberLE width).takes n _ _ wide
      exact ⟨small, rfl⟩
    split_ifs at tail with plain two four eight wide
    next =>
      cases tail
      exact ⟨ofNatLE 1 n, rfl, .one plain⟩
    next =>
      obtain ⟨small, split⟩ := tagged 2 tail
      subst two
      exact ⟨_, split, .two small⟩
    next =>
      obtain ⟨small, split⟩ := tagged 4 tail
      subst four
      exact ⟨_, split, .four small⟩
    next =>
      obtain ⟨small, split⟩ := tagged 8 tail
      subst eight
      exact ⟨_, split, .eight small⟩
    next => cases tail
    next => cases tail

theorem recognizes_version :
    Recognizes version fun n bytes => NumberForm n bytes ∧ n < 0x100000000 where
  reads n bytes := by
    rintro ⟨shaped, small⟩
    apply (recognizes_number.reads n bytes shaped).finish
    rw [if_pos small]
    exact Reads.pure n
  takes value bytes rest accepted := by
    obtain ⟨n, between, head, tail⟩ := bind_eq_ok _ _ _ _ _ accepted
    split_ifs at tail with small
    next =>
      cases tail
      obtain ⟨front, split, shaped⟩ := recognizes_number.takes value _ _ head
      exact ⟨front, split, shaped, small⟩
    next => cases tail

theorem recognizes_element (width : Nat) (decode? : Bytes → Option A) :
    Recognizes (element width decode?) (ElementForm width decode?) where
  reads value bytes shaped := reads_element width decode? bytes value shaped.length shaped.decoded
  takes value bytes rest accepted := by
    obtain ⟨block, between, head, tail⟩ := bind_eq_ok _ _ _ _ _ accepted
    obtain ⟨_, split, rfl, exact⟩ := (recognizes_take width).takes block _ _ head
    cases decoded : decode? block with
    | none => simp only [decoded] at tail; cases tail
    | some element =>
      simp only [decoded] at tail
      cases tail
      exact ⟨block, split, exact, decoded⟩

theorem recognizes_replicate {read : Reader A} {form : A → Bytes → Prop}
    (each : Recognizes read form) (count : Nat) :
    Recognizes (replicate read count) fun values bytes =>
      values.length = count ∧ SequenceForm form values bytes := by
  induction count with
  | zero =>
    apply (recognizes_pure []).congr
    intro values bytes
    constructor
    next =>
      rintro ⟨rfl, rfl⟩
      exact ⟨rfl, .nil⟩
    next =>
      rintro ⟨empty, sequence⟩
      cases sequence with
      | nil => exact ⟨rfl, rfl⟩
      | cons head tail => simp at empty
  | succ count ih =>
    apply (each.bind fun head => ih.bind fun tail => recognizes_pure (head :: tail)).congr
    intro values bytes
    constructor
    next =>
      rintro ⟨head, front, _, rfl, shaped, tail, back, _, rfl, ⟨length, sequence⟩, rfl, rfl⟩
      rw [List.append_nil]
      exact ⟨congrArg Nat.succ length, .cons shaped sequence⟩
    next =>
      rintro ⟨length, sequence⟩
      cases sequence with
      | nil => simp at length
      | @cons head tail front back shaped sequence =>
        exact ⟨head, front, back, rfl, shaped, tail, back, [], (List.append_nil back).symm,
          ⟨Nat.succ.inj length, sequence⟩, rfl, rfl⟩

theorem recognizes_list {read : Reader A} {form : A → Bytes → Prop} (each : Recognizes read form) :
    Recognizes (list read) (ListForm form) := by
  apply (recognizes_number.bind fun count => recognizes_replicate each count).congr
  intro values bytes
  constructor
  next =>
    rintro ⟨_, count, back, rfl, number, rfl, sequence⟩
    exact ⟨count, back, rfl, number, sequence⟩
  next =>
    rintro ⟨count, back, rfl, number, sequence⟩
    exact ⟨_, count, back, rfl, number, rfl, sequence⟩

theorem Recognizes.runAll_iff {read : Reader A} {form : A → Bytes → Prop}
    (recognizes : Recognizes read form) (bytes : Bytes) (value : A) :
    read.runAll bytes = .ok value ↔ form value bytes := by
  constructor
  next =>
    intro accepted
    change Except.bind (read bytes) (fun result =>
      if result.2 = [] then .ok result.1 else .error .trailingBytes) = _ at accepted
    cases whole : read bytes with
    | error fault => simp [whole, Except.bind] at accepted
    | ok result =>
      obtain ⟨given, rest⟩ := result
      simp only [whole, Except.bind] at accepted
      split_ifs at accepted with exhausted
      cases accepted
      subst exhausted
      obtain ⟨front, rfl, shaped⟩ := recognizes.takes _ _ _ whole
      rwa [List.append_nil]
  next => exact fun shaped => (recognizes.reads value bytes shaped).runAll

end Reader

open Reader

namespace Bytes

theorem NumberForm.append_inj {n other : Nat} {front before rest back : Bytes}
    (number : NumberForm n front) (second : NumberForm other before)
    (same : front ++ rest = before ++ back) : n = other ∧ rest = back :=
  recognizes_number.append_inj number second same

def Overlong (width : Nat) (bytes : Bytes) : Prop :=
  ∃ n count rest, bytes = count ++ rest ∧ NumberForm n count ∧ rest.length / width < n

theorem ListForm.not_overlong {A : Type} {width : Nat} {decode? : Bytes → Option A}
    {values : List A} {bytes : Bytes} (positive : 0 < width)
    (list : ListForm (ElementForm width decode?) values bytes) : ¬ Overlong width bytes := by
  rintro ⟨n, before, rest, split, number, few⟩
  obtain ⟨count, back, rfl, length, sequence⟩ := list
  obtain ⟨rfl, rfl⟩ := length.append_inj number split
  rw [sequence.length_eq, Nat.mul_div_cancel _ positive] at few
  exact Nat.lt_irrefl _ few

end Bytes

end IdentityHierarchy
