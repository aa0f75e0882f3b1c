import IdentityHierarchy.Proofs.Decoding
import IdentityHierarchy.Proofs.Layout
import IdentityHierarchy.Proofs.RoundTrip

set_option autoImplicit false

namespace IdentityHierarchy

open PairingGroups Reader
open Bytes (NumberForm ShortestForm SequenceForm ListForm Part Written)

theorem EnvelopeKind.version_injective {kind other : EnvelopeKind}
    (same : kind.version = other.version) : kind = other := by
  cases kind <;> cases other <;> first | rfl | simp [version] at same

variable {S : PairingGroups}

inductive Envelope (S : PairingGroups) where
  | params (shared : PublicParams S)
  | delegatedKey (key : DelegatedKey S)
  | publicKey (key : PublicKey S)
  | masterKey (key : MasterKey S)
  deriving DecidableEq

namespace Envelope

def encoding : Envelope S → Bytes
  | params shared => shared.encoding
  | delegatedKey key => key.encoding
  | publicKey key => key.encoding
  | masterKey key => key.encoding

def encode : Envelope S → Except Error Bytes
  | params shared => shared.encode
  | delegatedKey key => key.encode
  | publicKey key => key.encode
  | masterKey key => key.encode

def decode (kind : EnvelopeKind) (against : PublicParams S) (bytes : Bytes) :
    Except Error (Envelope S) :=
  match kind with
  | .params => (PublicParams.decode S bytes).map params
  | .delegatedKey => (DelegatedKey.decode against bytes).map delegatedKey
  | .publicKey => (PublicKey.decode S bytes).map publicKey
  | .masterKey => (MasterKey.decode S bytes).map masterKey

def parts : Envelope S → List Part
  | params shared =>
    [.number EnvelopeKind.params.version, .plain shared.curve.orderBytes,
      .plain (S.encodeFirst shared.g), .plain (S.encodeSecond shared.gHead),
      .plain (S.encodeFirst shared.g2), .plain (S.encodeFirst shared.g3),
      .number shared.h.length, .plain (shared.h.flatMap S.encodeFirst)]
  | delegatedKey key =>
    [.number EnvelopeKind.delegatedKey.version, .number key.depth, .plain (S.encodeFirst key.a0),
      .plain (S.encodeSecond key.a1), .number key.b.length, .plain (key.b.flatMap S.encodeFirst)]
  | publicKey key => [.number EnvelopeKind.publicKey.version, .plain (S.encodeSecond key.point)]
  | masterKey key => [.number EnvelopeKind.masterKey.version, .plain (S.encodeFirst key.point)]

theorem encode_eq (value : Envelope S) : value.encode = value.encoding.limited := by
  cases value <;> rfl

theorem encoding_eq (value : Envelope S) : value.encoding = value.parts.flatMap Part.shortest := by
  cases value <;>
    simp [encoding, parts, Part.shortest, PublicParams.encoding, DelegatedKey.encoding,
      PublicKey.encoding, MasterKey.encoding, EnvelopeKind.encodeVersion, Bytes.ofList]

end Envelope

namespace EnvelopeKind

def Body (S : PairingGroups) (kind : EnvelopeKind) (bytes : Bytes) : Prop :=
  match kind with
  | .params => ∃ order params, PublicParams.FieldsForm (S := S) order params bytes
  | .delegatedKey => ∃ key, DelegatedKey.FieldsForm (S := S) key bytes
  | .publicKey => ∃ key, PublicKey.FieldsForm (S := S) key bytes
  | .masterKey => ∃ key, MasterKey.FieldsForm (S := S) key bytes

def WellFormed (S : PairingGroups) (kind : EnvelopeKind) (bytes : Bytes) : Prop :=
  ∃ version body, bytes = version ++ body ∧ NumberForm kind.version version ∧ kind.Body S body

theorem Body.append_inj {kind : EnvelopeKind} {body other rest back : Bytes}
    (first : kind.Body S body) (second : kind.Body S other)
    (same : body ++ rest = other ++ back) : rest = back := by
  cases kind with
  | params =>
    obtain ⟨order, params, shaped⟩ := first
    obtain ⟨order', params', shaped'⟩ := second
    have recognizes := PublicParams.recognizes_fields (S := S)
    exact (recognizes.append_inj (a := (order, _)) (b := (order', _)) ⟨params, rfl, shaped⟩
      ⟨params', rfl, shaped'⟩ same).2
  | delegatedKey =>
    obtain ⟨key, shaped⟩ := first
    obtain ⟨key', shaped'⟩ := second
    exact (DelegatedKey.recognizes_fields.append_inj shaped shaped' same).2
  | publicKey =>
    obtain ⟨key, shaped⟩ := first
    obtain ⟨key', shaped'⟩ := second
    exact (S.recognizes_second.append_inj shaped shaped' same).2
  | masterKey =>
    obtain ⟨key, shaped⟩ := first
    obtain ⟨key', shaped'⟩ := second
    exact (S.recognizes_first.append_inj shaped shaped' same).2

theorem WellFormed.append_inj {kind other : EnvelopeKind} {front before rest back : Bytes}
    (first : kind.WellFormed S front) (second : other.WellFormed S before)
    (same : front ++ rest = before ++ back) : kind = other ∧ rest = back := by
  obtain ⟨version, body, rfl, number, shaped⟩ := first
  obtain ⟨version', body', rfl, number', shaped'⟩ := second
  rw [List.append_assoc, List.append_assoc] at same
  obtain ⟨versions, bodies⟩ := number.append_inj number' same
  obtain rfl := version_injective versions
  exact ⟨rfl, shaped.append_inj shaped' bodies⟩

theorem WellFormed.eq_of_prefix {kind other : EnvelopeKind} {front bytes : Bytes}
    (first : kind.WellFormed S front) (second : other.WellFormed S bytes) (starts : front <+: bytes) :
    kind = other ∧ front = bytes := by
  obtain ⟨rest, rfl⟩ := starts
  obtain ⟨kinds, rfl⟩ := first.append_inj second (List.append_nil (front ++ rest)).symm
  exact ⟨kinds, (List.append_nil front).symm⟩

end EnvelopeKind

namespace Envelope

theorem decode_cases (kind : EnvelopeKind) (against : PublicParams S) (bytes : Bytes) :
    (∃ fault, decode kind against bytes = .error (.decoding fault)) ∨ kind.WellFormed S bytes := by
  cases kind with
  | params =>
    rcases PublicParams.decode_cases (S := S) bytes with ⟨fault, failed⟩ | ⟨order, params, form⟩
    next => exact .inl ⟨fault, by rw [decode, failed, Except.map]⟩
    next =>
      obtain ⟨version, body, split, number, shaped⟩ := form
      exact .inr ⟨version, body, split, number, order, params, shaped⟩
  | delegatedKey =>
    rcases DelegatedKey.decode_cases against bytes with ⟨fault, failed⟩ | ⟨key, decoded, -⟩
    next => exact .inl ⟨fault, by rw [decode, failed, Except.map]⟩
    next =>
      obtain ⟨⟨version, body, split, number, shaped⟩, -⟩ :=
        (DelegatedKey.decode_eq_ok_iff against bytes key).mp decoded
      exact .inr ⟨version, body, split, number, key, shaped⟩
  | publicKey =>
    rcases EnvelopeKind.publicKey.decode_answer (PublicKey.mk <$> second S) bytes with
      ⟨key, decoded⟩ | ⟨fault, failed⟩
    next =>
      obtain ⟨version, body, split, number, shaped⟩ := (PublicKey.decode_eq_ok_iff bytes key).mp decoded
      exact .inr ⟨version, body, split, number, key, shaped⟩
    next => exact .inl ⟨fault, by rw [decode, PublicKey.decode, failed, Except.map]⟩
  | masterKey =>
    rcases EnvelopeKind.masterKey.decode_answer (MasterKey.mk <$> first S) bytes with
      ⟨key, decoded⟩ | ⟨fault, failed⟩
    next =>
      obtain ⟨version, body, split, number, shaped⟩ := (MasterKey.decode_eq_ok_iff bytes key).mp decoded
      exact .inr ⟨version, body, split, number, key, shaped⟩
    next => exact .inl ⟨fault, by rw [decode, MasterKey.decode, failed, Except.map]⟩

theorem wellFormed_of_decode (kind : EnvelopeKind) (against : PublicParams S) (bytes : Bytes)
    (value : Envelope S) (accepted : decode kind against bytes = .ok value) :
    kind.WellFormed S bytes := by
  rcases decode_cases kind against bytes with ⟨fault, failed⟩ | shaped
  next =>
    rw [failed] at accepted
    cases accepted
  next => exact shaped

theorem decode_eq_error (kind : EnvelopeKind) (against : PublicParams S) (bytes : Bytes)
    (misshapen : ¬ kind.WellFormed S bytes) :
    ∃ fault, decode kind against bytes = .error (.decoding fault) :=
  (decode_cases kind against bytes).resolve_right misshapen

end Envelope

section Canonical

variable [Canonical S]

theorem PairingGroups.FirstForm.eq_encode {p : S.First} {bytes : Bytes} (form : S.FirstForm p bytes) :
    bytes = S.encodeFirst p :=
  (Canonical.encode_first form.decoded).symm

theorem PairingGroups.SecondForm.eq_encode {q : S.Second} {bytes : Bytes}
    (form : S.SecondForm q bytes) : bytes = S.encodeSecond q :=
  (Canonical.encode_second form.decoded).symm

theorem Bytes.SequenceForm.eq_flatMap {values : List S.First} {bytes : Bytes}
    (sequence : SequenceForm S.FirstForm values bytes) : bytes = values.flatMap S.encodeFirst := by
  induction sequence with
  | nil => rfl
  | cons head tail ih => rw [List.flatMap_cons, ← ih, head.eq_encode]

theorem Bytes.Written.last {form : Nat → Bytes → Prop} (bytes : Bytes) :
    Written form [.plain bytes] bytes := by
  have written : Written form [.plain bytes] (bytes ++ []) := .plain bytes .nil
  rwa [List.append_nil] at written

theorem Bytes.ListForm.written {values : List S.First} {bytes : Bytes}
    (list : ListForm S.FirstForm values bytes) :
    Written NumberForm [.number values.length, .plain (values.flatMap S.encodeFirst)] bytes ∧
      ListForm S.FirstForm values (Bytes.ofList S.encodeFirst values) := by
  obtain ⟨count, back, rfl, number, sequence⟩ := list
  obtain rfl := sequence.eq_flatMap
  exact ⟨.number number (.last _), _, _, rfl, Bytes.numberForm_ofNumber number.lt, sequence⟩

theorem EnvelopeKind.numberForm_encodeVersion (kind : EnvelopeKind) :
    NumberForm kind.version kind.encodeVersion :=
  Bytes.numberForm_ofNumber (by cases kind <;> decide)

theorem PublicParams.written_of_form (shared : PublicParams S) (bytes : Bytes)
    (form : EnvelopeKind.params.Form (FieldsForm (Curve.orderBytes .bls12381)) shared bytes) :
    Written NumberForm (Envelope.params shared).parts bytes ∧
      EnvelopeKind.params.Form (FieldsForm (Curve.orderBytes .bls12381)) shared shared.encoding := by
  obtain ⟨version, _, rfl, number, g, gHead, g2, g3, h, rfl, width, first, second, third, fourth, list⟩ :=
    form
  obtain rfl := first.eq_encode
  obtain rfl := second.eq_encode
  obtain rfl := third.eq_encode
  obtain rfl := fourth.eq_encode
  have curve : shared.curve = .bls12381 := by cases shared.curve; rfl
  obtain ⟨elements, again⟩ := list.written
  rw [Envelope.parts, encoding, curve]
  constructor
  next => exact .number number (.plain _ (.plain _ (.plain _ (.plain _ (.plain _ elements)))))
  next =>
    exact ⟨_, _, by simp only [List.append_assoc], EnvelopeKind.params.numberForm_encodeVersion, _, _, _,
      _, _, rfl, width, first, second, third, fourth, again⟩

theorem DelegatedKey.written_of_form (key : DelegatedKey S) (bytes : Bytes)
    (form : EnvelopeKind.delegatedKey.Form FieldsForm key bytes) :
    Written NumberForm (Envelope.delegatedKey key).parts bytes ∧
      EnvelopeKind.delegatedKey.Form FieldsForm key key.encoding := by
  obtain ⟨version, _, rfl, number, depth, a0, a1, b, rfl, level, first, second, list⟩ := form
  obtain rfl := first.eq_encode
  obtain rfl := second.eq_encode
  obtain ⟨elements, again⟩ := list.written
  rw [Envelope.parts, encoding]
  constructor
  next => exact .number number (.number level (.plain _ (.plain _ elements)))
  next =>
    exact ⟨_, _, by simp only [List.append_assoc], EnvelopeKind.delegatedKey.numberForm_encodeVersion,
      _, _, _, _, rfl, Bytes.numberForm_ofNumber level.lt, first, second, again⟩

theorem PublicKey.written_of_form (key : PublicKey S) (bytes : Bytes)
    (form : EnvelopeKind.publicKey.Form FieldsForm key bytes) :
    Written NumberForm (Envelope.publicKey key).parts bytes ∧
      EnvelopeKind.publicKey.Form FieldsForm key key.encoding := by
  obtain ⟨version, body, rfl, number, second⟩ := form
  obtain rfl := PairingGroups.SecondForm.eq_encode second
  exact ⟨.number number (.last _), _, _, rfl, EnvelopeKind.publicKey.numberForm_encodeVersion, second⟩

theorem MasterKey.written_of_form (key : MasterKey S) (bytes : Bytes)
    (form : EnvelopeKind.masterKey.Form FieldsForm key bytes) :
    Written NumberForm (Envelope.masterKey key).parts bytes ∧
      EnvelopeKind.masterKey.Form FieldsForm key key.encoding := by
  obtain ⟨version, body, rfl, number, first⟩ := form
  obtain rfl := PairingGroups.FirstForm.eq_encode first
  exact ⟨.number number (.last _), _, _, rfl, EnvelopeKind.masterKey.numberForm_encodeVersion, first⟩

end Canonical

theorem map_eq_ok {A B : Type} (answer : Except Error A) (f : A → B) (b : B)
    (mapped : answer.map f = .ok b) : ∃ a, answer = .ok a ∧ b = f a := by
  cases answer with
  | error error => cases mapped
  | ok a =>
    cases mapped
    exact ⟨a, rfl, rfl⟩

namespace Envelope

variable [Canonical S]

theorem written_of_decode (kind : EnvelopeKind) (against : PublicParams S) (bytes : Bytes)
    (value : Envelope S) (accepted : decode kind against bytes = .ok value) :
    Written NumberForm value.parts bytes ∧ decode kind against value.encoding = .ok value := by
  cases kind with
  | params =>
    obtain ⟨shared, decoded, rfl⟩ := map_eq_ok _ _ _ accepted
    obtain ⟨written, form⟩ :=
      shared.written_of_form bytes ((PublicParams.decode_eq_ok_iff bytes shared).mp decoded)
    have again := (PublicParams.decode_eq_ok_iff _ shared).mpr form
    exact ⟨written, by rw [decode, encoding, again, Except.map]⟩
  | delegatedKey =>
    obtain ⟨key, decoded, rfl⟩ := map_eq_ok _ _ _ accepted
    obtain ⟨form, fits⟩ := (DelegatedKey.decode_eq_ok_iff against bytes key).mp decoded
    obtain ⟨written, form⟩ := key.written_of_form bytes form
    have again := (DelegatedKey.decode_eq_ok_iff against _ key).mpr ⟨form, fits⟩
    exact ⟨written, by rw [decode, encoding, again, Except.map]⟩
  | publicKey =>
    obtain ⟨key, decoded, rfl⟩ := map_eq_ok _ _ _ accepted
    obtain ⟨written, form⟩ :=
      key.written_of_form bytes ((PublicKey.decode_eq_ok_iff bytes key).mp decoded)
    have again := (PublicKey.decode_eq_ok_iff _ key).mpr form
    exact ⟨written, by rw [decode, encoding, again, Except.map]⟩
  | masterKey =>
    obtain ⟨key, decoded, rfl⟩ := map_eq_ok _ _ _ accepted
    obtain ⟨written, form⟩ :=
      key.written_of_form bytes ((MasterKey.decode_eq_ok_iff bytes key).mp decoded)
    have again := (MasterKey.decode_eq_ok_iff _ key).mpr form
    exact ⟨written, by rw [decode, encoding, again, Except.map]⟩

/-- The encoding of what has been decoded is the normal form of the accepted string: it is no longer, it
is accepted for the same value, and only numbers that could be shorter tell the two apart. Whatever
starts with an accepted string, or is the start of one, is malformed, and so is every accepted string
for a decoder of another kind. -/
theorem accepted_encodings_normal (kind : EnvelopeKind) (against : PublicParams S) (bytes : Bytes)
    (value : Envelope S) (accepted : decode kind against bytes = .ok value) :
    value.encoding.length ≤ bytes.length ∧
    (value.encoding.length ≤ encodingLimit → value.encode = .ok value.encoding) ∧
    decode kind against value.encoding = .ok value ∧
    Written NumberForm value.parts bytes ∧
    (value.encoding = bytes ↔ Written ShortestForm value.parts bytes) ∧
    (∀ front, front <+: bytes → front ≠ bytes →
      ∃ fault, decode kind against front = .error (.decoding fault)) ∧
    (∀ longer, bytes <+: longer → longer ≠ bytes →
      ∃ fault, decode kind against longer = .error (.decoding fault)) ∧
    ∀ other, other ≠ kind → ∀ params : PublicParams S,
      ∃ fault, decode other params bytes = .error (.decoding fault) := by
  obtain ⟨written, again⟩ := written_of_decode kind against bytes value accepted
  have shaped := wellFormed_of_decode kind against bytes value accepted
  rw [value.encoding_eq] at again ⊢
  refine ⟨written.length_shortest_le, ?_, again, written, written.shortest_eq_iff, ?_, ?_, ?_⟩
  next =>
    intro small
    rw [value.encode_eq, value.encoding_eq, Bytes.limited_of_le _ small]
  next =>
    intro front starts shorter
    apply decode_eq_error
    exact fun whole => shorter (whole.eq_of_prefix shaped starts).2
  next =>
    intro longer starts further
    apply decode_eq_error
    exact fun whole => further (shaped.eq_of_prefix whole starts).2.symm
  next =>
    intro other different params
    apply decode_eq_error
    exact fun whole => different (whole.eq_of_prefix shaped List.prefix_rfl).1

theorem accepted_encodings_normal_padded :
    let params := Exponents.params [7]
    let key : DelegatedKey exponents := ⟨(5 : Scalar), (4 : Scalar), [(3 : Scalar)], 0⟩
    let bytes : Bytes :=
      252 :: Bytes.ofNatLE 4 334 ++ 251 :: Bytes.ofNatLE 2 0 ++ Bytes.ofNatBE 48 5 ++
        Bytes.ofNatBE 96 4 ++ 253 :: Bytes.ofNatLE 8 1 ++ Bytes.ofNatBE 48 3
    decode .delegatedKey params bytes = .ok (delegatedKey key) ∧
      key.encoding ≠ bytes ∧ key.encoding.length ≤ bytes.length ∧
      decode .delegatedKey params key.encoding = .ok (delegatedKey key) ∧
      (∃ fault, decode .delegatedKey params (bytes ++ [0]) = .error (.decoding fault)) ∧
      ∃ fault, decode .publicKey params bytes = .error (.decoding fault) := by
  intro params key bytes
  have accepted : decode .delegatedKey params bytes = .ok (delegatedKey key) := by
    decide +kernel
  obtain ⟨shorter, -, again, -, -, -, extended, others⟩ :=
    accepted_encodings_normal .delegatedKey params bytes (delegatedKey key) accepted
  exact ⟨accepted, by decide +kernel, shorter, again,
    extended (bytes ++ [0]) (List.prefix_append bytes [0]) (by decide +kernel),
    others .publicKey (by decide) params⟩

end Envelope

end IdentityHierarchy
