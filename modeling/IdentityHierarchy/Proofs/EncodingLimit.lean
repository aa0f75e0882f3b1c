import IdentityHierarchy.Proofs.Decoding
import IdentityHierarchy.Proofs.Layout
import IdentityHierarchy.Proofs.RoundTrip

set_option autoImplicit false

namespace IdentityHierarchy

open PairingGroups Reader
open Bytes (NumberForm ElementForm ListForm)

def maxEncodedHeight : Nat := 21839

def maxEncodedComponents : Nat := 21842

namespace Bytes

theorem NumberForm.length_le {n : Nat} {bytes : Bytes} (number : NumberForm n bytes) :
    bytes.length ≤ 9 := by
  cases number <;> simp

theorem ListForm.length_bounds {A : Type} {width : Nat} {decode? : Bytes → Option A}
    {values : List A} {bytes : Bytes} (list : ListForm (ElementForm width decode?) values bytes) :
    values.length * width ≤ bytes.length ∧ bytes.length ≤ 9 + values.length * width := by
  obtain ⟨count, back, rfl, number, sequence⟩ := list
  rw [List.length_append, sequence.length_eq]
  exact ⟨Nat.le_add_left _ _, Nat.add_le_add_right number.length_le _⟩

end Bytes

theorem EnvelopeKind.version_bounds {kind : EnvelopeKind} {version : Bytes}
    (number : NumberForm kind.version version) : 3 ≤ version.length ∧ version.length ≤ 9 := by
  refine ⟨?_, number.length_le⟩
  apply le_trans _ number.length_ofNumber_le
  cases kind <;> decide

theorem EnvelopeKind.decode_oversized {A : Type} (kind : EnvelopeKind) (fields : Reader A)
    {form : A → Bytes → Prop} {width : Nat} {bytes : Bytes}
    (accepted : ∀ value, kind.decode fields bytes = .ok value → kind.Form form value bytes)
    (exact : ∀ value body, form value body → body.length = width)
    (room : 9 + width ≤ encodingLimit) (long : encodingLimit < bytes.length) :
    ∃ fault, kind.decode fields bytes = .error (.decoding fault) := by
  rcases kind.decode_answer fields bytes with ⟨value, decoded⟩ | failed
  next =>
    obtain ⟨version, body, rfl, number, shaped⟩ := accepted value decoded
    have short := number.length_le
    rw [List.length_append, exact value body shaped] at long
    omega
  next => exact failed

variable {S : PairingGroups}

namespace PublicParams

theorem length_of_form {order bytes : Bytes} {params : PublicParams S}
    (form : EnvelopeKind.params.Form (FieldsForm order) params bytes) :
    275 + 48 * params.height ≤ bytes.length ∧ bytes.length ≤ 290 + 48 * params.height := by
  obtain ⟨version, _, rfl, number, g, gHead, g2, g3, h, rfl, width, first, second, third, fourth, list⟩ :=
    form
  have front := EnvelopeKind.version_bounds number
  have back := list.length_bounds
  simp only [List.length_append, width, first.length, second.length, third.length, fourth.length,
    firstWidth, secondWidth, height] at back ⊢
  omega

theorem decoded_oversized_iff {bytes : Bytes} {params : PublicParams S}
    (decoded : decode S bytes = .ok params) :
    encodingLimit < bytes.length ↔ maxEncodedHeight < params.height := by
  have bounds := length_of_form ((decode_eq_ok_iff bytes params).mp decoded)
  unfold encodingLimit maxEncodedHeight
  omega

end PublicParams

namespace DelegatedKey

theorem length_of_form {bytes : Bytes} {key : DelegatedKey S}
    (form : EnvelopeKind.delegatedKey.Form FieldsForm key bytes) :
    147 + 48 * key.b.length ≤ bytes.length ∧ bytes.length ≤ 171 + 48 * key.b.length := by
  obtain ⟨version, _, rfl, number, depth, a0, a1, b, rfl, deep, first, second, list⟩ := form
  have front := EnvelopeKind.version_bounds number
  have middle := deep.length_le
  have back := list.length_bounds
  simp only [List.length_append, first.length, second.length, firstWidth, secondWidth] at back ⊢
  omega

theorem decoded_oversized {params : PublicParams S} {bytes : Bytes} {key : DelegatedKey S}
    (decoded : decode params bytes = .ok key) :
    (maxEncodedComponents < key.b.length → encodingLimit < bytes.length) ∧
      (encodingLimit < bytes.length → maxEncodedComponents ≤ key.b.length) := by
  have bounds := length_of_form ((decode_eq_ok_iff params bytes key).mp decoded).1
  unfold encodingLimit maxEncodedComponents
  omega

end DelegatedKey

theorem PublicKey.decode_oversized {bytes : Bytes} (long : encodingLimit < bytes.length) :
    ∃ fault, decode S bytes = .error (.decoding fault) :=
  EnvelopeKind.publicKey.decode_oversized (mk <$> second S) (fun key => (decode_eq_ok_iff bytes key).mp)
    (fun _ _ form => form.length) (by decide) long

theorem MasterKey.decode_oversized {bytes : Bytes} (long : encodingLimit < bytes.length) :
    ∃ fault, decode S bytes = .error (.decoding fault) :=
  EnvelopeKind.masterKey.decode_oversized (mk <$> first S) (fun key => (decode_eq_ok_iff bytes key).mp)
    (fun _ _ form => form.length) (by decide) long

variable [Encoded S]

theorem PublicParams.encode_eq (params : PublicParams S) :
    params.encode = if maxEncodedHeight < params.height then
      .error (.configuration .oversized) else .ok params.encoding := by
  have length : params.encoding.length =
      275 + (Bytes.ofNumber params.height).length + 48 * params.height := by
    simp only [encoding, Bytes.ofList, List.length_append, Encoded.length_first,
      Encoded.length_second, Bytes.length_flatMap Encoded.length_first]
    simp +arith [EnvelopeKind.encodeVersion, EnvelopeKind.version, Bytes.length_ofNumber,
      Curve.orderBytes, firstWidth, secondWidth, height]
  have oversized : encodingLimit < params.encoding.length ↔ maxEncodedHeight < params.height := by
    rw [length, Bytes.length_ofNumber, encodingLimit, maxEncodedHeight]
    split_ifs <;> omega
  rw [encode, Bytes.limited, if_congr oversized rfl rfl]

theorem DelegatedKey.encode_eq_of_components (key : DelegatedKey S) :
    key.encode = if maxEncodedComponents < key.b.length then
      .error (.configuration .oversized) else .ok key.encoding := by
  have oversized : encodingLimit < encodingSize key.depth key.b.length ↔
      maxEncodedComponents < key.b.length := by
    have version : EnvelopeKind.delegatedKey.encodeVersion.length = 3 := rfl
    rw [encodingSize, version, Bytes.length_ofNumber, Bytes.length_ofNumber, encodingLimit,
      maxEncodedComponents, firstWidth, secondWidth]
    split_ifs <;> omega
  rw [key.encode_eq, if_congr oversized rfl rfl]

/-- What the encoders refuse for its size is read from the bytes that they refuse to give, and a string
of any length is parameters or a key as soon as it has the form. Only the two kinds of a single element
have no form beyond the limit. -/
theorem limit_binds_encoders_only (S : PairingGroups) [Encoded S] :
    (∀ params : PublicParams S, params.height < 0x10000000000000000 →
      params.encode = (if maxEncodedHeight < params.height then .error (.configuration .oversized)
        else .ok params.encoding) ∧
      PublicParams.decode S params.encoding = .ok params) ∧
    (∀ (params : PublicParams S) (key : DelegatedKey S),
      key.depth + key.b.length = params.height → params.height < 0x10000000000000000 →
      key.encode = (if maxEncodedComponents < key.b.length then .error (.configuration .oversized)
        else .ok key.encoding) ∧
      DelegatedKey.decode params key.encoding = .ok key) ∧
    ∀ bytes : Bytes,
      (∀ params, PublicParams.decode S bytes = .ok params →
        (encodingLimit < bytes.length ↔ maxEncodedHeight < params.height)) ∧
      (∀ (params : PublicParams S) key, DelegatedKey.decode params bytes = .ok key →
        (maxEncodedComponents < key.b.length → encodingLimit < bytes.length) ∧
        (encodingLimit < bytes.length → maxEncodedComponents ≤ key.b.length)) ∧
      (encodingLimit < bytes.length →
        (∃ fault, PublicKey.decode S bytes = .error (.decoding fault)) ∧
        ∃ fault, MasterKey.decode S bytes = .error (.decoding fault)) := by
  refine ⟨?_, ?_, ?_⟩
  next => exact fun params bound => ⟨params.encode_eq, params.decode_encoding bound⟩
  next =>
    intro params key components bound
    exact ⟨key.encode_eq_of_components, key.decode_encoding params components bound⟩
  next =>
    intro bytes
    refine ⟨fun params => PublicParams.decoded_oversized_iff,
      fun params key => DelegatedKey.decoded_oversized, ?_⟩
    exact fun long => ⟨PublicKey.decode_oversized long, MasterKey.decode_oversized long⟩

theorem limit_binds_encoders_only_oversized :
    let params := Exponents.params (List.replicate 21840 7)
    let key : DelegatedKey exponents :=
      ⟨(5 : Scalar), (4 : Scalar), List.replicate 21843 (3 : Scalar), 2⟩
    let against := Exponents.params (List.replicate 21845 7)
    params.encode = .error (.configuration .oversized) ∧
      encodingLimit < params.encoding.length ∧
      PublicParams.decode exponents params.encoding = .ok params ∧
      key.encode = .error (.configuration .oversized) ∧
      encodingLimit < key.encoding.length ∧
      DelegatedKey.decode against key.encoding = .ok key ∧
      ∃ fault, PublicKey.decode exponents params.encoding = .error (.decoding fault) := by
  intro params key against
  have height : params.height = 21840 := List.length_replicate
  have components : key.b.length = 21843 := List.length_replicate
  have levels : against.height = 21845 := List.length_replicate
  have depth : key.depth = 2 := rfl
  have fits : key.depth + key.b.length = against.height := by
    rw [depth, components, levels]
  have bound : against.height < 0x10000000000000000 := by
    rw [levels]
    decide
  obtain ⟨shared, keys, strings⟩ := limit_binds_encoders_only exponents
  obtain ⟨refused, decoded⟩ := shared params (by rw [height]; decide)
  obtain ⟨denied, read⟩ := keys against key fits bound
  rw [if_pos (by rw [height]; decide)] at refused
  rw [if_pos (by rw [components]; decide)] at denied
  have long : encodingLimit < params.encoding.length :=
    ((strings params.encoding).1 params decoded).mpr (by rw [height]; decide)
  have longer : encodingLimit < key.encoding.length :=
    ((strings key.encoding).2.1 against key read).1 (by rw [components]; decide)
  exact ⟨refused, long, decoded, denied, longer, read, ((strings params.encoding).2.2 long).1⟩

end IdentityHierarchy
