import IdentityHierarchy.Proofs.Envelope
import IdentityHierarchy.Proofs.Exponents

set_option autoImplicit false

namespace IdentityHierarchy

open PairingGroups Reader

theorem Bytes.limited_of_le (encoding : Bytes) (small : encoding.length ≤ encodingLimit) :
    encoding.limited = .ok encoding :=
  if_neg (Nat.not_lt.mpr small)

theorem Curve.ofOrderBytes?_orderBytes (curve : Curve) :
    ofOrderBytes? curve.orderBytes = some curve := by
  cases curve
  decide

variable {S : PairingGroups}

theorem DelegatedKey.ofParts_of_misfit (key : DelegatedKey S) (params : PublicParams S)
    (misfit : key.depth + key.b.length ≠ params.height) :
    ∃ error, ofParts params key.a0 key.a1 key.b key.depth = .error error := by
  unfold ofParts
  by_cases deep : params.height < key.depth
  next => exact ⟨_, if_pos deep⟩
  next =>
    have count : key.b.length ≠ params.height - key.depth := by omega
    rw [if_neg deep, if_pos count]
    exact ⟨_, rfl⟩

variable [Encoded S]

namespace PublicParams

theorem reads_fields (params : PublicParams S) (bound : params.height < 0x10000000000000000) :
    Reads (fields S)
      (params.curve.orderBytes ++ (S.encodeFirst params.g ++ (S.encodeSecond params.gHead ++
        (S.encodeFirst params.g2 ++ (S.encodeFirst params.g3 ++
          Bytes.ofList S.encodeFirst params.h)))))
      (params.curve.orderBytes,
        fun curve => ⟨curve, params.g, params.gHead, params.g2, params.g3, params.h⟩) := by
  apply (reads_take params.curve.orderBytes 32 (Bytes.length_ofNatBE 32 _)).bind
  apply (reads_first params.g).bind
  apply (reads_second params.gHead).bind
  apply (reads_first params.g2).bind
  apply (reads_first params.g3).bind
  have rest := (reads_list (first S) S.encodeFirst params.h reads_first bound).map fun h =>
    (params.curve.orderBytes, fun curve =>
      (⟨curve, params.g, params.gHead, params.g2, params.g3, h⟩ : PublicParams S))
  exact rest

theorem decode_encoding (params : PublicParams S) (bound : params.height < 0x10000000000000000) :
    decode S params.encoding = .ok params := by
  have read := EnvelopeKind.params.decode_of_reads (params.reads_fields bound)
  unfold decode
  simp only [encoding, List.append_assoc, read, bind, Except.bind,
    params.curve.ofOrderBytes?_orderBytes]
  rfl

end PublicParams

theorem PublicKey.decode_encoding (key : PublicKey S) : decode S key.encoding = .ok key :=
  EnvelopeKind.publicKey.decode_of_reads ((reads_second key.point).map mk)

theorem PublicKey.encode_eq (key : PublicKey S) : key.encode = .ok key.encoding := by
  apply Bytes.limited_of_le
  rw [encoding, List.length_append, Encoded.length_second]
  decide

theorem MasterKey.decode_encoding (key : MasterKey S) : decode S key.encoding = .ok key :=
  EnvelopeKind.masterKey.decode_of_reads ((reads_first key.point).map mk)

theorem MasterKey.encode_eq (key : MasterKey S) : key.encode = .ok key.encoding := by
  apply Bytes.limited_of_le
  rw [encoding, List.length_append, Encoded.length_first]
  decide

theorem encodings_read_back (S : PairingGroups) [Encoded S] :
    (∀ params : PublicParams S, params.height < 0x10000000000000000 →
      PublicParams.decode S params.encoding = .ok params ∧
      (params.encoding.length ≤ encodingLimit →
        params.encode.bind (PublicParams.decode S) = .ok params)) ∧
    (∀ key : PublicKey S, key.encode.bind (PublicKey.decode S) = .ok key) ∧
    (∀ key : MasterKey S, key.encode.bind (MasterKey.decode S) = .ok key) ∧
    ∀ key : DelegatedKey S, key.depth < 0x10000000000000000 →
      key.b.length < 0x10000000000000000 → ∀ params : PublicParams S,
      (key.depth + key.b.length = params.height →
        DelegatedKey.decode params key.encoding = .ok key ∧
        (key.encoding.length ≤ encodingLimit →
          key.encode.bind (DelegatedKey.decode params) = .ok key)) ∧
      (key.depth + key.b.length ≠ params.height → ∃ error,
        DelegatedKey.ofParts params key.a0 key.a1 key.b key.depth = .error error ∧
        DelegatedKey.decode params key.encoding = .error (.decoding (.other error.message)) ∧
        (key.encoding.length ≤ encodingLimit →
          key.encode.bind (DelegatedKey.decode params) =
            .error (.decoding (.other error.message)))) := by
  refine ⟨?_, ?_, ?_, ?_⟩
  next =>
    intro params bound
    have decoded := params.decode_encoding bound
    refine ⟨decoded, ?_⟩
    intro small
    rw [PublicParams.encode, Bytes.limited_of_le _ small, Except.bind]
    exact decoded
  next =>
    intro key
    rw [key.encode_eq, Except.bind]
    exact key.decode_encoding
  next =>
    intro key
    rw [key.encode_eq, Except.bind]
    exact key.decode_encoding
  next =>
    intro key depth components params
    have decoded := key.decode_encoding_eq params depth components
    have encoded (small : key.encoding.length ≤ encodingLimit) :
        key.encode.bind (DelegatedKey.decode params) = DelegatedKey.decode params key.encoding := by
      rw [DelegatedKey.encode, Bytes.limited_of_le _ small, Except.bind]
    constructor
    next =>
      intro fits
      rw [key.ofParts_of_fits params fits] at decoded
      exact ⟨decoded, fun small => (encoded small).trans decoded⟩
    next =>
      intro misfit
      obtain ⟨error, refused⟩ := key.ofParts_of_misfit params misfit
      rw [refused] at decoded
      exact ⟨error, refused, decoded, fun small => (encoded small).trans decoded⟩

theorem encodings_read_back_longer_forms :
    let key : DelegatedKey exponents :=
      ⟨(5 : Scalar), (4 : Scalar), List.replicate 251 (3 : Scalar), 65536⟩
    let params := Exponents.params (List.replicate 65787 7)
    key.depth + key.b.length = params.height ∧ DelegatedKey.decode params key.encoding = .ok key ∧
      ∃ text, DelegatedKey.decode (Exponents.params []) key.encoding =
        .error (.decoding (.other text)) := by
  intro key params
  have components : key.b.length = 251 := List.length_replicate
  have height : params.height = 65787 := List.length_replicate
  have fits : key.depth + key.b.length = params.height := by
    rw [components, height]
  have misfit : key.depth + key.b.length ≠ (Exponents.params []).height := by
    rw [components]
    decide
  obtain ⟨-, -, -, keys⟩ := encodings_read_back exponents
  have read := keys key (by decide) (by rw [components]; decide)
  obtain ⟨error, -, refused, -⟩ := (read (Exponents.params [])).2 misfit
  exact ⟨fits, ((read params).1 fits).1, error.message, refused⟩

end IdentityHierarchy
