import IdentityHierarchy.Bytes.Lemmas
import IdentityHierarchy.Envelope.Basic
import IdentityHierarchy.Proofs.Laws

set_option autoImplicit false

namespace IdentityHierarchy

open PairingGroups

namespace Reader

variable {A B : Type}

def Reads (read : Reader A) (encoding : Bytes) (value : A) : Prop :=
  ∀ rest, read (encoding ++ rest) = .ok (value, rest)

theorem Reads.pure (value : A) : Reads (pure value) [] value := by
  intro rest
  rfl

theorem Reads.bind {read : Reader A} {next : A → Reader B} {front back : Bytes} {a : A} {b : B}
    (first : Reads read front a) (second : Reads (next a) back b) :
    Reads (read >>= next) (front ++ back) b := by
  intro rest
  rw [List.append_assoc]
  change Except.bind (read (front ++ (back ++ rest))) (fun result => next result.1 result.2) = _
  rw [first (back ++ rest)]
  exact second rest

theorem Reads.finish {read : Reader A} {next : A → Reader B} {encoding : Bytes} {a : A} {b : B}
    (first : Reads read encoding a) (second : Reads (next a) [] b) :
    Reads (read >>= next) encoding b := by
  have both := first.bind second
  rwa [List.append_nil] at both

theorem Reads.map {read : Reader A} {encoding : Bytes} {a : A} (f : A → B)
    (first : Reads read encoding a) : Reads (f <$> read) encoding (f a) := by
  intro rest
  change Except.bind (read (encoding ++ rest)) (fun result => .ok (f result.1, result.2)) = _
  rw [first rest]
  rfl

theorem reads_take (bytes : Bytes) (count : Nat) (exact : bytes.length = count) :
    Reads (take count) bytes bytes := by
  intro rest
  simp [take, ← exact]

theorem reads_numberLE (width n : Nat) (bound : n < 256 ^ width) :
    Reads (numberLE width) (Bytes.ofNatLE width n) n := by
  have read := Reads.map Bytes.toNatLE
    (reads_take (Bytes.ofNatLE width n) width (Bytes.length_ofNatLE width n))
  rwa [Bytes.toNatLE_ofNatLE, Nat.mod_eq_of_lt bound] at read

theorem reads_tagged (tag : UInt8) (width n : Nat) (bound : n < 256 ^ width)
    (dispatch : ∀ rest, number (tag :: rest) = numberLE width rest) :
    Reads number (tag :: Bytes.ofNatLE width n) n := by
  intro rest
  rw [List.cons_append, dispatch]
  exact reads_numberLE width n bound rest

theorem reads_number (n : Nat) (bound : n < 0x10000000000000000) :
    Reads number (Bytes.ofNumber n) n := by
  unfold Bytes.ofNumber
  split
  next small =>
    apply (reads_numberLE 1 n (by omega)).finish
    rw [if_pos small]
    exact Reads.pure n
  next =>
    split
    next => exact reads_tagged 251 2 n (by omega) fun _ => rfl
    next =>
      split
      next => exact reads_tagged 252 4 n (by omega) fun _ => rfl
      next => exact reads_tagged 253 8 n (by omega) fun _ => rfl

theorem reads_version (n : Nat) (bound : n < 0x100000000) :
    Reads version (Bytes.ofNumber n) n := by
  apply (reads_number n (by omega)).finish
  rw [if_pos bound]
  exact Reads.pure n

theorem reads_element (width : Nat) (decode? : Bytes → Option A) (encoding : Bytes) (value : A)
    (exact : encoding.length = width) (decoded : decode? encoding = some value) :
    Reads (element width decode?) encoding value := by
  apply (reads_take encoding width exact).finish
  rw [decoded]
  exact Reads.pure value

theorem reads_replicate (read : Reader A) (encode : A → Bytes) (values : List A)
    (each : ∀ value, Reads read (encode value) value) :
    Reads (replicate read values.length) (values.flatMap encode) values := by
  induction values with
  | nil => exact Reads.pure []
  | cons value rest ih =>
    rw [List.flatMap_cons]
    apply (each value).bind
    have tail := Reads.map (List.cons value) ih
    exact tail

theorem reads_list (read : Reader A) (encode : A → Bytes) (values : List A)
    (each : ∀ value, Reads read (encode value) value)
    (bound : values.length < 0x10000000000000000) :
    Reads (list read) (Bytes.ofList encode values) values :=
  (reads_number values.length bound).bind (reads_replicate read encode values each)

theorem Reads.runAll {read : Reader A} {encoding : Bytes} {value : A}
    (whole : Reads read encoding value) : read.runAll encoding = .ok value := by
  have exhausted := whole []
  rw [List.append_nil] at exhausted
  unfold Reader.runAll
  rw [exhausted]
  rfl

variable {S : PairingGroups} [Encoded S]

theorem reads_first (p : S.First) : Reads (first S) (S.encodeFirst p) p :=
  reads_element _ _ _ p (Encoded.length_first p) (Encoded.decode_first p)

theorem reads_second (q : S.Second) : Reads (second S) (S.encodeSecond q) q :=
  reads_element _ _ _ q (Encoded.length_second q) (Encoded.decode_second q)

end Reader

open Reader

theorem EnvelopeKind.decode_of_reads {A : Type} (kind : EnvelopeKind) {fields : Reader A}
    {encoding : Bytes} {value : A} (reads : Reads fields encoding value) :
    kind.decode fields (kind.encodeVersion ++ encoding) = .ok value := by
  have version : Reads Reader.version kind.encodeVersion kind.version :=
    reads_version _ (by cases kind <;> decide)
  have envelope : Reads (do return (← Reader.version, ← fields))
      (kind.encodeVersion ++ encoding) (kind.version, value) :=
    version.bind (reads.map fun value => (kind.version, value))
  unfold EnvelopeKind.decode
  simp only [envelope.runAll, if_true]

theorem EnvelopeKind.decode_eq_error {A : Type} (kind : EnvelopeKind) (fields : Reader A)
    (bytes : Bytes) (error : Error) (failed : kind.decode fields bytes = .error error) :
    ∃ fault, error = .decoding fault := by
  simp only [EnvelopeKind.decode] at failed
  split at failed
  next fault read => exact ⟨fault, (Except.error.inj failed).symm⟩
  next version value read =>
    split at failed
    next => cases failed
    next => exact ⟨_, (Except.error.inj failed).symm⟩

variable {S : PairingGroups}

namespace DelegatedKey

theorem ofParts_eq_ok (params : PublicParams S) (a0 : S.First) (a1 : S.Second) (b : List S.First)
    (depth : Nat) (key : DelegatedKey S) (made : ofParts params a0 a1 b depth = .ok key) :
    key = ⟨a0, a1, b, depth⟩ ∧ depth + b.length = params.height := by
  unfold ofParts at made
  split at made
  next => cases made
  next shallow =>
    split at made
    next => cases made
    next components =>
      cases made
      exact ⟨rfl, by omega⟩

theorem decode_cases (params : PublicParams S) (encoding : Bytes) :
    (∃ fault, decode params encoding = .error (.decoding fault)) ∨
      ∃ key, decode params encoding = .ok key ∧ key.depth + key.b.length = params.height := by
  unfold decode
  cases read : EnvelopeKind.delegatedKey.decode (fields S) encoding with
  | error error =>
    obtain ⟨fault, rfl⟩ := EnvelopeKind.delegatedKey.decode_eq_error _ encoding error read
    exact .inl ⟨fault, rfl⟩
  | ok parts =>
    simp only [bind, Except.bind]
    cases made : ofParts params parts.a0 parts.a1 parts.b parts.depth with
    | error error => exact .inl ⟨_, rfl⟩
    | ok key =>
      obtain ⟨rfl, components⟩ := ofParts_eq_ok params _ _ _ _ key made
      exact .inr ⟨_, rfl, components⟩

theorem ofParts_of_fits (key : DelegatedKey S) (params : PublicParams S)
    (components : key.depth + key.b.length = params.height) :
    ofParts params key.a0 key.a1 key.b key.depth = .ok key := by
  have inside : ¬ params.height < key.depth := by omega
  have count : key.b.length = params.height - key.depth := by omega
  unfold ofParts
  rw [if_neg inside, if_neg (not_not_intro count)]

def encodingSize (depth components : Nat) : Nat :=
  EnvelopeKind.delegatedKey.encodeVersion.length + (Bytes.ofNumber depth).length +
    firstWidth + secondWidth + (Bytes.ofNumber components).length + components * firstWidth

variable [Encoded S]

theorem length_encoding (key : DelegatedKey S) :
    key.encoding.length = encodingSize key.depth key.b.length := by
  simp [encoding, encodingSize, Bytes.ofList, Encoded.length_first, Encoded.length_second,
    Nat.add_assoc]

theorem encode_eq (key : DelegatedKey S) :
    key.encode = if encodingLimit < encodingSize key.depth key.b.length then
      .error (.configuration .oversized) else .ok key.encoding := by
  rw [encode, Bytes.limited, length_encoding]

theorem reads_fields (key : DelegatedKey S) (depth : key.depth < 0x10000000000000000)
    (components : key.b.length < 0x10000000000000000) :
    Reads (fields S)
      (Bytes.ofNumber key.depth ++ (S.encodeFirst key.a0 ++ (S.encodeSecond key.a1 ++
        Bytes.ofList S.encodeFirst key.b))) key := by
  apply (reads_number key.depth depth).bind
  apply (reads_first key.a0).bind
  apply (reads_second key.a1).bind
  have rest := (reads_list (first S) S.encodeFirst key.b reads_first components).map
    fun b => DelegatedKey.mk key.a0 key.a1 b key.depth
  exact rest

theorem decode_encoding_eq (key : DelegatedKey S) (params : PublicParams S)
    (depth : key.depth < 0x10000000000000000)
    (components : key.b.length < 0x10000000000000000) :
    decode params key.encoding = match ofParts params key.a0 key.a1 key.b key.depth with
      | .ok key => .ok key
      | .error error => .error (.decoding (.other error.message)) := by
  have read := EnvelopeKind.delegatedKey.decode_of_reads (key.reads_fields depth components)
  unfold decode
  simp only [encoding, List.append_assoc, read, bind, Except.bind]
  rfl

theorem decode_encoding (key : DelegatedKey S) (params : PublicParams S)
    (components : key.depth + key.b.length = params.height)
    (bound : params.height < 0x10000000000000000) :
    decode params key.encoding = .ok key := by
  rw [key.decode_encoding_eq params (by omega) (by omega), key.ofParts_of_fits params components]

end DelegatedKey

end IdentityHierarchy
