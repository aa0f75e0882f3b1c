import IdentityHierarchy.Proofs.Exponents
import IdentityHierarchy.Proofs.Grammar

set_option autoImplicit false

namespace IdentityHierarchy

open PairingGroups Reader
open Bytes (NumberForm ElementForm ListForm)

namespace PairingGroups

variable (S : PairingGroups)

def FirstForm : S.First → Bytes → Prop :=
  ElementForm firstWidth S.decodeFirst?

def SecondForm : S.Second → Bytes → Prop :=
  ElementForm secondWidth S.decodeSecond?

theorem recognizes_first : Recognizes (first S) S.FirstForm :=
  recognizes_element firstWidth S.decodeFirst?

theorem recognizes_second : Recognizes (second S) S.SecondForm :=
  recognizes_element secondWidth S.decodeSecond?

end PairingGroups

namespace EnvelopeKind

variable {A : Type} (kind : EnvelopeKind)

def Form (fields : A → Bytes → Prop) (value : A) (bytes : Bytes) : Prop :=
  ∃ version body, bytes = version ++ body ∧ NumberForm kind.version version ∧ fields value body

theorem version_lt : kind.version < 0x100000000 := by
  cases kind <;> decide

def envelope (fields : Reader A) : Reader (Nat × A) := do
  return (← Reader.version, ← fields)

theorem decode_eq (fields : Reader A) (bytes : Bytes) :
    kind.decode fields bytes = match (envelope fields).runAll bytes with
      | .error fault => .error (.decoding fault)
      | .ok (version, value) =>
        if version = kind.version then .ok value
        else .error (.decoding (.wrongVersion kind kind.version version)) := rfl

theorem decode_eq_ok_iff {fields : Reader A} {form : A → Bytes → Prop}
    (recognizes : Recognizes fields form) (bytes : Bytes) (value : A) :
    kind.decode fields bytes = .ok value ↔ kind.Form form value bytes := by
  have whole := (recognizes_version.bind fun version =>
    recognizes.bind fun value => recognizes_pure (version, value)).runAll_iff bytes
  change ∀ result, (envelope fields).runAll bytes = .ok result ↔ _ at whole
  rw [decode_eq]
  constructor
  next =>
    intro accepted
    split at accepted
    next => cases accepted
    next version given read =>
      split_ifs at accepted with same
      cases accepted
      obtain ⟨_, front, _, rfl, ⟨number, -⟩, _, body, _, rfl, shaped, pair, rfl⟩ :=
        (whole (version, value)).mp read
      cases pair
      subst same
      exact ⟨front, body, by rw [List.append_nil], number, shaped⟩
  next =>
    rintro ⟨front, body, rfl, number, shaped⟩
    rw [(whole (kind.version, value)).mpr ⟨kind.version, front, body, rfl,
      ⟨number, kind.version_lt⟩, value, body, [], (List.append_nil body).symm, shaped, rfl, rfl⟩]
    exact if_pos rfl

theorem decode_answer (fields : Reader A) (bytes : Bytes) :
    (∃ value, kind.decode fields bytes = .ok value) ∨
      ∃ fault, kind.decode fields bytes = .error (.decoding fault) := by
  cases answer : kind.decode fields bytes with
  | error error =>
    obtain ⟨fault, rfl⟩ := kind.decode_eq_error fields bytes error answer
    exact .inr ⟨fault, rfl⟩
  | ok value => exact .inl ⟨value, rfl⟩

theorem Form.body {kind : EnvelopeKind} {fields : A → Bytes → Prop} {value : A}
    {version body : Bytes} {v : Nat} (form : kind.Form fields value (version ++ body))
    (number : NumberForm v version) : fields value body := by
  obtain ⟨front, back, split, expected, shaped⟩ := form
  obtain ⟨-, rfl⟩ := number.append_inj expected split
  exact shaped

end EnvelopeKind

variable {S : PairingGroups}

namespace DelegatedKey

def FieldsForm (key : DelegatedKey S) (bytes : Bytes) : Prop :=
  ∃ depth a0 a1 b, bytes = depth ++ (a0 ++ (a1 ++ b)) ∧ NumberForm key.depth depth ∧
    S.FirstForm key.a0 a0 ∧ S.SecondForm key.a1 a1 ∧ ListForm S.FirstForm key.b b

theorem recognizes_fields : Recognizes (fields S) FieldsForm := by
  apply (recognizes_number.bind fun depth => S.recognizes_first.bind fun a0 =>
    S.recognizes_second.bind fun a1 => (recognizes_list S.recognizes_first).bind fun b =>
    recognizes_pure (⟨a0, a1, b, depth⟩ : DelegatedKey S)).congr
  intro key bytes
  constructor
  next =>
    rintro ⟨_, depth, _, rfl, number, _, a0, _, rfl, first, _, a1, _, rfl, second, _, b, _, rfl, list,
      rfl, rfl⟩
    exact ⟨depth, a0, a1, b, by rw [List.append_nil], number, first, second, list⟩
  next =>
    rintro ⟨depth, a0, a1, b, rfl, number, first, second, list⟩
    exact ⟨_, depth, _, rfl, number, _, a0, _, rfl, first, _, a1, _, rfl, second, _, b, [],
      (List.append_nil b).symm, list, rfl, rfl⟩

theorem FieldsForm.components {key : DelegatedKey S} {depth a0 a1 list : Bytes} {d : Nat}
    (form : key.FieldsForm (depth ++ (a0 ++ (a1 ++ list)))) (number : NumberForm d depth)
    (first : a0.length = firstWidth) (second : a1.length = secondWidth) :
    ListForm S.FirstForm key.b list := by
  obtain ⟨_, _, _, _, split, deep, left, right, components⟩ := form
  -- Everything in front of the list says where it ends, so both splits have the same list.
  obtain ⟨-, split⟩ := number.append_inj deep split
  obtain ⟨-, split⟩ := List.append_inj split (first.trans left.length.symm)
  obtain ⟨-, rfl⟩ := List.append_inj split (second.trans right.length.symm)
  exact components

theorem decode_eq_ok_iff (params : PublicParams S) (bytes : Bytes) (key : DelegatedKey S) :
    decode params bytes = .ok key ↔ EnvelopeKind.delegatedKey.Form FieldsForm key bytes ∧
      key.depth ≤ params.height ∧ key.b.length = params.height - key.depth := by
  rw [← EnvelopeKind.delegatedKey.decode_eq_ok_iff recognizes_fields]
  unfold decode
  cases read : EnvelopeKind.delegatedKey.decode (fields S) bytes with
  | error error => simp [bind, Except.bind]
  | ok parts =>
    simp only [bind, Except.bind]
    constructor
    next =>
      intro accepted
      cases made : ofParts params parts.a0 parts.a1 parts.b parts.depth with
      | error error => simp [made, throw, throwThe, MonadExceptOf.throw] at accepted
      | ok given =>
        obtain ⟨rfl, components⟩ := ofParts_eq_ok params _ _ _ _ given made
        simp only [made] at accepted
        cases accepted
        have inside : parts.depth ≤ params.height := by omega
        have count : parts.b.length = params.height - parts.depth := by omega
        exact ⟨rfl, inside, count⟩
    next =>
      rintro ⟨same, inside, count⟩
      cases same
      rw [key.ofParts_of_fits params (by omega)]
      rfl

theorem decode_overlong (params : PublicParams S) (version depth a0 a1 list : Bytes) (v d : Nat)
    (envelope : NumberForm v version) (number : NumberForm d depth) (first : a0.length = firstWidth)
    (second : a1.length = secondWidth) (overlong : Bytes.Overlong firstWidth list) :
    ∃ fault, decode params (version ++ (depth ++ (a0 ++ (a1 ++ list)))) =
      .error (.decoding fault) := by
  rcases decode_cases params (version ++ (depth ++ (a0 ++ (a1 ++ list)))) with
    failed | ⟨key, decoded, -⟩
  next => exact failed
  next =>
    have form := ((decode_eq_ok_iff params _ key).mp decoded).1.body envelope
    have components := form.components number first second
    exact absurd overlong (components.not_overlong (by decide))

end DelegatedKey

theorem Curve.ofOrderBytes?_eq (order : Bytes) :
    ofOrderBytes? order = if order = orderBytes .bls12381 then some .bls12381 else none := by
  by_cases supported : order = orderBytes .bls12381 <;>
    simp [ofOrderBytes?, all, supported, eq_comm]

namespace PublicParams

def FieldsForm (order : Bytes) (params : PublicParams S) (bytes : Bytes) : Prop :=
  ∃ g gHead g2 g3 h, bytes = order ++ (g ++ (gHead ++ (g2 ++ (g3 ++ h)))) ∧ order.length = 32 ∧
    S.FirstForm params.g g ∧ S.SecondForm params.gHead gHead ∧ S.FirstForm params.g2 g2 ∧
    S.FirstForm params.g3 g3 ∧ ListForm S.FirstForm params.h h

theorem recognizes_fields :
    Recognizes (fields S) fun result bytes => ∃ params : PublicParams S,
      result.2 = (fun curve => { params with curve := curve }) ∧
        params.FieldsForm result.1 bytes := by
  apply ((recognizes_take 32).bind fun order => S.recognizes_first.bind fun g =>
    S.recognizes_second.bind fun gHead => S.recognizes_first.bind fun g2 =>
    S.recognizes_first.bind fun g3 => (recognizes_list S.recognizes_first).bind fun h =>
    recognizes_pure (order, fun curve => (⟨curve, g, gHead, g2, g3, h⟩ : PublicParams S))).congr
  intro result bytes
  constructor
  next =>
    rintro ⟨order, _, _, rfl, ⟨rfl, width⟩, _, g, _, rfl, first, _, gHead, _, rfl, second, _, g2, _,
      rfl, third, _, g3, _, rfl, fourth, _, h, _, rfl, list, rfl, rfl⟩
    exact ⟨⟨.bls12381, _, _, _, _, _⟩, rfl, g, gHead, g2, g3, h, by rw [List.append_nil], width, first,
      second, third, fourth, list⟩
  next =>
    obtain ⟨order, make⟩ := result
    rintro ⟨params, rfl, g, gHead, g2, g3, h, rfl, width, first, second, third, fourth, list⟩
    exact ⟨order, order, _, rfl, ⟨rfl, width⟩, _, g, _, rfl, first, _, gHead, _, rfl, second, _, g2, _,
      rfl, third, _, g3, _, rfl, fourth, _, h, [], (List.append_nil h).symm, list, rfl, rfl⟩

theorem decode_of_form (order bytes : Bytes) (params : PublicParams S)
    (form : EnvelopeKind.params.Form (FieldsForm order) params bytes) :
    decode S bytes = if order = Curve.orderBytes .bls12381 then .ok params
      else .error (.configuration (.unknownOrder order)) := by
  obtain ⟨version, body, rfl, number, shaped⟩ := form
  have read := (EnvelopeKind.params.decode_eq_ok_iff (recognizes_fields (S := S)) (version ++ body)
    (order, fun curve => { params with curve := curve })).mpr
      ⟨version, body, rfl, number, params, rfl, shaped⟩
  unfold decode
  simp only [read, bind, Except.bind, Curve.ofOrderBytes?_eq]
  split_ifs with supported
  next => rfl
  next => rfl

theorem decode_cases (bytes : Bytes) :
    (∃ fault, decode S bytes = .error (.decoding fault)) ∨
      ∃ order params, EnvelopeKind.params.Form (FieldsForm (S := S) order) params bytes := by
  cases read : EnvelopeKind.params.decode (fields S) bytes with
  | error error =>
    obtain ⟨fault, rfl⟩ := EnvelopeKind.params.decode_eq_error _ bytes error read
    exact .inl ⟨fault, by simp [decode, read, bind, Except.bind]⟩
  | ok result =>
    obtain ⟨version, body, rfl, number, params, -, shaped⟩ :=
      (EnvelopeKind.params.decode_eq_ok_iff recognizes_fields bytes result).mp read
    exact .inr ⟨result.1, params, version, body, rfl, number, shaped⟩

theorem decode_eq_ok_iff (bytes : Bytes) (params : PublicParams S) :
    decode S bytes = .ok params ↔
      EnvelopeKind.params.Form (FieldsForm (Curve.orderBytes .bls12381)) params bytes := by
  constructor
  next =>
    intro accepted
    rcases decode_cases (S := S) bytes with ⟨fault, failed⟩ | ⟨order, given, form⟩
    next =>
      rw [failed] at accepted
      cases accepted
    next =>
      rw [decode_of_form order bytes given form] at accepted
      split_ifs at accepted with supported
      cases accepted
      exact supported ▸ form
  next =>
    intro form
    rw [decode_of_form _ bytes params form, if_pos rfl]

theorem decode_unsupported_iff (order bytes : Bytes) :
    decode S bytes = .error (.configuration (.unknownOrder order)) ↔
      order ≠ Curve.orderBytes .bls12381 ∧
        ∃ params, EnvelopeKind.params.Form (FieldsForm (S := S) order) params bytes := by
  constructor
  next =>
    intro refused
    rcases decode_cases (S := S) bytes with ⟨fault, failed⟩ | ⟨other, params, form⟩
    next =>
      rw [failed] at refused
      cases refused
    next =>
      rw [decode_of_form other bytes params form] at refused
      split_ifs at refused with supported
      cases refused
      exact ⟨supported, params, form⟩
  next =>
    rintro ⟨unsupported, params, form⟩
    rw [decode_of_form order bytes params form, if_neg unsupported]

theorem FieldsForm.elements {params : PublicParams S} {given order g gHead g2 g3 list : Bytes}
    (form : params.FieldsForm given (order ++ (g ++ (gHead ++ (g2 ++ (g3 ++ list))))))
    (width : order.length = 32) (first : g.length = firstWidth)
    (second : gHead.length = secondWidth) (third : g2.length = firstWidth)
    (fourth : g3.length = firstWidth) : ListForm S.FirstForm params.h list := by
  obtain ⟨_, _, _, _, _, split, exact, formG, formHead, form2, form3, elements⟩ := form
  obtain ⟨-, split⟩ := List.append_inj split (width.trans exact.symm)
  obtain ⟨-, split⟩ := List.append_inj split (first.trans formG.length.symm)
  obtain ⟨-, split⟩ := List.append_inj split (second.trans formHead.length.symm)
  obtain ⟨-, split⟩ := List.append_inj split (third.trans form2.length.symm)
  obtain ⟨-, rfl⟩ := List.append_inj split (fourth.trans form3.length.symm)
  exact elements

theorem decode_overlong (version order g gHead g2 g3 list : Bytes) (v : Nat)
    (envelope : NumberForm v version) (width : order.length = 32) (first : g.length = firstWidth)
    (second : gHead.length = secondWidth) (third : g2.length = firstWidth)
    (fourth : g3.length = firstWidth) (overlong : Bytes.Overlong firstWidth list) :
    ∃ fault, decode S (version ++ (order ++ (g ++ (gHead ++ (g2 ++ (g3 ++ list)))))) =
      .error (.decoding fault) := by
  rcases decode_cases (S := S) (version ++ (order ++ (g ++ (gHead ++ (g2 ++ (g3 ++ list)))))) with
    failed | ⟨given, params, form⟩
  next => exact failed
  next =>
    have elements := (form.body envelope).elements width first second third fourth
    exact absurd overlong (elements.not_overlong (by decide))

end PublicParams

def PublicKey.FieldsForm (key : PublicKey S) : Bytes → Prop :=
  S.SecondForm key.point

theorem PublicKey.decode_eq_ok_iff (bytes : Bytes) (key : PublicKey S) :
    decode S bytes = .ok key ↔ EnvelopeKind.publicKey.Form FieldsForm key bytes := by
  apply EnvelopeKind.publicKey.decode_eq_ok_iff
  apply (S.recognizes_second.map mk).congr
  exact fun key bytes => ⟨by rintro ⟨_, rfl, form⟩; exact form, fun form => ⟨key.point, rfl, form⟩⟩

def MasterKey.FieldsForm (key : MasterKey S) : Bytes → Prop :=
  S.FirstForm key.point

theorem MasterKey.decode_eq_ok_iff (bytes : Bytes) (key : MasterKey S) :
    decode S bytes = .ok key ↔ EnvelopeKind.masterKey.Form FieldsForm key bytes := by
  apply EnvelopeKind.masterKey.decode_eq_ok_iff
  apply (S.recognizes_first.map mk).congr
  exact fun key bytes => ⟨by rintro ⟨_, rfl, form⟩; exact form, fun form => ⟨key.point, rfl, form⟩⟩

/-- The decoders accept what has the form of an envelope of their kind, and fits the parameters or
has the order of the curve. All other strings are malformed, but for an envelope of parameters that
is well formed and has an unknown order. -/
theorem decoders_accept_forms (S : PairingGroups) (bytes : Bytes) :
    (∀ params : PublicParams S,
      (∀ key, DelegatedKey.decode params bytes = .ok key ↔
        EnvelopeKind.delegatedKey.Form DelegatedKey.FieldsForm key bytes ∧
          key.depth ≤ params.height ∧ key.b.length = params.height - key.depth) ∧
      ((∃ key, DelegatedKey.decode params bytes = .ok key) ∨
        ∃ fault, DelegatedKey.decode params bytes = .error (.decoding fault)) ∧
      ∀ version depth a0 a1 list v d, bytes = version ++ (depth ++ (a0 ++ (a1 ++ list))) →
        NumberForm v version → NumberForm d depth → a0.length = firstWidth →
        a1.length = secondWidth → Bytes.Overlong firstWidth list →
        ∃ fault, DelegatedKey.decode params bytes = .error (.decoding fault)) ∧
    ((∀ params, PublicParams.decode S bytes = .ok params ↔ EnvelopeKind.params.Form
        (PublicParams.FieldsForm (Curve.orderBytes .bls12381)) params bytes) ∧
      (∀ order, PublicParams.decode S bytes = .error (.configuration (.unknownOrder order)) ↔
        order ≠ Curve.orderBytes .bls12381 ∧ ∃ params : PublicParams S,
          EnvelopeKind.params.Form (PublicParams.FieldsForm order) params bytes) ∧
      ((∃ params, PublicParams.decode S bytes = .ok params) ∨
        (∃ order, PublicParams.decode S bytes = .error (.configuration (.unknownOrder order))) ∨
        ∃ fault, PublicParams.decode S bytes = .error (.decoding fault)) ∧
      ∀ version order g gHead g2 g3 list v,
        bytes = version ++ (order ++ (g ++ (gHead ++ (g2 ++ (g3 ++ list))))) →
        NumberForm v version → order.length = 32 → g.length = firstWidth →
        gHead.length = secondWidth → g2.length = firstWidth → g3.length = firstWidth →
        Bytes.Overlong firstWidth list →
        ∃ fault, PublicParams.decode S bytes = .error (.decoding fault)) ∧
    ((∀ key, PublicKey.decode S bytes = .ok key ↔
        EnvelopeKind.publicKey.Form PublicKey.FieldsForm key bytes) ∧
      ((∃ key, PublicKey.decode S bytes = .ok key) ∨
        ∃ fault, PublicKey.decode S bytes = .error (.decoding fault))) ∧
    (∀ key, MasterKey.decode S bytes = .ok key ↔
        EnvelopeKind.masterKey.Form MasterKey.FieldsForm key bytes) ∧
      ((∃ key, MasterKey.decode S bytes = .ok key) ∨
        ∃ fault, MasterKey.decode S bytes = .error (.decoding fault)) := by
  refine ⟨?_, ⟨PublicParams.decode_eq_ok_iff bytes, ?_, ?_, ?_⟩,
    ⟨PublicKey.decode_eq_ok_iff bytes, ?_⟩, MasterKey.decode_eq_ok_iff bytes, ?_⟩
  next =>
    intro params
    refine ⟨DelegatedKey.decode_eq_ok_iff params bytes, ?_, ?_⟩
    next =>
      rcases DelegatedKey.decode_cases params bytes with failed | ⟨key, decoded, -⟩
      next => exact .inr failed
      next => exact .inl ⟨key, decoded⟩
    next =>
      rintro version depth a0 a1 list v d rfl envelope number first second overlong
      exact DelegatedKey.decode_overlong params version depth a0 a1 list v d envelope number first
        second overlong
  next => exact fun order => PublicParams.decode_unsupported_iff order bytes
  next =>
    rcases PublicParams.decode_cases (S := S) bytes with failed | ⟨order, params, form⟩
    next => exact .inr (.inr failed)
    next =>
      have answer := PublicParams.decode_of_form order bytes params form
      split_ifs at answer with supported
      next => exact .inl ⟨params, answer⟩
      next => exact .inr (.inl ⟨order, answer⟩)
  next =>
    rintro version order g gHead g2 g3 list v rfl envelope width first second third fourth overlong
    exact PublicParams.decode_overlong version order g gHead g2 g3 list v envelope width first second
      third fourth overlong
  next => exact EnvelopeKind.publicKey.decode_answer _ bytes
  next => exact EnvelopeKind.masterKey.decode_answer _ bytes

theorem decoders_refuse_huge_count :
    let list : Bytes := 253 :: List.replicate 8 255
    let bytes : Bytes :=
      [251, 78, 1] ++ ([252, 0, 0, 0, 0] ++ (List.replicate 48 0 ++ (List.replicate 96 0 ++ list)))
    NumberForm 334 [251, 78, 1] ∧ NumberForm 0 [252, 0, 0, 0, 0] ∧
      Bytes.Overlong firstWidth list ∧
      ∃ fault, DelegatedKey.decode (Exponents.params [7]) bytes = .error (.decoding fault) := by
  intro list bytes
  have envelope : NumberForm 334 [251, 78, 1] := .two (by decide)
  have depth : NumberForm 0 [252, 0, 0, 0, 0] := .four (by decide)
  have overlong : Bytes.Overlong firstWidth list :=
    ⟨0xffffffffffffffff, list, [], rfl, .eight (by decide), by decide⟩
  obtain ⟨keys, -⟩ := decoders_accept_forms exponents bytes
  obtain ⟨-, -, refused⟩ := keys (Exponents.params [7])
  exact ⟨envelope, depth, overlong,
    refused _ _ _ _ list 334 0 rfl envelope depth List.length_replicate List.length_replicate overlong⟩

end IdentityHierarchy
