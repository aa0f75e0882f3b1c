import IdentityHierarchy.Proofs.Grammar

set_option autoImplicit false

namespace IdentityHierarchy.Bytes

structure ShortestForm (n : Nat) (bytes : Bytes) : Prop where
  form : NumberForm n bytes
  least (other : Bytes) : NumberForm n other → bytes.length ≤ other.length

theorem NumberForm.lt {n : Nat} {bytes : Bytes} (number : NumberForm n bytes) :
    n < 0x10000000000000000 := by
  cases number <;> omega

theorem numberForm_ofNumber {n : Nat} (bound : n < 0x10000000000000000) :
    NumberForm n (ofNumber n) := by
  unfold ofNumber
  split_ifs with one two four
  next => exact .one one
  next => exact .two two
  next => exact .four four
  next => exact .eight bound

theorem length_ofNumber (n : Nat) :
    (ofNumber n).length = if n < 251 then 1 else if n < 0x10000 then 3
      else if n < 0x100000000 then 5 else 9 := by
  unfold ofNumber
  split_ifs <;> simp

theorem NumberForm.length_ofNumber_le {n : Nat} {bytes : Bytes} (number : NumberForm n bytes) :
    (ofNumber n).length ≤ bytes.length := by
  rw [length_ofNumber]
  cases number <;> simp only [List.length_cons, length_ofNatLE] <;> split_ifs <;> omega

theorem NumberForm.eq_of_length {n : Nat} {bytes other : Bytes} (number : NumberForm n bytes)
    (second : NumberForm n other) (length : bytes.length = other.length) : bytes = other := by
  cases number <;> cases second <;> first | rfl | simp at length

theorem shortestForm_ofNumber {n : Nat} (bound : n < 0x10000000000000000) :
    ShortestForm n (ofNumber n) :=
  ⟨numberForm_ofNumber bound, fun _ number => number.length_ofNumber_le⟩

theorem ShortestForm.eq_ofNumber {n : Nat} {bytes : Bytes} (shortest : ShortestForm n bytes) :
    bytes = ofNumber n := by
  have number := numberForm_ofNumber shortest.form.lt
  apply shortest.form.eq_of_length number
  exact Nat.le_antisymm (shortest.least _ number) shortest.form.length_ofNumber_le

inductive Part where
  | number (n : Nat)
  | plain (bytes : Bytes)

def Part.shortest : Part → Bytes
  | number n => ofNumber n
  | plain bytes => bytes

inductive Written (form : Nat → Bytes → Prop) : List Part → Bytes → Prop where
  | nil : Written form [] []
  | number {n : Nat} {parts : List Part} {front back : Bytes} (head : form n front)
      (tail : Written form parts back) : Written form (.number n :: parts) (front ++ back)
  | plain {parts : List Part} {back : Bytes} (bytes : Bytes) (tail : Written form parts back) :
      Written form (.plain bytes :: parts) (bytes ++ back)

variable {parts : List Part} {bytes : Bytes}

theorem Written.length_shortest_le (written : Written NumberForm parts bytes) :
    (parts.flatMap Part.shortest).length ≤ bytes.length := by
  induction written with
  | nil => exact Nat.le_refl 0
  | number head tail ih =>
    rw [List.flatMap_cons, List.length_append, List.length_append]
    exact Nat.add_le_add head.length_ofNumber_le ih
  | plain bytes tail ih =>
    rw [List.flatMap_cons, List.length_append, List.length_append]
    exact Nat.add_le_add_left ih _

theorem Written.shortest (written : Written NumberForm parts bytes) :
    Written ShortestForm parts (parts.flatMap Part.shortest) := by
  induction written with
  | nil => exact .nil
  | number head tail ih => exact .number (shortestForm_ofNumber head.lt) ih
  | plain bytes tail ih => exact .plain bytes ih

theorem Written.eq_shortest (written : Written ShortestForm parts bytes) :
    parts.flatMap Part.shortest = bytes := by
  induction written with
  | nil => rfl
  | number head tail ih => rw [List.flatMap_cons, ih, head.eq_ofNumber, Part.shortest]
  | plain bytes tail ih => rw [List.flatMap_cons, ih, Part.shortest]

theorem Written.shortest_eq_iff (written : Written NumberForm parts bytes) :
    parts.flatMap Part.shortest = bytes ↔ Written ShortestForm parts bytes := by
  constructor
  next =>
    intro same
    rw [← same]
    exact written.shortest
  next => exact Written.eq_shortest

end IdentityHierarchy.Bytes
