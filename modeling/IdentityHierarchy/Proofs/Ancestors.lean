import Mathlib.Data.List.Infix
import IdentityHierarchy.Identity.Chain

set_option autoImplicit false

namespace IdentityHierarchy

namespace IdentityChain

def descend (chain : IdentityChain) (elements : List Bytes) : IdentityChain :=
  elements.foldl child chain

def ascend? : IdentityChain → Nat → Option IdentityChain
  | chain, 0 => some chain
  | chain, count + 1 => do
    let parent ← chain.parent?
    parent.ascend? count

section Steps

variable (chain : IdentityChain)

theorem root_or_child : chain = root ∨ ∃ parent last, chain = child parent last := by
  obtain ⟨elements⟩ := chain
  rcases List.eq_nil_or_concat elements with rfl | ⟨front, last, rfl⟩
  next => exact .inl rfl
  next => exact .inr ⟨⟨front⟩, last, by rw [List.concat_eq_append, child]⟩

theorem child_ne_root (element : Bytes) : chain.child element ≠ root := by
  simp [child, root]

theorem parent?_root : root.parent? = none := rfl

theorem parent?_child (element : Bytes) : (chain.child element).parent? = some chain := by
  simp [child, parent?]

theorem parent?_eq_none_iff : chain.parent? = none ↔ chain = root := by
  rcases chain.root_or_child with rfl | ⟨parent, last, rfl⟩
  next => simp [parent?_root]
  next => simp [parent?_child, child_ne_root]

theorem child_of_parent (below : chain ≠ root) :
    ∃ parent last, chain.parent? = some parent ∧ chain.elements.getLast? = some last ∧
      parent.child last = chain := by
  rcases chain.root_or_child with rfl | ⟨parent, last, rfl⟩
  next => exact absurd rfl below
  next => exact ⟨parent, last, parent.parent?_child last, List.getLast?_concat, rfl⟩

end Steps

section Paths

variable (chain ancestor : IdentityChain)

theorem descend_concat (elements : List Bytes) (last : Bytes) :
    chain.descend (elements ++ [last]) = (chain.descend elements).child last := by
  simp only [descend, List.foldl_append, List.foldl_cons, List.foldl_nil]

theorem descend_eq (elements : List Bytes) :
    chain.descend elements = ⟨chain.elements ++ elements⟩ := by
  induction elements using List.reverseRecOn with
  | nil => simp [descend]
  | append_singleton front last ih =>
    simp only [descend_concat, ih, child, List.append_assoc]

theorem ascend?_descend (elements : List Bytes) :
    (chain.descend elements).ascend? elements.length = some chain := by
  induction elements using List.reverseRecOn with
  | nil => rfl
  | append_singleton front last ih =>
    simp only [descend_concat, List.length_append, List.length_singleton, ascend?, parent?_child,
      Option.bind_eq_bind, Option.bind_some, ih]

-- The elements that are dropped on the way up lead down again.
theorem descend_of_ascend? (count : Nat) (reached : chain.ascend? count = some ancestor) :
    ∃ elements, elements.length = count ∧ ancestor.descend elements = chain := by
  induction count generalizing chain with
  | zero =>
    cases reached
    exact ⟨[], rfl, rfl⟩
  | succ count ih =>
    rcases chain.root_or_child with rfl | ⟨parent, last, rfl⟩
    next => cases reached
    next =>
      simp only [ascend?, parent?_child, Option.bind_eq_bind, Option.bind_some] at reached
      obtain ⟨front, length, path⟩ := ih parent reached
      refine ⟨front ++ [last], ?_, ?_⟩
      next => simp [length]
      next => rw [descend_concat, path]

theorem isPrefixOf_iff :
    ancestor.isPrefixOf chain = true ↔ ancestor.elements <+: chain.elements :=
  List.isPrefixOf_iff_prefix

theorem isPrefixOf_iff_descend :
    ancestor.isPrefixOf chain = true ↔ ∃ elements, ancestor.descend elements = chain := by
  cases chain
  simp only [isPrefixOf_iff, descend_eq, mk.injEq]
  exact Iff.rfl

theorem isPrefixOf_iff_ascend? :
    ancestor.isPrefixOf chain = true ↔ ∃ count, chain.ascend? count = some ancestor := by
  rw [isPrefixOf_iff_descend]
  constructor
  next =>
    rintro ⟨elements, rfl⟩
    exact ⟨elements.length, ancestor.ascend?_descend elements⟩
  next =>
    rintro ⟨count, reached⟩
    obtain ⟨elements, -, path⟩ := chain.descend_of_ascend? ancestor count reached
    exact ⟨elements, path⟩

end Paths

section Order

variable {a b c : IdentityChain}

theorem isPrefixOf_eq_pairs (xs ys : List Bytes) :
    isPrefixOf ⟨xs⟩ ⟨ys⟩ = (decide (xs.length ≤ ys.length) &&
      (xs.zip ys).all fun pair => pair.1 == pair.2) := by
  unfold isPrefixOf
  induction xs generalizing ys with
  | nil => simp
  | cons x xs ih =>
    cases ys with
    | nil => simp
    | cons y ys =>
      have rest := ih ys
      simp only [List.isPrefixOf_cons_cons, List.length_cons, Nat.add_le_add_iff_right, List.zip_cons_cons,
        List.all_cons] at rest ⊢
      rw [rest, Bool.and_left_comm]

theorem isPrefixOf_refl : a.isPrefixOf a = true :=
  (isPrefixOf_iff a a).mpr List.prefix_rfl

theorem root_isPrefixOf : root.isPrefixOf a = true :=
  (isPrefixOf_iff a root).mpr List.nil_prefix

theorem isPrefixOf_trans (upper : a.isPrefixOf b = true) (lower : b.isPrefixOf c = true) :
    a.isPrefixOf c = true := by
  rw [isPrefixOf_iff] at upper lower ⊢
  exact upper.trans lower

theorem isPrefixOf_antisymm (down : a.isPrefixOf b = true) (up : b.isPrefixOf a = true) : a = b := by
  rw [isPrefixOf_iff] at down up
  cases a
  cases b
  exact congrArg mk (down.eq_of_length_le up.length_le)

theorem isPrefixOf_total (first : a.isPrefixOf c = true) (second : b.isPrefixOf c = true) :
    a.isPrefixOf b = true ∨ b.isPrefixOf a = true := by
  simp only [isPrefixOf_iff] at first second ⊢
  exact List.prefix_or_prefix_of_prefix first second

end Order

theorem prefixes_are_ancestors :
    (∀ a b : IdentityChain,
      (a.isPrefixOf b = (decide (a.length ≤ b.length) &&
        (a.elements.zip b.elements).all fun pair => pair.1 == pair.2)) ∧
      (a.isPrefixOf b = true ↔ ∃ elements, a.descend elements = b) ∧
      (a.isPrefixOf b = true ↔ ∃ count, b.ascend? count = some a)) ∧
    (∀ a : IdentityChain, a.isPrefixOf a = true ∧ root.isPrefixOf a = true) ∧
    (∀ a b c : IdentityChain,
      a.isPrefixOf b = true → b.isPrefixOf c = true → a.isPrefixOf c = true) ∧
    (∀ a b : IdentityChain, a.isPrefixOf b = true → b.isPrefixOf a = true → a = b) ∧
    (∀ a b c : IdentityChain, a.isPrefixOf c = true → b.isPrefixOf c = true →
      a.isPrefixOf b = true ∨ b.isPrefixOf a = true) ∧
    (∀ (a : IdentityChain) (element : Bytes), (a.child element).parent? = some a) ∧
    ∀ a : IdentityChain, (a.parent? = none ↔ a = root) ∧
      (a ≠ root → ∃ parent last, a.parent? = some parent ∧ a.elements.getLast? = some last ∧
        parent.child last = a) := by
  refine ⟨?_, ?_, ?_, ?_, ?_, parent?_child, ?_⟩
  next =>
    intro a b
    exact ⟨isPrefixOf_eq_pairs a.elements b.elements, isPrefixOf_iff_descend b a,
      isPrefixOf_iff_ascend? b a⟩
  next => exact fun a => ⟨isPrefixOf_refl, root_isPrefixOf⟩
  next => exact fun a b c => isPrefixOf_trans
  next => exact fun a b => isPrefixOf_antisymm
  next => exact fun a b c => isPrefixOf_total
  next => exact fun a => ⟨a.parent?_eq_none_iff, a.child_of_parent⟩

theorem prefixes_are_ancestors_three_levels :
    let a : IdentityChain := ⟨[[97]]⟩
    let b : IdentityChain := ⟨[[97], []]⟩
    let c : IdentityChain := ⟨[[97], [], [98]]⟩
    a.isPrefixOf b = true ∧ b.isPrefixOf c = true ∧ a.isPrefixOf c = true ∧
      (∃ elements, a.descend elements = c) ∧ (∃ count, c.ascend? count = some a) ∧
      (root.child [97]).isPrefixOf a = true ∧ a.isPrefixOf (root.child [97]) = true ∧
      root.child [97] = a ∧ (a.isPrefixOf b = true ∨ b.isPrefixOf a = true) ∧ c ≠ root ∧
      ∃ parent last, c.parent? = some parent ∧ c.elements.getLast? = some last ∧
        parent.child last = c := by
  intro a b c
  obtain ⟨ancestors, -, trans, antisymm, total, -, parents⟩ := prefixes_are_ancestors
  obtain ⟨-, down, up⟩ := ancestors a c
  have upper : a.isPrefixOf b = true := by decide
  have lower : b.isPrefixOf c = true := by decide
  have far := trans a b c upper lower
  have below : c ≠ root := by decide
  exact ⟨upper, lower, far, down.mp far, up.mp far, by decide, by decide,
    antisymm _ _ (by decide) (by decide), total a b c far lower, below, (parents c).2 below⟩

example : isPrefixOf ⟨[[97, 98]]⟩ ⟨[[97], [98]]⟩ = false ∧ isPrefixOf ⟨[[97], []]⟩ ⟨[[97]]⟩ = false := by
  decide

end IdentityChain

end IdentityHierarchy
