import IdentityHierarchy.Proofs.CurvePoints
import IdentityHierarchy.Proofs.Powers
import IdentityHierarchy.Scheme.Setup

set_option autoImplicit false

namespace IdentityHierarchy

open PairingGroups
open scoped ElementGroup

namespace ByteStream

def blockAt (stream : ByteStream) (width i : Nat) : Bytes :=
  (stream.skip (width * i)).block width

theorem length_blockAt (stream : ByteStream) (width i : Nat) :
    (stream.blockAt width i).length = width :=
  length_block _ width

theorem skip_succ (stream : ByteStream) (width i : Nat) :
    stream.skip (width * (i + 1)) = (stream.skip width).skip (width * i) := by
  rw [skip_skip, Nat.mul_succ, Nat.add_comm]

theorem blockAt_succ (stream : ByteStream) (width i : Nat) :
    stream.blockAt width (i + 1) = (stream.skip width).blockAt width i := by
  rw [blockAt, skip_succ, blockAt]

theorem search_eq_some_iff {A : Type} (width : Nat) (accept : Bytes → Option A) (attempts : Nat)
    (stream rest : ByteStream) (value : A) :
    stream.search width accept attempts = some (value, rest) ↔
      ∃ discarded < attempts, (∀ i < discarded, accept (stream.blockAt width i) = none) ∧
        accept (stream.blockAt width discarded) = some value ∧
        rest = stream.skip (width * (discarded + 1)) := by
  induction attempts generalizing stream with
  | zero => simp [search]
  | succ attempts ih =>
    have start : stream.block width = stream.blockAt width 0 := rfl
    rw [search, start]
    constructor
    next =>
      intro found
      cases answer : accept (stream.blockAt width 0) with
      | some first =>
        rw [answer] at found
        cases found
        exact ⟨0, Nat.succ_pos attempts, fun i below => absurd below (Nat.not_lt_zero i), answer,
          by rw [Nat.zero_add, Nat.mul_one]⟩
      | none =>
        rw [answer] at found
        obtain ⟨discarded, few, refused, accepted, rfl⟩ := (ih (stream.skip width)).mp found
        rw [← blockAt_succ] at accepted
        refine ⟨discarded + 1, Nat.succ_lt_succ few, ?_, accepted, (skip_succ ..).symm⟩
        intro i below
        cases i with
        | zero => exact answer
        | succ i =>
          rw [blockAt_succ]
          exact refused i (Nat.lt_of_succ_lt_succ below)
    next =>
      rintro ⟨discarded, few, refused, accepted, rfl⟩
      cases discarded with
      | zero => rw [accepted, Nat.zero_add, Nat.mul_one]
      | succ discarded =>
        rw [blockAt_succ] at accepted
        rw [refused 0 (Nat.succ_pos discarded)]
        refine (ih (stream.skip width)).mpr
          ⟨discarded, Nat.lt_of_succ_lt_succ few, ?_, accepted, skip_succ ..⟩
        intro i below
        rw [← blockAt_succ]
        exact refused (i + 1) (Nat.succ_lt_succ below)

/-- The values are drawn in turn, each from the first block that is accepted for one. The counts tell how
many blocks are discarded in front of each. -/
inductive Drawn {A : Type} (width : Nat) (accepts : Bytes → A → Prop) :
    ByteStream → List A → List Nat → Prop where
  | nil (stream : ByteStream) : Drawn width accepts stream [] []
  | cons {stream : ByteStream} {value : A} {values : List A} {discarded : Nat} {counts : List Nat}
      (refused : ∀ i < discarded, ∀ other, ¬ accepts (stream.blockAt width i) other)
      (accepted : accepts (stream.blockAt width discarded) value)
      (tail : Drawn width accepts (stream.skip (width * (discarded + 1))) values counts) :
      Drawn width accepts stream (value :: values) (discarded :: counts)

def blocksTaken (counts : List Nat) : Nat :=
  (counts.map (· + 1)).sum

theorem skip_blocksTaken_cons (stream : ByteStream) (width discarded : Nat) (counts : List Nat) :
    stream.skip (width * blocksTaken (discarded :: counts)) =
      (stream.skip (width * (discarded + 1))).skip (width * blocksTaken counts) := by
  rw [skip_skip, ← Nat.mul_add]
  rfl

variable {A : Type} {width : Nat} {accepts : Bytes → A → Prop} {stream : ByteStream}

theorem Drawn.take {values : List A} {counts : List Nat}
    (drawn : Drawn width accepts stream values counts) (n : Nat) :
    Drawn width accepts stream (values.take n) (counts.take n) := by
  induction drawn generalizing n with
  | nil stream =>
    rw [List.take_nil, List.take_nil]
    exact .nil stream
  | @cons stream _ _ _ _ refused accepted tail ih =>
    cases n with
    | zero => exact .nil stream
    | succ n => exact .cons refused accepted (ih n)

theorem Drawn.accepted {values : List A} {counts : List Nat}
    (drawn : Drawn width accepts stream values counts) :
    ∀ value ∈ values, ∃ block, accepts block value := by
  induction drawn with
  | nil => exact fun value member => absurd member List.not_mem_nil
  | cons refused accepted tail ih => exact List.forall_mem_cons.mpr ⟨⟨_, accepted⟩, ih⟩

theorem Drawn.unique (functional : ∀ block a b, accepts block a → accepts block b → a = b)
    {values others : List A} {counts more : List Nat}
    (drawn : Drawn width accepts stream values counts) (again : Drawn width accepts stream others more)
    (length : values.length = others.length) : values = others ∧ counts = more := by
  induction drawn generalizing others more with
  | nil stream =>
    cases again with
    | nil => exact ⟨rfl, rfl⟩
    | cons => cases length
  | @cons stream value values discarded counts refused accepted tail ih =>
    cases again with
    | nil => cases length
    | @cons _ other others passed more kept taken rest =>
      -- Neither search can pass the block where the other one ends.
      have same : discarded = passed := by
        rcases Nat.lt_trichotomy discarded passed with below | same | above
        next => exact absurd accepted (kept discarded below value)
        next => exact same
        next => exact absurd taken (refused passed above other)
      subst same
      obtain ⟨rfl, rfl⟩ := ih rest (Nat.succ_injective length)
      exact ⟨congrArg (· :: values) (functional _ _ _ accepted taken), rfl⟩

end ByteStream

namespace PairingGroups

open ByteStream (Drawn blocksTaken)

variable {S : PairingGroups}

theorem drawElements_eq_some_iff {accepts : Bytes → S.First → Prop}
    (exact : ∀ block, block.length = firstWidth → ∀ element,
      S.elementOfBlock? block = some element ↔ accepts block element)
    (attempts count : Nat) (stream rest : ByteStream) (elements : List S.First) :
    S.drawElements attempts count stream = some (elements, rest) ↔
      elements.length = count ∧ ∃ counts, Drawn firstWidth accepts stream elements counts ∧
        (∀ discarded ∈ counts, discarded < attempts) ∧
        rest = stream.skip (firstWidth * blocksTaken counts) := by
  have refuses (i : Nat) (stream : ByteStream) :
      S.elementOfBlock? (stream.blockAt firstWidth i) = none ↔
        ∀ other, ¬ accepts (stream.blockAt firstWidth i) other := by
    rw [Option.eq_none_iff_forall_ne_some]
    exact forall_congr' fun other => not_congr (exact _ (stream.length_blockAt firstWidth i) other)
  induction count generalizing stream elements with
  | zero =>
    constructor
    next =>
      intro drawn
      cases drawn
      exact ⟨rfl, [], .nil _, fun _ member => absurd member List.not_mem_nil, rfl⟩
    next =>
      rintro ⟨empty, counts, drawn, -, rfl⟩
      cases List.length_eq_zero_iff.mp empty
      cases drawn
      rfl
  | succ count ih =>
    constructor
    next =>
      intro drawn
      obtain ⟨⟨element, between⟩, first, drawn⟩ := Option.bind_eq_some_iff.mp drawn
      obtain ⟨⟨elements, rest⟩, others, drawn⟩ := Option.bind_eq_some_iff.mp drawn
      cases drawn
      obtain ⟨discarded, few, refused, accepted, rfl⟩ := (ByteStream.search_eq_some_iff ..).mp first
      obtain ⟨length, counts, tail, fewer, rfl⟩ := (ih _ _).mp others
      refine ⟨congrArg Nat.succ length, discarded :: counts,
        .cons (fun i below => (refuses i stream).mp (refused i below)) ?_ tail,
        List.forall_mem_cons.mpr ⟨few, fewer⟩, (stream.skip_blocksTaken_cons ..).symm⟩
      exact (exact _ (stream.length_blockAt firstWidth discarded) element).mp accepted
    next =>
      rintro ⟨length, counts, drawn, fewer, rfl⟩
      cases drawn with
      | nil => cases length
      | @cons _ element elements discarded counts refused accepted tail =>
        obtain ⟨few, fewer⟩ := List.forall_mem_cons.mp fewer
        refine Option.bind_eq_some_iff.mpr ⟨(element, stream.skip (firstWidth * (discarded + 1))),
          (ByteStream.search_eq_some_iff ..).mpr ⟨discarded, few,
            fun i below => (refuses i stream).mpr (refused i below),
            (exact _ (stream.length_blockAt firstWidth discarded) element).mpr accepted, rfl⟩, ?_⟩
        exact Option.bind_eq_some_iff.mpr ⟨(elements, _),
          (ih _ _).mpr ⟨Nat.succ_injective length, counts, tail, fewer,
            stream.skip_blocksTaken_cons ..⟩, rfl⟩

end PairingGroups

def blockCoordinate (block : Bytes) : Nat :=
  Bytes.toNatBE block % coordinateLimit

def blockChoice (block : Bytes) : Bool :=
  decide (Bytes.toNatBE block / coordinateLimit % 2 = 1)

namespace PairingGroups

theorem byte_marked : ∀ flags : UInt8, ((flags &&& 0x3f) ||| 0x80).toNat =
    (4 + (decide (flags.toNat / 32 % 2 = 1)).toNat) * 32 + flags.toNat % 32 := by
  decide +kernel

theorem byte_coordinate : ∀ flags : UInt8,
    ((flags &&& 0x3f) ||| 0x80) &&& 0x1f = 0 ↔ flags.toNat % 32 = 0 := by
  decide +kernel

theorem all_zero_iff (bytes : Bytes) :
    (bytes.all fun byte => decide (byte = 0)) = true ↔ Bytes.toNatBE bytes = 0 := by
  induction bytes with
  | nil => decide
  | cons byte rest ih =>
    rw [List.all_cons, Bool.and_eq_true, ih, decide_eq_true_eq, Bytes.toNatBE_cons, Nat.add_eq_zero_iff,
      Nat.mul_eq_zero, or_iff_right (by positivity), ← UInt8.toNat_inj]
    rfl

theorem block_cons (flags : UInt8) (rest : Bytes) (length : rest.length = 47) :
    blockCoordinate (flags :: rest) = flags.toNat % 32 * 256 ^ 47 + Bytes.toNatBE rest ∧
      blockChoice (flags :: rest) = decide (flags.toNat / 32 % 2 = 1) := by
  have below := Bytes.toNatBE_lt rest
  rw [length] at below
  rw [blockCoordinate, blockChoice, Bytes.toNatBE_cons, length, coordinateLimit, decide_eq_decide]
  omega

theorem markCompressed_eq (block : Bytes) (length : block.length = 48) :
    markCompressed block = compressedForm (some (blockCoordinate block, blockChoice block)) := by
  obtain ⟨flags, rest, rfl⟩ := List.exists_cons_of_length_eq_add_one length
  have short : rest.length = 47 := Nat.succ_injective length
  obtain ⟨coordinate, choice⟩ := block_cons flags rest short
  have marked : (markCompressed (flags :: rest)).length = 48 := length
  rw [← Bytes.ofNatBE_toNatBE (markCompressed (flags :: rest)), marked, compressedForm]
  congr 1
  rw [compressedNumber, markCompressed, Bytes.toNatBE_cons, short, byte_marked, coordinate, choice,
    coordinateLimit]
  ring

theorem hasZeroCoordinate_iff (block : Bytes) (length : block.length = 48) :
    hasZeroCoordinate (markCompressed block) = true ↔ blockCoordinate block = 0 := by
  obtain ⟨flags, rest, rfl⟩ := List.exists_cons_of_length_eq_add_one length
  obtain ⟨coordinate, -⟩ := block_cons flags rest (Nat.succ_injective length)
  rw [markCompressed, hasZeroCoordinate, Bool.and_eq_true, all_zero_iff, decide_eq_true_eq,
    byte_coordinate, coordinate]
  omega

end PairingGroups

namespace CompressedPoints

variable {S : PairingGroups} (points : CompressedPoints S.decodeCurvePoint?)

/-- The coordinate is not zero, it belongs to a point, and the image of that point is not neutral. -/
def StandsFor (block : Bytes) (element : S.First) : Prop :=
  blockCoordinate block ≠ 0 ∧ blockCoordinate block < points.modulus ∧
    ∃ point, points.coordinates point = some (blockCoordinate block, blockChoice block) ∧
      S.clearCofactor point = element ∧ element ≠ 0

theorem decode_block_iff (block : Bytes) (length : block.length = 48) (point : S.CurvePoint) :
    S.decodeCurvePoint? (markCompressed block) = some point ↔
      points.coordinates point = some (blockCoordinate block, blockChoice block) := by
  rw [points.decode_iff, markCompressed_eq block length]
  constructor
  next =>
    intro same
    apply (compressedForm_inj _ _ same).symm
    next =>
      rintro _ _ ⟨⟩
      exact Nat.mod_lt _ (by decide)
    next => exact fun x upper given => Nat.lt_of_lt_of_le (points.reduced given) points.modulus_le
  next =>
    intro given
    rw [given]

theorem elementOfBlock?_eq_some_iff (block : Bytes) (length : block.length = firstWidth)
    (element : S.First) :
    S.elementOfBlock? block = some element ↔ points.StandsFor block element := by
  simp only [elementOfBlock?, StandsFor]
  constructor
  next =>
    intro accepted
    split_ifs at accepted with zero
    cases decoded : S.decodeCurvePoint? (markCompressed block) with
    | none =>
      rw [decoded] at accepted
      cases accepted
    | some point =>
      rw [decoded] at accepted
      simp only at accepted
      split_ifs at accepted with neutral
      cases accepted
      have given := (points.decode_block_iff block length point).mp decoded
      exact ⟨fun none => zero ((hasZeroCoordinate_iff block length).mpr none), points.reduced given,
        point, given, rfl, neutral⟩
  next =>
    rintro ⟨coordinate, -, point, given, rfl, nontrivial⟩
    have zero := mt (hasZeroCoordinate_iff block length).mp coordinate
    rw [if_neg zero, (points.decode_block_iff block length point).mpr given]
    exact if_neg nontrivial

theorem StandsFor.unique (block : Bytes) (a b : S.First) (first : points.StandsFor block a)
    (second : points.StandsFor block b) : a = b := by
  obtain ⟨-, -, p, left, rfl, -⟩ := first
  obtain ⟨-, -, q, right, rfl, -⟩ := second
  have same : S.decodeCurvePoint? (compressedForm (points.coordinates p)) = some q :=
    (points.decode_iff _ q).mpr (by rw [left, right])
  rw [(points.decode_iff _ p).mpr rfl] at same
  cases same
  rfl

end CompressedPoints

namespace Scheme

open ByteStream (Drawn blocksTaken)
open CompressedPoints (StandsFor)

variable {S : PairingGroups}

theorem setup_eq_some_iff (scheme : Scheme) (attempts : Nat) (stream rest : ByteStream)
    (params : PublicParams S) :
    scheme.setup attempts stream = some (params, rest) ↔
      params.curve = scheme.curve ∧ params.g = S.firstGenerator ∧ params.gHead = S.secondGenerator ∧
        S.drawElements attempts (scheme.maxDepth + 2) stream =
          some (params.g2 :: params.g3 :: params.h, rest) := by
  constructor
  next =>
    intro ends
    obtain ⟨⟨g2, second⟩, draw2, ends⟩ := Option.bind_eq_some_iff.mp ends
    obtain ⟨⟨g3, third⟩, draw3, ends⟩ := Option.bind_eq_some_iff.mp ends
    obtain ⟨⟨h, last⟩, drawH, ends⟩ := Option.bind_eq_some_iff.mp ends
    cases ends
    refine ⟨rfl, rfl, rfl, ?_⟩
    refine Option.bind_eq_some_iff.mpr ⟨(g2, second), draw2, ?_⟩
    refine Option.bind_eq_some_iff.mpr ⟨(g3 :: h, rest), ?_, rfl⟩
    refine Option.bind_eq_some_iff.mpr ⟨(g3, third), draw3, ?_⟩
    exact Option.bind_eq_some_iff.mpr ⟨(h, rest), drawH, rfl⟩
  next =>
    obtain ⟨curve, g, gHead, g2, g3, h⟩ := params
    rintro ⟨rfl, rfl, rfl, drawn⟩
    obtain ⟨⟨_, second⟩, draw2, drawn⟩ := Option.bind_eq_some_iff.mp drawn
    obtain ⟨⟨_, last⟩, others, drawn⟩ := Option.bind_eq_some_iff.mp drawn
    cases drawn
    obtain ⟨⟨_, third⟩, draw3, others⟩ := Option.bind_eq_some_iff.mp others
    obtain ⟨⟨_, last⟩, drawH, others⟩ := Option.bind_eq_some_iff.mp others
    cases others
    refine Option.bind_eq_some_iff.mpr ⟨(g2, second), draw2, ?_⟩
    refine Option.bind_eq_some_iff.mpr ⟨(g3, third), draw3, ?_⟩
    exact Option.bind_eq_some_iff.mpr ⟨(h, rest), drawH, rfl⟩

variable (points : CompressedPoints S.decodeCurvePoint?)

structure Draws (scheme : Scheme) (stream : ByteStream) (params : PublicParams S) (counts : List Nat) :
    Prop where
  curve : params.curve = scheme.curve
  g : params.g = S.firstGenerator
  gHead : params.gHead = S.secondGenerator
  height : params.height = scheme.maxDepth
  elements : Drawn firstWidth points.StandsFor stream (params.g2 :: params.g3 :: params.h) counts

theorem setup_eq_some_iff_draws (scheme : Scheme) (attempts : Nat) (stream rest : ByteStream)
    (params : PublicParams S) :
    scheme.setup attempts stream = some (params, rest) ↔
      ∃ counts, scheme.Draws points stream params counts ∧
        (∀ discarded ∈ counts, discarded < attempts) ∧
        rest = stream.skip (firstWidth * blocksTaken counts) := by
  rw [setup_eq_some_iff, drawElements_eq_some_iff points.elementOfBlock?_eq_some_iff]
  constructor
  next =>
    rintro ⟨curve, g, gHead, length, counts, drawn, fewer, same⟩
    have height : params.height + 2 = scheme.maxDepth + 2 := length
    exact ⟨counts, ⟨curve, g, gHead, Nat.add_right_cancel height, drawn⟩, fewer, same⟩
  next =>
    rintro ⟨counts, draws, fewer, same⟩
    exact ⟨draws.curve, draws.g, draws.gHead, congrArg (· + 2) draws.height, counts, draws.elements,
      fewer, same⟩

variable {points} {scheme : Scheme} {stream : ByteStream} {params : PublicParams S} {counts : List Nat}

theorem Draws.lower (draws : scheme.Draws points stream params counts) (lower : Scheme)
    (curve : lower.curve = scheme.curve) (bound : lower.maxDepth ≤ scheme.maxDepth) :
    lower.Draws points stream { params with h := params.h.take lower.maxDepth }
      (counts.take (lower.maxDepth + 2)) where
  curve := draws.curve.trans curve.symm
  g := draws.g
  gHead := draws.gHead
  height := by
    rw [PublicParams.height, List.length_take]
    exact Nat.min_eq_left (bound.trans_eq draws.height.symm)
  elements := draws.elements.take (lower.maxDepth + 2)

theorem Draws.unique {other : PublicParams S} {others : List Nat}
    (draws : scheme.Draws points stream params counts) (again : scheme.Draws points stream other others) :
    params = other ∧ counts = others := by
  have length : (params.g2 :: params.g3 :: params.h).length = (other.g2 :: other.g3 :: other.h).length :=
    congrArg (· + 2) (draws.height.trans again.height.symm)
  obtain ⟨elements, same⟩ := draws.elements.unique (StandsFor.unique points) again.elements length
  obtain ⟨curve, g, gHead, g2, g3, h⟩ := params
  obtain ⟨_, _, _, _, _, _⟩ := other
  cases draws.curve.trans again.curve.symm
  cases draws.g.trans again.g.symm
  cases draws.gHead.trans again.gHead.symm
  cases elements
  exact ⟨rfl, same⟩

/-- Setup gives exactly what the blocks of the stream give in turn, as long as no element takes more
attempts than there may be, and the stream goes on after the last block that was looked at. All elements
that are drawn have the order of the group, and less height only means that fewer of them are drawn. -/
theorem setup_draws_in_turn (points : CompressedPoints S.decodeCurvePoint?)
    [ElementGroup.Lawful S.First] (scheme : Scheme) (attempts : Nat) (stream : ByteStream) :
    (∀ (params : PublicParams S) (rest : ByteStream),
      scheme.setup attempts stream = some (params, rest) ↔
        ∃ counts, scheme.Draws points stream params counts ∧
          (∀ discarded ∈ counts, discarded < attempts) ∧
          rest = stream.skip (firstWidth * blocksTaken counts)) ∧
    ∀ (params : PublicParams S) (rest : ByteStream),
      scheme.setup attempts stream = some (params, rest) →
      (groupOrder.Prime ∧ ∀ element ∈ params.g2 :: params.g3 :: params.h,
        element ≠ 0 ∧ addOrderOf element = groupOrder) ∧
      ∀ lower : Scheme, lower.curve = scheme.curve → lower.maxDepth ≤ scheme.maxDepth →
        (∃ rest, lower.setup attempts stream =
          some ({ params with h := params.h.take lower.maxDepth }, rest)) ∧
        ∀ (limit : Nat) (shorter : PublicParams S) (rest : ByteStream),
          lower.setup limit stream = some (shorter, rest) →
          shorter = { params with h := params.h.take lower.maxDepth } := by
  refine ⟨fun params rest => scheme.setup_eq_some_iff_draws points attempts stream rest params, ?_⟩
  intro params rest ends
  obtain ⟨counts, draws, fewer, -⟩ := (scheme.setup_eq_some_iff_draws points ..).mp ends
  refine ⟨⟨groupOrder_prime, ?_⟩, ?_⟩
  next =>
    intro element member
    obtain ⟨block, -, -, point, -, -, nontrivial⟩ := draws.elements.accepted element member
    have := Fact.mk groupOrder_prime
    exact ⟨nontrivial, addOrderOf_eq_prime (ElementGroup.groupOrder_nsmul element) nontrivial⟩
  next =>
    intro lower curve bound
    have shorter := draws.lower lower curve bound
    constructor
    next =>
      have few (discarded : Nat) (member : discarded ∈ counts.take (lower.maxDepth + 2)) :
          discarded < attempts := fewer discarded (List.mem_of_mem_take member)
      exact ⟨_, (lower.setup_eq_some_iff_draws points ..).mpr ⟨_, shorter, few, rfl⟩⟩
    next =>
      intro limit other rest ends
      obtain ⟨_, again, -, -⟩ := (lower.setup_eq_some_iff_draws points ..).mp ends
      exact (again.unique shorter).1

/-- Elements as discrete logarithms, drawn from the points of the curve. The logarithm of an image is
looked for among those below eight. -/
def logarithms : PairingGroups :=
  { exponents with
    CurvePoint := Bls12381.CurvePoint
    decodeCurvePoint? := Bls12381.decodeCurvePoint?
    clearCofactor := fun point =>
      let image := (Bls12381.clearCofactor point).val
      let found := (List.range 8).find? fun n => image = Bls12381.firstGenerator.multiple n
      found.elim (0 : Scalar) (Fin.ofNat groupOrder) }

instance : ElementGroup.Lawful logarithms.First :=
  inferInstanceAs (ElementGroup.Lawful exponents.First)

/-- In turn: a zero coordinate, one that is not reduced, one of no point, one of a point whose image is
infinity, two points outside the subgroup, again one of no point, and a third point. -/
def mixedStream : ByteStream where
  byteAt i := List.getD
    ([[0xe0] ++ List.replicate 47 0,
      List.replicate 48 0xff,
      List.replicate 47 0 ++ [1],
      Bytes.ofNatBE 48
        0x2ccd40884cb1834492efbd0149a414535890f30477f9535103082ff438ca13d7f7e36e2f1d15dd8ca30397f12170831a,
      Bytes.ofNatBE 48
        0x944d24af195f5c1997cd7fc93c7b8ab35814da88df4fb3657f3aa88f646244afcdc6c4638d05beb62b5b628e50671125,
      Bytes.ofNatBE 48
        0x6ef506fa2776194ab87d7d2eb13aa9e59d482cf69587c354a6941bc54f049fe58a3f276f4c7bfe67731cce7d9edf474d,
      List.replicate 47 0 ++ [1],
      Bytes.ofNatBE 48
        0x0038cf33763dca239b3df34eade4fffc224bebdf5cd40c185bc7d61e234003349017d2686b934f68f1353a44698e7185
      ].flatten) i 0
  position := 0

def mixedParams : PublicParams logarithms where
  curve := .bls12381
  g := (1 : Scalar)
  gHead := (1 : Scalar)
  g2 := (1 : Scalar)
  g3 := (2 : Scalar)
  h := [(3 : Scalar)]

theorem setup_draws_in_turn_mixed :
    ∃ rest counts, (ofHeight 1).setup 5 mixedStream = some (mixedParams, rest) ∧
      (ofHeight 1).Draws Bls12381.curvePoints mixedStream mixedParams counts ∧
      blocksTaken counts = 8 ∧
      (∀ element ∈ mixedParams.g2 :: mixedParams.g3 :: mixedParams.h,
        addOrderOf element = groupOrder) ∧
      ∃ rest, (ofHeight 0).setup 5 mixedStream = some ({ mixedParams with h := [] }, rest) := by
  have run : ((ofHeight 1).setup 5 mixedStream).map (fun result => (result.1, result.2.position)) =
      some (mixedParams, 384) := by
    decide +kernel
  obtain ⟨⟨params, rest⟩, ends, same⟩ := Option.map_eq_some_iff.mp run
  obtain ⟨rfl, offset⟩ := Prod.mk.inj same
  obtain ⟨draws, others⟩ :=
    setup_draws_in_turn (S := logarithms) Bls12381.curvePoints (ofHeight 1) 5 mixedStream
  obtain ⟨counts, drawn, -, rfl⟩ := (draws _ rest).mp ends
  obtain ⟨⟨-, orders⟩, lower⟩ := others _ _ ends
  have taken : 0 + 48 * blocksTaken counts = 384 := offset
  exact ⟨_, counts, ends, drawn, by omega, fun element member => (orders element member).2,
    (lower (ofHeight 0) rfl (Nat.zero_le 1)).1⟩

end Scheme

end IdentityHierarchy
