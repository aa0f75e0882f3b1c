import IdentityHierarchy.Proofs.Session
import IdentityHierarchy.Proofs.Trial

set_option autoImplicit false

namespace IdentityHierarchy

namespace Reply

def signature? : Reply → Option Bytes
  | .signed (.ok signature) => some signature
  | _ => none

def signatures (replies : List Reply) : List Bytes :=
  replies.filterMap signature?

theorem signatures_cons_none {reply : Reply} (replies : List Reply)
    (unsigned : reply.signature? = none) : signatures (reply :: replies) = signatures replies :=
  List.filterMap_cons_none unsigned

theorem signatures_cons_some {reply : Reply} {signature : Bytes} (replies : List Reply)
    (signed : reply.signature? = some signature) :
    signatures (reply :: replies) = signature :: signatures replies :=
  List.filterMap_cons_some signed

def oversized : Reply :=
  .signed (.error (.configuration .oversized))

end Reply

variable {S : PairingGroups}

theorem DelegatedKey.encode_of_small (key : DelegatedKey S)
    (small : Reply.oversized ≠ .signed key.encode) : key.encode = .ok key.encoding := by
  obtain large | encoded := key.encode_cases
  next =>
    rw [large] at small
    exact absurd rfl small
  next => exact encoded

namespace Session

def withStream (session : Session S) (stream : ByteStream) : Session S :=
  { session with stream := stream }

@[simp]
theorem paramsFault?_withStream (session : Session S) (stream : ByteStream)
    (params : PublicParams S) :
    (session.withStream stream).paramsFault? params = session.paramsFault? params := rfl

@[simp]
theorem countFault?_withStream (session : Session S) (stream : ByteStream) (key : SigningKey S) :
    (session.withStream stream).countFault? key = session.countFault? key := rfl

inductive Draw (session : Session S) : Call S → Prop where
  | nothing (call : Call S) (reply : Reply) (next : Session S) (unsigned : reply.signature? = none)
      (result : ∀ stream, (session.withStream stream).step call = (reply, next.withStream stream)) :
      Draw session call
  | exponent (key : SigningKey S) (buffer : Bytes) (state : session.state = .signing key buffer)
      (result : ∀ stream, (session.withStream stream).step .sign =
        (.signed (key.signature session.delegates buffer
            (exponentOfBlock key.params.curve (stream.block 32))).encode,
          (session.emptied key).withStream (stream.skip 32))) :
      Draw session .sign

theorem draw_initSign (session : Session S) (key : SigningKey S) :
    session.Draw (.initSign key) := by
  cases misfit : session.paramsFault? key.params with
  | some fault =>
    refine .nothing _ (.done (.error fault)) session rfl fun stream => ?_
    simp only [step, initSign, paramsFault?_withStream, misfit]
  | none =>
    cases miscount : session.countFault? key with
    | some fault =>
      refine .nothing _ (.done (.error fault)) session rfl fun stream => ?_
      simp only [step, initSign, paramsFault?_withStream, countFault?_withStream, misfit, miscount]
    | none =>
      refine .nothing _ (.done (.ok ())) { session with state := .signing key [] } rfl
        fun stream => ?_
      simp only [step, initSign, paramsFault?_withStream, countFault?_withStream, misfit, miscount]
      rfl

theorem draw_initVerify (session : Session S) (key : VerifyingKey S) :
    session.Draw (.initVerify key) := by
  cases misfit : session.paramsFault? key.params with
  | some fault =>
    refine .nothing _ (.done (.error fault)) session rfl fun stream => ?_
    simp only [step, initVerify, paramsFault?_withStream, misfit]
  | none =>
    refine .nothing _ (.done (.ok ())) { session with state := .verifying key [] } rfl
      fun stream => ?_
    simp only [step, initVerify, paramsFault?_withStream, misfit]
    rfl

theorem draw_sign (session : Session S) : session.Draw .sign := by
  obtain ⟨scheme, given, delegates, state⟩ := session
  cases state with
  | signing key buffer =>
    by_cases count : delegates.length = key.depth
    next =>
      cases refusal : key.refusal? with
      | some fault =>
        refine .nothing .sign (.signed (.error fault)) ⟨scheme, given, delegates, .signing key []⟩ rfl
          fun stream => ?_
        simp [step, sign, withStream, countFault?, count,
          key.sign_refused delegates buffer stream count fault refusal, Except.bind]
      | none =>
        refine .exponent key buffer rfl fun stream => ?_
        simp [step, sign, withStream, countFault?, count,
          key.sign_accepted delegates buffer stream count refusal, Except.bind, emptied, drawExponent]
    next =>
      refine .nothing .sign (.signed (.error (.identityChainMismatch key.depth delegates.length)))
        ⟨scheme, given, delegates, .signing key buffer⟩ rfl fun stream => ?_
      simp [step, sign, withStream, countFault?, count]
  | _ =>
    exact .nothing .sign (.signed (.error (.stateSequence .notSigning)))
      ⟨scheme, given, delegates, _⟩ rfl fun _ => rfl

theorem draw (session : Session S) (call : Call S) : session.Draw call := by
  cases call with
  | setDelegates chain => exact .nothing _ _ (session.setDelegates chain) rfl fun _ => rfl
  | initSign key => exact session.draw_initSign key
  | initVerify key => exact session.draw_initVerify key
  | update data =>
    obtain ⟨scheme, given, delegates, state⟩ := session
    refine .nothing _ (step ⟨scheme, given, delegates, state⟩ (.update data)).1
      (step ⟨scheme, given, delegates, state⟩ (.update data)).2 rfl fun stream => ?_
    cases state <;> rfl
  | sign => exact session.draw_sign
  | verify signature =>
    obtain ⟨scheme, given, delegates, state⟩ := session
    refine .nothing _ (step ⟨scheme, given, delegates, state⟩ (.verify signature)).1
      (step ⟨scheme, given, delegates, state⟩ (.verify signature)).2 rfl fun stream => ?_
    cases state <;> rfl

theorem step_stream (session : Session S) (call : Call S)
    (small : Reply.oversized ≠ (session.step call).1) :
    ((session.step call).1.signature? = none ∧ (session.step call).2.stream = session.stream) ∨
      ∃ key buffer, call = .sign ∧ session.state = .signing key buffer ∧
        (session.step call).1.signature? = some (key.signature session.delegates buffer
          (exponentOfBlock key.params.curve (session.stream.block 32))).encoding ∧
        (session.step call).2.stream = session.stream.skip 32 := by
  cases session.draw call with
  | nothing _ reply next unsigned result =>
    have stepped : session.step call = (reply, next.withStream session.stream) :=
      result session.stream
    rw [stepped]
    exact .inl ⟨unsigned, rfl⟩
  | exponent key buffer state result =>
    have stepped : session.step .sign = _ := result session.stream
    rw [stepped] at small ⊢
    rw [DelegatedKey.encode_of_small _ small]
    exact .inr ⟨key, buffer, rfl, state, rfl, rfl⟩

theorem run_stream (session : Session S) (calls : List (Call S))
    (small : Reply.oversized ∉ (session.run calls).1) :
    (session.run calls).2.stream =
      session.stream.skip (32 * (Reply.signatures (session.run calls).1).length) := by
  induction calls generalizing session with
  | nil => rfl
  | cons call rest ih =>
    have first := List.ne_of_not_mem_cons small
    have last := ih (session.step call).2 (List.not_mem_of_not_mem_cons small)
    change ((session.step call).2.run rest).2.stream = session.stream.skip
      (32 * (Reply.signatures ((session.step call).1 :: ((session.step call).2.run rest).1)).length)
    rw [last]
    rcases session.step_stream call first with ⟨unsigned, kept⟩ | ⟨key, buffer, -, -, signed, drawn⟩
    next => rw [Reply.signatures_cons_none _ unsigned, kept]
    next =>
      rw [Reply.signatures_cons_some _ signed, drawn, ByteStream.skip_skip, List.length_cons,
        Nat.mul_succ, Nat.add_comm]

theorem run_signature_congr (session : Session S) (calls : List (Call S))
    (first second : ByteStream)
    (small : Reply.oversized ∉ ((session.withStream first).run calls).1)
    (small' : Reply.oversized ∉ ((session.withStream second).run calls).1) (n : Nat)
    (same : (first.skip (32 * n)).block 32 = (second.skip (32 * n)).block 32) :
    (Reply.signatures ((session.withStream first).run calls).1)[n]? =
      (Reply.signatures ((session.withStream second).run calls).1)[n]? := by
  induction calls generalizing session first second n with
  | nil => rfl
  | cons call rest ih =>
    simp only [run] at small small' ⊢
    cases session.draw call with
    | nothing _ reply next unsigned result =>
      simp only [result] at small small' ⊢
      rw [Reply.signatures_cons_none _ unsigned, Reply.signatures_cons_none _ unsigned]
      exact ih next first second (List.not_mem_of_not_mem_cons small)
        (List.not_mem_of_not_mem_cons small') n same
    | exponent key buffer state result =>
      simp only [result] at small small' ⊢
      rw [DelegatedKey.encode_of_small _ (List.ne_of_not_mem_cons small),
        DelegatedKey.encode_of_small _ (List.ne_of_not_mem_cons small'),
        Reply.signatures_cons_some _ rfl, Reply.signatures_cons_some _ rfl]
      -- This signature has the first block, and the blocks of the others move up by one.
      cases n with
      | zero =>
        simp only [Nat.mul_zero, ByteStream.skip_zero] at same
        rw [List.getElem?_cons_zero, List.getElem?_cons_zero, same]
      | succ n =>
        have shifted (stream : ByteStream) :
            (stream.skip 32).skip (32 * n) = stream.skip (32 * (n + 1)) := by
          rw [ByteStream.skip_skip, Nat.mul_succ, Nat.add_comm]
        rw [List.getElem?_cons_succ, List.getElem?_cons_succ]
        apply ih (session.emptied key) (first.skip 32) (second.skip 32)
          (List.not_mem_of_not_mem_cons small) (List.not_mem_of_not_mem_cons small') n
        rw [shifted, shifted]
        exact same

/-- Every signature of a run is made with a block of its own, the one that follows those of the
signatures before it, and is the same whatever the other blocks are. No other call takes anything. -/
theorem signatures_share_no_randomness (scheme : Scheme) (stream : ByteStream)
    (calls : List (Call S)) (small : Reply.oversized ∉ ((start scheme stream).run calls).1) :
    (∀ before call after, calls = before ++ call :: after →
      let session : Session S := ((start scheme stream).run before).2
      let n := (Reply.signatures ((start scheme stream).run before).1).length
      let result := session.step call
      session.stream = stream.skip (32 * n) ∧
      (result.1.signature? = none → result.2.stream = session.stream) ∧
      ∀ signature, result.1.signature? = some signature →
        result.2.stream = stream.skip (32 * (n + 1)) ∧
        ∃ key buffer w, call = .sign ∧ session.state = .signing key buffer ∧
          w.val = Bytes.toNatLE ((stream.skip (32 * n)).block 32) % 2 ^ 254 ∧
          signature = (key.signature session.delegates buffer w).encoding) ∧
    ∀ other : ByteStream, Reply.oversized ∉ ((start scheme other).run calls).1 → ∀ n,
      (other.skip (32 * n)).block 32 = (stream.skip (32 * n)).block 32 →
      (Reply.signatures ((start scheme other).run calls).1)[n]? =
        (Reply.signatures ((start scheme stream).run calls).1)[n]? := by
  constructor
  next =>
    rintro before call after rfl session n result
    rw [run_append] at small
    obtain ⟨earlier, later⟩ := not_or.mp (mt List.mem_append.mpr small)
    have position : session.stream = stream.skip (32 * n) := run_stream _ before earlier
    refine ⟨position, ?_⟩
    rcases session.step_stream call (List.ne_of_not_mem_cons later) with
      ⟨unsigned, kept⟩ | ⟨key, buffer, sign, state, signed, drawn⟩
    next =>
      refine ⟨fun _ => kept, fun signature signed => ?_⟩
      cases unsigned.symm.trans signed
    next =>
      refine ⟨fun unsigned => ?_, fun signature given => ?_⟩
      next => cases unsigned.symm.trans signed
      next =>
        cases signed.symm.trans given
        refine ⟨?_, key, buffer, _, sign, state, ?_, rfl⟩
        next => rw [drawn, position, ByteStream.skip_skip, Nat.mul_succ]
        next => rw [val_exponentOfBlock, position]
  next =>
    intro other small' n same
    exact run_signature_congr (start scheme stream) calls other stream small' small n same

theorem signatures_share_no_randomness_two_keys :
    let params := Exponents.params [7, 11]
    let first : SigningKey exponents := .master params (params.masterKeys 13).masterKey
    let second : SigningKey exponents := .delegated params (params.honestKey 13 4 ⟨[[97]]⟩)
    let stream : ByteStream := ⟨UInt8.ofNat, 0⟩
    let before : List (Call exponents) :=
      [.initSign first, .update [1], .sign, .setDelegates ⟨[[97]]⟩, .sign, .initSign second, .update [2]]
    let session : Session exponents := ((start (.ofHeight 2) stream).run before).2
    Reply.oversized ∉ ((start (.ofHeight 2) stream).run (before ++ [.sign])).1 ∧
      ∃ w : Scalar, w.val = Bytes.toNatLE ((stream.skip 32).block 32) % 2 ^ 254 ∧
        (session.step .sign).1.signature? =
          some (second.signature session.delegates [2] w).encoding := by
  intro params first second stream before session
  have small : Reply.oversized ∉ ((start (.ofHeight 2) stream).run (before ++ [.sign])).1 := by
    decide +kernel
  have count : (Reply.signatures ((start (.ofHeight 2) stream).run before).1).length = 1 := by
    decide +kernel
  have made : (session.step .sign).1.signature?.isSome := by decide +kernel
  obtain ⟨signature, given⟩ := Option.isSome_iff_exists.mp made
  obtain ⟨-, -, signed⟩ := (signatures_share_no_randomness (.ofHeight 2) stream _ small).1
    before .sign [] rfl
  obtain ⟨-, key, buffer, w, -, state, value, rfl⟩ := signed signature given
  have prepared : session.state = .signing second [2] := rfl
  cases prepared.symm.trans state
  rw [count] at value
  exact ⟨small, w, value, given⟩

end Session

end IdentityHierarchy
