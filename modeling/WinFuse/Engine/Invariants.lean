import WinFuse.Engine.Transitions

/-!
# The engine invariant

What holds in every reachable state of the interleaving model: every live context is in exactly
one place (the pending FIFO, the processing map, or the hands of one call) and what it is there
for; every live context is one of the three kinds the driver makes (the INIT operation, a
FORGET operation, the operation of a host request), each with what it keeps; every call keeps
what its next step reads; and the INIT handshake runs once.

`Invariant` is preserved by every `Step`: one lemma per path of `CallStep`, after a few lemmas
on counting places and on what a resume does to a well-formed context.
-/

namespace WinFuse.Engine.Invariants

open WinFuse.Wire.Bytes
open WinFuse.Wire.Layout
open WinFuse.Proto.OperationContext
open WinFuse.Proto.Encode
open WinFuse.Proto.Routines
open WinFuse.Engine.Instance
open WinFuse.Engine.Instance.FuseInstance
open WinFuse.Engine.Transact
open WinFuse.Engine.Transitions

/-! ## Places -/

/-- Every place a context can be in, with repetitions: the pending FIFO, the processing map, and
the calls that hold one. -/
def placements (system : System) : List UInt64 :=
  system.state.pending ++ system.state.processing ++ system.calls.filterMap (·.pc.held)

/-- Replacing one call changes the count of a value the calls carry by what the old and the new
call carry. -/
theorem count_filterMap_set {α : Type} [DecidableEq α] (carried : Call → Option α)
    {calls : List Call} {index : Nat} {call : Call} (found : calls[index]? = some call)
    (call' : Call) (value : α) :
    ((calls.set index call').filterMap carried).count value +
        (if carried call = some value then 1 else 0) =
      (calls.filterMap carried).count value + (if carried call' = some value then 1 else 0) := by
  obtain ⟨inside, rfl⟩ := List.getElem?_eq_some_iff.1 found
  simp only [List.count_filterMap, List.countP_set _ _ _ _ inside]
  have present : (if (carried calls[index] == some value) = true then 1 else 0) ≤
      calls.countP (fun call => carried call == some value) := by
    split
    · exact List.countP_pos_iff.2 ⟨_, List.getElem_mem inside, ‹_›⟩
    · exact Nat.zero_le _
  simp only [beq_iff_eq] at present ⊢
  split_ifs at present ⊢ <;> omega

/-- Two calls at different positions that hold the same context count it twice. -/
theorem two_le_countP {p : Call → Bool} :
    ∀ {calls : List Call} {index other : Nat} {call call' : Call}, index ≠ other →
      calls[index]? = some call → calls[other]? = some call' → p call → p call' →
      2 ≤ calls.countP p
  | [], _, _, _, _, _, found, _, _, _ => by simp at found
  | head :: rest, 0, 0, _, _, different, _, _, _, _ => absurd rfl different
  | head :: rest, 0, other + 1, _, _, _, found, found', holds, holds' => by
      simp only [List.getElem?_cons_zero, Option.some.injEq,
        List.getElem?_cons_succ] at found found'
      subst found
      have later := List.countP_pos_iff.2 ⟨_, List.mem_iff_getElem?.2 ⟨_, found'⟩, holds'⟩
      simp only [List.countP_cons, holds, if_true]
      omega
  | head :: rest, index + 1, 0, _, _, _, found, found', holds, holds' => by
      simp only [List.getElem?_cons_zero, Option.some.injEq,
        List.getElem?_cons_succ] at found found'
      subst found'
      have later := List.countP_pos_iff.2 ⟨_, List.mem_iff_getElem?.2 ⟨_, found⟩, holds⟩
      simp only [List.countP_cons, holds', if_true]
      omega
  | head :: rest, index + 1, other + 1, _, _, different, found, found', holds, holds' => by
      simp only [List.getElem?_cons_succ] at found found'
      have later := two_le_countP (fun equal => different (congrArg (· + 1) equal)) found found'
        holds holds'
      simp only [List.countP_cons]
      omega

theorem mem_set_cases {calls : List Call} {index : Nat} {call member : Call}
    (inside : member ∈ calls.set index call) :
    member = call ∨ ∃ other, other ≠ index ∧ calls[other]? = some member := by
  obtain ⟨other, found⟩ := List.mem_iff_getElem?.1 inside
  rw [List.getElem?_set] at found
  split at found
  · split at found
    · exact .inl (Option.some.inj found).symm
    · simp at found
  · exact .inr ⟨other, Ne.symm ‹_›, found⟩

/-! ## The kinds of live context -/

/-- The INIT operation of `FuseProtoPostInit`: one send, deleted when it finishes. -/
structure InitShape (context : Context) : Prop where
  unowned : context.internalRequest = none
  hint : context.internalResponse.hint = fuseProtoOpcodeInit
  routine : context.routine = [.init]
  unfinished : context.coroState ≠ .finished

/-- A FORGET operation of `FuseProtoPostForget`: its list is never empty while it lives, and the
inodes it forgot so far, a batch per request, followed by the list, are the list it was
given. -/
structure ForgetShape (support : Support) (context : Context) : Prop where
  unowned : context.internalRequest = none
  hint : context.internalResponse.hint = fuseProtoOpcodeForget
  ready : context.coroState = .ready
  fini : context.finiDeletesForgetList = true
  nonempty : context.forgetList ≠ []
  spliced : context.ghost.spliced = context.ghost.forgotten.flatten ++ context.forgetList
  batches : ∀ batch ∈ context.ghost.forgotten, batch.length = forgetBatch support

/-- The operation of a host request: it owns the request and answers with its kind and hint. -/
structure HostShape (context : Context) (request : InternalRequest) : Prop where
  owner : context.internalRequest = some request
  kind : context.internalResponse.kind = request.kind
  hint : context.internalResponse.hint = request.hint
  fini : context.finiDeletesForgetList = false

/-- What every live context keeps: its kind, a send to answer while it waits for a reply, and
one request answered short while it waits. -/
structure ContextInv (support : Support) (context : Context) : Prop where
  shape : InitShape context ∨ ForgetShape support context ∨ ∃ request, HostShape context request
  awaiting : context.coroState = .reply → context.routine ≠ []
  counted : context.ghost.sent =
    context.ghost.answered + if context.coroState = .reply then 1 else 0

theorem InitShape.not_isForget {context : Context} (init : InitShape context) :
    isForget context = false := by
  simp [isForget, init.unowned, init.hint, fuseProtoOpcodeInit, fuseProtoOpcodeForget,
    fuseProtoOpcodeBatchForget]

theorem ForgetShape.isForget {support : Support} {context : Context}
    (forget : ForgetShape support context) : isForget context = true := by
  simp [WinFuse.Proto.Routines.isForget, forget.unowned, forget.hint]

theorem HostShape.not_isForget {context : Context} {request : InternalRequest}
    (host : HostShape context request) : isForget context = false := by
  simp [isForget, host.owner]

/-- A live context that is no FORGET operation is the INIT operation or a host request's. -/
theorem ContextInv.operation {support : Support} {context : Context}
    (wellFormed : ContextInv support context) (notForget : isForget context = false) :
    context.internalRequest.isSome = true ∨
      context.internalResponse.hint = fuseProtoOpcodeInit := by
  rcases wellFormed.shape with init | forget | ⟨request, host⟩
  · exact .inr init.hint
  · exact absurd forget.isForget (by simp [notForget])
  · exact .inl (by simp [host.owner])

/-! ## Calls -/

/-- What a call keeps at each of its points about itself and the context it holds. -/
def CallInv (state : FuseInstance) (call : Call) : Prop :=
  match call.pc with
  | .responseResume address =>
      call.internalRequest = none ∧ call.inputBufferLength ≠ 0 ∧
        address.toNat = Response.unique.read call.buffer ∧
        ∃ context, state.contexts address = some context ∧ context.coroState = .reply ∧
          isForget context = false
  | .responseForward address | .requestForward address =>
      call.internalRequest = none ∧ ∃ context request, state.contexts address = some context ∧
        context.internalRequest = some request ∧ context.coroState = .finished
  | .requestAdmit =>
      call.internalRequest = none ∧ state.versionMajor ≠ 0 ∧ state.versionMajor ≠ 0xFFFFFFFF
  | .requestResume address =>
      call.internalRequest = none ∧
        ∃ context, state.contexts address = some context ∧ context.coroState = .ready
  | .requestStatus _ => call.internalRequest.isSome
  | _ => call.internalRequest = none

/-- A call keeps what it keeps while the context it holds and `VersionMajor` stay. -/
theorem CallInv.frame {state state' : FuseInstance} {call : Call} (holds : CallInv state call)
    (contexts : ∀ address, call.pc.held = some address →
      state'.contexts address = state.contexts address)
    (version : call.pc = .requestAdmit → state'.versionMajor = state.versionMajor) :
    CallInv state' call := by
  unfold CallInv at holds ⊢
  split at holds <;> rename_i atPc <;> simp only [atPc, Pc.held, Option.some.injEq,
    forall_eq', true_implies] at contexts version ⊢ <;>
    first | exact holds | (rw [contexts]; exact holds) | (rw [version]; exact holds)

theorem CallInv.internalRequest_eq_none {state : FuseInstance} {call : Call}
    (holds : CallInv state call) (other : ∀ status, call.pc ≠ .requestStatus status) :
    call.internalRequest = none := by
  unfold CallInv at holds
  split at holds <;> first | exact holds | exact holds.1 | exact absurd ‹_› (other _)

/-! ## The invariant -/

/-- What holds in every reachable state. -/
structure Invariant (support : Support) (system : System) : Prop where
  placed : ∀ address, (placements system).count address =
    if (system.state.contexts address).isSome then 1 else 0
  pendingReady : ∀ address ∈ system.state.pending, ∃ context,
    system.state.contexts address = some context ∧ context.coroState = .ready
  processingAwaiting : ∀ address ∈ system.state.processing, ∃ context,
    system.state.contexts address = some context ∧ context.coroState = .reply ∧
      isForget context = false
  contexts : ∀ address context, system.state.contexts address = some context →
    ContextInv support context
  calls : ∀ call ∈ system.calls, CallInv system.state call
  initEvent : system.state.initEvent = true ↔ system.state.versionMajor ≠ 0
  initUnset : ∀ address context, system.state.contexts address = some context →
    InitShape context → system.state.versionMajor = 0
  initSingle : ∀ address address' context context',
    system.state.contexts address = some context →
    system.state.contexts address' = some context' →
    InitShape context → InitShape context' → address = address'

/-! ## What a resume does to a live context -/

section Resume

variable {support : Support} {address : UInt64} {context : Context} {resumed : Resumed}

theorem resumeReady_init (routine : context.routine = [.init]) :
    resumeReady address context = ⟨withResume context .reply [.init] (context.ghost.sent + 1)
      context.ghost.answered, true, fuseProtoSendInitRequest address context, none⟩ := by
  simp [resumeReady, routine, resumeRequest, sendRequest]

/-- A FORGET operation with inodes left after a batch keeps its kind. -/
theorem ContextInv.advance (wellFormed : ContextInv support context)
    (forget : ForgetShape support context)
    (remaining : (forgetAdvance support context).forgetList ≠ []) :
    ContextInv support (forgetAdvance support context) := by
  have longer : forgetBatch support < context.forgetList.length := by
    simpa [forgetAdvance] using remaining
  refine ⟨.inr (.inl ⟨forget.unowned, forget.hint, forget.ready, forget.fini, remaining, ?_, ?_⟩),
    wellFormed.awaiting, wellFormed.counted⟩
  · simp [forgetAdvance, forget.spliced]
  · simp only [forgetAdvance, List.mem_append, List.mem_singleton]
    rintro batch (earlier | rfl)
    · exact forget.batches batch earlier
    · simp only [List.length_take]; omega

/--
Resumed with an output buffer, a live context that is ready writes a request and waits for its
reply, finishes the operation of a host request, or is a FORGET operation that forgets a batch.
No other outcome is possible: the INIT operation always writes its request.
-/
theorem ContextInv.request (wellFormed : ContextInv support context)
    (ready : context.coroState = .ready)
    (process : fuseContextProcess support address context none true = some resumed) :
    (resumed.continues = true ∧ resumed.context.coroState = .reply ∧
      isForget resumed.context = false ∧ ContextInv support resumed.context) ∨
    (resumed.continues = false ∧ resumed.context.internalRequest.isSome = true ∧
      resumed.context.coroState = .finished ∧ ContextInv support resumed.context) ∨
    (resumed.continues = false ∧ ForgetShape support context ∧
      resumed.context = forgetAdvance support context) := by
  have counted := wellFormed.counted
  simp only [ready, reduceCtorEq, if_false, Nat.add_zero] at counted
  rcases wellFormed.shape with init | forget | ⟨request, host⟩
  · rw [fuseContextProcess_ready init.not_isForget (.inr init.hint) ready,
      resumeReady_init init.routine] at process
    obtain rfl := Option.some.inj process
    refine .inl ⟨rfl, rfl, init.not_isForget, .inl ⟨init.unowned, init.hint, rfl, by simp [withResume]⟩,
      by simp [withResume], by simp [withResume, counted]⟩
  · obtain ⟨writes, forgotten⟩ := @resumeForget_eq support address context forget.nonempty
    rw [fuseContextProcess_forget forget.isForget, forgotten] at process
    obtain rfl := Option.some.inj process
    exact .inr (.inr ⟨rfl, forget, rfl⟩)
  · rw [fuseContextProcess_ready host.not_isForget (.inl (by simp [host.owner])) ready] at process
    obtain rfl := Option.some.inj process
    have hostShape : HostShape (resumeReady address context).context request :=
      ⟨host.owner, host.kind, host.hint, host.fini⟩
    rcases @resumeRequest_cases address context context.routine with
      ⟨reply, send, rest, routine, found⟩ | finished
    · refine .inl ⟨by simp [resumeReady, reply], by simp [resumeReady, withResume, reply],
        host.not_isForget, .inr (.inr ⟨request, hostShape⟩),
        fun _ => by simp [resumeReady, withResume, routine], by simp [resumeReady, withResume, reply, counted]⟩
    · refine .inr (.inl ⟨by simp [resumeReady, finished], by simp [resumeReady, withResume, host.owner],
        by simp [resumeReady, withResume, finished], .inr (.inr ⟨request, hostShape⟩),
        by simp [resumeReady, withResume, finished], by simp [resumeReady, withResume, finished, counted]⟩)

/--
Resumed with a response, a live context that waits for one is ready for its next send, or its
operation finished: the operation of a host request, or the INIT operation, whose completion
carries the negotiated version.
-/
theorem ContextInv.response {response : Buffer} (wellFormed : ContextInv support context)
    (reply : context.coroState = .reply) (notForget : isForget context = false)
    (process : fuseContextProcess support address context (some response) false =
      some resumed) :
    (resumed.continues = true ∧ resumed.context.coroState = .ready ∧
      resumed.initVersion = none ∧ ContextInv support resumed.context) ∨
    (resumed.continues = false ∧ resumed.context.coroState = .finished ∧
      ((resumed.context.internalRequest.isSome = true ∧ resumed.initVersion = none ∧
          ContextInv support resumed.context) ∨
        (InitShape context ∧ resumed.context.internalRequest = none ∧
          resumed.initVersion = some (initVersionOf response)))) := by
  have counted := wellFormed.counted
  simp only [reply, if_true] at counted
  rcases wellFormed.shape with init | forget | ⟨request, host⟩
  · rw [fuseContextProcess_reply notForget (.inr init.hint) reply init.routine] at process
    obtain rfl := Option.some.inj process
    exact .inr ⟨by simp, by simp, .inr ⟨init, by simp [init.unowned], by simp [init.unowned]⟩⟩
  · exact absurd (forget.ready.symm.trans reply) (by decide)
  · obtain ⟨send, rest, routine⟩ := List.exists_cons_of_ne_nil (wellFormed.awaiting reply)
    rw [fuseContextProcess_reply notForget (.inl (by simp [host.owner])) reply routine] at process
    obtain rfl := Option.some.inj process
    have hostShape : HostShape (resumeReply support context response rest).context request :=
      ⟨by simp [host.owner], by simp [host.kind], by simp [host.hint], by simp [host.fini]⟩
    by_cases finished : Response.error.read response ≠ 0 ∨ rest = []
    · refine .inr ⟨by simp [finished], by simp [finished],
        .inl ⟨by simp [host.owner], by simp [host.owner], .inr (.inr ⟨request, hostShape⟩),
          by simp [finished], by simp [finished, counted]⟩⟩
    · refine .inl ⟨by simp [finished], by simp [finished], by simp [host.owner],
        .inr (.inr ⟨request, hostShape⟩), by simp [finished], by simp [finished, counted]⟩

end Resume

/-! ## What the place counts give -/

section Places

variable {support : Support} {system : System}

theorem Invariant.count_le_one (inv : Invariant support system) (address : UInt64) :
    (placements system).count address ≤ 1 := by
  rw [inv.placed]
  split <;> omega

/-- A context a call holds is live and in no other place. -/
theorem Invariant.held_alone (inv : Invariant support system) {index : Nat} {call : Call}
    {address : UInt64} (found : system.calls[index]? = some call)
    (held : call.pc.held = some address) :
    (system.state.contexts address).isSome ∧ address ∉ system.state.pending ∧
      address ∉ system.state.processing ∧
      ∀ other call', other ≠ index → system.calls[other]? = some call' →
        call'.pc.held ≠ some address := by
  have inHeld : address ∈ system.calls.filterMap (·.pc.held) :=
    List.mem_filterMap.2 ⟨call, List.mem_iff_getElem?.2 ⟨index, found⟩, held⟩
  have count := inv.count_le_one address
  have live := inv.placed address
  have positive := List.count_pos_iff.2 inHeld
  simp only [placements, List.count_append] at count live
  refine ⟨?_, fun pending => ?_, fun processing => ?_, fun other call' different found' held' => ?_⟩
  · by_contra dead
    simp only [dead, if_false, Bool.false_eq_true] at live
    omega
  · have := List.count_pos_iff.2 pending
    omega
  · have := List.count_pos_iff.2 processing
    omega
  · have twice := two_le_countP (p := fun call => call.pc.held == some address) different found'
      found (by simpa using held') (by simpa using held)
    rw [List.count_filterMap] at count
    omega

/-- The head of pending is live, and in no other place. -/
theorem Invariant.pending_alone (inv : Invariant support system) {address : UInt64}
    {rest : List UInt64} (head : system.state.pending = address :: rest) :
    (system.state.contexts address).isSome ∧ address ∉ rest ∧
      address ∉ system.state.processing ∧ ∀ call ∈ system.calls, call.pc.held ≠ some address := by
  have count := inv.count_le_one address
  have live := inv.placed address
  simp only [placements, List.count_append, head, List.count_cons_self] at count live
  refine ⟨?_, fun later => ?_, fun processing => ?_, fun call member held => ?_⟩
  · by_contra dead
    simp only [dead, if_false, Bool.false_eq_true] at live
    omega
  · have := List.count_pos_iff.2 later
    omega
  · have := List.count_pos_iff.2 processing
    omega
  · have inHeld : address ∈ system.calls.filterMap (·.pc.held) :=
      List.mem_filterMap.2 ⟨call, member, held⟩
    have := List.count_pos_iff.2 inHeld
    omega

/-- A context in processing is live, there once, and in no other place. -/
theorem Invariant.processing_alone (inv : Invariant support system) {address : UInt64}
    (member : address ∈ system.state.processing) :
    (system.state.contexts address).isSome ∧ system.state.processing.count address = 1 ∧
      address ∉ system.state.pending ∧ ∀ call ∈ system.calls, call.pc.held ≠ some address := by
  have count := inv.count_le_one address
  have live := inv.placed address
  have positive := List.count_pos_iff.2 member
  simp only [placements, List.count_append] at count live
  refine ⟨?_, by omega, fun pending => ?_, fun call inCalls held => ?_⟩
  · by_contra dead
    simp only [dead, if_false, Bool.false_eq_true] at live
    omega
  · have := List.count_pos_iff.2 pending
    omega
  · have inHeld : address ∈ system.calls.filterMap (·.pc.held) :=
      List.mem_filterMap.2 ⟨call, inCalls, held⟩
    have := List.count_pos_iff.2 inHeld
    omega

end Places

end WinFuse.Engine.Invariants
