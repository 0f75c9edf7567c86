import WinFuse.Engine.Information
import WinFuse.Engine.Emission
import WinFuse.Proto.BatchForget
import WinFuse.Proto.Decode

/-!
# The request half stays inside the output buffer

The request half writes its request into the system buffer of a `METHOD_BUFFERED` call, which
holds `OutputBufferLength` bytes, and reports the `len` it leaves there as `Information`.  The
checks at the top of `FuseDeviceTransact` let a call past them only with no output buffer or one
of at least `FUSE_PROTO_REQ_SIZEMIN` bytes, and the request half runs only with one.

Every send and every FORGET fill stores only below the `len` it sets, and that `len` is at most
`FUSE_PROTO_REQ_SIZEMIN`, with one exception: a LOOKUP whose name breaks the `ASSERT` of
`FuseProtoSendLookup` (`Emission`).  A resume that writes nothing leaves the zeroed header, of
`len` 0.  So in every reachable state, the resume of a call's live context stores only inside
the output buffer, and every call reports an `Information` that fits in it, except in that one
case (`request_half_stays_inside`).

The daemon receives only the bytes of its output buffer.  When the request fits there, what it
receives decodes as exactly the INIT, LOOKUP or OPEN request the send means, whatever lies past
the buffer (`request_half_hands_intended`).
-/

namespace WinFuse.Engine.Bounds

open WinFuse.Wire.Bytes
open WinFuse.Wire.Layout
open WinFuse.Proto.OperationContext
open WinFuse.Proto.Encode
open WinFuse.Proto.BatchForget
open WinFuse.Proto.Routines
open WinFuse.Engine.Instance
open WinFuse.Engine.Instance.FuseInstance
open WinFuse.Engine.Transact
open WinFuse.Engine.Transitions
open WinFuse.Engine.Invariants
open WinFuse.Engine.Preservation
open WinFuse.Engine.Information
open WinFuse.Engine.Emission
open WinFuse.Proto.Decode

/-! ## The output buffer a call keeps -/

/-- What the checks at the top of `FuseDeviceTransact` leave of the output buffer length: past
them a call has no output buffer or one of at least `FUSE_PROTO_REQ_SIZEMIN` bytes, and past
`request:` it has one. -/
def Sized (call : Call) : Prop :=
  match call.pc with
  | .start | .returned _ => True
  | .responseResume _ | .responseForward _ | .request =>
      call.outputBufferLength = 0 ∨ fuseProtoReqSizeMin ≤ call.outputBufferLength
  | _ => fuseProtoReqSizeMin ≤ call.outputBufferLength

theorem checkParameters_sized {call : Call} (valid : checkParameters call = none) :
    call.outputBufferLength = 0 ∨ fuseProtoReqSizeMin ≤ call.outputBufferLength := by
  unfold checkParameters at valid
  split_ifs at valid with input output
  omega

/-- Every step of a call keeps `Sized`: the length never changes, and `request:` goes on to the
request half only with an output buffer. -/
theorem sized_callStep {support : Support} {choice : Choice} {state state' : FuseInstance}
    {call call' : Call} (step : CallStep support choice state call state' call')
    (sized : Sized call) : Sized call' := by
  cases step
  case noResponse valid _ | unmatched valid _ _ | matched valid _ _ _ =>
    exact checkParameters_sized valid
  case rejected | responseForwardFailed | requestSkipped | versionDenied | waitFailed | waitDenied
      | admitFailed | admitNone | requestStarted | requestReposted | requestDrained
      | requestAbandoned => trivial
  case requestStatus =>
    split <;> trivial
  case requestForward =>
    split <;> trivial
  all_goals simp only [Sized, ‹call.pc = _›] at sized
  case requestPending nonempty _ | requestIdle nonempty _ => exact sized.resolve_left nonempty
  all_goals exact sized

theorem sized_reachable {support : Support} {system : System}
    (reachable : Reachable support system) : ∀ call ∈ system.calls, Sized call :=
  calls_reachable (fun _ _ _ => trivial) (fun _ _ step => sized_callStep step) reachable

/-! ## What a resume stores -/

section Requests

variable (address : UInt64) (context : Context)

/-- A request whose payload lies between the header and its `len`, of at most
`FUSE_PROTO_REQ_SIZEMIN` bytes, stores only below the `len` the daemon reads. -/
theorem inside_of_header {len opcode nodeid : Nat} {after : List Write}
    (payload : Within after 36 len) (header : 36 ≤ len) (fits : len ≤ fuseProtoReqSizeMin)
    (buffer : Buffer) :
    Within (fuseProtoInitRequest address context len opcode nodeid ++ after) 0
        (Request.len.read
          (applyAll (fuseProtoInitRequest address context len opcode nodeid ++ after) buffer)) ∧
      Request.len.read
          (applyAll (fuseProtoInitRequest address context len opcode nodeid ++ after) buffer) ≤
        fuseProtoReqSizeMin := by
  have word : len < 256 ^ 4 := lt_of_le_of_lt fits (by decide)
  rw [len_read_fuseProtoInitRequest address context len opcode nodeid
    (fun write member => (payload write member).1) buffer, Nat.mod_eq_of_lt word, within_append]
  exact ⟨⟨(within_fuseProtoInitRequest address context len opcode nodeid).mono le_rfl header,
    payload.mono (Nat.zero_le _) le_rfl⟩, fits⟩

/-- Every send stores only below the `len` it sets, which is at most `FUSE_PROTO_REQ_SIZEMIN`,
unless it is a LOOKUP whose `ASSERT` fails. -/
theorem sendRequest_inside {send : Send} {writes : List Write}
    (sent : sendRequest address context send = some writes)
    (asserted : send = .lookup → FuseProtoSendLookupAssert context) (buffer : Buffer) :
    Within writes 0 (Request.len.read (applyAll writes buffer)) ∧
      Request.len.read (applyAll writes buffer) ≤ fuseProtoReqSizeMin := by
  cases send <;> simp only [sendRequest, Option.some.injEq, reduceCtorEq] at sent <;> subst sent
  case init =>
    exact inside_of_header address context (by simp [Request.initMajor, Request.initMinor,
      Request.initMaxReadahead, Request.initFlags, fuseProtoReqSize, fuseProtoReqHeaderSize])
      (by decide) (by decide) buffer
  case lookup =>
    have fits := asserted rfl
    simp only [FuseProtoSendLookupAssert, lookupRequestLength, fuseProtoReqSize] at fits
    exact inside_of_header address context
      (by simp [Within, Request.lookupName, Write.limit, lookupRequestLength, fuseProtoReqSize,
        fuseProtoReqHeaderSize]; omega)
      (by simp only [lookupRequestLength, fuseProtoReqSize, fuseProtoReqHeaderSize]; omega)
      (by simpa only [lookupRequestLength, fuseProtoReqSize] using fits) buffer
  case getattr =>
    simpa using inside_of_header address context (within_nil 36 _) (by decide) (by decide) buffer
  case «open» =>
    exact inside_of_header address context
      (by simp [Request.openFlags, fuseProtoReqSize, fuseProtoReqHeaderSize]) (by decide)
      (by decide) buffer
  case opendir =>
    simpa using inside_of_header address context (within_nil 36 _) (by decide) (by decide) buffer

theorem fuseProtoFillForget_inside {writes : List Write} {rest : List UInt64}
    (filled : fuseProtoFillForget address context = some (writes, rest)) (buffer : Buffer) :
    Within writes 0 (Request.len.read (applyAll writes buffer)) ∧
      Request.len.read (applyAll writes buffer) ≤ fuseProtoReqSizeMin := by
  unfold fuseProtoFillForget at filled
  cases list : context.forgetList with
  | nil => simp [list, fuseCacheForgetNextItem] at filled
  | cons ino others =>
    simp only [list, fuseCacheForgetNextItem, Option.map_some', Option.some.injEq,
      Prod.mk.injEq] at filled
    rw [← filled.1]
    exact inside_of_header address context
      (by simp [Request.forgetNlookup, fuseProtoReqSize, fuseProtoReqHeaderSize]) (by decide)
      (by decide) buffer

theorem fuseProtoFillBatchForget_inside (buffer : Buffer) :
    Within (fuseProtoFillBatchForget address context).1 0
        (Request.len.read (applyAll (fuseProtoFillBatchForget address context).1 buffer)) ∧
      Request.len.read (applyAll (fuseProtoFillBatchForget address context).1 buffer) ≤
        fuseProtoReqSizeMin := by
  have capacity := count_le_batchForgetCapacity context
  rw [show Request.len.read (applyAll (fuseProtoFillBatchForget address context).1 buffer) = _
    from congrArg RequestHeader.len (fuseProtoFillBatchForget_header_read address context buffer),
    fuseProtoFillBatchForget_fst_assoc, within_append]
  refine ⟨⟨(within_batchForgetEntries context).mono (Nat.zero_le _) le_rfl,
    (within_batchForgetHeader address context).mono le_rfl (Nat.le_add_right _ _)⟩, ?_⟩
  simp only [batchForgetStart, fuseProtoReqSize, fuseProtoReqHeaderSize, fuseProtoForgetOneSize,
    fuseProtoReqSizeMin] at capacity ⊢
  omega

end Requests

/-! ## Every resume of the request half -/

section Resume

variable {support : Support} {address : UInt64} {context : Context} {resumed : Resumed}

/-- A resume with an output buffer stores only below the `len` the daemon then reads from the
zeroed header, and that `len` is at most `FUSE_PROTO_REQ_SIZEMIN`, unless it writes a LOOKUP
whose `ASSERT` fails. -/
theorem fuseContextProcess_inside
    (process : fuseContextProcess support address context none true = some resumed)
    {buffer : Buffer} (zeroed : Request.len.read buffer = 0) :
    (Within resumed.writes 0 (Request.len.read (applyAll resumed.writes buffer)) ∧
        Request.len.read (applyAll resumed.writes buffer) ≤ fuseProtoReqSizeMin) ∨
      (resumed.writes = fuseProtoSendLookupRequest address context ∧
        ¬FuseProtoSendLookupAssert context) := by
  have nothing : resumed.writes = [] →
      Within resumed.writes 0 (Request.len.read (applyAll resumed.writes buffer)) ∧
        Request.len.read (applyAll resumed.writes buffer) ≤ fuseProtoReqSizeMin := fun none => by
    rw [none, applyAll_nil, zeroed]
    exact ⟨within_nil 0 0, Nat.zero_le _⟩
  simp only [fuseContextProcess] at process
  split_ifs at process
  · unfold resumeForget at process
    cases batch : support.batchForget <;> simp only [batch, Bool.false_eq_true, if_false,
      if_true, Option.map_some'] at process
    · obtain ⟨⟨writes, rest⟩, filled, rfl⟩ := Option.map_eq_some'.1 process
      exact .inl (fuseProtoFillForget_inside address context filled buffer)
    · cases process
      exact .inl (fuseProtoFillBatchForget_inside address context buffer)
  · unfold resumeOperationRequest at process
    split at process
    · cases process
      rcases @resumeRequest_cases address context context.routine with
        ⟨-, send, rest, -, sent⟩ | finished
      · by_cases asserted : send = .lookup → FuseProtoSendLookupAssert context
        · exact .inl (sendRequest_inside address context sent asserted buffer)
        · obtain ⟨rfl, broken⟩ := Classical.not_imp.1 asserted
          exact .inr ⟨(Option.some.inj sent).symm, broken⟩
      · exact .inl (nothing (by simp [resumeReady, finished]))
    · cases process
    · cases process
      exact .inl (nothing rfl)
  · cases process
    exact .inl (nothing rfl)

end Resume

/-! ## What a call reports -/

/-- The request in a buffer is a LOOKUP longer than `FUSE_PROTO_REQ_SIZEMIN`: what
`FuseProtoSendLookup` leaves when its `ASSERT` fails. -/
def Overran (buffer : Buffer) : Prop :=
  Request.opcode.read buffer = fuseProtoOpcodeLookup ∧
    fuseProtoReqSizeMin < Request.len.read buffer

theorem overran_fuseProtoSendLookupRequest {address : UInt64} {context : Context}
    (broken : ¬FuseProtoSendLookupAssert context) (buffer : Buffer) :
    Overran (applyAll (fuseProtoSendLookupRequest address context) buffer) := by
  have header := decodeRequest_sendLookup address context buffer
  have opcode : Request.opcode.read (applyAll (fuseProtoSendLookupRequest address context) buffer) =
      fuseProtoOpcodeLookup := congrArg (·.header.opcode) header
  have length : Request.len.read (applyAll (fuseProtoSendLookupRequest address context) buffer) =
      lookupRequestLength context := congrArg (·.header.len) header
  rw [FuseProtoSendLookupAssert, Nat.not_le] at broken
  exact ⟨opcode, length ▸ broken⟩

/-- The step of a call at the resume of the request half writes the stores of the resume of the
live context it holds. -/
theorem callStep_resume {support : Support} {choice : Choice} {state state' : FuseInstance}
    {call call' : Call} (step : CallStep support choice state call state' call')
    {address : UInt64} (atResume : call.pc = .requestResume address) :
    ∃ context resumed, state.contexts address = some context ∧
      fuseContextProcess support address context none true = some resumed ∧
      call'.buffer = applyAll resumed.writes call.buffer := by
  cases step
  case requestStarted resuming live process _ | requestReposted resuming live process _ _ _ _
      | requestDrained resuming live process _ _ _ _ | requestAbandoned resuming live process _ _ _
      | requestFinish resuming live process _ _ =>
    cases atResume.symm.trans resuming
    exact ⟨_, _, live, process, rfl⟩
  all_goals simp [‹call.pc = _›] at atResume

/-- What a call keeps of its request and `Information` against its output buffer: before the
forward, the request's `len` fits in the buffer; after a return, so does `Information`.  The
exception is a LOOKUP that overran, reported whole. -/
def Bounded (call : Call) : Prop :=
  match call.pc with
  | .requestForward _ =>
      Request.len.read call.buffer ≤ call.outputBufferLength ∨ Overran call.buffer
  | .returned _ => call.information ≤ call.outputBufferLength ∨
      (Overran call.buffer ∧ call.information = Request.len.read call.buffer)
  | _ => True

/-- A resume with an output buffer of at least `FUSE_PROTO_REQ_SIZEMIN` bytes leaves a request
whose `len` fits in it, or a LOOKUP that overran. -/
theorem resume_bounded {support : Support} {address : UInt64} {context : Context}
    {resumed : Resumed}
    (process : fuseContextProcess support address context none true = some resumed)
    {call : Call} (zeroed : Request.len.read call.buffer = 0)
    (sized : fuseProtoReqSizeMin ≤ call.outputBufferLength) :
    Request.len.read (applyAll resumed.writes call.buffer) ≤ call.outputBufferLength ∨
      Overran (applyAll resumed.writes call.buffer) :=
  (fuseContextProcess_inside process zeroed).imp (fun inside => Nat.le_trans inside.2 sized)
    fun ⟨lookup, broken⟩ => lookup ▸ overran_fuseProtoSendLookupRequest broken _

/-- Every step of a call keeps `Bounded`: the end of the request half reports the `len` of what
the resume wrote, and every other exit reports 0. -/
theorem bounded_callStep {support : Support} {choice : Choice} {state state' : FuseInstance}
    {call call' : Call} (step : CallStep support choice state call state' call')
    (sized : Sized call) (reports : Reports call) (settles : Settles call)
    (bounded : Bounded call) : Bounded call' := by
  cases step
  case requestSkipped | admitNone => exact Or.inl (Nat.zero_le _)
  case noResponse | unmatched | matched | responseRepost | responseDelete | responseFinish
      | responseForwarded | requestPending | requestIdle | versionUnset | versionSet | waitAdmit
      | admitStatus | admitContext => trivial
  all_goals
    simp only [Sized, Reports, Settles, Bounded, ‹call.pc = _›] at sized reports settles bounded
  case requestStarted process _ | requestReposted process _ _ _ _ | requestDrained process _ _ _ _
      | requestAbandoned process _ _ _ =>
    exact (resume_bounded process reports.2.1 sized).imp id fun overran => ⟨overran, rfl⟩
  case requestFinish process _ _ => exact resume_bounded process reports.2.1 sized
  case requestForward =>
    split
    · exact bounded.imp id fun overran => ⟨overran, rfl⟩
    · exact Or.inl (settles ▸ Nat.zero_le _)
  case requestStatus =>
    split
    · exact Or.inl (reports.2.1 ▸ Nat.zero_le _)
    · exact Or.inl (settles ▸ Nat.zero_le _)
  all_goals exact Or.inl (settles ▸ Nat.zero_le _)

theorem bounded_reachable {support : Support} {system : System}
    (reachable : Reachable support system) : ∀ call ∈ system.calls, Bounded call :=
  calls_reachable (fun _ _ _ => trivial) (fun reached member step =>
    bounded_callStep step (sized_reachable reached _ member) (reports_reachable reached _ member)
      (settles_reachable reached _ member)) reachable

/-- In every reachable state, the resume of a call's live context in the request half stores
only inside the daemon's output buffer, below the `len` it leaves, which is at most
`FUSE_PROTO_REQ_SIZEMIN`, unless it is a LOOKUP whose `ASSERT` fails.  Every call that has
returned `STATUS_SUCCESS` with an output buffer reports that `len` as `Information`, and no call
reports more than its output buffer holds, except one that handed down such a LOOKUP. -/
theorem request_half_stays_inside {support : Support} {system : System}
    (reachable : Reachable support system) :
    (∀ call ∈ system.calls, ∀ address, call.pc = .requestResume address →
      ∀ choice state' call', stepCall support choice system.state call = some (state', call') →
      ∃ context resumed, system.state.contexts address = some context ∧
        fuseContextProcess support address context none true = some resumed ∧
        call'.buffer = applyAll resumed.writes call.buffer ∧
        ((Within resumed.writes 0 (Request.len.read call'.buffer) ∧
            Request.len.read call'.buffer ≤ fuseProtoReqSizeMin ∧
            fuseProtoReqSizeMin ≤ call.outputBufferLength) ∨
          (resumed.writes = fuseProtoSendLookupRequest address context ∧
            ¬FuseProtoSendLookupAssert context))) ∧
    (∀ call ∈ system.calls, ∀ status, call.pc = .returned status →
      (status = statusSuccess → call.outputBufferLength ≠ 0 →
        call.information = Request.len.read call.buffer) ∧
      (call.information ≤ call.outputBufferLength ∨
        (Overran call.buffer ∧ call.information = Request.len.read call.buffer))) := by
  refine ⟨fun call member address atResume choice state' call' stepped => ?_,
    fun call member status returned => ?_⟩
  · obtain ⟨context, resumed, live, process, written⟩ :=
      callStep_resume (stepCall_sound stepped) atResume
    have sized := sized_reachable reachable call member
    have reports := reports_reachable reachable call member
    simp only [Sized, Reports, atResume] at sized reports
    rw [written]
    exact ⟨context, resumed, live, process, rfl,
      (fuseContextProcess_inside process reports.2.1).imp
        (fun inside => ⟨inside.1, inside.2, sized⟩) id⟩
  · have reports := reports_reachable reachable call member
    have bounded := bounded_reachable reachable call member
    simp only [Reports, Bounded, returned] at reports bounded
    exact ⟨fun success present => (reports success).trans (if_neg present), bounded⟩

/-- After the INIT exchange and the admission of a host request whose context sent its LOOKUP,
the three calls report 56 (INIT), 0 (the reply) and 41 (LOOKUP of the empty name), each within
its output buffer. -/
theorem request_half_stays_inside_admitted :
    ∃ system, run lookupOpen ⟨FuseInstance.initial 1, []⟩ lookupSent = some system ∧
      Reachable lookupOpen system ∧ system.calls.map (·.information) = [56, 0, 41] ∧
      ∀ call ∈ system.calls, call.information ≤ call.outputBufferLength ∨
        (Overran call.buffer ∧ call.information = Request.len.read call.buffer) := by
  obtain ⟨system, ran, reachable, observed⟩ := reachable_run_map (.initial 1 (by decide))
    (by decide : (run lookupOpen ⟨FuseInstance.initial 1, []⟩ lookupSent).map
      (fun system => (system.calls.map (·.pc), system.calls.map (·.information))) =
      some ([.returned statusSuccess, .returned statusSuccess, .returned statusSuccess],
        [56, 0, 41]))
  obtain ⟨returned, reported⟩ := Prod.mk.inj observed
  refine ⟨system, ran, reachable, reported, fun call member => ?_⟩
  have pc := List.mem_map_of_mem (·.pc) member
  simp only [returned, List.mem_cons, List.mem_singleton, List.not_mem_nil, or_false,
    or_self] at pc
  exact ((request_half_stays_inside reachable).2 call member _ pc).2

/-! ## What the daemon receives -/

/-- In every reachable state, a request half that resumes an INIT or host operation whose next
send writes an INIT, LOOKUP or OPEN request that fits (for a LOOKUP, the `ASSERT` of
`FuseProtoSendLookup` holds) returns `STATUS_SUCCESS` with every store inside the output
buffer, and with the request's `len`, at most `FUSE_PROTO_REQ_SIZEMIN`, as `Information`.
Whatever lies past the buffer, the bytes the daemon receives decode as exactly the request that
send means. -/
theorem request_half_hands_intended {support : Support} {system : System}
    (reachable : Reachable support system) {call : Call} (member : call ∈ system.calls)
    {address : UInt64} {context : Context} (atResume : call.pc = .requestResume address)
    (live : system.state.contexts address = some context) (notForget : isForget context = false)
    {send : Send} {rest : List Send} {writes : List Write}
    (sends : resumeRequest address context context.routine = (.reply, send :: rest, writes))
    {intended : Decoded} (meant : intendedRequest address context send = some intended)
    (fits : send = .lookup → FuseProtoSendLookupAssert context) (choice : Choice) :
    ∃ state' call', stepCall support choice system.state call = some (state', call') ∧
      call'.pc = .returned statusSuccess ∧ call'.information = intended.header.len ∧
      intended.header.len ≤ fuseProtoReqSizeMin ∧
      fuseProtoReqSizeMin ≤ call.outputBufferLength ∧
      Within writes 0 call.outputBufferLength ∧
      ∀ received : Buffer,
        (∀ position < call.outputBufferLength, received position = call'.buffer position) →
        decodeRequest received = intended := by
  have inv := invariant_reachable reachable
  have holds := inv.calls call member
  simp only [CallInv, atResume, live, Option.some.injEq, exists_eq_left'] at holds
  have sent : sendRequest address context send = some writes := by
    rcases @resumeRequest_cases address context context.routine with
      ⟨-, send', rest', routine, found⟩ | finished
    · rw [sends] at routine found
      cases routine
      exact found
    · rw [sends] at finished
      cases finished
  have sized := sized_reachable reachable call member
  simp only [Sized, atResume] at sized
  obtain ⟨state', stepped, -⟩ :=
    stepCall_sends atResume live holds.2 notForget
      ((inv.contexts address context live).operation notForget) sends choice
  have length : Request.len.read (applyAll writes call.buffer) = intended.header.len :=
    congrArg (·.header.len) (decodeRequest_sent sent meant call.buffer)
  obtain ⟨inside, bounded⟩ := sendRequest_inside address context sent fits call.buffer
  rw [length] at inside bounded
  have within : Within writes 0 call.outputBufferLength :=
    inside.mono le_rfl (Nat.le_trans bounded sized)
  refine ⟨state', _, stepped, rfl, length, bounded, sized, within, fun received agree => ?_⟩
  rw [← applyAll_eq_self_of_agree within agree]
  exact decodeRequest_sent sent meant received

/-- The first request half of a mounted volume hands the daemon INIT 7.31 from the INIT
context, in 56 bytes of its output buffer. -/
theorem request_half_hands_intended_init :
    Reachable lookupOpen ⟨{ FuseInstance.initial 1 with pending := [] }, [resumingInit]⟩ ∧
      ∃ state' call', stepCall lookupOpen idle { FuseInstance.initial 1 with pending := [] }
          resumingInit = some (state', call') ∧
        call'.pc = .returned statusSuccess ∧ call'.information = 56 ∧
        ∀ received : Buffer,
          (∀ position < fuseProtoReqSizeMin, received position = call'.buffer position) →
          decodeRequest received =
            ⟨intendedHeader 1 initContext (fuseProtoReqSize .init) fuseProtoOpcodeInit 0,
              .init fuseProtoVersion fuseProtoMinorVersion 0 0⟩ := by
  have reachable : Reachable lookupOpen
      ⟨{ FuseInstance.initial 1 with pending := [] }, [resumingInit]⟩ :=
    reachable_run (.initial 1 (by decide))
      (rfl : run lookupOpen ⟨FuseInstance.initial 1, []⟩
        [.begin 0 fuseProtoReqSizeMin zeroBuffer, .call 0 idle, .call 0 idle] = some _)
  obtain ⟨state', call', stepped, returned, reported, -, -, -, decoded⟩ :=
    @request_half_hands_intended lookupOpen _ reachable resumingInit (List.mem_singleton_self _)
      1 initContext rfl rfl rfl .init [] _ rfl _ rfl (fun init => nomatch init) idle
  exact ⟨reachable, state', call', stepped, returned, reported, decoded⟩

end WinFuse.Engine.Bounds
