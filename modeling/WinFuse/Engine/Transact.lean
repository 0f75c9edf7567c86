import WinFuse.Engine.Instance

/-!
# `FuseDeviceTransact` as interleaved atomic steps

Many daemon workers call `FuseDeviceTransact` at once.  A call is modelled as a thread with a
program counter at one of the points of `fuse.c` where it next touches shared state: an IOQ
operation, the host framework (`FspFsextProviderTransact`), `VersionMajor`, or the wait on
`InitEvent`.  Everything a call does between two such points touches only its own locals, the
context it holds, and its buffer, so it runs inside one atomic step.

`stepCall` is one step of one call, with the outcomes the environment decides (what the host
framework returns, where the allocator puts a context, how the wait ends) given as a `Choice`.
`Step` interleaves calls, new calls with any buffers, and `FuseProtoPostForget` from the
expiration routine; `Reachable` is every state those steps reach from the instance that
`FuseDeviceInit` leaves.

The response and the request share one `METHOD_BUFFERED` system buffer: the response is read
from it and the request is written over it.
-/

namespace WinFuse.Engine.Transact

open WinFuse.Wire.Bytes
open WinFuse.Wire.Layout
open WinFuse.Proto.OperationContext
open WinFuse.Proto.Routines
open WinFuse.Engine.Instance
open WinFuse.Engine.Instance.FuseInstance

/-- Where a call resumes. -/
inductive Pc
  /-- Entry: the parameter checks, then `FuseIoqEndProcessing` when there is a response. -/
  | start
  /-- The response half holds the context `FuseIoqEndProcessing` returned. -/
  | responseResume (address : UInt64)
  /-- The response half passes the finished context's internal response up. -/
  | responseForward (address : UInt64)
  /-- The label `request:`. -/
  | request
  /-- Pending was empty: `VersionMajor` is read. -/
  | requestVersion
  /-- The wait on `InitEvent`. -/
  | requestWait
  /-- `FspFsextProviderTransact` is asked for a host request. -/
  | requestAdmit
  /-- The request half holds a context to resume with the output buffer. -/
  | requestResume (address : UInt64)
  /-- `FuseContextCreate` returned a status-only result: its internal response goes up. -/
  | requestStatus (status : NtStatus)
  /-- The request half passes the finished context's internal response up. -/
  | requestForward (address : UInt64)
  /-- The call has returned `result`. -/
  | returned (result : NtStatus)
deriving DecidableEq

/-- The context a call holds at a point, taken from the IOQ or just created. -/
def Pc.held : Pc → Option UInt64
  | .responseResume address | .responseForward address => some address
  | .requestResume address | .requestForward address => some address
  | _ => none

/-- A transact call in progress: its buffer lengths, the system buffer, where it resumes,
`Irp->IoStatus.Information`, and its local `InternalRequest`. -/
structure Call where
  inputBufferLength : Nat
  outputBufferLength : Nat
  buffer : Buffer
  pc : Pc
  information : Nat
  internalRequest : Option InternalRequest

/-- A call as the daemon makes it. -/
def Call.begin (inputBufferLength outputBufferLength : Nat) (buffer : Buffer) : Call :=
  ⟨inputBufferLength, outputBufferLength, buffer, .start, 0, none⟩

/-- How `FsRtlCancellableWaitForSingleObject` returns. -/
inductive WaitResult
  | signalled
  | timeout
  | cancelled
  | threadTerminating
deriving DecidableEq

/-- The status a wait returns. -/
def WaitResult.status : WaitResult → NtStatus
  | .signalled => statusSuccess
  | .timeout => statusTimeout
  | .cancelled => statusCancelled
  | .threadTerminating => statusThreadIsTerminating

/-- `STATUS_TIMEOUT` and `STATUS_THREAD_IS_TERMINATING` become `STATUS_CANCELLED`. -/
def cancelledOnTimeout (status : NtStatus) : NtStatus :=
  if status = statusTimeout ∨ status = statusThreadIsTerminating then statusCancelled
  else status

/-- The outcomes a step leaves to the environment. -/
structure Choice where
  /-- What `FspFsextProviderTransact` returns when it is given an internal response. -/
  forwardResult : NtStatus
  /-- What it returns when asked for a host request, and the request, if any. -/
  pullResult : NtStatus
  pulled : Option InternalRequest
  /-- A status-only result of `FuseContextCreate`. -/
  createStatus : Option NtStatus
  /-- Where `FuseContextCreate` allocates the context. -/
  address : UInt64
  wait : WaitResult

/-! ## The parameter checks -/

/-- `FuseResponse`: the system buffer when the input buffer is not empty. -/
def Call.fuseResponse (call : Call) : Option Buffer :=
  if call.inputBufferLength ≠ 0 then some call.buffer else none

/-- The checks at the top of `FuseDeviceTransact`. -/
def checkParameters (call : Call) : Option NtStatus :=
  if call.inputBufferLength ≠ 0 ∧
      (fuseProtoRspHeaderSize > call.inputBufferLength ∨
        fuseProtoRspHeaderSize > Response.len.read call.buffer ∨
        Response.len.read call.buffer > call.inputBufferLength) then
    some statusInvalidParameter
  else if call.outputBufferLength ≠ 0 ∧ fuseProtoReqSizeMin > call.outputBufferLength then
    some statusBufferTooSmall
  else none

/-- `RtlZeroMemory(FuseRequest, FUSE_PROTO_REQ_HEADER_SIZE)`. -/
def zeroHeader : Write :=
  ⟨0, List.replicate fuseProtoReqHeaderSize 0⟩

/-- The label `exit:`: a host request the call still holds is freed, and the call returns. -/
def exitWith (state : FuseInstance) (call : Call) (result : NtStatus) : FuseInstance × Call :=
  (state.freeExternal call.internalRequest,
    { call with pc := .returned result, internalRequest := none })

/-! ## One step of a call -/

/--
One atomic step of a call, following `FuseDeviceTransact` from where the call resumes to the
next point where it touches shared state.  `none` when the call cannot move: it returned, it
waits on an `InitEvent` that is not signalled, the allocator has no free address for it, or a
resume would go through a missing buffer.
-/
def stepCall (support : Support) (choice : Choice) (state : FuseInstance) (call : Call) :
    Option (FuseInstance × Call) :=
  match call.pc with
  | .start =>
      match checkParameters call with
      | some failure => some (state, { call with pc := .returned failure })
      | none =>
          if call.inputBufferLength ≠ 0 then
            match state.fuseIoqEndProcessing (Response.unique.read call.buffer) with
            | (some address, removed) => some (removed, { call with pc := .responseResume address })
            | (none, unchanged) => some (unchanged, { call with pc := .request })
          else some (state, { call with pc := .request })
  | .responseResume address => do
      let context ← state.contexts address
      let resumed ← fuseContextProcess support address context call.fuseResponse false
      let updated := (state.setContext address resumed.context).completeInit resumed.initVersion
      if resumed.continues then
        pure (updated.fuseIoqPostPending address, { call with pc := .request })
      else if resumed.context.internalRequest = none then
        pure (updated.fuseContextDelete address, { call with pc := .request })
      else pure (updated, { call with pc := .responseForward address })
  | .responseForward address => do
      let context ← state.contexts address
      let request ← context.internalRequest
      let done := (state.forward request.serial context.internalResponse).fuseContextDelete address
      if ntSuccess choice.forwardResult then pure (done, { call with pc := .request })
      else pure (exitWith done call choice.forwardResult)
  | .request =>
      if call.outputBufferLength = 0 then some (exitWith state { call with information := 0 } statusSuccess)
      else
        let cleared := { call with information := 0, buffer := zeroHeader.apply call.buffer }
        match state.pending with
        | address :: rest =>
            some ({ state with pending := rest }, { cleared with pc := .requestResume address })
        | [] => some (state, { cleared with pc := .requestVersion })
  | .requestVersion =>
      if state.versionMajor = 0 then some (state, { call with pc := .requestWait })
      else if state.versionMajor = 0xFFFFFFFF then some (exitWith state call statusAccessDenied)
      else some (state, { call with pc := .requestAdmit })
  | .requestWait =>
      if choice.wait = .signalled ∧ state.initEvent = false then none
      else
        let result := cancelledOnTimeout choice.wait.status
        if ntSuccess result = false then some (exitWith state call result)
        else if state.versionMajor = 0xFFFFFFFF then some (exitWith state call statusAccessDenied)
        else some (state, { call with pc := .requestAdmit })
  | .requestAdmit =>
      if ntSuccess choice.pullResult = false then some (exitWith state call choice.pullResult)
      else
        match choice.pulled with
        | none => some (exitWith state { call with information := 0 } statusSuccess)
        | some pulled =>
            let request := { pulled with serial := state.admitted }
            let counted := { state with admitted := state.admitted + 1 }
            match choice.createStatus with
            | some status =>
                some (counted, { call with pc := .requestStatus status, internalRequest := some request })
            | none =>
                if choice.address = 0 ∨ (state.contexts choice.address).isSome then none
                else some (counted.setContext choice.address (hostContext support request),
                  { call with pc := .requestResume choice.address })
  | .requestResume address => do
      let context ← state.contexts address
      let resumed ← fuseContextProcess support address context none true
      let written := applyAll resumed.writes call.buffer
      let filled := { call with buffer := written, information := Request.len.read written }
      let updated := state.setContext address resumed.context
      if resumed.continues then
        pure (exitWith (updated.fuseIoqStartProcessing address) filled statusSuccess)
      else if resumed.context.internalRequest = none then
        if isForget resumed.context then
          if resumed.context.forgetList ≠ [] then
            pure (exitWith (updated.fuseIoqPostPending address) filled statusSuccess)
          else pure (exitWith (updated.fuseContextDelete address) filled statusSuccess)
        else pure (exitWith updated filled statusSuccess)
      else pure (updated, { call with buffer := written, pc := .requestForward address })
  | .requestForward address => do
      let context ← state.contexts address
      let request ← context.internalRequest
      let done := (state.forward request.serial context.internalResponse).fuseContextDelete address
      if ntSuccess choice.forwardResult then
        pure (exitWith done { call with information := Request.len.read call.buffer } statusSuccess)
      else pure (exitWith done call choice.forwardResult)
  | .requestStatus status => do
      let request ← call.internalRequest
      let forwarded := state.forward request.serial ⟨request.kind, request.hint, status⟩
      if ntSuccess choice.forwardResult then
        pure (exitWith forwarded { call with information := Request.len.read call.buffer }
          statusSuccess)
      else pure (exitWith forwarded call choice.forwardResult)
  | .returned _ => none

/-! ## The system -/

/-- The instance and the transact calls made so far. -/
structure System where
  state : FuseInstance
  calls : List Call

/-- The steps of the system. -/
inductive Step (support : Support) : System → System → Prop
  /-- A daemon worker calls `FuseDeviceTransact` with any buffers. -/
  | begin (system : System) (inputBufferLength outputBufferLength : Nat) (buffer : Buffer) :
      Step support system
        { system with
          calls := system.calls ++ [Call.begin inputBufferLength outputBufferLength buffer] }
  /-- One call takes one atomic step. -/
  | call (system : System) (index : Nat) (inside : index < system.calls.length)
      (choice : Choice) (state : FuseInstance) (call : Call)
      (stepped : stepCall support choice system.state (system.calls.get ⟨index, inside⟩) =
        some (state, call)) :
      Step support system ⟨state, system.calls.set index call⟩
  /-- The expiration routine hands a non-empty forget list to `FuseProtoPostForget`, whose
  `FuseContextCreate` puts the context at a free address. -/
  | postForget (system : System) (forgetList : List UInt64) (address : UInt64)
      (nonempty : forgetList ≠ []) (nonzero : address ≠ 0)
      (free : system.state.contexts address = none) :
      Step support system { system with state := system.state.fuseProtoPostForget address forgetList }

/-- The states the system reaches from the instance `FuseDeviceInit` leaves, with the INIT
context at a nonzero address. -/
inductive Reachable (support : Support) : System → Prop
  | initial (address : UInt64) (nonzero : address ≠ 0) :
      Reachable support ⟨FuseInstance.initial address, []⟩
  | step {system next : System} :
      Reachable support system → Step support system next → Reachable support next

/-! ## Runs -/

/-- One scheduled move of a run: a new call, or one step of the call at `index`. -/
inductive Action
  | begin (inputBufferLength outputBufferLength : Nat) (buffer : Buffer)
  | call (index : Nat) (choice : Choice)

/-- The system after one action, or `none` when the call cannot move. -/
def Action.apply (support : Support) (system : System) : Action → Option System
  | .begin inputBufferLength outputBufferLength buffer =>
      some { system with
        calls := system.calls ++ [Call.begin inputBufferLength outputBufferLength buffer] }
  | .call index choice =>
      if inside : index < system.calls.length then
        (stepCall support choice system.state (system.calls.get ⟨index, inside⟩)).map
          fun moved => ⟨moved.1, system.calls.set index moved.2⟩
      else none

/-- The system after a sequence of actions. -/
def run (support : Support) (system : System) : List Action → Option System
  | [] => some system
  | action :: rest => (action.apply support system).bind fun next => run support next rest

/-- Every action that applies is a step. -/
theorem Action.step {support : Support} {system next : System} {action : Action}
    (applied : action.apply support system = some next) : Step support system next := by
  cases action with
  | begin inputBufferLength outputBufferLength buffer =>
    cases applied
    exact .begin system inputBufferLength outputBufferLength buffer
  | call index choice =>
    simp only [Action.apply] at applied
    split at applied
    · obtain ⟨moved, stepped, rfl⟩ := Option.map_eq_some'.1 applied
      exact .call system index ‹_› choice moved.1 moved.2 stepped
    · cases applied

/-- A run from a reachable state ends in a reachable state. -/
theorem reachable_run {support : Support} {system final : System} {actions : List Action}
    (reachable : Reachable support system) (ran : run support system actions = some final) :
    Reachable support final := by
  induction actions generalizing system with
  | nil => cases ran; exact reachable
  | cons action rest ih =>
    obtain ⟨next, applied, ran⟩ := Option.bind_eq_some.1 ran
    exact ih (.step reachable (Action.step applied)) ran

/-- A run from a reachable state whose end, as observed, has a value: the run ends in a reachable
state with that value.  This is how a sample run is evaluated. -/
theorem reachable_run_map {support : Support} {system : System} {actions : List Action}
    {α : Type} {observe : System → α} {value : α} (reachable : Reachable support system)
    (observed : (run support system actions).map observe = some value) :
    ∃ final, run support system actions = some final ∧ Reachable support final ∧
      observe final = value := by
  obtain ⟨final, ran, seen⟩ := Option.map_eq_some'.1 observed
  exact ⟨final, ran, reachable_run reachable ran, seen⟩

/-! ## Sample runs -/

/-- Modelled from the spec: a driver whose host operations are a LOOKUP followed by an OPEN,
with FORGET rather than BATCH_FORGET requests, and every error number mapped to
`STATUS_ACCESS_DENIED`. -/
def lookupOpen : Support :=
  ⟨fun _ => statusAccessDenied, fun _ => [.lookup, .open], false⟩

/-- A buffer of zeros. -/
def zeroBuffer : Buffer := fun _ => 0

/-- The daemon's reply to INIT, for the INIT context at address 1: version 7.31. -/
def initReply : Buffer :=
  applyAll [Response.len.store 24, Response.unique.store 1, Response.initMajor.store 7,
    Response.initMinor.store 31] zeroBuffer

/-- Outcomes where every host call succeeds and no request is handed down. -/
def idle : Choice :=
  ⟨statusSuccess, statusSuccess, none, none, 0, .signalled⟩

/-- Outcomes where the host hands down `request` and its context goes to `address`. -/
def admitting (request : InternalRequest) (address : UInt64) : Choice :=
  ⟨statusSuccess, statusSuccess, some request, none, address, .signalled⟩

/-- From the instance with its INIT context at 1: call 0 sends INIT, and call 1 brings
`initReply`, which completes it. -/
def initExchange : List Action :=
  [.begin 0 8192 zeroBuffer, .call 0 idle, .call 0 idle, .call 0 idle,
   .begin 24 0 initReply, .call 1 idle, .call 1 idle, .call 1 idle]

/-- After `initExchange`, call 2 with `buffer` as output finds pending empty, admits `request`,
whose context goes to 2, and resumes it. -/
def admitAtTwo (buffer : Buffer) (request : InternalRequest) : List Action :=
  [.begin 0 8192 buffer, .call 2 idle, .call 2 idle, .call 2 idle, .call 2 (admitting request 2),
   .call 2 idle]

/-- A host request for `lookupOpen`. -/
def lookupRequest : InternalRequest :=
  ⟨1, 0, 1, LookupName.empty, 0, 0, 0, 0, 0⟩

/-- After `initExchange`, call 2 admits `lookupRequest`, whose context at 2 sends its LOOKUP and
waits in processing for the reply; every call has returned. -/
def lookupSent : List Action :=
  initExchange ++ admitAtTwo zeroBuffer lookupRequest

end WinFuse.Engine.Transact
