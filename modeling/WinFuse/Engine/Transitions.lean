import WinFuse.Engine.Transact

/-!
# The transitions of a transact call

`stepCall` follows the code; `CallStep` lists what one step of it can do, one constructor per
path through `FuseDeviceTransact` between two touches of shared state, with the guard of the
path and its effect on the instance and on the call.  `stepCall_sound` shows that every step
`stepCall` takes is one of them, so the invariants of the engine are proved by cases on
`CallStep` and never unfold `stepCall` again.
-/

namespace WinFuse.Engine.Transitions

open WinFuse.Wire.Bytes
open WinFuse.Wire.Layout
open WinFuse.Proto.OperationContext
open WinFuse.Proto.Routines
open WinFuse.Engine.Instance
open WinFuse.Engine.Instance.FuseInstance
open WinFuse.Engine.Transact

/-! ## `FuseIoqEndProcessing` -/

/-- The processing entry a response's `unique` names, when there is one, is removed. -/
theorem fuseIoqEndProcessing_eq_some {state : FuseInstance} {unique : Nat}
    {address : UInt64} {removed : FuseInstance}
    (ended : state.fuseIoqEndProcessing unique = (some address, removed)) :
    address ∈ state.processing ∧ address.toNat = unique ∧
      removed = { state with processing := state.processing.erase address } := by
  unfold fuseIoqEndProcessing at ended
  split at ended
  · rename_i found
    simp only [Prod.mk.injEq, Option.some.injEq] at ended
    obtain ⟨rfl, rfl⟩ := ended
    exact ⟨List.mem_of_find?_eq_some found, by simpa using (List.find?_some found), rfl⟩
  · simp at ended

/-- A `unique` that names no processing entry leaves the instance alone. -/
theorem fuseIoqEndProcessing_eq_none {state : FuseInstance} {unique : Nat}
    {unchanged : FuseInstance}
    (ended : state.fuseIoqEndProcessing unique = (none, unchanged)) :
    (∀ address ∈ state.processing, address.toNat ≠ unique) ∧ unchanged = state := by
  unfold fuseIoqEndProcessing at ended
  split at ended
  · simp at ended
  · rename_i missing
    simp only [Prod.mk.injEq, true_and] at ended
    refine ⟨fun address member keyed => ?_, ended.symm⟩
    exact List.find?_eq_none.1 missing address member (by simpa using keyed)

/-! ## The paths of `FuseDeviceTransact` -/

variable (support : Support) (choice : Choice)

/-- One step of one call, by the path it takes through `FuseDeviceTransact`. -/
inductive CallStep : FuseInstance → Call → FuseInstance → Call → Prop
  /-- A parameter check fails. -/
  | rejected {state call failure} (atStart : call.pc = .start)
      (invalid : checkParameters call = some failure) :
      CallStep state call state { call with pc := .returned failure }
  /-- No response: straight to `request:`. -/
  | noResponse {state call} (atStart : call.pc = .start) (valid : checkParameters call = none)
      (empty : call.inputBufferLength = 0) :
      CallStep state call state { call with pc := .request }
  /-- The response's `unique` names no processing entry: `goto request`. -/
  | unmatched {state call} (atStart : call.pc = .start) (valid : checkParameters call = none)
      (nonempty : call.inputBufferLength ≠ 0)
      (unknown : ∀ address ∈ state.processing,
        address.toNat ≠ Response.unique.read call.buffer) :
      CallStep state call state { call with pc := .request }
  /-- `FuseIoqEndProcessing` removes the context the response's `unique` names. -/
  | matched {state call address} (atStart : call.pc = .start)
      (valid : checkParameters call = none) (nonempty : call.inputBufferLength ≠ 0)
      (member : address ∈ state.processing)
      (keyed : address.toNat = Response.unique.read call.buffer) :
      CallStep state call { state with processing := state.processing.erase address }
        { call with pc := .responseResume address }
  /-- The resumed operation continues: `FuseIoqPostPending`. -/
  | responseRepost {state call address context resumed}
      (atResume : call.pc = .responseResume address)
      (live : state.contexts address = some context)
      (process : fuseContextProcess support address context call.fuseResponse false =
        some resumed)
      (continues : resumed.continues = true) :
      CallStep state call
        (((state.setContext address resumed.context).completeInit
          resumed.initVersion).fuseIoqPostPending address)
        { call with pc := .request }
  /-- The resumed operation of the driver's own finished: `FuseContextDelete`. -/
  | responseDelete {state call address context resumed}
      (atResume : call.pc = .responseResume address)
      (live : state.contexts address = some context)
      (process : fuseContextProcess support address context call.fuseResponse false =
        some resumed)
      (stops : resumed.continues = false)
      (unowned : resumed.context.internalRequest = none) :
      CallStep state call
        (((state.setContext address resumed.context).completeInit
          resumed.initVersion).fuseContextDelete address)
        { call with pc := .request }
  /-- The resumed operation of a host request finished: its response goes up next. -/
  | responseFinish {state call address context resumed request}
      (atResume : call.pc = .responseResume address)
      (live : state.contexts address = some context)
      (process : fuseContextProcess support address context call.fuseResponse false =
        some resumed)
      (stops : resumed.continues = false)
      (owner : resumed.context.internalRequest = some request) :
      CallStep state call
        ((state.setContext address resumed.context).completeInit resumed.initVersion)
        { call with pc := .responseForward address }
  /-- The response half's `FspFsextProviderTransact` succeeds, and `FuseContextDelete`. -/
  | responseForwarded {state call address context request}
      (atForward : call.pc = .responseForward address)
      (live : state.contexts address = some context)
      (owner : context.internalRequest = some request)
      (successful : ntSuccess choice.forwardResult = true) :
      CallStep state call
        ((state.forward request.serial context.internalResponse).fuseContextDelete address)
        { call with pc := .request }
  /-- The response half's `FspFsextProviderTransact` fails, `FuseContextDelete`, and
  `goto exit`. -/
  | responseForwardFailed {state call address context request}
      (atForward : call.pc = .responseForward address)
      (live : state.contexts address = some context)
      (owner : context.internalRequest = some request)
      (unsuccessful : ntSuccess choice.forwardResult = false) :
      CallStep state call
        (((state.forward request.serial context.internalResponse).fuseContextDelete
          address).freeExternal call.internalRequest)
        { call with pc := .returned choice.forwardResult, internalRequest := none }
  /-- No output buffer: the call returns. -/
  | requestSkipped {state call} (atRequest : call.pc = .request)
      (empty : call.outputBufferLength = 0) :
      CallStep state call (state.freeExternal call.internalRequest)
        { call with information := 0, pc := .returned statusSuccess, internalRequest := none }
  /-- `FuseIoqNextPending` returns the head of pending. -/
  | requestPending {state call address rest} (atRequest : call.pc = .request)
      (nonempty : call.outputBufferLength ≠ 0) (head : state.pending = address :: rest) :
      CallStep state call { state with pending := rest }
        { call with
          information := 0
          buffer := zeroHeader.apply call.buffer
          pc := .requestResume address }
  /-- Pending is empty: `VersionMajor` is read next. -/
  | requestIdle {state call} (atRequest : call.pc = .request)
      (nonempty : call.outputBufferLength ≠ 0) (empty : state.pending = []) :
      CallStep state call state
        { call with
          information := 0
          buffer := zeroHeader.apply call.buffer
          pc := .requestVersion }
  /-- INIT has not completed: the call waits on `InitEvent`. -/
  | versionUnset {state call} (atVersion : call.pc = .requestVersion)
      (unset : state.versionMajor = 0) :
      CallStep state call state { call with pc := .requestWait }
  /-- INIT failed: `STATUS_ACCESS_DENIED`. -/
  | versionDenied {state call} (atVersion : call.pc = .requestVersion)
      (failed : state.versionMajor = 0xFFFFFFFF) :
      CallStep state call (state.freeExternal call.internalRequest)
        { call with pc := .returned statusAccessDenied, internalRequest := none }
  /-- INIT succeeded: a host request is asked for. -/
  | versionSet {state call} (atVersion : call.pc = .requestVersion)
      (set : state.versionMajor ≠ 0) (usable : state.versionMajor ≠ 0xFFFFFFFF) :
      CallStep state call state { call with pc := .requestAdmit }
  /-- The wait ends without success: the call returns its status. -/
  | waitFailed {state call} (atWait : call.pc = .requestWait)
      (unsuccessful : ntSuccess (cancelledOnTimeout choice.wait.status) = false) :
      CallStep state call (state.freeExternal call.internalRequest)
        { call with
          pc := .returned (cancelledOnTimeout choice.wait.status)
          internalRequest := none }
  /-- `InitEvent` is signalled and INIT failed: `STATUS_ACCESS_DENIED`. -/
  | waitDenied {state call} (atWait : call.pc = .requestWait)
      (signalled : choice.wait = .signalled) (event : state.initEvent = true)
      (failed : state.versionMajor = 0xFFFFFFFF) :
      CallStep state call (state.freeExternal call.internalRequest)
        { call with pc := .returned statusAccessDenied, internalRequest := none }
  /-- `InitEvent` is signalled and INIT succeeded: a host request is asked for. -/
  | waitAdmit {state call} (atWait : call.pc = .requestWait)
      (signalled : choice.wait = .signalled) (event : state.initEvent = true)
      (usable : state.versionMajor ≠ 0xFFFFFFFF) :
      CallStep state call state { call with pc := .requestAdmit }
  /-- `FspFsextProviderTransact` fails to hand a request down. -/
  | admitFailed {state call} (atAdmit : call.pc = .requestAdmit)
      (unsuccessful : ntSuccess choice.pullResult = false) :
      CallStep state call (state.freeExternal call.internalRequest)
        { call with pc := .returned choice.pullResult, internalRequest := none }
  /-- No host request is waiting. -/
  | admitNone {state call} (atAdmit : call.pc = .requestAdmit)
      (successful : ntSuccess choice.pullResult = true) (nothing : choice.pulled = none) :
      CallStep state call (state.freeExternal call.internalRequest)
        { call with information := 0, pc := .returned statusSuccess, internalRequest := none }
  /-- `FuseContextCreate` returns a status-only result: the call keeps the request. -/
  | admitStatus {state call pulled status} (atAdmit : call.pc = .requestAdmit)
      (successful : ntSuccess choice.pullResult = true) (handed : choice.pulled = some pulled)
      (statusOnly : choice.createStatus = some status) :
      CallStep state call { state with admitted := state.admitted + 1 }
        { call with
          pc := .requestStatus status
          internalRequest := some { pulled with serial := state.admitted } }
  /-- `FuseContextCreate` makes a context that owns the request, at a free address. -/
  | admitContext {state call pulled} (atAdmit : call.pc = .requestAdmit)
      (successful : ntSuccess choice.pullResult = true) (handed : choice.pulled = some pulled)
      (created : choice.createStatus = none) (nonzero : choice.address ≠ 0)
      (free : state.contexts choice.address = none) :
      CallStep state call
        ({ state with admitted := state.admitted + 1 }.setContext choice.address
          (hostContext support { pulled with serial := state.admitted }))
        { call with pc := .requestResume choice.address }
  /-- The resumed operation wrote a request and waits for its reply:
  `FuseIoqStartProcessing`. -/
  | requestStarted {state call address context resumed}
      (atResume : call.pc = .requestResume address)
      (live : state.contexts address = some context)
      (process : fuseContextProcess support address context none true = some resumed)
      (continues : resumed.continues = true) :
      CallStep state call
        (((state.setContext address resumed.context).fuseIoqStartProcessing address).freeExternal
          call.internalRequest)
        { call with
          buffer := applyAll resumed.writes call.buffer
          information := Request.len.read (applyAll resumed.writes call.buffer)
          pc := .returned statusSuccess
          internalRequest := none }
  /-- A FORGET operation with inodes left: `FuseIoqPostPending`. -/
  | requestReposted {state call address context resumed}
      (atResume : call.pc = .requestResume address)
      (live : state.contexts address = some context)
      (process : fuseContextProcess support address context none true = some resumed)
      (stops : resumed.continues = false) (unowned : resumed.context.internalRequest = none)
      (forget : isForget resumed.context = true) (remaining : resumed.context.forgetList ≠ []) :
      CallStep state call
        (((state.setContext address resumed.context).fuseIoqPostPending address).freeExternal
          call.internalRequest)
        { call with
          buffer := applyAll resumed.writes call.buffer
          information := Request.len.read (applyAll resumed.writes call.buffer)
          pc := .returned statusSuccess
          internalRequest := none }
  /-- A FORGET operation whose list is empty: `FuseContextDelete`. -/
  | requestDrained {state call address context resumed}
      (atResume : call.pc = .requestResume address)
      (live : state.contexts address = some context)
      (process : fuseContextProcess support address context none true = some resumed)
      (stops : resumed.continues = false) (unowned : resumed.context.internalRequest = none)
      (forget : isForget resumed.context = true) (drained : resumed.context.forgetList = []) :
      CallStep state call
        (((state.setContext address resumed.context).fuseContextDelete address).freeExternal
          call.internalRequest)
        { call with
          buffer := applyAll resumed.writes call.buffer
          information := Request.len.read (applyAll resumed.writes call.buffer)
          pc := .returned statusSuccess
          internalRequest := none }
  /-- An operation of the driver's own, not a FORGET, that stopped: the `switch` has no case
  for it and the context is neither posted nor deleted. -/
  | requestAbandoned {state call address context resumed}
      (atResume : call.pc = .requestResume address)
      (live : state.contexts address = some context)
      (process : fuseContextProcess support address context none true = some resumed)
      (stops : resumed.continues = false) (unowned : resumed.context.internalRequest = none)
      (other : isForget resumed.context = false) :
      CallStep state call
        ((state.setContext address resumed.context).freeExternal call.internalRequest)
        { call with
          buffer := applyAll resumed.writes call.buffer
          information := Request.len.read (applyAll resumed.writes call.buffer)
          pc := .returned statusSuccess
          internalRequest := none }
  /-- The operation of a host request finished in the request half: its response goes up
  next. -/
  | requestFinish {state call address context resumed request}
      (atResume : call.pc = .requestResume address)
      (live : state.contexts address = some context)
      (process : fuseContextProcess support address context none true = some resumed)
      (stops : resumed.continues = false)
      (owner : resumed.context.internalRequest = some request) :
      CallStep state call (state.setContext address resumed.context)
        { call with
          buffer := applyAll resumed.writes call.buffer
          pc := .requestForward address }
  /-- The request half's `FspFsextProviderTransact` and `FuseContextDelete`. -/
  | requestForward {state call address context request}
      (atForward : call.pc = .requestForward address)
      (live : state.contexts address = some context)
      (owner : context.internalRequest = some request) :
      CallStep state call
        (((state.forward request.serial context.internalResponse).fuseContextDelete
          address).freeExternal call.internalRequest)
        (if ntSuccess choice.forwardResult then
          { call with
            information := Request.len.read call.buffer
            pc := .returned statusSuccess
            internalRequest := none }
        else { call with pc := .returned choice.forwardResult, internalRequest := none })
  /-- The internal response of a status-only result goes up, and the request is freed. -/
  | requestStatus {state call status request} (atStatus : call.pc = .requestStatus status)
      (held : call.internalRequest = some request) :
      CallStep state call
        ((state.forward request.serial ⟨request.kind, request.hint, status⟩).freeExternal
          call.internalRequest)
        (if ntSuccess choice.forwardResult then
          { call with
            information := Request.len.read call.buffer
            pc := .returned statusSuccess
            internalRequest := none }
        else { call with pc := .returned choice.forwardResult, internalRequest := none })

/-! ## Soundness -/

variable {support choice}

/-- Every step `stepCall` takes is a path of `CallStep`. -/
theorem stepCall_sound {state state' : FuseInstance} {call call' : Call}
    (stepped : stepCall support choice state call = some (state', call')) :
    CallStep support choice state call state' call' := by
  unfold stepCall at stepped
  cases atPc : call.pc with
  | start =>
    simp only [atPc] at stepped
    split at stepped
    · rename_i failure invalid
      cases stepped
      exact .rejected atPc invalid
    · rename_i valid
      split at stepped
      · rename_i nonempty
        split at stepped
        · rename_i address removed ended
          obtain ⟨member, keyed, rfl⟩ := fuseIoqEndProcessing_eq_some ended
          cases stepped
          exact .matched atPc valid nonempty member keyed
        · rename_i unchanged ended
          obtain ⟨unknown, rfl⟩ := fuseIoqEndProcessing_eq_none ended
          cases stepped
          exact .unmatched atPc valid nonempty unknown
      · cases stepped
        exact .noResponse atPc valid (by simpa using ‹¬call.inputBufferLength ≠ 0›)
  | responseResume address =>
    simp only [atPc, bind, Option.bind_eq_some] at stepped
    obtain ⟨context, live, resumed, process, rest⟩ := stepped
    split at rest
    · cases rest
      exact .responseRepost atPc live process ‹_›
    · split at rest
      · cases rest
        exact .responseDelete atPc live process (by simpa using ‹¬resumed.continues = true›) ‹_›
      · cases rest
        obtain ⟨request, owner⟩ := Option.ne_none_iff_exists'.1 ‹_›
        exact .responseFinish atPc live process (by simpa using ‹¬resumed.continues = true›) owner
  | responseForward address =>
    simp only [atPc, bind, Option.bind_eq_some] at stepped
    obtain ⟨context, live, request, owner, rest⟩ := stepped
    split at rest
    · cases rest
      exact .responseForwarded atPc live owner ‹_›
    · rename_i unsuccessful
      cases rest
      exact .responseForwardFailed atPc live owner (by simpa using unsuccessful)
  | request =>
    simp only [atPc] at stepped
    split at stepped
    · cases stepped
      exact .requestSkipped atPc ‹_›
    · split at stepped
      · cases stepped
        exact .requestPending atPc ‹_› ‹_›
      · cases stepped
        exact .requestIdle atPc ‹_› ‹_›
  | requestVersion =>
    simp only [atPc] at stepped
    split at stepped
    · cases stepped
      exact .versionUnset atPc ‹_›
    · split at stepped
      · cases stepped
        exact .versionDenied atPc ‹_›
      · cases stepped
        exact .versionSet atPc ‹_› ‹_›
  | requestWait =>
    simp only [atPc] at stepped
    split at stepped
    · cases stepped
    · rename_i blocked
      split at stepped
      · cases stepped
        exact .waitFailed atPc ‹_›
      · rename_i successful
        have signalled : choice.wait = .signalled := by
          revert successful; cases choice.wait <;> decide
        have event : state.initEvent = true := by simpa [signalled] using blocked
        split at stepped
        · cases stepped
          exact .waitDenied atPc signalled event ‹_›
        · cases stepped
          exact .waitAdmit atPc signalled event ‹_›
  | requestAdmit =>
    simp only [atPc] at stepped
    split at stepped
    · cases stepped
      exact .admitFailed atPc ‹_›
    · rename_i pulledOk
      have successful : ntSuccess choice.pullResult = true := by simpa using pulledOk
      split at stepped
      · cases stepped
        exact .admitNone atPc successful ‹_›
      · split at stepped
        · cases stepped
          exact .admitStatus atPc successful ‹_› ‹_›
        · split at stepped
          · cases stepped
          · rename_i allocated
            simp only [not_or, Option.not_isSome_iff_eq_none] at allocated
            cases stepped
            exact .admitContext atPc successful ‹_› ‹_› allocated.1 allocated.2
  | requestResume address =>
    simp only [atPc, bind, Option.bind_eq_some] at stepped
    obtain ⟨context, live, resumed, process, rest⟩ := stepped
    split at rest
    · cases rest
      exact .requestStarted atPc live process ‹_›
    · have stops : resumed.continues = false := by simpa using ‹¬resumed.continues = true›
      split at rest
      · split at rest
        · split at rest
          · cases rest
            exact .requestReposted atPc live process stops ‹_› ‹_› ‹_›
          · rename_i drained
            cases rest
            exact .requestDrained atPc live process stops ‹_› ‹_› (by simpa using drained)
        · rename_i other
          cases rest
          exact .requestAbandoned atPc live process stops ‹_› (by simpa using other)
      · cases rest
        obtain ⟨request, owner⟩ := Option.ne_none_iff_exists'.1 ‹_›
        exact .requestFinish atPc live process stops owner
  | requestForward address =>
    simp only [atPc, bind, Option.bind_eq_some] at stepped
    obtain ⟨context, live, request, owner, rest⟩ := stepped
    have step := @CallStep.requestForward support choice state call address context request
      atPc live owner
    split at rest <;> cases rest <;> simpa [exitWith, *] using step
  | requestStatus status =>
    simp only [atPc, bind, Option.bind_eq_some] at stepped
    obtain ⟨request, held, rest⟩ := stepped
    have step := @CallStep.requestStatus support choice state call status request atPc held
    split at rest <;> cases rest <;> simpa [exitWith, *] using step
  | returned result =>
    simp [atPc] at stepped

end WinFuse.Engine.Transitions
