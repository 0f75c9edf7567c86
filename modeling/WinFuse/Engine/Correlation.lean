import Mathlib.Data.List.Nodup
import WinFuse.Engine.Lifecycle

/-!
# Responses and the processing map

A response names the context it answers by `unique`, which `FuseProtoInitRequest` sets to the
context's address.  In every reachable state the processing map holds each of its contexts
once, each waiting for the reply to the one request it emitted when it was inserted, and no
context in pending or in a request half waits for one.  The response half resumes only the
context `FuseIoqEndProcessing` removed under the response's `unique`, a response whose `unique`
names no processing entry leaves the instance alone, and a context enters processing only in
the step that wrote a request carrying its address as `unique`.

The `unique` names a context, not a request: every request of one operation carries the same
one.  So a response that repeats an earlier one, arriving while the same context waits for the
reply to its next request, is taken as that reply; `duplicate_response_resumes` runs the
driver into that state.
-/

namespace WinFuse.Engine.Correlation

open WinFuse.Wire.Bytes
open WinFuse.Wire.Layout
open WinFuse.Proto.OperationContext
open WinFuse.Proto.Encode
open WinFuse.Proto.Routines
open WinFuse.Engine.Instance
open WinFuse.Engine.Instance.FuseInstance
open WinFuse.Engine.Transact
open WinFuse.Engine.Transitions
open WinFuse.Engine.Invariants
open WinFuse.Engine.Preservation

@[simp]
theorem fuseContextDelete_processing (state : FuseInstance) (address : UInt64) :
    (state.fuseContextDelete address).processing = state.processing := by
  unfold fuseContextDelete
  split <;> rfl

@[simp]
theorem completeInit_processing (state : FuseInstance) (version : Option (Nat × Nat)) :
    (state.completeInit version).processing = state.processing := by
  cases version <;> rfl

/-! ## What a step does to the processing map -/

section Paths

variable {support : Support} {choice : Choice} {state state' : FuseInstance} {call call' : Call}

/-- A call step leaves the processing map alone, removes the entry a response names, or
inserts the context whose request it just wrote. -/
theorem callStep_processing (step : CallStep support choice state call state' call') :
    (state'.processing = state.processing ∧ ∀ address, call'.pc ≠ .responseResume address) ∨
    (∃ address, call.pc = .start ∧ call'.pc = .responseResume address ∧
      address ∈ state.processing ∧ address.toNat = Response.unique.read call.buffer ∧
      state'.processing = state.processing.erase address) ∨
    (∃ address context resumed, call.pc = .requestResume address ∧
      state.contexts address = some context ∧
      fuseContextProcess support address context none true = some resumed ∧
      resumed.continues = true ∧ call'.buffer = applyAll resumed.writes call.buffer ∧
      state'.contexts address = some resumed.context ∧
      state'.processing = address :: state.processing ∧
      ∀ other, call'.pc ≠ .responseResume other) := by
  cases step with
  | @matched address atStart _ _ member keyed =>
    exact .inr (.inl ⟨address, atStart, rfl, member, keyed, rfl⟩)
  | @requestStarted address context resumed atResume live process continues =>
    exact .inr (.inr ⟨address, context, resumed, atResume, live, process, continues, rfl,
      by simp [freeExternal, fuseIoqStartProcessing, setContext], rfl, by simp⟩)
  | requestForward | requestStatus =>
    exact .inl ⟨by simp [forward, freeExternal], fun _ => by split <;> simp⟩
  | responseRepost | responseDelete | responseFinish | responseForwarded
  | responseForwardFailed | requestReposted | requestDrained | requestAbandoned
  | requestFinish | admitContext =>
    exact .inl ⟨by simp [setContext, fuseIoqPostPending, forward, freeExternal], by simp⟩
  | rejected | noResponse | unmatched | requestSkipped | requestPending | requestIdle
  | versionUnset | versionDenied | versionSet | waitFailed | waitDenied | waitAdmit
  | admitFailed | admitNone | admitStatus =>
    exact .inl ⟨by simp [freeExternal], by simp⟩

theorem stepCall_unmatched (atStart : call.pc = .start)
    (unknown : ∀ address ∈ state.processing, address.toNat ≠ Response.unique.read call.buffer)
    (stepped : stepCall support choice state call = some (state', call')) : state' = state := by
  simp only [stepCall, atStart] at stepped
  split at stepped
  · cases stepped; rfl
  · split at stepped
    · split at stepped <;> rename_i ended <;> cases stepped
      · exact absurd (fuseIoqEndProcessing_eq_some ended).2.1
          (unknown _ (fuseIoqEndProcessing_eq_some ended).1)
      · exact (fuseIoqEndProcessing_eq_none ended).2
    · cases stepped; rfl

end Paths

/-! ## Responses resume only what they name -/

/--
In every reachable state the `unique`s of the processing map are distinct, and each of its
contexts waits for the reply to the one request it emitted and is no FORGET operation; the
contexts in pending and in a request half wait for none; a response half holds the context the
response's `unique` named, waiting; no context took more responses than it emitted requests.
A step matches a response only to the processing entry its `unique` names, and removes it; a
response that names none leaves the instance alone; and a context enters processing only in the
step that wrote its request, whose `unique` is the context's address.
-/
theorem responses_resume_processing {support : Support} {system : System}
    (reachable : Reachable support system) :
    (system.state.processing.map UInt64.toNat).Nodup ∧
    (∀ address ∈ system.state.processing, ∃ context,
      system.state.contexts address = some context ∧ context.coroState = .reply ∧
        isForget context = false ∧ context.ghost.sent = context.ghost.answered + 1) ∧
    (∀ address ∈ system.state.pending, ∃ context,
      system.state.contexts address = some context ∧ context.coroState = .ready) ∧
    (∀ call ∈ system.calls, ∀ address, call.pc = .requestResume address → ∃ context,
      system.state.contexts address = some context ∧ context.coroState = .ready) ∧
    (∀ call ∈ system.calls, ∀ address, call.pc = .responseResume address →
      address.toNat = Response.unique.read call.buffer ∧ ∃ context,
        system.state.contexts address = some context ∧ context.coroState = .reply) ∧
    (∀ address context, system.state.contexts address = some context →
      context.ghost.answered ≤ context.ghost.sent) ∧
    (∀ call ∈ system.calls, ∀ choice state' call',
      stepCall support choice system.state call = some (state', call') →
      (∀ address, call'.pc = .responseResume address →
        address ∈ system.state.processing ∧
          address.toNat = Response.unique.read call.buffer ∧
          state'.processing = system.state.processing.erase address) ∧
      (call.pc = .start → (∀ address ∈ system.state.processing,
          address.toNat ≠ Response.unique.read call.buffer) → state' = system.state) ∧
      (∀ address ∈ state'.processing, address ∉ system.state.processing →
        call.pc = .requestResume address ∧ Request.unique.read call'.buffer = address.toNat ∧
          ∃ context, state'.contexts address = some context ∧ context.coroState = .reply ∧
            isForget context = false)) := by
  have inv := invariant_reachable reachable
  have counted : ∀ address context, system.state.contexts address = some context →
      context.ghost.sent = context.ghost.answered +
        if context.coroState = .reply then 1 else 0 :=
    fun address context live => (inv.contexts address context live).counted
  refine ⟨?_, fun address member => ?_, inv.pendingReady, fun call member address atResume => ?_,
    fun call member address atResume => ?_, fun address context live => ?_,
    fun call member choice state' call' stepped => ?_⟩
  · refine (List.nodup_iff_count_le_one.2 fun address => ?_).map fun _ _ => UInt64.toNat.inj
    by_cases member : address ∈ system.state.processing
    · exact (inv.processing_alone member).2.1.le
    · rw [List.count_eq_zero.2 member]
      exact Nat.zero_le _
  · obtain ⟨context, live, reply, notForget⟩ := inv.processingAwaiting address member
    refine ⟨context, live, reply, notForget, ?_⟩
    simpa [reply] using counted address context live
  · have holds := inv.calls call member
    simp only [CallInv, atResume] at holds
    exact holds.2
  · have holds := inv.calls call member
    simp only [CallInv, atResume] at holds
    obtain ⟨-, -, keyed, context, live, reply, -⟩ := holds
    exact ⟨keyed, context, live, reply⟩
  · have := counted address context live
    omega
  have step := stepCall_sound stepped
  refine ⟨fun address atResume => ?_, fun atStart unknown => stepCall_unmatched atStart unknown
    stepped, fun address inserted fresh => ?_⟩
  · rcases callStep_processing step with ⟨-, other⟩ | ⟨matched, -, matchedPc, rest⟩ |
        ⟨-, -, -, -, -, -, -, -, -, -, other⟩
    · exact absurd atResume (other address)
    · rw [matchedPc, Pc.responseResume.injEq] at atResume
      subst atResume
      exact rest
    · exact absurd atResume (other address)
  · rcases callStep_processing step with ⟨same, -⟩ | ⟨removed, -, -, -, -, erased⟩ |
        ⟨started, context, resumed, atResume, live, process, continues, written, placed,
          processing, -⟩
    · exact absurd (same ▸ inserted) fresh
    · exact absurd (List.mem_of_mem_erase (erased ▸ inserted)) fresh
    · have isStarted : address = started := by
        rw [processing, List.mem_cons] at inserted
        exact inserted.resolve_right fresh
      subst isStarted
      have holds := inv.calls call member
      simp only [CallInv, atResume] at holds
      obtain ⟨-, context', live', ready⟩ := holds
      cases live.symm.trans live'
      obtain ⟨⟨send, sent⟩, reply⟩ := fuseContextProcess_continues process continues
      rcases (inv.contexts _ _ live).request ready process with
        ⟨-, -, notForget, -⟩ | ⟨stops, -⟩ | ⟨stops, -⟩
      · exact ⟨atResume, by rw [written]; exact sendRequest_unique sent call.buffer,
          resumed.context, placed, reply, notForget⟩
      all_goals exact absurd (continues.symm.trans stops) (by decide)

/-- After the INIT exchange and the admission of a host request, the context at 2 that sent its
LOOKUP is the one processing entry, and it waits for the reply to that one request. -/
theorem responses_resume_processing_admitted :
    ∃ system, run lookupOpen ⟨FuseInstance.initial 1, []⟩ lookupSent = some system ∧
      Reachable lookupOpen system ∧ system.state.processing = [2] ∧
      ∃ context, system.state.contexts 2 = some context ∧ context.coroState = .reply ∧
        isForget context = false ∧ context.ghost.sent = context.ghost.answered + 1 := by
  obtain ⟨system, ran, reachable, observed⟩ := reachable_run_map (.initial 1 (by decide))
    (by decide : (run lookupOpen ⟨FuseInstance.initial 1, []⟩ lookupSent).map
      (fun system => system.state.processing) = some [2])
  exact ⟨system, ran, reachable, observed,
    (responses_resume_processing reachable).2.1 2 (by simp [observed])⟩

/-! ## A repeated response is taken as the next reply -/

/-- The daemon's reply to the LOOKUP of the context at address 2, with no error. -/
def lookupReply : Buffer :=
  applyAll [Response.len.store 16, Response.unique.store 2] zeroBuffer

/-- INIT completes; call 2 admits a host request whose context at 2 sends its LOOKUP; call 3
carries `lookupReply`, and the context is posted for its OPEN; call 4 sends the OPEN; call 5
carries `lookupReply` again. -/
def duplicateScript : List Action :=
  initExchange ++ admitAtTwo zeroBuffer lookupRequest ++
  [.begin 16 0 lookupReply, .call 3 idle, .call 3 idle, .call 3 idle,
   .begin 0 8192 zeroBuffer, .call 4 idle, .call 4 idle, .call 4 idle,
   .begin 16 0 lookupReply, .call 5 idle]

/-- A reachable state where call 3 carried `lookupReply`, which the context at 2 took as the
reply to its LOOKUP, and call 5, carrying the same bytes, has had them matched to that context
again, while it waits for the reply to its OPEN. -/
theorem duplicate_response_resumes :
    ∃ system, Reachable lookupOpen system ∧
      (system.calls.map fun call => (call.inputBufferLength, call.pc)).drop 3 =
        [(16, .returned statusSuccess), (0, .returned statusSuccess), (16, .responseResume 2)] ∧
      system.calls[3]?.map (·.buffer) = some lookupReply ∧
      system.calls[5]?.map (·.buffer) = some lookupReply ∧
      (system.state.contexts 2).map (fun context =>
        (context.coroState, context.routine, context.ghost.sent, context.ghost.answered)) =
        some (.reply, [.open], 2, 1) :=
  ⟨_, @reachable_run lookupOpen _ _ duplicateScript (.initial 1 (by decide)) rfl, by decide, rfl,
    rfl, by decide⟩

end WinFuse.Engine.Correlation
