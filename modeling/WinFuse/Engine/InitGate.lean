import WinFuse.Engine.Lifecycle

/-!
# The INIT handshake gates admission

`VersionMajor` changes once, from 0 to the negotiated major or to `(UINT32)-1`, in the step
that completes the INIT exchange, and `InitEvent` is signalled in that step and stays so.  The
completion is the response-half resume of the INIT context, and there is one INIT context,
deleted in that step.  A call asks the host framework for a request only after reading a usable
`VersionMajor`, and `VersionMajor` cannot change under it; after a failed INIT a call that finds
pending empty returns `STATUS_ACCESS_DENIED`, and after a successful one it never waits.
-/

namespace WinFuse.Engine.InitGate

open WinFuse.Wire.Bytes
open WinFuse.Proto.OperationContext
open WinFuse.Proto.Routines
open WinFuse.Engine.Instance
open WinFuse.Engine.Instance.FuseInstance
open WinFuse.Engine.Transact
open WinFuse.Engine.Transitions
open WinFuse.Engine.Invariants
open WinFuse.Engine.Preservation
open WinFuse.Engine.Lifecycle

variable {support : Support} {choice : Choice} {state state' : FuseInstance} {call call' : Call}

@[simp]
theorem fuseContextDelete_versionMajor (state : FuseInstance) (address : UInt64) :
    (state.fuseContextDelete address).versionMajor = state.versionMajor := by
  unfold fuseContextDelete
  split <;> rfl

@[simp]
theorem fuseContextDelete_initEvent (state : FuseInstance) (address : UInt64) :
    (state.fuseContextDelete address).initEvent = state.initEvent := by
  unfold fuseContextDelete
  split <;> rfl

/-- A call step leaves `VersionMajor` and `InitEvent` alone, or it is the response-half resume
whose operation carries a completed INIT exchange's version. -/
theorem callStep_version (step : CallStep support choice state call state' call') :
    (state'.versionMajor = state.versionMajor ∧ state'.initEvent = state.initEvent) ∨
    ∃ address context resumed version, call.pc = .responseResume address ∧
      state.contexts address = some context ∧
      fuseContextProcess support address context call.fuseResponse false = some resumed ∧
      resumed.initVersion = some version ∧ state'.versionMajor = version.1 ∧
      state'.initEvent = true := by
  cases step with
  | responseRepost atResume live process =>
    cases completed : ‹Resumed›.initVersion with
    | none => exact .inl (by simp [completed, fuseIoqPostPending, setContext])
    | some version =>
      exact .inr ⟨_, _, _, version, atResume, live, process, completed,
        by simp [completed, fuseIoqPostPending, completeInit],
        by simp [completed, fuseIoqPostPending, completeInit]⟩
  | responseDelete atResume live process =>
    cases completed : ‹Resumed›.initVersion with
    | none => exact .inl (by simp [completed, setContext])
    | some version =>
      exact .inr ⟨_, _, _, version, atResume, live, process, completed,
        by simp [completed, completeInit], by simp [completed, completeInit]⟩
  | responseFinish atResume live process =>
    cases completed : ‹Resumed›.initVersion with
    | none => exact .inl (by simp [completed, setContext])
    | some version =>
      exact .inr ⟨_, _, _, version, atResume, live, process, completed,
        by simp [completed, completeInit], by simp [completed, completeInit]⟩
  | _ => exact .inl (by simp [setContext, fuseIoqPostPending, fuseIoqStartProcessing, forward,
      freeExternal])

/-- Every step leaves `VersionMajor` and `InitEvent` alone, except the one that completes the
INIT exchange: `VersionMajor` goes from 0 to a nonzero value and `InitEvent` is signalled. -/
theorem step_version {system next : System} (inv : Invariant support system)
    (step : Step support system next) :
    (next.state.versionMajor = system.state.versionMajor ∧
        next.state.initEvent = system.state.initEvent) ∨
      (system.state.versionMajor = 0 ∧ next.state.versionMajor ≠ 0 ∧
        next.state.initEvent = true) := by
  cases step with
  | begin => exact .inl ⟨rfl, rfl⟩
  | postForget => exact .inl ⟨rfl, rfl⟩
  | call index inside choice state call stepped =>
    rcases callStep_version (stepCall_sound stepped) with kept | ⟨address, context, resumed,
      version, atResume, live, process, completed, major, event⟩
    · exact .inl kept
    · have holds := inv.calls _ (List.getElem_mem inside)
      simp only [List.get_eq_getElem] at atResume process
      simp only [CallInv, atResume] at holds
      obtain ⟨-, nonempty, -, context', live', reply, notForget⟩ := holds
      cases live.symm.trans live'
      rw [show (system.calls[index]).fuseResponse = some system.calls[index].buffer by
        simp [Call.fuseResponse, nonempty]] at process
      rcases (inv.contexts _ _ live).response reply notForget process with
        ⟨-, -, noVersion, -⟩ | ⟨-, -, ⟨-, noVersion, -⟩ | ⟨init, -, initVersion⟩⟩
      · simp [noVersion] at completed
      · simp [noVersion] at completed
      · rw [initVersion, Option.some.injEq] at completed
        subst completed
        exact .inr ⟨inv.initUnset address context live init,
          major ▸ initVersionOf_fst_ne_zero _, event⟩

/--
Across every interleaving, `InitEvent` is signalled exactly when `VersionMajor` is nonzero, and
once nonzero `VersionMajor` never changes again.  A call asks `FspFsextProviderTransact` for a
host request only while `VersionMajor` is neither 0 nor `(UINT32)-1`.  A call that reads
`VersionMajor` after a failed INIT returns `STATUS_ACCESS_DENIED` and leaves the instance as it
was; one that reads it after a successful INIT goes on to ask for a request without waiting.
-/
theorem init_gates_admission {system : System} (reachable : Reachable support system) :
    (system.state.initEvent = true ↔ system.state.versionMajor ≠ 0) ∧
    (∀ next, Step support system next → system.state.versionMajor ≠ 0 →
      next.state.versionMajor = system.state.versionMajor ∧ next.state.initEvent = true) ∧
    (∀ call ∈ system.calls, call.pc = .requestAdmit →
      system.state.versionMajor ≠ 0 ∧ system.state.versionMajor ≠ 0xFFFFFFFF) ∧
    (∀ call ∈ system.calls, ∀ choice, call.pc = .requestVersion →
      system.state.versionMajor = 0xFFFFFFFF →
      stepCall support choice system.state call =
        some (system.state, { call with pc := .returned statusAccessDenied })) ∧
    (∀ call ∈ system.calls, ∀ choice, call.pc = .requestVersion →
      system.state.versionMajor ≠ 0 → system.state.versionMajor ≠ 0xFFFFFFFF →
      stepCall support choice system.state call =
        some (system.state, { call with pc := .requestAdmit })) := by
  have inv := invariant_reachable reachable
  refine ⟨inv.initEvent, fun next step set => ?_, fun call member atAdmit => ?_,
    fun call member choice atVersion failed => ?_,
    fun call member choice atVersion set usable => ?_⟩
  · rcases step_version inv step with ⟨major, event⟩ | ⟨unset, -⟩
    · exact ⟨major, event.trans (inv.initEvent.2 set)⟩
    · exact absurd unset set
  · have holds := inv.calls call member
    simp only [CallInv, atAdmit] at holds
    exact holds.2
  · have unowned := (inv.calls call member).internalRequest_eq_none (by simp [atVersion])
    cases call
    simp only at atVersion unowned
    subst atVersion unowned
    simp [stepCall, failed, exitWith]
  · simp [stepCall, atVersion, set, usable]

/-- After `initExchange`, call 2 asks for a request: it passes `request:` and the version check
and stands at `FspFsextProviderTransact`'s admission. -/
def askingAdmission : List Action :=
  initExchange ++ [.begin 0 8192 zeroBuffer, .call 2 idle, .call 2 idle, .call 2 idle]

/-- After a successful INIT exchange, `InitEvent` is signalled, and the call standing at
admission does so with the negotiated, usable `VersionMajor`. -/
theorem init_gates_admission_asking :
    ∃ system, run lookupOpen ⟨FuseInstance.initial 1, []⟩ askingAdmission = some system ∧
      Reachable lookupOpen system ∧ system.state.initEvent = true ∧
      (system.calls[2]?).map (·.pc) = some .requestAdmit ∧
      system.state.versionMajor ≠ 0 ∧ system.state.versionMajor ≠ 0xFFFFFFFF := by
  obtain ⟨system, ran, reachable, observed⟩ := reachable_run_map (.initial 1 (by decide))
    (by decide : (run lookupOpen ⟨FuseInstance.initial 1, []⟩ askingAdmission).map
      (fun system => (system.state.initEvent, (system.calls[2]?).map (·.pc))) =
      some (true, some .requestAdmit))
  obtain ⟨signalled, atAdmit⟩ := Prod.mk.inj observed
  obtain ⟨call, found, admitting⟩ := Option.map_eq_some'.1 atAdmit
  exact ⟨system, ran, reachable, signalled, atAdmit,
    (init_gates_admission reachable).2.2.1 call (List.mem_iff_getElem?.2 ⟨2, found⟩) admitting⟩

end WinFuse.Engine.InitGate
