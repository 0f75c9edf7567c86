import WinFuse.Engine.Requests

/-!
# No request before INIT succeeds

Until the INIT exchange completes, and forever after it fails, the driver takes no request from
the host.  Only a call at `FspFsextProviderTransact`'s admission moves the count of admitted
requests, and such a call has read a usable `VersionMajor`: neither 0 nor `(UINT32)-1`.  A
nonzero `VersionMajor` never changes, and `InitEvent` is signalled exactly when `VersionMajor`
is nonzero (`InitGate`).  So a state whose `InitEvent` is not signalled, or whose `VersionMajor`
is `(UINT32)-1`, has admitted nothing; by the accounting of `Requests`, no context owns a host
request there, no call holds one and none was answered.
-/

namespace WinFuse.Engine.Lockout

open WinFuse.Wire.Bytes
open WinFuse.Wire.Layout
open WinFuse.Proto.OperationContext
open WinFuse.Proto.Routines
open WinFuse.Engine.Instance
open WinFuse.Engine.Instance.FuseInstance
open WinFuse.Engine.Transact
open WinFuse.Engine.Transitions
open WinFuse.Engine.Invariants
open WinFuse.Engine.Preservation
open WinFuse.Engine.InitGate
open WinFuse.Engine.Requests

variable {support : Support}

/-- Only a call at `FspFsextProviderTransact`'s admission moves the count of admitted requests. -/
theorem callStep_admitted {choice : Choice} {state state' : FuseInstance} {call call' : Call}
    (step : CallStep support choice state call state' call') :
    state'.admitted = state.admitted ∨ call.pc = .requestAdmit := by
  cases step with
  | admitStatus atAdmit => exact .inr atAdmit
  | admitContext atAdmit => exact .inr atAdmit
  | _ => exact .inl (by simp [setContext, fuseIoqPostPending, fuseIoqStartProcessing, forward,
      freeExternal, completeInit_admitted])

/-- A step that admits a request is taken while `VersionMajor` is usable. -/
theorem step_admitted {system next : System} (inv : Invariant support system)
    (step : Step support system next) :
    next.state.admitted = system.state.admitted ∨
      (system.state.versionMajor ≠ 0 ∧ system.state.versionMajor ≠ 0xFFFFFFFF) := by
  cases step with
  | begin => exact .inl rfl
  | postForget => exact .inl rfl
  | call index inside choice state call stepped =>
    refine (callStep_admitted (stepCall_sound stepped)).imp id fun atAdmit => ?_
    have holds := inv.calls _ (List.getElem_mem inside)
    simp only [List.get_eq_getElem] at atAdmit
    simp only [CallInv, atAdmit] at holds
    exact holds.2

/-- In every reachable state, a host request was admitted only if `VersionMajor` is usable:
it was usable at the admission and, being nonzero, has not changed since. -/
theorem admitted_usable {system : System} (reachable : Reachable support system)
    (admitted : system.state.admitted ≠ 0) :
    system.state.versionMajor ≠ 0 ∧ system.state.versionMajor ≠ 0xFFFFFFFF := by
  induction reachable with
  | initial => exact absurd rfl admitted
  | step reached step ih =>
    have inv := invariant_reachable reached
    rcases step_version inv step with ⟨major, -⟩ | ⟨unset, -⟩
    · rw [major]
      exact (step_admitted inv step).elim (fun same => ih (same ▸ admitted)) id
    · exact absurd unset ((step_admitted inv step).elim (fun same => (ih (same ▸ admitted)).1)
        (·.1))

/-- Before the INIT exchange completes (`InitEvent` not signalled), and forever after it fails
(`VersionMajor` is `(UINT32)-1`), the driver has taken no request from the host: none was
admitted, no context owns one, no transact call holds one and no response went up to the
host. -/
theorem admits_nothing_before_init_succeeds {system : System}
    (reachable : Reachable support system)
    (locked : system.state.initEvent = false ∨ system.state.versionMajor = 0xFFFFFFFF) :
    system.state.admitted = 0 ∧ (∀ address, ownerOf system.state.contexts address = none) ∧
      kept system.calls = [] ∧ system.state.forwarded = [] := by
  have inv := invariant_reachable reachable
  have none : system.state.admitted = 0 := by
    by_contra admitted
    have usable := admitted_usable reachable admitted
    rcases locked with unsignalled | failed
    · simp [inv.initEvent.2 usable.1] at unsignalled
    · exact usable.2 failed
  have own := ownership_reachable reachable
  have nowhere : ∀ serial,
      ¬((∃ address, ownerOf system.state.contexts address = some serial) ∨
        0 < (kept system.calls).count serial + system.state.released.count serial) := by
    intro serial
    rw [← own.accounted, none]
    exact Nat.not_lt_zero serial
  have unreleased : system.state.released = [] :=
    List.eq_nil_iff_forall_not_mem.2 fun serial member =>
      nowhere serial (.inr (Nat.add_pos_right _ (List.count_pos_iff.2 member)))
  refine ⟨none, fun address => Option.eq_none_iff_forall_not_mem.2 fun serial owned =>
      nowhere serial (.inl ⟨address, owned⟩),
    List.eq_nil_iff_forall_not_mem.2 fun serial member =>
      nowhere serial (.inr (Nat.add_pos_left (List.count_pos_iff.2 member) _)), ?_⟩
  rw [own.released, List.map_eq_nil_iff] at unreleased
  exact unreleased

/-- The daemon's reply to the INIT request of the context at 1 with error `-ENOSYS`. -/
def initRejected : Buffer :=
  applyAll [Response.len.store 16, Response.unique.store 1, Response.error.store 0xFFFFFFDA]
    zeroBuffer

/-- Call 0 sends INIT, call 1 brings `initRejected`, and call 2 asks for a request. -/
def rejectedExchange : List Action :=
  [.begin 0 8192 zeroBuffer, .call 0 idle, .call 0 idle, .call 0 idle,
   .begin 16 0 initRejected, .call 1 idle, .call 1 idle, .call 1 idle,
   .begin 0 8192 zeroBuffer, .call 2 idle, .call 2 idle, .call 2 idle]

/-- After a daemon rejects INIT, `VersionMajor` is `(UINT32)-1`, the call that asks for a
request is denied, and no request was admitted or answered. -/
theorem admits_nothing_before_init_succeeds_rejected :
    ∃ system, run lookupOpen ⟨FuseInstance.initial 1, []⟩ rejectedExchange = some system ∧
      Reachable lookupOpen system ∧ system.state.versionMajor = 0xFFFFFFFF ∧
      system.calls.map (·.pc) = [.returned statusSuccess, .returned statusSuccess,
        .returned statusAccessDenied] ∧
      system.state.admitted = 0 ∧ system.state.forwarded = [] := by
  obtain ⟨system, ran, reachable, observed⟩ := reachable_run_map (.initial 1 (by decide))
    (by decide : (run lookupOpen ⟨FuseInstance.initial 1, []⟩ rejectedExchange).map
      (fun system => (system.state.versionMajor, system.calls.map (·.pc))) =
      some (0xFFFFFFFF, [.returned statusSuccess, .returned statusSuccess,
        .returned statusAccessDenied]))
  obtain ⟨failed, returned⟩ := Prod.mk.inj observed
  obtain ⟨admitted, -, -, forwarded⟩ := admits_nothing_before_init_succeeds reachable (.inr failed)
  exact ⟨system, ran, reachable, failed, returned, admitted, forwarded⟩

end WinFuse.Engine.Lockout
