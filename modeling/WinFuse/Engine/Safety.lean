import WinFuse.Engine.Progress

/-!
# No call sticks on a dangling context

`FuseDeviceTransact` follows pointers the IOQ and the context hold: the context
`FuseIoqEndProcessing` or `FuseIoqNextPending` returned, the context's internal response, the
buffer a resume writes into or reads from, and the `InternalRequest` of a status-only result.
In the model, following one that is gone is a step that cannot be taken.

In every reachable state, whatever the other calls did before, a call that has not returned can
always take its next step, unless the environment holds it.  The environment holds a call in two
places only: the wait on an `InitEvent` not yet signalled, and an allocator that gives no free
address for a new context.  The per-call invariant says the context a call holds is live and
waits where the call resumes it.  The well-formedness of live contexts says every such resume
runs.
-/

namespace WinFuse.Engine.Safety

open WinFuse.Wire.Bytes
open WinFuse.Wire.Layout
open WinFuse.Proto.OperationContext
open WinFuse.Proto.Routines
open WinFuse.Engine.Instance
open WinFuse.Engine.Instance.FuseInstance
open WinFuse.Engine.Transact
open WinFuse.Engine.Invariants
open WinFuse.Engine.Preservation
open WinFuse.Engine.Progress

/-- In every reachable state, a transact call that has not returned can take its next step under
any outcomes of the environment, except two that hold it: its wait on an `InitEvent` not yet
signalled, and a host request for which the allocator gives no free address.  It never stops at
a deleted context, at a resume through a missing buffer, or at a status-only forward without
the host request it answers. -/
theorem running_call_steps {support : Support} {system : System}
    (reachable : Reachable support system) {call : Call} (member : call ∈ system.calls)
    (choice : Choice) :
    (stepCall support choice system.state call).isSome ∨ (∃ result, call.pc = .returned result) ∨
      (call.pc = .requestWait ∧ choice.wait = .signalled ∧ system.state.initEvent = false) ∨
      (call.pc = .requestAdmit ∧ ntSuccess choice.pullResult = true ∧ choice.pulled.isSome ∧
        choice.createStatus = none ∧
        (choice.address = 0 ∨ (system.state.contexts choice.address).isSome)) := by
  have inv := invariant_reachable reachable
  have holds := inv.calls call member
  cases atPc : call.pc with
  | start =>
    refine .inl ?_
    simp only [stepCall, atPc]
    split
    · rfl
    · split
      · split <;> rfl
      · rfl
  | responseResume address =>
    simp only [CallInv, atPc] at holds
    obtain ⟨-, nonempty, -, context, live, reply, notForget⟩ := holds
    obtain ⟨resumed, process, -⟩ := @response_resume_lowers support address context call.buffer
      (inv.contexts address context live) reply notForget
    refine .inl ?_
    simp only [stepCall, atPc, live, Call.fuseResponse, nonempty, ne_eq, not_false_eq_true,
      if_true, process, Option.some_bind, Option.bind_eq_bind, Option.pure_def,
      apply_ite Option.isSome, Option.isSome_some, ite_self]
  | responseForward address | requestForward address =>
    simp only [CallInv, atPc] at holds
    obtain ⟨-, context, request, live, owner, -⟩ := holds
    refine .inl ?_
    simp only [stepCall, atPc, live, owner, Option.some_bind, Option.bind_eq_bind,
      Option.pure_def, apply_ite Option.isSome, Option.isSome_some, ite_self]
  | request =>
    refine .inl ?_
    simp only [stepCall, atPc]
    split
    · rfl
    · split <;> rfl
  | requestVersion =>
    refine .inl ?_
    simp only [stepCall, atPc, apply_ite Option.isSome, Option.isSome_some, ite_self]
  | requestWait =>
    by_cases held : choice.wait = .signalled ∧ system.state.initEvent = false
    · exact .inr (.inr (.inl ⟨rfl, held⟩))
    · refine .inl ?_
      simp only [stepCall, atPc, if_neg held, apply_ite Option.isSome, Option.isSome_some,
        ite_self]
  | requestAdmit =>
    by_cases allocated : ntSuccess choice.pullResult = true ∧ choice.pulled.isSome ∧
        choice.createStatus = none ∧
        (choice.address = 0 ∨ (system.state.contexts choice.address).isSome)
    · exact .inr (.inr (.inr ⟨rfl, allocated⟩))
    · refine .inl ?_
      simp only [stepCall, atPc]
      split
      · rfl
      · rename_i pulled
        simp only [Bool.not_eq_false] at pulled
        cases found : choice.pulled with
        | none => rfl
        | some request =>
          cases created : choice.createStatus with
          | some status => rfl
          | none =>
            have free : ¬(choice.address = 0 ∨ (system.state.contexts choice.address).isSome) :=
              fun bad => allocated ⟨pulled, by simp [found], created, bad⟩
            simp only [if_neg free]
            rfl
  | requestResume address =>
    simp only [CallInv, atPc] at holds
    obtain ⟨-, context, live, ready⟩ := holds
    obtain ⟨resumed, process, -⟩ :=
      @request_resume_lowers support address context (inv.contexts address context live) ready
    refine .inl ?_
    simp only [stepCall, atPc, live, process, Option.some_bind, Option.bind_eq_bind,
      Option.pure_def, apply_ite Option.isSome, Option.isSome_some, ite_self]
  | requestStatus status =>
    simp only [CallInv, atPc] at holds
    obtain ⟨request, kept⟩ := Option.isSome_iff_exists.1 holds
    refine .inl ?_
    simp only [stepCall, atPc, kept, Option.some_bind, Option.bind_eq_bind,
      Option.pure_def, apply_ite Option.isSome, Option.isSome_some, ite_self]
  | returned result => exact .inr (.inl ⟨result, rfl⟩)

/-- A call just made, asking for a request of the instance `FuseDeviceInit` leaves, takes its
first step. -/
theorem running_call_steps_begun :
    Reachable lookupOpen ⟨FuseInstance.initial 1, [askCall]⟩ ∧
      (stepCall lookupOpen idle (FuseInstance.initial 1) askCall).isSome :=
  have reachable : Reachable lookupOpen ⟨FuseInstance.initial 1, [askCall]⟩ :=
    .step (.initial 1 (by decide)) (.begin _ 0 fuseProtoReqSizeMin zeroBuffer)
  ⟨reachable, (running_call_steps reachable (List.mem_singleton_self _) idle).resolve_right
    (by simp [askCall, Call.begin])⟩

end WinFuse.Engine.Safety
