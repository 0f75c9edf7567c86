import WinFuse.Engine.Preservation

/-!
# Where a context lives

Every live context is in exactly one place, once: the pending FIFO, the processing map, or the
hands of one transact call; a destroyed context is in none.  So a call that lets go of a
context, on any of its return paths, has re-posted it, inserted it into processing, or
destroyed it.  The request half's `switch` on the hint of a context of the driver's own never
falls through: the only operations of the driver's own that stop in the request half are FORGET
operations, which are posted again or deleted.
-/

namespace WinFuse.Engine.Lifecycle

open WinFuse.Proto.OperationContext
open WinFuse.Proto.Routines
open WinFuse.Engine.Instance
open WinFuse.Engine.Transact
open WinFuse.Engine.Invariants
open WinFuse.Engine.Preservation

variable {support : Support} {system : System}

/-- Where the placement count puts a context no call holds: in pending or processing, once, or
nowhere and destroyed. -/
theorem placed_of_released {address : UInt64}
    (placed : (placements system).count address =
      if (system.state.contexts address).isSome then 1 else 0)
    (released : ∀ call ∈ system.calls, call.pc.held ≠ some address) :
    (system.state.pending.count address + system.state.processing.count address = 1 ∧
        (system.state.contexts address).isSome) ∨
      (system.state.contexts address = none ∧ address ∉ system.state.pending ∧
        address ∉ system.state.processing) := by
  have unheld : (system.calls.filterMap (·.pc.held)).count address = 0 := by
    rw [List.count_eq_zero]
    intro member
    obtain ⟨call, inCalls, held⟩ := List.mem_filterMap.1 member
    exact released call inCalls held
  simp only [placements, List.count_append, unheld, Nat.add_zero] at placed
  cases live : system.state.contexts address with
  | none =>
    simp only [live, Option.isSome_none, Bool.false_eq_true, if_false] at placed
    exact .inr ⟨rfl, fun member => by have := List.count_pos_iff.2 member; omega,
      fun member => by have := List.count_pos_iff.2 member; omega⟩
  | some context =>
    simp only [live, Option.isSome_some, if_true] at placed
    exact .inl ⟨placed, rfl⟩

/--
In every reachable state each live context is in exactly one place, once (pending, processing,
or the hands of one call) and a destroyed context in none.  After any step, a context no call
holds is in pending or processing, once, or destroyed.  A context of the driver's own that stops
in the request half is a FORGET operation.
-/
theorem contexts_placed_once (reachable : Reachable support system) :
    (∀ address, (placements system).count address =
      if (system.state.contexts address).isSome then 1 else 0) ∧
    (∀ next, Step support system next → ∀ address,
      (∀ call ∈ next.calls, call.pc.held ≠ some address) →
      (next.state.pending.count address + next.state.processing.count address = 1 ∧
          (next.state.contexts address).isSome) ∨
        (next.state.contexts address = none ∧ address ∉ next.state.pending ∧
          address ∉ next.state.processing)) ∧
    (∀ call ∈ system.calls, ∀ address context resumed, call.pc = .requestResume address →
      system.state.contexts address = some context →
      fuseContextProcess support address context none true = some resumed →
      resumed.continues = false → resumed.context.internalRequest = none →
      isForget resumed.context = true) := by
  have placed : ∀ {system : System}, Reachable support system → ∀ address,
      (placements system).count address =
        if (system.state.contexts address).isSome then 1 else 0 :=
    fun reachable => (invariant_reachable reachable).placed
  have inv := invariant_reachable reachable
  refine ⟨placed reachable, fun next step address released =>
    placed_of_released (placed (reachable.step step) address) released,
    fun call member address context resumed atResume live process stops unowned => ?_⟩
  have holds := inv.calls call member
  simp only [CallInv, atResume] at holds
  obtain ⟨-, context', live', ready⟩ := holds
  cases live.symm.trans live'
  rcases (inv.contexts _ _ live).request ready process with
    ⟨continues, -⟩ | ⟨-, owned, -⟩ | ⟨-, forget, advanced⟩
  · exact absurd (continues.symm.trans stops) (by decide)
  · simp [unowned] at owned
  · rw [advanced]
    exact forget.isForget

/-- After the INIT exchange and the admission of a host request, whose context at 2 waits in
processing for the reply to its LOOKUP, that context is in one place. -/
theorem contexts_placed_once_admitted :
    ∃ system, run lookupOpen ⟨FuseInstance.initial 1, []⟩ lookupSent = some system ∧
      Reachable lookupOpen system ∧ system.state.processing = [2] ∧
      (placements system).count 2 = 1 := by
  obtain ⟨system, ran, reachable, observed⟩ := reachable_run_map (.initial 1 (by decide))
    (by decide : (run lookupOpen ⟨FuseInstance.initial 1, []⟩ lookupSent).map
      (fun system => (system.state.processing, (system.state.contexts 2).isSome)) =
      some ([2], true))
  simp only [Prod.mk.injEq] at observed
  refine ⟨system, ran, reachable, observed.1, ?_⟩
  rw [(contexts_placed_once reachable).1 2, observed.2, if_pos rfl]

end WinFuse.Engine.Lifecycle
