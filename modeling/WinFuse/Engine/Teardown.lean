import WinFuse.Engine.Requests
import WinFuse.Engine.Mount

/-!
# Teardown

`FuseDeviceFini` runs once no transact call is in progress.  It deletes the IOQ first, because
the contexts still in it hold host requests, files and cache references; then the file table,
the cache and the operation guard lock, of which the model holds nothing.  `FuseIoqDelete` is
not among the sources: as the spec says, it destroys every context still in pending or in
processing with `FuseContextDelete`, whose `Fini` runs.

Once every call has returned, no call holds a context, so by the placement invariant every live
context is in the IOQ exactly once.  So teardown leaves no live context.  By `Ownership`, every
host request the driver admitted was then either released after its response went up or is
owned by one of those contexts, which releases it.  Over the life of the instance, each admitted
request is released exactly once.
-/

namespace WinFuse.Engine.Teardown

open WinFuse.Proto.OperationContext
open WinFuse.Proto.Routines
open WinFuse.Engine.Instance
open WinFuse.Engine.Instance.FuseInstance
open WinFuse.Engine.Transact
open WinFuse.Engine.Invariants
open WinFuse.Engine.Preservation
open WinFuse.Engine.Requests
open WinFuse.Engine.Mount

/-- Modelled from the spec: `FuseIoqDelete` destroys the contexts still in the IOQ, those on
pending and then those in processing, each with `FuseContextDelete`. -/
def fuseIoqDelete (state : FuseInstance) : FuseInstance :=
  { (state.pending ++ state.processing).foldl fuseContextDelete state with
    pending := [], processing := [] }

/-- `FuseDeviceFini`: `FuseIoqDelete`, then `FuseFileInstanceFini`, `FuseCacheDelete` and
`FuseRwlockFinalize`, which touch nothing the model holds. -/
def fuseDeviceFini (state : FuseInstance) : FuseInstance :=
  fuseIoqDelete state

/-- No transact call is in progress: every call made so far has returned. -/
def Quiet (system : System) : Prop :=
  ∀ call ∈ system.calls, ∃ result, call.pc = .returned result

/-! ## Deleting a list of contexts -/

section Delete

variable (state : FuseInstance)

/-- Deleting the contexts at a list of addresses leaves none of them live and the others as
they were. -/
theorem foldl_fuseContextDelete_contexts (addresses : List UInt64) (address : UInt64) :
    (addresses.foldl fuseContextDelete state).contexts address =
      if address ∈ addresses then none else state.contexts address := by
  induction addresses generalizing state with
  | nil => simp
  | cons first rest ih =>
    rw [List.foldl_cons, ih, fuseContextDelete_contexts]
    by_cases same : address = first
    · subst same
      simp
    · simp [same, Function.update_noteq]

/-- Deleting the contexts at distinct addresses releases the requests they own, in order. -/
theorem foldl_fuseContextDelete_released {addresses : List UInt64} (distinct : addresses.Nodup) :
    (addresses.foldl fuseContextDelete state).released =
      state.released ++ addresses.filterMap (ownerOf state.contexts) := by
  induction addresses generalizing state with
  | nil => simp
  | cons first rest ih =>
    obtain ⟨fresh, distinct⟩ := List.nodup_cons.1 distinct
    have others : rest.filterMap (ownerOf (Function.update state.contexts first none)) =
        rest.filterMap (ownerOf state.contexts) := by
      rw [ownerOf_update_none]
      exact List.filterMap_congr fun other member =>
        Function.update_noteq (fun same : other = first => fresh (same ▸ member)) _ _
    rw [List.foldl_cons, ih _ distinct, fuseContextDelete_released, fuseContextDelete_contexts,
      others, List.filterMap_cons]
    cases ownerOf state.contexts first <;> simp

theorem foldl_fuseContextDelete_forwarded (addresses : List UInt64) :
    (addresses.foldl fuseContextDelete state).forwarded = state.forwarded := by
  induction addresses generalizing state with
  | nil => rfl
  | cons first rest ih => rw [List.foldl_cons, ih, fuseContextDelete_forwarded]

theorem finiDeleted_prefix_foldl (addresses : List UInt64) :
    state.finiDeleted <+: (addresses.foldl fuseContextDelete state).finiDeleted := by
  induction addresses generalizing state with
  | nil => exact List.prefix_refl _
  | cons first rest ih =>
    refine List.IsPrefix.trans ?_ (ih _)
    unfold fuseContextDelete
    split
    · exact List.prefix_refl _
    · exact List.prefix_append _ _

/-- Each deleted FORGET context's `Fini` deletes what is left of its forget list. -/
theorem foldl_fuseContextDelete_finiDeleted {addresses : List UInt64} {address : UInt64}
    {context : Context} (member : address ∈ addresses) (live : state.contexts address = some context)
    (fini : context.finiDeletesForgetList = true) :
    context.forgetList ∈ (addresses.foldl fuseContextDelete state).finiDeleted := by
  induction addresses generalizing state with
  | nil => cases member
  | cons first rest ih =>
    rw [List.foldl_cons]
    by_cases same : address = first
    · subst same
      exact (finiDeleted_prefix_foldl _ rest).subset (by simp [fuseContextDelete, live, fini])
    · exact ih _ (List.mem_of_ne_of_mem same member)
        (by rw [fuseContextDelete_contexts, Function.update_noteq same, live])

end Delete

/-! ## A quiet system -/

section Quiet

variable {support : Support} {system : System}

/-- With no call in progress, the IOQ is every place a context can be. -/
theorem placements_quiet (quiet : Quiet system) :
    placements system = system.state.pending ++ system.state.processing := by
  have held : system.calls.filterMap (·.pc.held) = [] :=
    List.filterMap_eq_nil_iff.2 fun call member => by
      obtain ⟨result, returned⟩ := quiet call member
      simp [returned, Pc.held]
  simp [placements, held]

theorem kept_quiet (inv : Invariant support system) (quiet : Quiet system) :
    kept system.calls = [] :=
  List.filterMap_eq_nil_iff.2 fun call member => by
    obtain ⟨result, returned⟩ := quiet call member
    simp [keptSerial, (inv.calls call member).internalRequest_eq_none (by simp [returned])]

/-- With no call in progress, the IOQ holds each live context once and nothing else. -/
theorem ioq_count_quiet (inv : Invariant support system) (quiet : Quiet system)
    (address : UInt64) :
    (system.state.pending ++ system.state.processing).count address =
      if (system.state.contexts address).isSome then 1 else 0 := by
  rw [← placements_quiet quiet, inv.placed]

end Quiet

/-! ## Teardown after a run -/

/-- `FuseDeviceFini` after any run whose transact calls have all returned leaves no live context
and deletes what is left of every FORGET context's forget list; it forwards nothing, and with
it every host request the driver ever admitted has been released exactly once. -/
theorem fini_releases_every_request {support : Support} {system : System}
    (reachable : Reachable support system) (quiet : Quiet system) :
    (∀ address, (fuseDeviceFini system.state).contexts address = none) ∧
    (fuseDeviceFini system.state).released.Nodup ∧
    (∀ serial, serial ∈ (fuseDeviceFini system.state).released ↔
      serial < system.state.admitted) ∧
    (fuseDeviceFini system.state).forwarded = system.state.forwarded ∧
    (∀ address context, system.state.contexts address = some context →
      context.finiDeletesForgetList = true →
      context.forgetList ∈ (fuseDeviceFini system.state).finiDeleted) := by
  have inv := invariant_reachable reachable
  have own := ownership_reachable reachable
  have count := ioq_count_quiet inv quiet
  have placed : ∀ address, address ∈ system.state.pending ++ system.state.processing ↔
      (system.state.contexts address).isSome := fun address => by
    rw [← List.count_pos_iff, count]
    split <;> simp [*]
  have distinct : (system.state.pending ++ system.state.processing).Nodup :=
    List.nodup_iff_count_le_one.2 fun address => by rw [count]; split <;> omega
  have owned : ∀ serial, (∃ address, ownerOf system.state.contexts address = some serial) ↔
      serial ∈ (system.state.pending ++ system.state.processing).filterMap
        (ownerOf system.state.contexts) := fun serial => by
    rw [List.mem_filterMap]
    refine ⟨fun ⟨address, owner⟩ => ⟨address, (placed address).2 ?_, owner⟩,
      fun ⟨address, _, owner⟩ => ⟨address, owner⟩⟩
    simp only [ownerOf, Option.bind_eq_some] at owner
    obtain ⟨context, live, _⟩ := owner
    simp [live]
  have released := foldl_fuseContextDelete_released system.state distinct
  simp only [fuseDeviceFini, fuseIoqDelete]
  refine ⟨fun address => ?_, ?_, fun serial => ?_, foldl_fuseContextDelete_forwarded _ _,
    fun address context live fini =>
      foldl_fuseContextDelete_finiDeleted _ ((placed address).2 (by simp [live])) live fini⟩
  · rw [foldl_fuseContextDelete_contexts]
    split
    · rfl
    · rename_i absent
      exact Option.not_isSome_iff_eq_none.1 fun live => absent ((placed address).2 live)
  · rw [released]
    refine List.Nodup.append
      (List.nodup_iff_count_le_one.2 fun serial => by have := own.heldOnce serial; omega)
      (distinct.filterMap fun address other serial owner owner' =>
        own.ownedOnce address other serial owner owner') ?_
    intro serial before after
    obtain ⟨address, owner⟩ := (owned serial).2 after
    have alone := own.ownedAlone address serial owner
    exact absurd (List.count_pos_iff.2 before) (by omega)
  · rw [released, List.mem_append, ← owned, own.accounted, kept_quiet inv quiet]
    simp [List.count_pos_iff, or_comm]

/-- A volume mounted by `FuseDeviceInit`, its INIT exchanged and a host request admitted whose
context at 2 waits in processing for the reply to its LOOKUP, torn down once every call has
returned: that context goes, and the request is released. -/
theorem fini_releases_every_request_admitted :
    ∃ system, run lookupOpen ⟨(fuseDeviceInit clearParams mountedAtOne).state, []⟩ lookupSent =
        some system ∧
      Reachable lookupOpen system ∧ Quiet system ∧ system.state.contexts 2 ≠ none ∧
      (fuseDeviceFini system.state).contexts 2 = none ∧
      0 ∈ (fuseDeviceFini system.state).released := by
  obtain ⟨system, ran, reachable, observed⟩ :=
    reachable_run_map (reachable_fuseDeviceInit lookupOpen clearParams (by decide) (by decide) rfl)
      (by decide : (run lookupOpen ⟨(fuseDeviceInit clearParams mountedAtOne).state, []⟩
        lookupSent).map (fun system =>
          (system.calls.map (·.pc), (system.state.contexts 2).isSome, system.state.admitted)) =
        some ([.returned statusSuccess, .returned statusSuccess, .returned statusSuccess], true,
          1))
  simp only [Prod.mk.injEq] at observed
  obtain ⟨returned, live, admitted⟩ := observed
  have quiet : Quiet system := fun call member => by
    have pc := List.mem_map_of_mem (·.pc) member
    simp only [returned, List.mem_cons, List.mem_singleton, List.not_mem_nil, or_false] at pc
    rcases pc with same | same | same <;> exact ⟨_, same⟩
  obtain ⟨gone, -, released, -⟩ := fini_releases_every_request reachable quiet
  exact ⟨system, ran, reachable, quiet, by simp [← Option.isSome_iff_ne_none, live], gone 2,
    (released 0).2 (by omega)⟩

end WinFuse.Engine.Teardown
