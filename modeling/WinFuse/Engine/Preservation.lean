import WinFuse.Engine.Invariants

/-!
# Every step keeps the invariant

One lemma per path of `CallStep`, each re-establishing the parts of `Invariant` the path
touches: the place counts (as a balance of what the step takes and puts back), the contexts it
changes, the call that moved, and the other calls, whose contexts it leaves alone.  Then
`Step` keeps the invariant, and every reachable state has it.
-/

namespace WinFuse.Engine.Preservation

open WinFuse.Wire.Bytes
open WinFuse.Wire.Layout
open WinFuse.Proto.OperationContext
open WinFuse.Proto.Encode
open WinFuse.Proto.Routines
open WinFuse.Engine.Instance
open WinFuse.Engine.Instance.FuseInstance
open WinFuse.Engine.Transact
open WinFuse.Engine.Transitions
open WinFuse.Engine.Invariants

section CallStep

variable {support : Support} {state state' : FuseInstance} {calls : List Call} {index : Nat}
  {call call' : Call}

/-- The invariant after a step of the call at `index`, from what the step re-establishes. -/
theorem invariant_of_parts (inv : Invariant support ⟨state, calls⟩)
    (found : calls[index]? = some call)
    (balance : ∀ address, state'.pending.count address + state'.processing.count address +
        (if call'.pc.held = some address then 1 else 0) +
        (if (state.contexts address).isSome then 1 else 0) =
      state.pending.count address + state.processing.count address +
        (if call.pc.held = some address then 1 else 0) +
        (if (state'.contexts address).isSome then 1 else 0))
    (pendingReady : ∀ address ∈ state'.pending, ∃ context,
      state'.contexts address = some context ∧ context.coroState = .ready)
    (processingAwaiting : ∀ address ∈ state'.processing, ∃ context,
      state'.contexts address = some context ∧ context.coroState = .reply ∧
        isForget context = false)
    (contexts : ∀ address context, state'.contexts address = some context →
      ContextInv support context)
    (moved : CallInv state' call')
    (others : ∀ other call, other ≠ index → calls[other]? = some call → CallInv state' call)
    (initEvent : state'.initEvent = true ↔ state'.versionMajor ≠ 0)
    (initUnset : ∀ address context, state'.contexts address = some context →
      InitShape context → state'.versionMajor = 0)
    (initSingle : ∀ address address' context context', state'.contexts address = some context →
      state'.contexts address' = some context' → InitShape context → InitShape context' →
      address = address') :
    Invariant support ⟨state', calls.set index call'⟩ where
  placed address := by
    have old := inv.placed address
    have replaced := count_filterMap_set (·.pc.held) found call' address
    have balanced := balance address
    simp only [placements, List.count_append] at old ⊢
    omega
  pendingReady := pendingReady
  processingAwaiting := processingAwaiting
  contexts := contexts
  calls member inSet := by
    rcases mem_set_cases inSet with rfl | ⟨other, different, found'⟩
    · exact moved
    · exact others other member different found'
  initEvent := initEvent
  initUnset := initUnset
  initSingle := initSingle

/-- A step that leaves the contexts and the IOQ alone and holds nothing before or after. -/
theorem invariant_quiet (inv : Invariant support ⟨state, calls⟩)
    (found : calls[index]? = some call)
    (contexts : state'.contexts = state.contexts) (pending : state'.pending = state.pending)
    (processing : state'.processing = state.processing)
    (version : state'.versionMajor = state.versionMajor)
    (event : state'.initEvent = state.initEvent)
    (before : call.pc.held = none) (after : call'.pc.held = none)
    (moved : CallInv state' call') :
    Invariant support ⟨state', calls.set index call'⟩ := by
  refine invariant_of_parts inv found (fun address => ?_) ?_ ?_ ?_ moved ?_ ?_ ?_ ?_
  · simp [contexts, pending, processing, before, after]
  · simpa only [pending, contexts] using inv.pendingReady
  · simpa only [processing, contexts] using inv.processingAwaiting
  · simpa only [contexts] using inv.contexts
  · intro other member different found'
    exact (inv.calls member (List.mem_iff_getElem?.2 ⟨other, found'⟩)).frame
      (fun address _ => congrFun contexts address) (fun _ => version)
  · simpa only [event, version] using inv.initEvent
  · simpa only [contexts, version] using inv.initUnset
  · simpa only [contexts] using inv.initSingle

end CallStep

/-! ## Steps on the context a call holds -/

section Held

variable {support : Support} {state state' : FuseInstance} {calls : List Call} {index : Nat}
  {call : Call} {address : UInt64} {context context' : Context}

/-- The other calls keep what they keep when only the context this call holds changes. -/
theorem others_of_held (inv : Invariant support ⟨state, calls⟩)
    (found : calls[index]? = some call) (held : call.pc.held = some address)
    (contexts : ∀ other, other ≠ address → state'.contexts other = state.contexts other)
    (version : ∀ member ∈ calls, member.pc = .requestAdmit →
      state'.versionMajor = state.versionMajor) :
    ∀ other member, other ≠ index → calls[other]? = some member → CallInv state' member := by
  intro other member different found'
  have inCalls : member ∈ calls := List.mem_iff_getElem?.2 ⟨other, found'⟩
  have alone := (inv.held_alone found held).2.2.2 other member different found'
  exact (inv.calls member inCalls).frame
    (fun held' holds => contexts held' (fun same => alone (same ▸ holds)))
    (version member inCalls)

/-- The live contexts after the one at `address` is replaced by a well-formed one. -/
theorem contexts_update (inv : Invariant support ⟨state, calls⟩)
    (wellFormed : ContextInv support context') :
    ∀ other found, Function.update state.contexts address (some context') other = some found →
      ContextInv support found := by
  intro other found live
  by_cases same : other = address
  · subst same
    simp only [Function.update_same, Option.some.injEq] at live
    exact live ▸ wellFormed
  · rw [Function.update_noteq same] at live
    exact inv.contexts other found live

theorem init_of_update (live : state.contexts address = some context)
    (transfer : InitShape context' → InitShape context) {other : UInt64} {found : Context}
    (live' : Function.update state.contexts address (some context') other = some found)
    (init : InitShape found) :
    ∃ old, state.contexts other = some old ∧ InitShape old := by
  by_cases same : other = address
  · subst same
    simp only [Function.update_same, Option.some.injEq] at live'
    exact ⟨context, live, transfer (live' ▸ init)⟩
  · rw [Function.update_noteq same] at live'
    exact ⟨found, live', init⟩

theorem init_of_delete {other : UInt64} {found : Context}
    (live' : Function.update state.contexts address none other = some found) :
    state.contexts other = some found := by
  by_cases same : other = address
  · subst same
    simp at live'
  · rwa [Function.update_noteq same] at live'

theorem InitShape.of_resumed {support : Support} {response : Option Buffer} {output : Bool}
    {resumed : Resumed} (wellFormed : ContextInv support context)
    (process : fuseContextProcess support address context response output = some resumed)
    (init : InitShape resumed.context) : InitShape context := by
  obtain ⟨coroState, routine, forgetList, status, ghost, same⟩ := fuseContextProcess_frame process
  have unowned := init.unowned
  have hint := init.hint
  rw [same] at unowned hint
  rcases wellFormed.shape with init' | forget | ⟨request, host⟩
  · exact init'
  · simp [forget.hint, fuseProtoOpcodeForget, fuseProtoOpcodeInit] at hint
  · simp [host.owner] at unowned

end Held

/-! ## The four things a step does with the context a call holds -/

section Moves

variable {support : Support} {state state' : FuseInstance} {calls : List Call} {index : Nat}
  {call call' : Call} {address : UInt64} {context context' : Context}

theorem isSome_update (live : state.contexts address = some context) (other : UInt64) :
    (Function.update state.contexts address (some context') other).isSome =
      (state.contexts other).isSome := by
  by_cases same : other = address
  · subst same
    simp [live]
  · rw [Function.update_noteq same]

/-- The INIT parts of the invariant after the context at `address` is replaced. -/
theorem init_update (inv : Invariant support ⟨state, calls⟩)
    (live : state.contexts address = some context)
    (transfer : InitShape context' → InitShape context)
    (contexts : state'.contexts = Function.update state.contexts address (some context'))
    (version : state'.versionMajor = state.versionMajor)
    (event : state'.initEvent = state.initEvent) :
    (state'.initEvent = true ↔ state'.versionMajor ≠ 0) ∧
    (∀ other found, state'.contexts other = some found → InitShape found →
      state'.versionMajor = 0) ∧
    (∀ other other' found found', state'.contexts other = some found →
      state'.contexts other' = some found' → InitShape found → InitShape found' →
      other = other') := by
  rw [contexts, version, event]
  refine ⟨inv.initEvent, fun other found live' init => ?_,
    fun other other' found found' live' live'' init init' => ?_⟩
  · obtain ⟨old, oldLive, oldInit⟩ := init_of_update live transfer live' init
    exact inv.initUnset other old oldLive oldInit
  · obtain ⟨old, oldLive, oldInit⟩ := init_of_update live transfer live' init
    obtain ⟨old', oldLive', oldInit'⟩ := init_of_update live transfer live'' init'
    exact inv.initSingle other other' old old' oldLive oldLive' oldInit oldInit'

/-- A step that replaces the context the call holds and keeps holding it. -/
theorem invariant_keep (inv : Invariant support ⟨state, calls⟩)
    (found : calls[index]? = some call) (held : call.pc.held = some address)
    (live : state.contexts address = some context)
    (contexts : state'.contexts = Function.update state.contexts address (some context'))
    (pending : state'.pending = state.pending) (processing : state'.processing = state.processing)
    (version : state'.versionMajor = state.versionMajor)
    (event : state'.initEvent = state.initEvent)
    (wellFormed : ContextInv support context') (transfer : InitShape context' → InitShape context)
    (held' : call'.pc.held = some address) (moved : CallInv state' call') :
    Invariant support ⟨state', calls.set index call'⟩ := by
  obtain ⟨-, notPending, notProcessing, -⟩ := inv.held_alone found held
  dsimp only at notPending notProcessing
  have init := init_update inv live transfer contexts version event
  refine invariant_of_parts inv found (fun other => ?_) ?_ ?_ ?_ moved ?_ init.1 init.2.1 init.2.2
  · simp [pending, processing, held, held', contexts, isSome_update live]
  · intro other member
    have old : other ∈ state.pending := pending ▸ member
    rw [contexts, Function.update_noteq (fun same : other = address => notPending (same ▸ old))]
    exact inv.pendingReady other old
  · intro other member
    have old : other ∈ state.processing := processing ▸ member
    rw [contexts, Function.update_noteq (fun same : other = address => notProcessing (same ▸ old))]
    exact inv.processingAwaiting other old
  · exact contexts ▸ contexts_update inv wellFormed
  · exact others_of_held inv found held
      (fun other different => by rw [contexts, Function.update_noteq different])
      (fun _ _ _ => version)

/-- A step that puts the context the call holds back on pending. -/
theorem invariant_repost (inv : Invariant support ⟨state, calls⟩)
    (found : calls[index]? = some call) (held : call.pc.held = some address)
    (live : state.contexts address = some context)
    (contexts : state'.contexts = Function.update state.contexts address (some context'))
    (pending : state'.pending = state.pending ++ [address])
    (processing : state'.processing = state.processing)
    (version : state'.versionMajor = state.versionMajor)
    (event : state'.initEvent = state.initEvent)
    (wellFormed : ContextInv support context') (ready : context'.coroState = .ready)
    (transfer : InitShape context' → InitShape context)
    (released : call'.pc.held = none) (moved : CallInv state' call') :
    Invariant support ⟨state', calls.set index call'⟩ := by
  obtain ⟨-, notPending, notProcessing, -⟩ := inv.held_alone found held
  dsimp only at notPending notProcessing
  have init := init_update inv live transfer contexts version event
  refine invariant_of_parts inv found (fun other => ?_) ?_ ?_ ?_ moved ?_ init.1 init.2.1 init.2.2
  · by_cases same : address = other
    · subst same
      simp [pending, processing, held, released, contexts, isSome_update live, live]
      omega
    · simp [pending, processing, held, released, contexts, isSome_update live, same,
        List.count_cons]
  · intro other member
    rw [pending, List.mem_append, List.mem_singleton] at member
    rcases member with member | rfl
    · rw [contexts, Function.update_noteq (fun same : other = address => notPending (same ▸ member))]
      exact inv.pendingReady other member
    · exact ⟨context', by rw [contexts, Function.update_same], ready⟩
  · intro other member
    have old : other ∈ state.processing := processing ▸ member
    rw [contexts, Function.update_noteq (fun same : other = address => notProcessing (same ▸ old))]
    exact inv.processingAwaiting other old
  · exact contexts ▸ contexts_update inv wellFormed
  · exact others_of_held inv found held
      (fun other different => by rw [contexts, Function.update_noteq different])
      (fun _ _ _ => version)

/-- A step that inserts the context the call holds into processing. -/
theorem invariant_start (inv : Invariant support ⟨state, calls⟩)
    (found : calls[index]? = some call) (held : call.pc.held = some address)
    (live : state.contexts address = some context)
    (contexts : state'.contexts = Function.update state.contexts address (some context'))
    (pending : state'.pending = state.pending)
    (processing : state'.processing = address :: state.processing)
    (version : state'.versionMajor = state.versionMajor)
    (event : state'.initEvent = state.initEvent)
    (wellFormed : ContextInv support context') (awaiting : context'.coroState = .reply)
    (notForget : isForget context' = false) (transfer : InitShape context' → InitShape context)
    (released : call'.pc.held = none) (moved : CallInv state' call') :
    Invariant support ⟨state', calls.set index call'⟩ := by
  obtain ⟨-, notPending, notProcessing, -⟩ := inv.held_alone found held
  dsimp only at notPending notProcessing
  have init := init_update inv live transfer contexts version event
  refine invariant_of_parts inv found (fun other => ?_) ?_ ?_ ?_ moved ?_ init.1 init.2.1 init.2.2
  · by_cases same : address = other
    · subst same
      simp [pending, processing, held, released, contexts, isSome_update live, live]
      omega
    · simp [pending, processing, held, released, contexts, isSome_update live, same,
        List.count_cons]
  · intro other member
    have old : other ∈ state.pending := pending ▸ member
    rw [contexts, Function.update_noteq (fun same : other = address => notPending (same ▸ old))]
    exact inv.pendingReady other old
  · intro other member
    rw [processing, List.mem_cons] at member
    rcases member with rfl | member
    · exact ⟨context', by rw [contexts, Function.update_same], awaiting, notForget⟩
    · rw [contexts, Function.update_noteq (fun same : other = address => notProcessing (same ▸ member))]
      exact inv.processingAwaiting other member
  · exact contexts ▸ contexts_update inv wellFormed
  · exact others_of_held inv found held
      (fun other different => by rw [contexts, Function.update_noteq different])
      (fun _ _ _ => version)

/-- A step that deletes the context the call holds. -/
theorem invariant_delete (inv : Invariant support ⟨state, calls⟩)
    (found : calls[index]? = some call) (held : call.pc.held = some address)
    (live : state.contexts address = some context)
    (contexts : state'.contexts = Function.update state.contexts address none)
    (pending : state'.pending = state.pending) (processing : state'.processing = state.processing)
    (event : state'.initEvent = true ↔ state'.versionMajor ≠ 0)
    (version : ∀ member ∈ calls, member.pc = .requestAdmit →
      state'.versionMajor = state.versionMajor)
    (initUnset : ∀ other found, state.contexts other = some found → other ≠ address →
      InitShape found → state'.versionMajor = 0)
    (released : call'.pc.held = none) (moved : CallInv state' call') :
    Invariant support ⟨state', calls.set index call'⟩ := by
  obtain ⟨-, notPending, notProcessing, -⟩ := inv.held_alone found held
  dsimp only at notPending notProcessing
  refine invariant_of_parts inv found (fun other => ?_) ?_ ?_ ?_ moved ?_ event ?_ ?_
  · by_cases same : address = other
    · subst same
      simp [pending, processing, held, released, contexts, live]
    · simp [pending, processing, held, released, contexts, Function.update_noteq (Ne.symm same),
        same]
  · intro other member
    have old : other ∈ state.pending := pending ▸ member
    rw [contexts, Function.update_noteq (fun same : other = address => notPending (same ▸ old))]
    exact inv.pendingReady other old
  · intro other member
    have old : other ∈ state.processing := processing ▸ member
    rw [contexts, Function.update_noteq (fun same : other = address => notProcessing (same ▸ old))]
    exact inv.processingAwaiting other old
  · intro other found live'
    exact inv.contexts other found (init_of_delete (contexts ▸ live'))
  · exact others_of_held inv found held
      (fun other different => by rw [contexts, Function.update_noteq different]) version
  · intro other found live' init
    have old := init_of_delete (contexts ▸ live')
    refine initUnset other found old (fun same => ?_) init
    subst same
    rw [contexts, Function.update_same] at live'
    cases live'
  · intro other other' found found' live' live'' init init'
    exact inv.initSingle other other' found found' (init_of_delete (contexts ▸ live'))
      (init_of_delete (contexts ▸ live'')) init init'

theorem invariant_delete_of_version (inv : Invariant support ⟨state, calls⟩)
    (found : calls[index]? = some call) (held : call.pc.held = some address)
    (live : state.contexts address = some context)
    (contexts : state'.contexts = Function.update state.contexts address none)
    (pending : state'.pending = state.pending) (processing : state'.processing = state.processing)
    (version : state'.versionMajor = state.versionMajor)
    (event : state'.initEvent = state.initEvent)
    (released : call'.pc.held = none) (moved : CallInv state' call') :
    Invariant support ⟨state', calls.set index call'⟩ :=
  invariant_delete inv found held live contexts pending processing
    (by rw [event, version]; exact inv.initEvent) (fun _ _ _ => version)
    (fun other found live' _ init => version ▸ inv.initUnset other found live' init)
    released moved

end Moves

/-! ## Every path of a call keeps the invariant -/

section Paths

variable {support : Support} {choice : Choice} {state state' : FuseInstance} {calls : List Call}
  {index : Nat} {call call' : Call}

theorem invariant_callStep (inv : Invariant support ⟨state, calls⟩)
    (found : calls[index]? = some call)
    (step : CallStep support choice state call state' call') :
    Invariant support ⟨state', calls.set index call'⟩ := by
  have holds : CallInv state call := inv.calls call (List.mem_iff_getElem?.2 ⟨index, found⟩)
  cases step with
  | rejected atStart =>
    exact invariant_quiet inv found rfl rfl rfl rfl rfl (by simp [atStart, Pc.held]) rfl
      (holds.internalRequest_eq_none (by simp [atStart]))
  | noResponse atStart =>
    exact invariant_quiet inv found rfl rfl rfl rfl rfl (by simp [atStart, Pc.held]) rfl
      (holds.internalRequest_eq_none (by simp [atStart]))
  | unmatched atStart =>
    exact invariant_quiet inv found rfl rfl rfl rfl rfl (by simp [atStart, Pc.held]) rfl
      (holds.internalRequest_eq_none (by simp [atStart]))
  | @matched address atStart _ nonempty member keyed =>
    obtain ⟨-, once, -, -⟩ := inv.processing_alone member
    refine invariant_of_parts inv found (fun other => ?_) inv.pendingReady
      (fun other erased => inv.processingAwaiting other (List.mem_of_mem_erase erased))
      inv.contexts ⟨holds.internalRequest_eq_none (by simp [atStart]), nonempty, keyed,
        inv.processingAwaiting address member⟩
      (fun other member different found' =>
        (inv.calls member (List.mem_iff_getElem?.2 ⟨other, found'⟩)).frame
          (fun _ _ => rfl) (fun _ => rfl))
      inv.initEvent inv.initUnset inv.initSingle
    by_cases same : address = other
    · subst same
      simp only [List.count_erase_self, once, atStart, Pc.held]
      simp
    · simp [List.count_erase_of_ne (Ne.symm same), same, atStart, Pc.held]
  | @responseRepost address context resumed atResume live process continues =>
    simp only [CallInv, atResume] at holds
    obtain ⟨unowned, nonempty, -, context', live', reply, notForget⟩ := holds
    cases live.symm.trans live'
    rw [show call.fuseResponse = some call.buffer by simp [Call.fuseResponse, nonempty]] at process
    rcases (inv.contexts _ _ live).response reply notForget process with
      ⟨-, ready, noVersion, wellFormed⟩ | ⟨stops, -⟩
    · exact invariant_repost inv found (by simp [atResume, Pc.held]) live
        (by rw [noVersion]; rfl) (by rw [noVersion]; rfl) (by rw [noVersion]; rfl)
        (by rw [noVersion]; rfl) (by rw [noVersion]; rfl) wellFormed ready
        (InitShape.of_resumed (inv.contexts _ _ live) process) rfl unowned
    · exact absurd (continues.symm.trans stops) (by decide)
  | @responseDelete address context resumed atResume live process stops unowned =>
    simp only [CallInv, atResume] at holds
    obtain ⟨unowned', nonempty, -, context', live', reply, notForget⟩ := holds
    cases live.symm.trans live'
    rw [show call.fuseResponse = some call.buffer by simp [Call.fuseResponse, nonempty]] at process
    rcases (inv.contexts _ _ live).response reply notForget process with
      ⟨continues, -⟩ | ⟨-, -, ⟨owned, -⟩ | ⟨init, -, version⟩⟩
    · exact absurd (continues.symm.trans stops) (by decide)
    · simp [unowned] at owned
    · have unset := inv.initUnset address context live init
      have deleted := @fuseContextDelete_of_live
        ((state.setContext address resumed.context).completeInit resumed.initVersion) address
        resumed.context (by simp [version, setContext, completeInit])
      rw [deleted]
      refine invariant_delete inv found (by simp [atResume, Pc.held]) live
        (by simp [version, setContext, completeInit]) (by rw [version]; rfl)
        (by rw [version]; rfl) ?_ (fun member inCalls atAdmit => ?_)
        (fun other found' live'' different init' =>
          absurd (inv.initSingle other address found' context live'' live init' init) different)
        rfl unowned'
      · simp [version, completeInit, initVersionOf_fst_ne_zero]
      · have admitting := inv.calls member inCalls
        simp only [CallInv, atAdmit] at admitting
        exact absurd unset admitting.2.1
  | @responseFinish address context resumed request atResume live process stops owner =>
    simp only [CallInv, atResume] at holds
    obtain ⟨unowned, nonempty, -, context', live', reply, notForget⟩ := holds
    cases live.symm.trans live'
    rw [show call.fuseResponse = some call.buffer by simp [Call.fuseResponse, nonempty]] at process
    rcases (inv.contexts _ _ live).response reply notForget process with
      ⟨continues, -⟩ | ⟨-, finished, ⟨-, noVersion, wellFormed⟩ | ⟨-, unowned', -⟩⟩
    · exact absurd (continues.symm.trans stops) (by decide)
    · exact invariant_keep inv found (by simp [atResume, Pc.held]) live
        (by rw [noVersion]; rfl) (by rw [noVersion]; rfl) (by rw [noVersion]; rfl)
        (by rw [noVersion]; rfl) (by rw [noVersion]; rfl) wellFormed
        (InitShape.of_resumed (inv.contexts _ _ live) process) rfl
        ⟨unowned, resumed.context, request, by simp [noVersion, setContext], owner, finished⟩
    · simp [owner] at unowned'
  | @responseForwarded address context request atForward live owner =>
    have deleted := @fuseContextDelete_of_live
      (state.forward request.serial context.internalResponse) address context live
    rw [deleted]
    exact invariant_delete_of_version inv found (by simp [atForward, Pc.held]) live rfl rfl rfl
      rfl rfl rfl (holds.internalRequest_eq_none (by simp [atForward]))
  | @responseForwardFailed address context request atForward live owner =>
    have deleted := @fuseContextDelete_of_live
      (state.forward request.serial context.internalResponse) address context live
    rw [deleted]
    exact invariant_delete_of_version inv found (by simp [atForward, Pc.held]) live rfl rfl rfl
      rfl rfl rfl rfl
  | requestSkipped atRequest =>
    exact invariant_quiet inv found rfl rfl rfl rfl rfl (by simp [atRequest, Pc.held]) rfl rfl
  | @requestPending address rest atRequest nonempty head =>
    refine invariant_of_parts inv found (fun other => ?_)
      (fun other later => inv.pendingReady other (by simp [head, later]))
      inv.processingAwaiting inv.contexts
      ⟨holds.internalRequest_eq_none (by simp [atRequest]),
        inv.pendingReady address (by simp [head])⟩
      (fun other member different found' =>
        (inv.calls member (List.mem_iff_getElem?.2 ⟨other, found'⟩)).frame
          (fun _ _ => rfl) (fun _ => rfl))
      inv.initEvent inv.initUnset inv.initSingle
    by_cases same : address = other
    · subst same
      simp [head, atRequest, Pc.held]
      omega
    · simp [head, List.count_cons, same, atRequest, Pc.held]
  | requestIdle atRequest =>
    exact invariant_quiet inv found rfl rfl rfl rfl rfl (by simp [atRequest, Pc.held]) rfl
      (holds.internalRequest_eq_none (by simp [atRequest]))
  | versionUnset atVersion =>
    exact invariant_quiet inv found rfl rfl rfl rfl rfl (by simp [atVersion, Pc.held]) rfl
      (holds.internalRequest_eq_none (by simp [atVersion]))
  | versionDenied atVersion =>
    exact invariant_quiet inv found rfl rfl rfl rfl rfl (by simp [atVersion, Pc.held]) rfl rfl
  | versionSet atVersion set usable =>
    exact invariant_quiet inv found rfl rfl rfl rfl rfl (by simp [atVersion, Pc.held]) rfl
      ⟨holds.internalRequest_eq_none (by simp [atVersion]), set, usable⟩
  | waitFailed atWait =>
    exact invariant_quiet inv found rfl rfl rfl rfl rfl (by simp [atWait, Pc.held]) rfl rfl
  | waitDenied atWait =>
    exact invariant_quiet inv found rfl rfl rfl rfl rfl (by simp [atWait, Pc.held]) rfl rfl
  | waitAdmit atWait signalled event usable =>
    exact invariant_quiet inv found rfl rfl rfl rfl rfl (by simp [atWait, Pc.held]) rfl
      ⟨holds.internalRequest_eq_none (by simp [atWait]), inv.initEvent.1 event, usable⟩
  | admitFailed atAdmit =>
    exact invariant_quiet inv found rfl rfl rfl rfl rfl (by simp [atAdmit, Pc.held]) rfl rfl
  | admitNone atAdmit =>
    exact invariant_quiet inv found rfl rfl rfl rfl rfl (by simp [atAdmit, Pc.held]) rfl rfl
  | admitStatus atAdmit =>
    exact invariant_quiet inv found rfl rfl rfl rfl rfl (by simp [atAdmit, Pc.held]) rfl
      (by simp [CallInv])
  | @admitContext pulled atAdmit successful handed created nonzero free =>
    have fresh : ∀ other, (state.contexts other).isSome → other ≠ choice.address :=
      fun other live same => by simp [same, free] at live
    have wellFormed : ContextInv support (hostContext support { pulled with serial := state.admitted }) :=
      ⟨.inr (.inr ⟨_, rfl, rfl, rfl, rfl⟩), by simp [hostContext], by simp [hostContext]⟩
    have update : ∀ other, (state.contexts other).isSome →
        Function.update state.contexts choice.address
          (some (hostContext support { pulled with serial := state.admitted })) other =
        state.contexts other :=
      fun other live => Function.update_noteq (fresh other live) _ _
    have contexts : ∀ other found, Function.update state.contexts choice.address
        (some (hostContext support { pulled with serial := state.admitted })) other = some found →
        InitShape found → state.contexts other = some found := by
      intro other found live' init
      by_cases same : other = choice.address
      · subst same
        simp only [Function.update_same, Option.some.injEq] at live'
        simp [← live', hostContext] at init
        exact absurd init.unowned (by simp)
      · rwa [Function.update_noteq same] at live'
    refine invariant_of_parts inv found (fun other => ?_) (fun other member => ?_)
      (fun other member => ?_) (@contexts_update support state calls _ _ inv wellFormed)
      ⟨holds.internalRequest_eq_none (by simp [atAdmit]), _, Function.update_same _ _ _, rfl⟩
      (fun other member different found' => ?_) inv.initEvent
      (fun other found live' init => inv.initUnset other found (contexts other found live' init) init)
      (fun other other' found found' live' live'' init init' => inv.initSingle other other' found found'
        (contexts other found live' init) (contexts other' found' live'' init') init init')
    · by_cases same : choice.address = other
      · subst same
        simp [free, setContext, atAdmit, Pc.held]
      · simp [same, setContext, Function.update_noteq (Ne.symm same), atAdmit, Pc.held]
    · obtain ⟨context, live, ready⟩ := inv.pendingReady other member
      exact ⟨context, (update other (live ▸ rfl)).trans live, ready⟩
    · obtain ⟨context, live, awaiting⟩ := inv.processingAwaiting other member
      exact ⟨context, (update other (live ▸ rfl)).trans live, awaiting⟩
    · exact (inv.calls member (List.mem_iff_getElem?.2 ⟨other, found'⟩)).frame
        (fun held holds => update held (inv.held_alone found' holds).1) (fun _ => rfl)
  | @requestStarted address context resumed atResume live process continues =>
    simp only [CallInv, atResume] at holds
    obtain ⟨unowned, context', live', ready⟩ := holds
    cases live.symm.trans live'
    rcases (inv.contexts _ _ live).request ready process with
      ⟨-, reply, notForget, wellFormed⟩ | ⟨stops, -⟩ | ⟨stops, -⟩
    · exact invariant_start inv found (by simp [atResume, Pc.held]) live rfl rfl rfl rfl rfl
        wellFormed reply notForget (InitShape.of_resumed (inv.contexts _ _ live) process) rfl rfl
    all_goals exact absurd (continues.symm.trans stops) (by decide)
  | @requestReposted address context resumed atResume live process stops unowned forget
      remaining =>
    simp only [CallInv, atResume] at holds
    obtain ⟨-, context', live', ready⟩ := holds
    cases live.symm.trans live'
    rcases (inv.contexts _ _ live).request ready process with
      ⟨continues, -⟩ | ⟨-, owned, -⟩ | ⟨-, forgetShape, advanced⟩
    · exact absurd (continues.symm.trans stops) (by decide)
    · simp [unowned] at owned
    · exact invariant_repost inv found (by simp [atResume, Pc.held]) live rfl rfl rfl rfl rfl
        (advanced ▸ (inv.contexts _ _ live).advance forgetShape (advanced ▸ remaining))
        (advanced ▸ forgetShape.ready) (InitShape.of_resumed (inv.contexts _ _ live) process)
        rfl rfl
  | @requestDrained address context resumed atResume live process =>
    have deleted := @fuseContextDelete_of_live (state.setContext address resumed.context)
      address resumed.context (by simp [setContext])
    rw [deleted]
    exact invariant_delete_of_version inv found (by simp [atResume, Pc.held]) live
      (by simp [setContext, freeExternal]) rfl rfl rfl rfl rfl rfl
  | @requestAbandoned address context resumed atResume live process stops unowned other =>
    simp only [CallInv, atResume] at holds
    obtain ⟨-, context', live', ready⟩ := holds
    cases live.symm.trans live'
    rcases (inv.contexts _ _ live).request ready process with
      ⟨continues, -⟩ | ⟨-, owned, -⟩ | ⟨-, forgetShape, advanced⟩
    · exact absurd (continues.symm.trans stops) (by decide)
    · simp [unowned] at owned
    · rw [advanced] at other
      exact absurd forgetShape.isForget (by simpa [forgetAdvance, isForget] using other)
  | @requestFinish address context resumed request atResume live process stops owner =>
    simp only [CallInv, atResume] at holds
    obtain ⟨unowned, context', live', ready⟩ := holds
    cases live.symm.trans live'
    rcases (inv.contexts _ _ live).request ready process with
      ⟨continues, -⟩ | ⟨-, -, finished, wellFormed⟩ | ⟨-, forgetShape, advanced⟩
    · exact absurd (continues.symm.trans stops) (by decide)
    · exact invariant_keep inv found (by simp [atResume, Pc.held]) live rfl rfl rfl rfl rfl
        wellFormed (InitShape.of_resumed (inv.contexts _ _ live) process) rfl
        ⟨unowned, resumed.context, request, by simp [setContext], owner, finished⟩
    · rw [advanced] at owner
      simp [forgetAdvance, forgetShape.unowned] at owner
  | @requestForward address context request atForward live owner =>
    have deleted := @fuseContextDelete_of_live
      (state.forward request.serial context.internalResponse) address context live
    rw [deleted]
    by_cases success : ntSuccess choice.forwardResult = true <;>
      exact invariant_delete_of_version inv found (by simp [atForward, Pc.held]) live rfl rfl rfl
        rfl rfl (by simp [success, Pc.held]) (by simp [success, CallInv])
  | requestStatus atStatus =>
    by_cases success : ntSuccess choice.forwardResult = true <;>
      exact invariant_quiet inv found rfl rfl rfl rfl rfl (by simp [atStatus, Pc.held])
        (by simp [success, Pc.held]) (by simp [success, CallInv])

end Paths

/-! ## Every step keeps the invariant -/

section Steps

variable {support : Support}

theorem forgetContext_wellFormed {forgetList : List UInt64} (nonempty : forgetList ≠ []) :
    ContextInv support (forgetContext forgetList) :=
  ⟨.inr (.inl ⟨rfl, rfl, rfl, rfl, nonempty, by simp [forgetContext, reservedContext],
      by simp [forgetContext, reservedContext]⟩),
    by simp [forgetContext, reservedContext], by simp [forgetContext, reservedContext]⟩

theorem invariant_begin {system : System} (inv : Invariant support system)
    (inputBufferLength outputBufferLength : Nat) (buffer : Buffer) :
    Invariant support { system with
      calls := system.calls ++ [Call.begin inputBufferLength outputBufferLength buffer] } where
  placed address := by
    simpa [placements, Call.begin, Pc.held] using inv.placed address
  pendingReady := inv.pendingReady
  processingAwaiting := inv.processingAwaiting
  contexts := inv.contexts
  calls call member := by
    rcases List.mem_append.1 member with old | fresh
    · exact inv.calls call old
    · rw [List.mem_singleton.1 fresh]
      rfl
  initEvent := inv.initEvent
  initUnset := inv.initUnset
  initSingle := inv.initSingle

/-- `FuseProtoPostForget` puts a new FORGET operation at a free address on pending. -/
theorem invariant_postForget {system : System} (inv : Invariant support system)
    {forgetList : List UInt64} {address : UInt64} (nonempty : forgetList ≠ [])
    (free : system.state.contexts address = none) :
    Invariant support { system with
      state := system.state.fuseProtoPostForget address forgetList } := by
  have fresh : ∀ other, (system.state.contexts other).isSome → other ≠ address :=
    fun other live same => by simp [same, free] at live
  have update : ∀ other, (system.state.contexts other).isSome →
      Function.update system.state.contexts address (some (forgetContext forgetList)) other =
        system.state.contexts other :=
    fun other live => Function.update_noteq (fresh other live) _ _
  have contexts : ∀ other found, Function.update system.state.contexts address
      (some (forgetContext forgetList)) other = some found → InitShape found →
      system.state.contexts other = some found := by
    intro other found live' init
    by_cases same : other = address
    · subst same
      simp only [Function.update_same, Option.some.injEq] at live'
      have hint := init.hint
      simp [← live', forgetContext, reservedContext, fuseProtoOpcodeForget,
        fuseProtoOpcodeInit] at hint
    · rwa [Function.update_noteq same] at live'
  have absent : system.state.pending.count address = 0 := by
    have count := inv.placed address
    simp only [placements, List.count_append, free, Option.isSome_none] at count
    simp at count
    omega
  refine ⟨fun other => ?_, fun other member => ?_, fun other member => ?_,
    @contexts_update support system.state system.calls _ _ inv (forgetContext_wellFormed nonempty),
    fun call member => (inv.calls call member).frame
      (fun held holds => update held (inv.held_alone
        (List.mem_iff_getElem?.1 member).choose_spec holds).1) (fun _ => rfl),
    inv.initEvent, fun other found live' init =>
      inv.initUnset other found (contexts other found live' init) init,
    fun other other' found found' live' live'' init init' => inv.initSingle other other' found
      found' (contexts other found live' init) (contexts other' found' live'' init') init init'⟩
  · have count := inv.placed other
    by_cases same : address = other
    · subst same
      simp only [placements, List.count_append, free, Option.isSome_none] at count
      simp [placements, fuseProtoPostForget, fuseIoqPostPending, setContext, absent] at count ⊢
      omega
    · simpa [placements, fuseProtoPostForget, fuseIoqPostPending, setContext,
        Function.update_noteq (Ne.symm same), same, List.count_cons] using count
  · simp only [fuseProtoPostForget, fuseIoqPostPending, setContext, List.mem_append,
      List.mem_singleton] at member
    rcases member with member | rfl
    · obtain ⟨context, live, ready⟩ := inv.pendingReady other member
      exact ⟨context, (update other (live ▸ rfl)).trans live, ready⟩
    · exact ⟨_, Function.update_same _ _ _, rfl⟩
  · obtain ⟨context, live, awaiting⟩ := inv.processingAwaiting other member
    exact ⟨context, (update other (live ▸ rfl)).trans live, awaiting⟩

/-- Every step keeps the invariant. -/
theorem invariant_step {system next : System} (inv : Invariant support system)
    (step : Step support system next) : Invariant support next := by
  cases step with
  | begin inputBufferLength outputBufferLength buffer =>
    exact invariant_begin inv inputBufferLength outputBufferLength buffer
  | call index inside choice state call stepped =>
    exact invariant_callStep inv (by simp) (stepCall_sound stepped)
  | postForget forgetList address nonempty nonzero free =>
    exact invariant_postForget inv nonempty free

/-- The instance `FuseDeviceInit` leaves has the invariant. -/
theorem invariant_initial (address : UInt64) :
    Invariant support ⟨FuseInstance.initial address, []⟩ := by
  have initial : ∀ other found, (FuseInstance.initial address).contexts other = some found →
      other = address ∧ found = initContext := by
    intro other found live
    by_cases same : other = address
    · subst same
      simpa [FuseInstance.initial] using live.symm
    · simp [FuseInstance.initial, Function.update_noteq same] at live
  refine ⟨fun other => ?_, fun other member => ?_, by simp [FuseInstance.initial],
    fun other found live => ?_, by simp, by simp [FuseInstance.initial],
    fun _ _ _ _ => rfl, fun other other' found found' live live' _ _ =>
      (initial other found live).1.trans (initial other' found' live').1.symm⟩
  · by_cases same : address = other
    · subst same
      simp [placements, FuseInstance.initial]
    · simp [placements, FuseInstance.initial, Function.update_noteq (Ne.symm same), same,
        List.count_cons]
  · simp only [FuseInstance.initial, List.mem_singleton] at member
    subst member
    exact ⟨initContext, by simp [FuseInstance.initial], rfl⟩
  · obtain ⟨-, rfl⟩ := initial other found live
    exact ⟨.inl ⟨rfl, rfl, rfl, by simp [initContext, reservedContext]⟩,
      by simp [initContext, reservedContext], by simp [initContext, reservedContext]⟩

/-- Every reachable state has the invariant. -/
theorem invariant_reachable {system : System} (reachable : Reachable support system) :
    Invariant support system := by
  induction reachable with
  | initial address _ => exact invariant_initial address
  | step _ step inv => exact invariant_step inv step

end Steps

end WinFuse.Engine.Preservation
