import WinFuse.Engine.Requests
import WinFuse.Proto.Forget

/-!
# FORGET operations drain their list

`FuseProtoPostForget` splices the caller's forget list into a new FORGET operation and posts it.
The operation never waits for a reply, so it never enters processing; each request half that
resumes it fills one FORGET or BATCH_FORGET request with the first inodes of its list, each
with `nlookup = 1`, and posts it again while inodes are left, or deletes it, its `Fini`
deleting the empty list.  No other step touches it.  So at every point the inodes of the
requests it emitted, in order, followed by the list it still holds, are the list it was given,
and it emits `⌈N / K⌉` requests over its life, `K` inodes per request (`K = 1` for FORGET).
-/

namespace WinFuse.Engine.Drain

open WinFuse.Wire.Bytes
open WinFuse.Wire.Layout
open WinFuse.Proto.OperationContext
open WinFuse.Proto.Routines
open WinFuse.Proto.Forget
open WinFuse.Engine.Instance
open WinFuse.Engine.Instance.FuseInstance
open WinFuse.Engine.Transact
open WinFuse.Engine.Transitions
open WinFuse.Engine.Invariants
open WinFuse.Engine.Preservation

variable {support : Support}

/-! ## The requests a FORGET operation emits -/

theorem forgetBatch_pos : 0 < forgetBatch support := by
  unfold forgetBatch
  split <;> decide

theorem length_flatten_of_batches {batches : List (List UInt64)} {size : Nat}
    (sized : ∀ batch ∈ batches, batch.length = size) :
    batches.flatten.length = size * batches.length := by
  induction batches with
  | nil => simp
  | cons batch rest ih =>
    rw [List.flatten_cons, List.length_append, sized batch (List.mem_cons_self _ _),
      ih fun other member => sized other (List.mem_cons_of_mem _ member), List.length_cons,
      Nat.mul_succ, Nat.add_comm]

/-- The requests a FORGET operation emitted, plus those it still needs for the inodes it holds,
are `⌈N / K⌉` for the `N` inodes it was given. -/
theorem forgetShape_requests {context : Context} (forget : ForgetShape support context) :
    context.ghost.forgotten.length +
        (context.forgetList.length + forgetBatch support - 1) / forgetBatch support =
      (context.ghost.spliced.length + forgetBatch support - 1) / forgetBatch support := by
  have spliced : context.ghost.spliced.length =
      context.forgetList.length + forgetBatch support - 1 + 1 -
        forgetBatch support + forgetBatch support * context.ghost.forgotten.length := by
    rw [forget.spliced, List.length_append, length_flatten_of_batches forget.batches]
    have := @forgetBatch_pos support
    omega
  have positive := @forgetBatch_pos support
  have nonempty := List.length_pos.2 forget.nonempty
  rw [spliced, show context.forgetList.length + forgetBatch support - 1 + 1 - forgetBatch support +
      forgetBatch support * context.ghost.forgotten.length + forgetBatch support - 1 =
      context.forgetList.length + forgetBatch support - 1 +
        forgetBatch support * context.ghost.forgotten.length by omega,
    Nat.add_mul_div_left _ _ positive]
  omega

theorem forgetShape_of_isForget {system : System} (inv : Invariant support system)
    {address : UInt64} {context : Context} (live : system.state.contexts address = some context)
    (forget : isForget context = true) : ForgetShape support context := by
  rcases (inv.contexts address context live).shape with init | forgetShape | ⟨_, host⟩
  · exact absurd init.not_isForget (by simp [forget])
  · exact forgetShape
  · exact absurd host.not_isForget (by simp [forget])

/-- The request half resuming a FORGET operation writes one request of its opcode with the
first `K` inodes of the list, each with `nlookup = 1`, and returns; the operation is posted
again while inodes are left, and deleted otherwise, its `Fini` deleting the empty list.  It
never enters processing. -/
theorem stepCall_forget {state : FuseInstance} {call : Call} {address : UInt64}
    {context : Context} (atResume : call.pc = .requestResume address)
    (live : state.contexts address = some context) (forget : ForgetShape support context)
    (choice : Choice) :
    ∃ state' call', stepCall support choice state call = some (state', call') ∧
      call'.pc = .returned statusSuccess ∧
      Request.opcode.read call'.buffer = forgetOpcode support ∧
      forgetPairs call'.buffer =
        (context.forgetList.take (forgetBatch support)).map (fun ino => (ino.toNat, 1)) ∧
      state'.processing = state.processing ∧
      ((forgetAdvance support context).forgetList ≠ [] →
        state'.contexts address = some (forgetAdvance support context) ∧
          state'.pending = state.pending ++ [address]) ∧
      ((forgetAdvance support context).forgetList = [] →
        state'.contexts address = none ∧ state'.pending = state.pending ∧
          state'.finiDeleted = state.finiDeleted ++ [[]]) := by
  obtain ⟨writes, resumed⟩ := @resumeForget_eq support address context forget.nonempty
  have process : fuseContextProcess support address context none true =
      some ⟨forgetAdvance support context, false, writes, none⟩ := by
    rw [fuseContextProcess_forget forget.isForget, resumed]
  obtain ⟨opcode, pairs⟩ := resumeForget_writes forget.nonempty resumed call.buffer
  have unowned : (forgetAdvance support context).internalRequest = none := forget.unowned
  have stillForget : isForget (forgetAdvance support context) = true := forget.isForget
  simp only [stepCall, atResume, live, process, Option.bind_eq_bind, Option.some_bind,
    Bool.false_eq_true, if_false, unowned, stillForget, if_true]
  by_cases remaining : (forgetAdvance support context).forgetList ≠ []
  · rw [if_pos remaining]
    exact ⟨_, _, rfl, rfl, opcode, pairs, rfl, fun _ => ⟨by simp [freeExternal,
      fuseIoqPostPending, setContext], rfl⟩, fun drained => absurd drained remaining⟩
  · have drained : (forgetAdvance support context).forgetList = [] := not_not.1 remaining
    rw [if_neg remaining, @fuseContextDelete_of_live (state.setContext address
      (forgetAdvance support context)) address (forgetAdvance support context)
      (by simp [setContext])]
    refine ⟨_, _, rfl, rfl, opcode, pairs, rfl, fun left => absurd drained left,
      fun _ => ⟨by simp [freeExternal], rfl, ?_⟩⟩
    have fini : (forgetAdvance support context).finiDeletesForgetList = true := forget.fini
    simp [freeExternal, setContext, drained, fini]

/-! ## No other step touches a FORGET operation -/

section Frame

variable {choice : Choice} {state state' : FuseInstance} {call call' : Call}

/-- A call step changes only the context the call holds, or makes a host context at a free
address. -/
theorem callStep_contexts (step : CallStep support choice state call state' call')
    {other : UInt64} (unheld : call.pc.held ≠ some other) :
    state'.contexts other = state.contexts other ∨
      (state.contexts other = none ∧
        ∃ request, state'.contexts other = some (hostContext support request)) := by
  have away : ∀ address, call.pc.held = some address → other ≠ address :=
    fun address held same => unheld (same ▸ held)
  cases step with
  | @admitContext pulled _ _ _ _ _ free =>
    by_cases same : other = choice.address
    · subst same
      exact .inr ⟨free, { pulled with serial := state.admitted }, by simp [setContext]⟩
    · exact .inl (by simp [setContext, Function.update_noteq same])
  | @responseRepost address _ _ atResume | @responseDelete address _ _ atResume
  | @responseFinish address _ _ _ atResume | @requestStarted address _ _ atResume
  | @requestReposted address _ _ atResume | @requestDrained address _ _ atResume
  | @requestAbandoned address _ _ atResume | @requestFinish address _ _ _ atResume =>
    have differs := away address (by simp [atResume, Pc.held])
    exact .inl (by simp [setContext, fuseIoqPostPending, fuseIoqStartProcessing, freeExternal,
      Function.update_noteq differs])
  | @responseForwarded address _ _ atForward | @responseForwardFailed address _ _ atForward
  | @requestForward address _ _ atForward =>
    have differs := away address (by simp [atForward, Pc.held])
    exact .inl (by simp [forward, freeExternal, Function.update_noteq differs])
  | rejected | noResponse | unmatched | matched | requestSkipped | requestPending
  | requestIdle | versionUnset | versionDenied | versionSet | waitFailed | waitDenied
  | waitAdmit | admitFailed | admitNone | admitStatus | requestStatus =>
    exact .inl (by simp [forward, freeExternal])

end Frame

/-- A call that holds a live FORGET operation is the request half about to resume it: the
response half holds only contexts that wait for a reply, and the forwards only contexts that
own a host request. -/
theorem requestResume_of_held_forget {system : System} (inv : Invariant support system)
    {call : Call} (member : call ∈ system.calls) {address : UInt64} {context : Context}
    (held : call.pc.held = some address) (live : system.state.contexts address = some context)
    (forget : isForget context = true) : call.pc = .requestResume address := by
  have holds := inv.calls call member
  unfold CallInv at holds
  cases atPc : call.pc with
  | requestResume other =>
    simp only [atPc, Pc.held, Option.some.injEq] at held
    rw [held]
  | responseResume other =>
    simp only [atPc, Pc.held, Option.some.injEq] at held holds
    subst held
    obtain ⟨-, -, -, found, found_live, -, notForget⟩ := holds
    cases live.symm.trans found_live
    simp [forget] at notForget
  | responseForward other | requestForward other =>
    simp only [atPc, Pc.held, Option.some.injEq] at held holds
    subst held
    obtain ⟨-, found, request, found_live, owner, -⟩ := holds
    cases live.symm.trans found_live
    simp [isForget, owner] at forget
  | start | request | requestVersion | requestWait | requestAdmit | requestStatus | returned =>
    simp [atPc, Pc.held] at held

/-! ## A FORGET operation over a run -/

section Run

variable {system next : System}

theorem forget_live (inv : Invariant support system) {address : UInt64} {context : Context}
    (live : system.state.contexts address = some context) (forget : isForget context = true) :
    ForgetShape support context ∧ address ∉ system.state.processing := by
  refine ⟨forgetShape_of_isForget inv live forget, fun member => ?_⟩
  obtain ⟨found, found_live, -, notForget⟩ := inv.processingAwaiting address member
  cases live.symm.trans found_live
  simp [forget] at notForget

/-- A step leaves a live FORGET operation as it is, unless it is the request half resuming
it. -/
theorem step_keeps_forget (inv : Invariant support system) (step : Step support system next)
    {address : UInt64} {context : Context} (live : system.state.contexts address = some context)
    (forget : isForget context = true) :
    next.state.contexts address = some context ∨
      ∃ call ∈ system.calls, ∃ choice call', call.pc = .requestResume address ∧
        stepCall support choice system.state call = some (next.state, call') := by
  cases step with
  | begin => exact .inl live
  | postForget forgetList fresh nonempty nonzero free =>
    have differs : address ≠ fresh := fun same => by simp [same, free] at live
    exact .inl (by simp [fuseProtoPostForget, fuseIoqPostPending, setContext,
      Function.update_noteq differs, live])
  | call index inside choice state' call' stepped =>
    have member := List.get_mem system.calls index inside
    by_cases held : (system.calls.get ⟨index, inside⟩).pc.held = some address
    · exact .inr ⟨_, member, choice, call',
        requestResume_of_held_forget inv member held live forget, stepped⟩
    · rcases callStep_contexts (stepCall_sound stepped) held with same | ⟨free, -⟩
      · exact .inl (same.trans live)
      · simp [live] at free

/-- Only `FuseProtoPostForget` makes a FORGET operation, at the address it was given, with the
whole list it was handed and nothing forgotten. -/
theorem step_makes_forget (inv : Invariant support system) (step : Step support system next)
    {address : UInt64} {context : Context} (dead : system.state.contexts address = none)
    (live : next.state.contexts address = some context) (forget : isForget context = true) :
    ∃ forgetList,
      next = { system with state := system.state.fuseProtoPostForget address forgetList } ∧
      context.forgetList = forgetList ∧ context.ghost.spliced = forgetList ∧
      context.ghost.forgotten = [] := by
  cases step with
  | begin => simp [dead] at live
  | postForget forgetList fresh nonempty nonzero free =>
    by_cases same : address = fresh
    · subst same
      simp only [fuseProtoPostForget, fuseIoqPostPending, setContext, Function.update_same,
        Option.some.injEq] at live
      subst live
      exact ⟨forgetList, rfl, rfl, rfl, rfl⟩
    · simp [fuseProtoPostForget, fuseIoqPostPending, setContext, Function.update_noteq same,
        dead] at live
  | call index inside choice state' call' stepped =>
    by_cases held : (system.calls.get ⟨index, inside⟩).pc.held = some address
    · have placed := (inv.held_alone (List.getElem?_eq_getElem inside) held).1
      simp [dead] at placed
    · rcases callStep_contexts (stepCall_sound stepped) held with same | ⟨-, request, made⟩
      · simp [same, dead] at live
      · rw [made, Option.some.injEq] at live
        subst live
        simp [isForget, hostContext] at forget

/-- A step of the system after which the context at `address` still lives. -/
def StepAlive (support : Support) (address : UInt64) (system next : System) : Prop :=
  Step support system next ∧ next.state.contexts address ≠ none

/-- A step that keeps a FORGET operation alive leaves it with the same inodes, emitted and
still held, in order: it is left alone, or it gives its first batch to a request. -/
theorem stepAlive_forget (inv : Invariant support system) {address : UInt64} {context : Context}
    (alive : StepAlive support address system next)
    (live : system.state.contexts address = some context) (forget : isForget context = true) :
    ∃ context', next.state.contexts address = some context' ∧ isForget context' = true ∧
      context'.ghost.forgotten.flatten ++ context'.forgetList =
        context.ghost.forgotten.flatten ++ context.forgetList := by
  rcases step_keeps_forget inv alive.1 live forget with
    same | ⟨call, -, choice, call', atResume, stepped⟩
  · exact ⟨context, same, forget, rfl⟩
  · obtain ⟨state', call'', resumed, -, -, -, -, kept, deleted⟩ :=
      stepCall_forget atResume live (forgetShape_of_isForget inv live forget) choice
    cases congrArg Prod.fst (Option.some.inj (resumed.symm.trans stepped))
    by_cases drained : (forgetAdvance support context).forgetList = []
    · exact absurd (deleted drained).1 alive.2
    · refine ⟨_, (kept drained).1, forget, ?_⟩
      simp [forgetAdvance, List.take_append_drop]

/-- Over a run that keeps a FORGET operation alive, the inodes it emitted followed by those it
holds stay the same. -/
theorem forget_run {start later : System} {address : UInt64}
    (reachable : Reachable support start)
    (steps : Relation.ReflTransGen (StepAlive support address) start later) {context : Context}
    (live : start.state.contexts address = some context) (forget : isForget context = true) :
    Reachable support later ∧ ∃ context', later.state.contexts address = some context' ∧
      isForget context' = true ∧ context'.ghost.forgotten.flatten ++ context'.forgetList =
        context.ghost.forgotten.flatten ++ context.forgetList := by
  induction steps with
  | refl => exact ⟨reachable, context, live, forget, rfl⟩
  | tail _ alive ih =>
    obtain ⟨reached, current, current_live, current_forget, same⟩ := ih
    obtain ⟨context', live', forget', kept⟩ :=
      stepAlive_forget (invariant_reachable reached) alive current_live current_forget
    exact ⟨.step reached alive.1, context', live', forget', kept.trans same⟩

end Run

/--
In every reachable state each live FORGET operation holds a non-empty list, and the inodes of
the requests it emitted, batch by batch (each of `K`), followed by the list, are the list it was
given; it is ready, not in processing, and the requests it emitted and still needs make
`⌈N / K⌉`.  A request half that resumes it always runs: it writes one FORGET or BATCH_FORGET
request with the first `K` inodes, each with `nlookup = 1`, leaves processing alone, and posts
the operation again if inodes are left, or deletes it with its empty list.  Any other step
leaves it as it is.  Only `FuseProtoPostForget` makes one, holding exactly the list `L` it was
handed; over every run from there that keeps it alive, the inodes it emitted followed by those
it holds are `L`, and the requests it emitted and still needs make `⌈|L| / K⌉`.
-/
theorem forget_drains_in_order {system : System} (reachable : Reachable support system) :
    (∀ address context, system.state.contexts address = some context →
      isForget context = true →
      context.ghost.forgotten.flatten ++ context.forgetList = context.ghost.spliced ∧
      context.forgetList ≠ [] ∧
      (∀ batch ∈ context.ghost.forgotten, batch.length = forgetBatch support) ∧
      context.coroState = .ready ∧ address ∉ system.state.processing ∧
      context.ghost.forgotten.length +
          (context.forgetList.length + forgetBatch support - 1) / forgetBatch support =
        (context.ghost.spliced.length + forgetBatch support - 1) / forgetBatch support) ∧
    (∀ call ∈ system.calls, ∀ address context choice, call.pc = .requestResume address →
      system.state.contexts address = some context → isForget context = true →
      ∃ state' call', stepCall support choice system.state call = some (state', call') ∧
        call'.pc = .returned statusSuccess ∧
        Request.opcode.read call'.buffer = forgetOpcode support ∧
        forgetPairs call'.buffer =
          (context.forgetList.take (forgetBatch support)).map (fun ino => (ino.toNat, 1)) ∧
        state'.processing = system.state.processing ∧
        ((forgetAdvance support context).forgetList ≠ [] →
          state'.contexts address = some (forgetAdvance support context) ∧
            state'.pending = system.state.pending ++ [address]) ∧
        ((forgetAdvance support context).forgetList = [] →
          state'.contexts address = none ∧ state'.pending = system.state.pending ∧
            state'.finiDeleted = system.state.finiDeleted ++ [[]])) ∧
    (∀ next, Step support system next → ∀ address context,
      system.state.contexts address = some context → isForget context = true →
      next.state.contexts address = some context ∨
        ∃ call ∈ system.calls, ∃ choice call', call.pc = .requestResume address ∧
          stepCall support choice system.state call = some (next.state, call')) ∧
    (∀ next, Step support system next → ∀ address context,
      system.state.contexts address = none → next.state.contexts address = some context →
      isForget context = true →
      ∃ forgetList,
        next = { system with state := system.state.fuseProtoPostForget address forgetList } ∧
        context.forgetList = forgetList ∧ context.ghost.spliced = forgetList ∧
        context.ghost.forgotten = []) ∧
    (∀ forgetList address, forgetList ≠ [] → address ≠ 0 →
      system.state.contexts address = none →
      ∀ later, Relation.ReflTransGen (StepAlive support address)
        { system with state := system.state.fuseProtoPostForget address forgetList } later →
      ∃ context, later.state.contexts address = some context ∧ isForget context = true ∧
        context.ghost.forgotten.flatten ++ context.forgetList = forgetList ∧
        (∀ batch ∈ context.ghost.forgotten, batch.length = forgetBatch support) ∧
        context.ghost.forgotten.length +
            (context.forgetList.length + forgetBatch support - 1) / forgetBatch support =
          (forgetList.length + forgetBatch support - 1) / forgetBatch support) := by
  have inv := invariant_reachable reachable
  refine ⟨fun address context live forget => ?_,
    fun call _ address context choice atResume live forget =>
      stepCall_forget atResume live (forgetShape_of_isForget inv live forget) choice,
    fun next step address context live forget => step_keeps_forget inv step live forget,
    fun next step address context dead live forget => step_makes_forget inv step dead live forget,
    fun forgetList address nonempty nonzero free later steps => ?_⟩
  · obtain ⟨shape, unprocessed⟩ := forget_live inv live forget
    exact ⟨shape.spliced.symm, shape.nonempty, shape.batches, shape.ready, unprocessed,
      forgetShape_requests shape⟩
  · have posted : ({ system with state := system.state.fuseProtoPostForget address forgetList } :
        System).state.contexts address = some (forgetContext forgetList) := by
      simp [fuseProtoPostForget, fuseIoqPostPending, setContext]
    obtain ⟨reached, context, live, forget, same⟩ :=
      forget_run (.step reachable (.postForget _ _ _ nonempty nonzero free)) steps posted rfl
    have shape := (forget_live (invariant_reachable reached) live forget).1
    have whole : context.ghost.forgotten.flatten ++ context.forgetList = forgetList := by
      simpa [forgetContext, reservedContext] using same
    refine ⟨context, live, forget, whole, shape.batches, ?_⟩
    rw [← congrArg List.length whole, ← shape.spliced]
    exact forgetShape_requests shape

/-- After `FuseProtoPostForget` puts the list `[5, 7]` at address 2, the FORGET operation there
holds all of it. -/
theorem forget_drains_in_order_posted :
    Reachable lookupOpen ⟨FuseInstance.initial 1, []⟩ ∧
      ∃ context, ((FuseInstance.initial 1).fuseProtoPostForget 2 [5, 7]).contexts 2 =
        some context ∧ context.ghost.forgotten.flatten ++ context.forgetList = [5, 7] :=
  have reachable : Reachable lookupOpen ⟨FuseInstance.initial 1, []⟩ := .initial 1 (by decide)
  have posted := (forget_drains_in_order reachable).2.2.2.2 [5, 7] 2 (by simp) (by decide)
    (by simp [FuseInstance.initial]) _ .refl
  ⟨reachable, posted.elim fun context found => ⟨context, found.1, found.2.2.1⟩⟩

end WinFuse.Engine.Drain
