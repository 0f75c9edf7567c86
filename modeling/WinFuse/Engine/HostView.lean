import WinFuse.Engine.Requests

/-!
# The driver as the host framework sees it

Seen from the host framework, the driver is a broker.  It takes requests from
`FspFsextProviderTransact`, one at a time, and passes internal responses back to it.  What the
host needs is stated here as an abstract machine, `BrokerStep`.  Each response answers a request
the broker took and has not answered yet.  It carries that request's `Kind` and `Hint`, by which
the host completes the request.  In every state of the abstract machine, no request is answered
twice and every answer carries the `Kind` and `Hint` of the request it answers (`BrokerSafe`).

The driver refines the broker.  `Refines` relates a state of the system to a state of the broker.
The broker's answers are the internal responses that went up.  The broker took as many requests
as the driver admitted.  Every host request a live context owns or a transact call keeps is the
request the broker took under its serial, unchanged.  From every reachable state, every step of
the system is a step of the broker or no step at all, and the relation holds after it
(`step_refines`).  A request is never changed while the driver holds it, and the operation of a
host request answers with its `Kind` and `Hint` (`HostShape`).  The driver answers only requests
it still holds, and `Ownership` says those have not been answered.  Step by step along every
run, each reachable state refines a reachable, hence safe, state of the broker
(`reachable_refines`).
-/

namespace WinFuse.Engine.HostView

open WinFuse.Wire.Layout
open WinFuse.Proto.OperationContext
open WinFuse.Proto.Routines
open WinFuse.Engine.Instance
open WinFuse.Engine.Instance.FuseInstance
open WinFuse.Engine.Transact
open WinFuse.Engine.Transitions
open WinFuse.Engine.Invariants
open WinFuse.Engine.Preservation
open WinFuse.Engine.Requests

/-! ## The abstract broker -/

/-- What the host framework sees of the driver: the requests it handed down, in order, and the
internal responses that came back, each with the serial of the request it answers. -/
structure Broker where
  handed : List InternalRequest
  answered : List (Nat × InternalResponse)

/-- The steps the host framework allows: take the next request, numbered by its place, or
answer a request taken and not yet answered, with that request's `Kind` and `Hint`. -/
inductive BrokerStep : Broker → Broker → Prop
  | take (broker : Broker) (request : InternalRequest)
      (numbered : request.serial = broker.handed.length) :
      BrokerStep broker { broker with handed := broker.handed ++ [request] }
  | answer (broker : Broker) (request : InternalRequest) (status : NtStatus)
      (taken : broker.handed[request.serial]? = some request)
      (unanswered : request.serial ∉ broker.answered.map Prod.fst) :
      BrokerStep broker { broker with
        answered :=
          broker.answered ++ [(request.serial, ⟨request.kind, request.hint, status⟩)] }

/-- The states of the broker from the start, where nothing was taken or answered. -/
inductive BrokerReachable : Broker → Prop
  | initial : BrokerReachable ⟨[], []⟩
  | step {broker next : Broker} :
      BrokerReachable broker → BrokerStep broker next → BrokerReachable next

/-- What the broker guarantees the host: requests are numbered by their place, no request is
answered twice, and every answer carries the `Kind` and `Hint` of the request it answers. -/
structure BrokerSafe (broker : Broker) : Prop where
  numbered : ∀ (index : Nat) (request : InternalRequest), broker.handed[index]? = some request →
    request.serial = index
  once : (broker.answered.map Prod.fst).Nodup
  matched : ∀ (serial : Nat) (response : InternalResponse),
    (serial, response) ∈ broker.answered →
    ∃ request, broker.handed[serial]? = some request ∧ response.kind = request.kind ∧
      response.hint = request.hint

theorem getElem?_handed_append {handed : List InternalRequest} {index : Nat}
    {request request' : InternalRequest} (taken : handed[index]? = some request) :
    (handed ++ [request'])[index]? = some request := by
  rw [List.getElem?_append_left (List.getElem?_eq_some_iff.1 taken).1, taken]

/-- Every step of the broker keeps `BrokerSafe`. -/
theorem BrokerSafe.step {broker next : Broker} (safe : BrokerSafe broker)
    (step : BrokerStep broker next) : BrokerSafe next := by
  cases step with
  | take request numbered =>
    refine ⟨fun index taken found => ?_, safe.once, fun serial response member => ?_⟩
    · rcases Nat.lt_or_ge index broker.handed.length with old | new
      · rw [List.getElem?_append_left old] at found
        exact safe.numbered index taken found
      · rw [List.getElem?_append_right new] at found
        have first : index - broker.handed.length = 0 := by
          by_contra later
          rw [List.getElem?_eq_none (by simp only [List.length_singleton]; omega)] at found
          cases found
        simp only [first, List.getElem?_cons_zero, Option.some.injEq] at found
        subst found
        omega
    · obtain ⟨request, taken, kind, hint⟩ := safe.matched serial response member
      exact ⟨request, getElem?_handed_append taken, kind, hint⟩
  | answer request status taken unanswered =>
    refine ⟨safe.numbered, ?_, fun serial response member => ?_⟩
    · rw [List.map_append, List.nodup_append]
      exact ⟨safe.once, List.nodup_singleton _, by simpa using unanswered⟩
    · rcases List.mem_append.1 member with old | fresh
      · exact safe.matched serial response old
      · obtain ⟨rfl, rfl⟩ := Prod.mk.inj (List.mem_singleton.1 fresh)
        exact ⟨request, taken, rfl, rfl⟩

theorem brokerSafe_reachable {broker : Broker} (reachable : BrokerReachable broker) :
    BrokerSafe broker := by
  induction reachable with
  | initial => exact ⟨by simp, List.nodup_nil, by simp⟩
  | step _ step safe => exact safe.step step

/-! ## The requests the driver holds -/

/-- A host request some live context owns. -/
def Owned (contexts : UInt64 → Option Context) (request : InternalRequest) : Prop :=
  ∃ address context, contexts address = some context ∧ context.internalRequest = some request

/-- A host request the driver holds: a live context owns it or a transact call keeps it. -/
def Held (system : System) (request : InternalRequest) : Prop :=
  Owned system.state.contexts request ∨
    ∃ call ∈ system.calls, call.internalRequest = some request

theorem owned_update_none {contexts : UInt64 → Option Context} {address : UInt64}
    {request : InternalRequest} (owned : Owned (Function.update contexts address none) request) :
    Owned contexts request := by
  obtain ⟨other, context, found, owns⟩ := owned
  by_cases same : other = address
  · subst same
    simp at found
  · exact ⟨other, context, by rwa [Function.update_noteq same] at found, owns⟩

theorem owned_update_some {contexts : UInt64 → Option Context} {address : UInt64}
    {context : Context} {request : InternalRequest}
    (owned : Owned (Function.update contexts address (some context)) request) :
    Owned contexts request ∨ context.internalRequest = some request := by
  obtain ⟨other, found, live, owns⟩ := owned
  by_cases same : other = address
  · subst same
    simp only [Function.update_same, Option.some.injEq] at live
    exact .inr (live ▸ owns)
  · exact .inl ⟨other, found, by rwa [Function.update_noteq same] at live, owns⟩

theorem owned_resumed {contexts : UInt64 → Option Context} {address : UInt64}
    {context context' : Context} {request : InternalRequest}
    (live : contexts address = some context)
    (same : context'.internalRequest = context.internalRequest)
    (owned : Owned (Function.update contexts address (some context')) request) :
    Owned contexts request :=
  (owned_update_some owned).elim id fun owns => ⟨address, context, live, same ▸ owns⟩

section Steps

variable {support : Support} {choice : Choice} {state state' : FuseInstance} {call call' : Call}

/-- A request the stepping call keeps after a step it kept before, or the step admitted it. -/
theorem callStep_kept (step : CallStep support choice state call state' call')
    {request : InternalRequest} (kept : call'.internalRequest = some request) :
    call.internalRequest = some request ∨
      ∃ pulled, choice.pulled = some pulled ∧
        request = { pulled with serial := state.admitted } := by
  cases step
  case admitStatus pulled _ _ _ handed _ =>
    exact .inr ⟨pulled, handed, (Option.some.inj kept).symm⟩
  all_goals first
    | exact .inl kept
    | simp only [apply_ite Call.internalRequest, ite_self, reduceCtorEq] at kept

/-- A request a live context owns after a step it owned before, or the step admitted it: a
resume keeps the request, and deleting a context takes its request away. -/
theorem callStep_owned (step : CallStep support choice state call state' call')
    {request : InternalRequest} (owned : Owned state'.contexts request) :
    Owned state.contexts request ∨
      ∃ pulled, choice.pulled = some pulled ∧
        request = { pulled with serial := state.admitted } := by
  cases step
  case admitContext pulled _ _ handed _ _ _ =>
    exact (owned_update_some owned).imp id fun fresh =>
      ⟨pulled, handed, (Option.some.inj fresh).symm⟩
  case responseRepost _ live process _ | responseFinish _ live process _ _
      | requestStarted _ live process _ | requestReposted _ live process _ _ _ _
      | requestAbandoned _ live process _ _ _ | requestFinish _ live process _ _ =>
    simp only [fuseIoqPostPending, fuseIoqStartProcessing, freeExternal, setContext,
      completeInit_contexts] at owned
    exact .inl (owned_resumed live (internalRequest_resumed process) owned)
  case responseDelete _ live process _ _ | requestDrained _ live process _ _ _ _ =>
    simp only [freeExternal, setContext, completeInit_contexts, fuseContextDelete_contexts] at owned
    exact .inl (owned_resumed live (internalRequest_resumed process) (owned_update_none owned))
  case responseForwarded | responseForwardFailed | requestForward =>
    simp only [freeExternal, forward, fuseContextDelete_contexts] at owned
    exact .inl (owned_update_none owned)
  all_goals exact .inl owned

end Steps

/-! ## What the accounting of `Requests` says of held requests -/

section Held

variable {system : System} {request request' : InternalRequest}

theorem ownerOf_of_owned {contexts : UInt64 → Option Context} {address : UInt64}
    {context : Context} (live : contexts address = some context)
    (owns : context.internalRequest = some request) :
    ownerOf contexts address = some request.serial := by
  simp [ownerOf, live, owns]

theorem mem_kept_of_keeps {calls : List Call} {call : Call} (member : call ∈ calls)
    (keeps : call.internalRequest = some request) : request.serial ∈ kept calls :=
  List.mem_filterMap.2 ⟨call, member, by simp [keptSerial, keeps]⟩

theorem Held.serial_lt (own : Ownership system.state system.calls) (held : Held system request) :
    request.serial < system.state.admitted := by
  rcases held with ⟨address, context, live, owns⟩ | ⟨call, member, keeps⟩
  · exact own.owned_lt (ownerOf_of_owned live owns)
  · exact (own.accounted _).2
      (.inr (Nat.add_pos_left (List.count_pos_iff.2 (mem_kept_of_keeps member keeps)) _))

theorem Held.unanswered (own : Ownership system.state system.calls) (held : Held system request) :
    request.serial ∉ system.state.forwarded.map Prod.fst := by
  rw [← own.released]
  intro released
  have answered := List.count_pos_iff.2 released
  rcases held with ⟨address, context, live, owns⟩ | ⟨call, member, keeps⟩
  · have alone := own.ownedAlone address request.serial (ownerOf_of_owned live owns)
    omega
  · have once := own.heldOnce request.serial
    have keptOnce := List.count_pos_iff.2 (mem_kept_of_keeps member keeps)
    omega

/-- The driver holds at most one request under a serial. -/
theorem Held.unique (own : Ownership system.state system.calls) (held : Held system request)
    (held' : Held system request') (same : request.serial = request'.serial) :
    request = request' := by
  rcases held with ⟨address, context, live, owns⟩ | ⟨call, member, keeps⟩ <;>
    rcases held' with ⟨address', context', live', owns'⟩ | ⟨call', member', keeps'⟩
  · obtain rfl := own.ownedOnce address address' request.serial (ownerOf_of_owned live owns)
      (same ▸ ownerOf_of_owned live' owns')
    cases live.symm.trans live'
    exact Option.some.inj (owns.symm.trans owns')
  · have alone := own.ownedAlone address request.serial (ownerOf_of_owned live owns)
    have keptOnce := List.count_pos_iff.2 (same ▸ mem_kept_of_keeps member' keeps')
    omega
  · have alone := own.ownedAlone address' request'.serial (ownerOf_of_owned live' owns')
    have keptOnce := List.count_pos_iff.2 (same ▸ mem_kept_of_keeps member keeps)
    omega
  · by_contra different
    obtain ⟨index, found⟩ := List.mem_iff_getElem?.1 member
    obtain ⟨other, found'⟩ := List.mem_iff_getElem?.1 member'
    have apart : index ≠ other := by
      rintro rfl
      exact different (Option.some.inj (keeps.symm.trans
        (Option.some.inj (found.symm.trans found') ▸ keeps')))
    have twice := @two_le_countP (fun call => keptSerial call == some request.serial)
      system.calls index other call call' apart found found' (by simp [keptSerial, keeps])
      (by simp [keptSerial, keeps', same])
    have once := own.heldOnce request.serial
    rw [kept, List.count_filterMap] at once
    omega

end Held

/-! ## What a step does to the held requests -/

/-- A request held after a step of the system was held before, or it is the one the step
admitted. -/
theorem step_held {support : Support} {system next : System} (step : Step support system next)
    {request : InternalRequest} (held : Held next request) :
    Held system request ∨ request.serial = system.state.admitted := by
  cases step with
  | begin =>
    rcases held with owned | ⟨call, member, keeps⟩
    · exact .inl (.inl owned)
    · rcases List.mem_append.1 member with old | fresh
      · exact .inl (.inr ⟨call, old, keeps⟩)
      · rw [List.mem_singleton.1 fresh] at keeps
        cases keeps
  | call index inside choice state call stepped =>
    rcases held with owned | ⟨kept, member, keeps⟩
    · rcases callStep_owned (stepCall_sound stepped) owned with old | ⟨pulled, -, rfl⟩
      · exact .inl (.inl old)
      · exact .inr rfl
    · rcases mem_set_cases member with rfl | ⟨other, -, found⟩
      · rcases callStep_kept (stepCall_sound stepped) keeps with old | ⟨pulled, -, rfl⟩
        · exact .inl (.inr ⟨_, List.get_mem _ _ _, old⟩)
        · exact .inr rfl
      · exact .inl (.inr ⟨kept, List.mem_iff_getElem?.2 ⟨other, found⟩, keeps⟩)
  | postForget forgetList address =>
    rcases held with owned | kept
    · rcases owned_update_some owned with old | fresh
      · exact .inl (.inl old)
      · cases fresh
    · exact .inl (.inr kept)

/-- The operation of a host request answers with the request's `Kind` and `Hint`. -/
theorem internalResponse_of_owner {support : Support} {context : Context}
    {request : InternalRequest} (wellFormed : ContextInv support context)
    (owner : context.internalRequest = some request) :
    context.internalResponse =
      ⟨request.kind, request.hint, context.internalResponse.status⟩ := by
  rcases wellFormed.shape with init | forget | ⟨request', host⟩
  · simp [init.unowned] at owner
  · simp [forget.unowned] at owner
  · obtain rfl := Option.some.inj (host.owner.symm.trans owner)
    rw [← host.kind, ← host.hint]

/-- What a step of the system does as the host sees it: nothing, admit a request the driver
then holds, or answer a request it held with that request's `Kind` and `Hint`. -/
theorem step_exchange {support : Support} {system next : System}
    (inv : Invariant support system) (step : Step support system next) :
    (next.state.admitted = system.state.admitted ∧
        next.state.forwarded = system.state.forwarded) ∨
      (∃ request, Held next request ∧ request.serial = system.state.admitted ∧
        next.state.admitted = system.state.admitted + 1 ∧
        next.state.forwarded = system.state.forwarded) ∨
      (∃ request status, Held system request ∧
        next.state.admitted = system.state.admitted ∧
        next.state.forwarded = system.state.forwarded ++
          [(request.serial, ⟨request.kind, request.hint, status⟩)]) := by
  cases step with
  | begin => exact .inl ⟨rfl, rfl⟩
  | postForget => exact .inl ⟨rfl, rfl⟩
  | call index inside choice state call stepped =>
    have found := List.getElem?_eq_getElem inside
    have kept := List.mem_set system.calls index inside call
    cases callStep_effect inv found (stepCall_sound stepped) with
    | keep _ _ admitted _ forwarded => exact .inl ⟨admitted, forwarded⟩
    | admitKept _ after _ admitted _ forwarded =>
      obtain ⟨request, keeps, numbered⟩ := Option.map_eq_some'.1 after
      exact .inr (.inl ⟨request, .inr ⟨call, kept, keeps⟩, numbered, admitted, forwarded⟩)
    | @admitOwned address _ owners _ admitted _ forwarded =>
      have placed := congrFun owners address
      simp only [Function.update_same, ownerOf, Option.bind_eq_some, Option.map_eq_some'] at placed
      obtain ⟨context, live, request, owns, numbered⟩ := placed
      exact .inr (.inl ⟨request, .inl ⟨address, context, live, owns⟩, numbered, admitted,
        forwarded⟩)
    | @forwardKept status request _ before _ _ admitted _ forwarded =>
      exact .inr (.inr ⟨request, status, .inr ⟨_, List.getElem_mem inside, before⟩, admitted,
        forwarded⟩)
    | @forwardOwned address context request live owner _ _ _ admitted _ forwarded =>
      rw [internalResponse_of_owner (inv.contexts address context live) owner] at forwarded
      exact .inr (.inr ⟨request, _, .inl ⟨address, context, live, owner⟩, admitted,
        forwarded⟩)

/-! ## The driver refines the broker -/

/-- A state of the system refines a state of the broker: the broker's answers are the internal
responses that went up, it took as many requests as the driver admitted, and every request the
driver holds is the one the broker took under its serial. -/
structure Refines (system : System) (broker : Broker) : Prop where
  answered : broker.answered = system.state.forwarded
  taken : broker.handed.length = system.state.admitted
  held : ∀ request, Held system request → broker.handed[request.serial]? = some request

/-- The instance `FuseDeviceInit` leaves refines the broker that took nothing. -/
theorem refines_initial (address : UInt64) :
    Refines ⟨FuseInstance.initial address, []⟩ ⟨[], []⟩ := by
  refine ⟨rfl, rfl, fun request held => ?_⟩
  rcases held with owned | ⟨call, member, -⟩
  · rcases owned_update_some owned with ⟨other, context, live, -⟩ | init
    · cases live
    · cases init
  · cases member

section Refinement

variable {support : Support} {system next : System} {broker : Broker}

/-- A step that admits nothing and answers nothing keeps the refinement with the same broker. -/
theorem Refines.quiet (refines : Refines system broker)
    (own' : Ownership next.state next.calls) (step : Step support system next)
    (admitted : next.state.admitted = system.state.admitted)
    (forwarded : next.state.forwarded = system.state.forwarded) : Refines next broker := by
  refine ⟨refines.answered.trans forwarded.symm, refines.taken.trans admitted.symm,
    fun request held => refines.held request ((step_held step held).resolve_right ?_)⟩
  have below := held.serial_lt own'
  omega

/-- A step that admits a request keeps the refinement with the broker that took it. -/
theorem Refines.take (refines : Refines system broker)
    (own' : Ownership next.state next.calls) (step : Step support system next)
    {fresh : InternalRequest} (freshHeld : Held next fresh)
    (numbered : fresh.serial = system.state.admitted)
    (admitted : next.state.admitted = system.state.admitted + 1)
    (forwarded : next.state.forwarded = system.state.forwarded) :
    Refines next { broker with handed := broker.handed ++ [fresh] } := by
  refine ⟨refines.answered.trans forwarded.symm, by simp [refines.taken, admitted],
    fun request held => ?_⟩
  have taken := refines.taken
  by_cases same : request.serial = system.state.admitted
  · obtain rfl := held.unique own' freshHeld (same.trans numbered.symm)
    rw [List.getElem?_append_right (by omega), numbered, ← taken, Nat.sub_self]
    rfl
  · exact getElem?_handed_append (refines.held request ((step_held step held).resolve_right same))

/-- A step that answers a request keeps the refinement with the broker that answered it. -/
theorem Refines.answer (refines : Refines system broker)
    (own' : Ownership next.state next.calls) (step : Step support system next)
    {request : InternalRequest} {status : NtStatus}
    (admitted : next.state.admitted = system.state.admitted)
    (forwarded : next.state.forwarded =
      system.state.forwarded ++ [(request.serial, ⟨request.kind, request.hint, status⟩)]) :
    Refines next { broker with answered :=
      broker.answered ++ [(request.serial, ⟨request.kind, request.hint, status⟩)] } := by
  refine ⟨by rw [refines.answered, forwarded], refines.taken.trans admitted.symm,
    fun request held => refines.held request ((step_held step held).resolve_right ?_)⟩
  have below := held.serial_lt own'
  omega

/-- From every reachable state, a step of the system is a step of the broker, or no step of it,
and the refinement holds after it.  An admission takes the request the driver then holds; an
answer goes to a request the driver held, which the broker took under that serial and has not
answered, with that request's `Kind` and `Hint`. -/
theorem step_refines (reachable : Reachable support system) (refines : Refines system broker)
    (step : Step support system next) :
    ∃ broker', (broker' = broker ∨ BrokerStep broker broker') ∧ Refines next broker' := by
  have own' := ownership_reachable (reachable.step step)
  rcases step_exchange (invariant_reachable reachable) step with
    ⟨admitted, forwarded⟩ | ⟨fresh, freshHeld, numbered, admitted, forwarded⟩ |
    ⟨request, status, holding, admitted, forwarded⟩
  · exact ⟨broker, .inl rfl, refines.quiet own' step admitted forwarded⟩
  · exact ⟨_, .inr (.take broker fresh (numbered.trans refines.taken.symm)),
      refines.take own' step freshHeld numbered admitted forwarded⟩
  · exact ⟨_, .inr (.answer broker request status (refines.held request holding)
        (refines.answered ▸ holding.unanswered (ownership_reachable reachable))),
      refines.answer own' step admitted forwarded⟩

/-- A worker's first call, made on the mounted volume, is no step of the broker. -/
theorem step_refines_begin :
    Reachable lookupOpen ⟨FuseInstance.initial 1, []⟩ ∧
      Refines ⟨FuseInstance.initial 1, []⟩ ⟨[], []⟩ ∧
      Step lookupOpen ⟨FuseInstance.initial 1, []⟩
        ⟨FuseInstance.initial 1, [Call.begin 0 fuseProtoReqSizeMin zeroBuffer]⟩ ∧
      ∃ broker', (broker' = ⟨[], []⟩ ∨ BrokerStep ⟨[], []⟩ broker') ∧
        Refines ⟨FuseInstance.initial 1, [Call.begin 0 fuseProtoReqSizeMin zeroBuffer]⟩
          broker' :=
  have reachable : Reachable lookupOpen ⟨FuseInstance.initial 1, []⟩ := .initial 1 (by decide)
  have step : Step lookupOpen ⟨FuseInstance.initial 1, []⟩
      ⟨FuseInstance.initial 1, [Call.begin 0 fuseProtoReqSizeMin zeroBuffer]⟩ :=
    .begin _ 0 fuseProtoReqSizeMin zeroBuffer
  ⟨reachable, refines_initial 1, step, step_refines reachable (refines_initial 1) step⟩

/-- Every reachable state refines a reachable state of the broker, which is therefore safe:
every response that went up answers, once, a request the broker took, with its `Kind` and
`Hint`. -/
theorem reachable_refines (reachable : Reachable support system) :
    ∃ broker, BrokerReachable broker ∧ BrokerSafe broker ∧ Refines system broker := by
  induction reachable with
  | initial address => exact ⟨⟨[], []⟩, .initial, brokerSafe_reachable .initial,
      refines_initial address⟩
  | step reached step ih =>
    obtain ⟨broker, brokerReached, -, refines⟩ := ih
    have own' := ownership_reachable (reached.step step)
    rcases step_exchange (invariant_reachable reached) step with
      ⟨admitted, forwarded⟩ | ⟨fresh, freshHeld, numbered, admitted, forwarded⟩ |
      ⟨request, status, holding, admitted, forwarded⟩
    · exact ⟨broker, brokerReached, brokerSafe_reachable brokerReached,
        refines.quiet own' step admitted forwarded⟩
    · have moved := brokerReached.step (.take broker fresh (numbered.trans refines.taken.symm))
      exact ⟨_, moved, brokerSafe_reachable moved,
        refines.take own' step freshHeld numbered admitted forwarded⟩
    · have moved := brokerReached.step (.answer broker request status
        (refines.held request holding)
        (refines.answered ▸ holding.unanswered (ownership_reachable reached)))
      exact ⟨_, moved, brokerSafe_reachable moved, refines.answer own' step admitted forwarded⟩

end Refinement

end WinFuse.Engine.HostView
