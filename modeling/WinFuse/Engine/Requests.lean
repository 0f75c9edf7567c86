import Mathlib.Data.List.Nodup
import WinFuse.Engine.InitGate

/-!
# Host requests: released once, answered at most once

The host framework hands a transact call an internal request; `FuseContextCreate` either gives
the call a status-only result, and the call keeps the request to its exit, or makes a context
that owns it.  The call that keeps it forwards the status and frees it at its exit; the context
that owns it is deleted only in the step that forwards its internal response.

`Effect` says what one call step does to the requests: nothing, admit one the call keeps, admit
one a new context owns, or forward a response and release the request the call keeps or the
deleted context owned.  `Ownership` holds in every reachable state: every admitted request is
owned by one context, kept by one call, or released, and only one of these; the released
requests are the ones whose responses went up, in the same order.
-/

namespace WinFuse.Engine.Requests

open WinFuse.Wire.Bytes
open WinFuse.Wire.Layout
open WinFuse.Proto.OperationContext
open WinFuse.Proto.Routines
open WinFuse.Engine.Instance
open WinFuse.Engine.Instance.FuseInstance
open WinFuse.Engine.Transact
open WinFuse.Engine.Transitions
open WinFuse.Engine.Invariants
open WinFuse.Engine.Preservation
open WinFuse.Engine.Lifecycle

/-! ## Who holds a request -/

/-- The serial of the host request the context at an address owns. -/
def ownerOf (contexts : UInt64 → Option Context) (address : UInt64) : Option Nat :=
  (contexts address).bind fun context => context.internalRequest.map (·.serial)

/-- The serial of the host request a call keeps. -/
def keptSerial (call : Call) : Option Nat :=
  call.internalRequest.map (·.serial)

/-- The serials the calls keep, with repetitions. -/
def kept (calls : List Call) : List Nat :=
  calls.filterMap keptSerial

@[simp]
theorem ownerOf_update_some (contexts : UInt64 → Option Context) (address : UInt64)
    (context : Context) :
    ownerOf (Function.update contexts address (some context)) =
      Function.update (ownerOf contexts) address
        (context.internalRequest.map (·.serial)) := by
  funext other
  by_cases same : other = address
  · subst same
    simp [ownerOf]
  · simp [ownerOf, Function.update_noteq same]

@[simp]
theorem ownerOf_update_none (contexts : UInt64 → Option Context) (address : UInt64) :
    ownerOf (Function.update contexts address none) =
      Function.update (ownerOf contexts) address none := by
  funext other
  by_cases same : other = address
  · subst same
    simp [ownerOf]
  · simp [ownerOf, Function.update_noteq same]

@[simp]
theorem fuseContextDelete_contexts (state : FuseInstance) (address : UInt64) :
    (state.fuseContextDelete address).contexts = Function.update state.contexts address none := by
  unfold fuseContextDelete
  split
  · rename_i dead
    funext other
    by_cases same : other = address
    · subst same
      simp [dead]
    · simp [Function.update_noteq same]
  · rfl

@[simp]
theorem fuseContextDelete_released (state : FuseInstance) (address : UInt64) :
    (state.fuseContextDelete address).released =
      state.released ++ (ownerOf state.contexts address).toList := by
  unfold fuseContextDelete
  split <;> rename_i live <;> simp [ownerOf, live]

@[simp]
theorem fuseContextDelete_forwarded (state : FuseInstance) (address : UInt64) :
    (state.fuseContextDelete address).forwarded = state.forwarded := by
  unfold fuseContextDelete
  split <;> rfl

@[simp]
theorem fuseContextDelete_admitted (state : FuseInstance) (address : UInt64) :
    (state.fuseContextDelete address).admitted = state.admitted := by
  unfold fuseContextDelete
  split <;> rfl

@[simp]
theorem completeInit_contexts (state : FuseInstance) (version : Option (Nat × Nat)) :
    (state.completeInit version).contexts = state.contexts := by
  cases version <;> rfl

@[simp]
theorem completeInit_released (state : FuseInstance) (version : Option (Nat × Nat)) :
    (state.completeInit version).released = state.released := by
  cases version <;> rfl

@[simp]
theorem completeInit_forwarded (state : FuseInstance) (version : Option (Nat × Nat)) :
    (state.completeInit version).forwarded = state.forwarded := by
  cases version <;> rfl

@[simp]
theorem completeInit_admitted (state : FuseInstance) (version : Option (Nat × Nat)) :
    (state.completeInit version).admitted = state.admitted := by
  cases version <;> rfl

theorem internalRequest_resumed {support : Support} {address : UInt64} {context : Context}
    {response : Option Buffer} {output : Bool} {resumed : Resumed}
    (process : fuseContextProcess support address context response output = some resumed) :
    resumed.context.internalRequest = context.internalRequest := by
  obtain ⟨coroState, routine, forgetList, status, ghost, same⟩ := fuseContextProcess_frame process
  rw [same]

theorem ownerOf_delete_unowned {contexts : UInt64 → Option Context} {address : UInt64}
    {context : Context} (live : contexts address = some context)
    (unowned : context.internalRequest = none) :
    ownerOf (Function.update contexts address none) = ownerOf contexts := by
  rw [ownerOf_update_none]
  exact Function.update_eq_self_iff.2 (by simp [ownerOf, live, unowned])

theorem ownerOf_resumed {support : Support} {contexts : UInt64 → Option Context}
    {address : UInt64} {context : Context} {response : Option Buffer} {output : Bool}
    {resumed : Resumed} (live : contexts address = some context)
    (process : fuseContextProcess support address context response output = some resumed) :
    ownerOf (Function.update contexts address (some resumed.context)) = ownerOf contexts := by
  rw [ownerOf_update_some, internalRequest_resumed process]
  exact Function.update_eq_self_iff.2 (by simp [ownerOf, live])

/-! ## What a step does to the requests -/

/-- What one call step does to the host requests. -/
inductive Effect (state : FuseInstance) (call : Call) : FuseInstance → Call → Prop
  /-- Nothing: the owners, the kept request, the counts and the logs stay. -/
  | keep {state' call'} (owners : ownerOf state'.contexts = ownerOf state.contexts)
      (kept : keptSerial call' = keptSerial call) (admitted : state'.admitted = state.admitted)
      (released : state'.released = state.released)
      (forwarded : state'.forwarded = state.forwarded) :
      Effect state call state' call'
  /-- A request is admitted and the call keeps it. -/
  | admitKept {state' call'} (before : keptSerial call = none)
      (after : keptSerial call' = some state.admitted)
      (owners : ownerOf state'.contexts = ownerOf state.contexts)
      (admitted : state'.admitted = state.admitted + 1)
      (released : state'.released = state.released)
      (forwarded : state'.forwarded = state.forwarded) :
      Effect state call state' call'
  /-- A request is admitted and a new context at a free address owns it. -/
  | admitOwned {state' call' address} (free : state.contexts address = none)
      (owners : ownerOf state'.contexts =
        Function.update (ownerOf state.contexts) address (some state.admitted))
      (kept : keptSerial call' = keptSerial call)
      (admitted : state'.admitted = state.admitted + 1)
      (released : state'.released = state.released)
      (forwarded : state'.forwarded = state.forwarded) :
      Effect state call state' call'
  /-- The status of the request the call keeps goes up and the request is freed. -/
  | forwardKept {state' call' status request} (atStatus : call.pc = .requestStatus status)
      (before : call.internalRequest = some request) (after : keptSerial call' = none)
      (owners : ownerOf state'.contexts = ownerOf state.contexts)
      (admitted : state'.admitted = state.admitted)
      (released : state'.released = state.released ++ [request.serial])
      (forwarded : state'.forwarded =
        state.forwarded ++ [(request.serial, ⟨request.kind, request.hint, status⟩)]) :
      Effect state call state' call'
  /-- The internal response of a context that owns a request goes up, and the context is
  deleted with the request. -/
  | forwardOwned {state' call' address context request}
      (live : state.contexts address = some context)
      (owner : context.internalRequest = some request)
      (gone : state'.contexts address = none)
      (owners : ownerOf state'.contexts = Function.update (ownerOf state.contexts) address none)
      (kept : keptSerial call' = keptSerial call) (admitted : state'.admitted = state.admitted)
      (released : state'.released = state.released ++ [request.serial])
      (forwarded : state'.forwarded =
        state.forwarded ++ [(request.serial, context.internalResponse)]) :
      Effect state call state' call'

section Effects

variable {support : Support} {choice : Choice} {state state' : FuseInstance} {calls : List Call}
  {index : Nat} {call call' : Call}

/-- Every call step of a reachable state has one of the five effects. -/
theorem callStep_effect (inv : Invariant support ⟨state, calls⟩)
    (found : calls[index]? = some call)
    (step : CallStep support choice state call state' call') :
    Effect state call state' call' := by
  have holds : CallInv state call := inv.calls call (List.mem_iff_getElem?.2 ⟨index, found⟩)
  cases step with
  | @admitStatus pulled status atAdmit =>
    have unowned := holds.internalRequest_eq_none (by simp [atAdmit])
    exact .admitKept (by simp [keptSerial, unowned]) rfl rfl rfl rfl rfl
  | @admitContext pulled atAdmit successful handed created nonzero free =>
    have unowned := holds.internalRequest_eq_none (by simp [atAdmit])
    exact .admitOwned free (by simp [setContext, hostContext]) rfl rfl rfl rfl
  | @requestStatus status request atStatus held =>
    by_cases success : ntSuccess choice.forwardResult = true <;>
      exact .forwardKept atStatus held (by simp [success, keptSerial]) rfl rfl
        (by simp [held, freeExternal, forward]) rfl
  | @responseForwarded address context request atForward live owner =>
    exact .forwardOwned live owner (by simp [forward]) (by simp [forward]) rfl (by simp [forward])
      (by simp [forward, ownerOf, live, owner]) (by simp [forward])
  | @responseForwardFailed address context request atForward live owner =>
    have unowned := holds.internalRequest_eq_none (by simp [atForward])
    exact .forwardOwned live owner (by simp [forward, freeExternal])
      (by simp [forward, freeExternal]) (by simp [keptSerial, unowned]) (by simp [forward, freeExternal])
      (by simp [forward, freeExternal, ownerOf, live, owner, unowned])
      (by simp [forward, freeExternal])
  | @requestForward address context request atForward live owner =>
    have unowned := holds.internalRequest_eq_none (by simp [atForward])
    by_cases success : ntSuccess choice.forwardResult = true <;>
      exact .forwardOwned live owner (by simp [forward, freeExternal])
        (by simp [forward, freeExternal]) (by simp [keptSerial, unowned, success])
        (by simp [forward, freeExternal])
        (by simp [forward, freeExternal, ownerOf, live, owner, unowned])
        (by simp [forward, freeExternal])
  | rejected => exact .keep rfl rfl rfl rfl rfl
  | noResponse => exact .keep rfl rfl rfl rfl rfl
  | unmatched => exact .keep rfl rfl rfl rfl rfl
  | matched => exact .keep rfl rfl rfl rfl rfl
  | requestPending => exact .keep rfl rfl rfl rfl rfl
  | requestIdle => exact .keep rfl rfl rfl rfl rfl
  | versionUnset => exact .keep rfl rfl rfl rfl rfl
  | versionSet => exact .keep rfl rfl rfl rfl rfl
  | waitAdmit => exact .keep rfl rfl rfl rfl rfl
  | requestSkipped atRequest =>
    have unowned := holds.internalRequest_eq_none (by simp [atRequest])
    exact .keep rfl (by simp [keptSerial, unowned]) rfl (by simp [freeExternal, unowned]) rfl
  | versionDenied atVersion =>
    have unowned := holds.internalRequest_eq_none (by simp [atVersion])
    exact .keep rfl (by simp [keptSerial, unowned]) rfl (by simp [freeExternal, unowned]) rfl
  | waitFailed atWait =>
    have unowned := holds.internalRequest_eq_none (by simp [atWait])
    exact .keep rfl (by simp [keptSerial, unowned]) rfl (by simp [freeExternal, unowned]) rfl
  | waitDenied atWait =>
    have unowned := holds.internalRequest_eq_none (by simp [atWait])
    exact .keep rfl (by simp [keptSerial, unowned]) rfl (by simp [freeExternal, unowned]) rfl
  | admitFailed atAdmit =>
    have unowned := holds.internalRequest_eq_none (by simp [atAdmit])
    exact .keep rfl (by simp [keptSerial, unowned]) rfl (by simp [freeExternal, unowned]) rfl
  | admitNone atAdmit =>
    have unowned := holds.internalRequest_eq_none (by simp [atAdmit])
    exact .keep rfl (by simp [keptSerial, unowned]) rfl (by simp [freeExternal, unowned]) rfl
  | responseRepost atResume live process =>
    exact .keep (by simpa only [fuseIoqPostPending, setContext, completeInit_contexts] using
      ownerOf_resumed live process) rfl (by simp [fuseIoqPostPending, setContext])
      (by simp [fuseIoqPostPending, setContext]) (by simp [fuseIoqPostPending, setContext])
  | responseFinish atResume live process =>
    exact .keep (by simpa only [setContext, completeInit_contexts] using
      ownerOf_resumed live process) rfl (by simp [setContext]) (by simp [setContext])
      (by simp [setContext])
  | responseDelete atResume live process stops unowned =>
    have unowned' : ‹Context›.internalRequest = none := internalRequest_resumed process ▸ unowned
    exact .keep (by simpa [setContext] using ownerOf_delete_unowned live unowned') rfl
      (by simp [setContext]) (by simp [setContext, ownerOf, unowned]) (by simp [setContext])
  | requestStarted atResume live process =>
    have unowned := holds.internalRequest_eq_none (by simp [atResume])
    exact .keep (by simpa only [freeExternal, fuseIoqStartProcessing, setContext] using
      ownerOf_resumed live process) (by simp [keptSerial, unowned]) rfl
      (by simp [freeExternal, fuseIoqStartProcessing, setContext, unowned]) rfl
  | requestReposted atResume live process =>
    have unowned := holds.internalRequest_eq_none (by simp [atResume])
    exact .keep (by simpa only [freeExternal, fuseIoqPostPending, setContext] using
      ownerOf_resumed live process) (by simp [keptSerial, unowned]) rfl
      (by simp [freeExternal, fuseIoqPostPending, setContext, unowned]) rfl
  | requestAbandoned atResume live process =>
    have unowned := holds.internalRequest_eq_none (by simp [atResume])
    exact .keep (by simpa only [freeExternal, setContext] using ownerOf_resumed live process)
      (by simp [keptSerial, unowned]) rfl (by simp [freeExternal, setContext, unowned]) rfl
  | requestDrained atResume live process stops unowned =>
    have unowned' := holds.internalRequest_eq_none (by simp [atResume])
    have owns : ‹Context›.internalRequest = none := internalRequest_resumed process ▸ unowned
    exact .keep (by simpa [setContext, freeExternal] using ownerOf_delete_unowned live owns)
      (by simp [keptSerial, unowned']) (by simp [setContext, freeExternal])
      (by simp [setContext, freeExternal, ownerOf, unowned, unowned'])
      (by simp [setContext, freeExternal])
  | requestFinish atResume live process =>
    exact .keep (by simpa only [setContext] using ownerOf_resumed live process) rfl rfl rfl rfl

end Effects

/-! ## Every admitted request is in one place -/

/-- Where the admitted host requests are: each is owned by one context, kept by one call, or
released, and only one of these; the released ones are those whose responses went up. -/
structure Ownership (state : FuseInstance) (calls : List Call) : Prop where
  /-- The requests are released in the order their responses went up. -/
  released : state.released = state.forwarded.map Prod.fst
  /-- No two live contexts own one request. -/
  ownedOnce : ∀ address other serial, ownerOf state.contexts address = some serial →
    ownerOf state.contexts other = some serial → address = other
  /-- A request a context owns is neither kept by a call nor released. -/
  ownedAlone : ∀ address serial, ownerOf state.contexts address = some serial →
    (kept calls).count serial + state.released.count serial = 0
  /-- A request is kept by one call or released once, not both. -/
  heldOnce : ∀ serial, (kept calls).count serial + state.released.count serial ≤ 1
  /-- The admitted requests are exactly those owned, kept or released. -/
  accounted : ∀ serial, serial < state.admitted ↔
    (∃ address, ownerOf state.contexts address = some serial) ∨
      0 < (kept calls).count serial + state.released.count serial

theorem eq_some_of_update_none {owners : UInt64 → Option Nat} {address other : UInt64}
    {serial : Nat} (owned : Function.update owners address none other = some serial) :
    other ≠ address ∧ owners other = some serial := by
  by_cases same : other = address
  · subst same
    simp at owned
  · exact ⟨same, by rwa [Function.update_noteq same] at owned⟩

theorem eq_some_of_update_some {owners : UInt64 → Option Nat} {address other : UInt64}
    {serial admitted : Nat}
    (owned : Function.update owners address (some admitted) other = some serial) :
    (other = address ∧ serial = admitted) ∨ (other ≠ address ∧ owners other = some serial) := by
  by_cases same : other = address
  · subst same
    simp only [Function.update_same, Option.some.injEq] at owned
    exact .inl ⟨rfl, owned.symm⟩
  · rw [Function.update_noteq same] at owned
    exact .inr ⟨same, owned⟩

section Carry

variable {state state' : FuseInstance} {calls calls' : List Call}

theorem Ownership.owned_lt (own : Ownership state calls) {address : UInt64} {serial : Nat}
    (owned : ownerOf state.contexts address = some serial) : serial < state.admitted :=
  (own.accounted serial).2 (.inl ⟨address, owned⟩)

theorem Ownership.unplaced (own : Ownership state calls) :
    (kept calls).count state.admitted + state.released.count state.admitted = 0 := by
  by_contra placed
  exact absurd ((own.accounted _).2 (.inr (Nat.pos_of_ne_zero placed))) (Nat.lt_irrefl _)

/-- A step that moves no request keeps `Ownership`. -/
theorem Ownership.keep (own : Ownership state calls)
    (owners : ownerOf state'.contexts = ownerOf state.contexts)
    (counts : ∀ serial, (kept calls').count serial = (kept calls).count serial)
    (admitted : state'.admitted = state.admitted) (released : state'.released = state.released)
    (forwarded : state'.forwarded = state.forwarded) : Ownership state' calls' where
  released := by rw [released, forwarded, own.released]
  ownedOnce := by rw [owners]; exact own.ownedOnce
  ownedAlone address serial owned := by
    rw [counts, released]
    exact own.ownedAlone address serial (owners ▸ owned)
  heldOnce serial := by rw [counts, released]; exact own.heldOnce serial
  accounted serial := by rw [counts, released, owners, admitted]; exact own.accounted serial

/-- Admitting a request a call keeps keeps `Ownership`. -/
theorem Ownership.admitKept (own : Ownership state calls)
    (owners : ownerOf state'.contexts = ownerOf state.contexts)
    (counts : ∀ serial, (kept calls').count serial =
      (kept calls).count serial + if state.admitted = serial then 1 else 0)
    (admitted : state'.admitted = state.admitted + 1) (released : state'.released = state.released)
    (forwarded : state'.forwarded = state.forwarded) : Ownership state' calls' where
  released := by rw [released, forwarded, own.released]
  ownedOnce := by rw [owners]; exact own.ownedOnce
  ownedAlone address serial owned := by
    rw [owners] at owned
    have alone := own.ownedAlone address serial owned
    have before := own.owned_lt owned
    rw [counts, released]
    split_ifs <;> omega
  heldOnce serial := by
    have unplaced := own.unplaced
    have once := own.heldOnce serial
    rw [counts, released]
    split_ifs with fresh
    · subst fresh
      omega
    · omega
  accounted serial := by
    have before := own.accounted serial
    rw [counts, released, owners, admitted]
    split_ifs with fresh
    · exact ⟨fun _ => .inr (by omega), fun _ => by omega⟩
    · simp only [Nat.add_zero]
      rw [← before]
      constructor <;> intro <;> omega

/-- Admitting a request a new context at a free address owns keeps `Ownership`. -/
theorem Ownership.admitOwned (own : Ownership state calls) {address : UInt64}
    (free : ownerOf state.contexts address = none)
    (owners : ownerOf state'.contexts =
      Function.update (ownerOf state.contexts) address (some state.admitted))
    (counts : ∀ serial, (kept calls').count serial = (kept calls).count serial)
    (admitted : state'.admitted = state.admitted + 1) (released : state'.released = state.released)
    (forwarded : state'.forwarded = state.forwarded) : Ownership state' calls' where
  released := by rw [released, forwarded, own.released]
  ownedOnce first second serial firstOwned secondOwned := by
    rw [owners] at firstOwned secondOwned
    rcases eq_some_of_update_some firstOwned with ⟨rfl, rfl⟩ | ⟨_, firstOld⟩ <;>
      rcases eq_some_of_update_some secondOwned with ⟨rfl, same⟩ | ⟨_, secondOld⟩
    · rfl
    · exact absurd (own.owned_lt secondOld) (Nat.lt_irrefl _)
    · exact absurd (own.owned_lt firstOld) (same ▸ Nat.lt_irrefl _)
    · exact own.ownedOnce first second serial firstOld secondOld
  ownedAlone other serial owned := by
    rw [owners] at owned
    rw [counts, released]
    rcases eq_some_of_update_some owned with ⟨_, rfl⟩ | ⟨_, old⟩
    · exact own.unplaced
    · exact own.ownedAlone other serial old
  heldOnce serial := by rw [counts, released]; exact own.heldOnce serial
  accounted serial := by
    rw [counts, released, owners, admitted]
    by_cases fresh : serial = state.admitted
    · subst fresh
      exact ⟨fun _ => .inl ⟨address, Function.update_same _ _ _⟩, fun _ => Nat.lt_succ_self _⟩
    · have moved : (∃ other, Function.update (ownerOf state.contexts) address
          (some state.admitted) other = some serial) ↔
          ∃ other, ownerOf state.contexts other = some serial := by
        constructor
        · rintro ⟨other, owned⟩
          rcases eq_some_of_update_some owned with ⟨_, rfl⟩ | ⟨_, old⟩
          · exact absurd rfl fresh
          · exact ⟨other, old⟩
        · rintro ⟨other, old⟩
          have away : other ≠ address := fun same => by simp [same, free] at old
          exact ⟨other, by rwa [Function.update_noteq away]⟩
      rw [moved, ← own.accounted serial]
      omega

/-- Forwarding the status of the request a call keeps, and freeing it, keeps `Ownership`. -/
theorem Ownership.forwardKept (own : Ownership state calls) {serial : Nat} {response : InternalResponse}
    (owners : ownerOf state'.contexts = ownerOf state.contexts)
    (counts : ∀ other, (kept calls').count other + (if serial = other then 1 else 0) =
      (kept calls).count other)
    (admitted : state'.admitted = state.admitted)
    (released : state'.released = state.released ++ [serial])
    (forwarded : state'.forwarded = state.forwarded ++ [(serial, response)]) :
    Ownership state' calls' := by
  have moved : ∀ other, (kept calls').count other + state'.released.count other =
      (kept calls).count other + state.released.count other := by
    intro other
    have shifted := counts other
    simp only [released, List.count_append, List.count_singleton, beq_iff_eq]
    split_ifs at shifted ⊢ <;> omega
  exact {
    released := by rw [released, forwarded, own.released, List.map_append]; rfl
    ownedOnce := by rw [owners]; exact own.ownedOnce
    ownedAlone := fun address other owned => by
      rw [moved]
      exact own.ownedAlone address other (owners ▸ owned)
    heldOnce := fun other => by rw [moved]; exact own.heldOnce other
    accounted := fun other => by rw [moved, owners, admitted]; exact own.accounted other }

/-- Deleting the context that owns a request, with its response forwarded and the request
released, keeps `Ownership`. -/
theorem Ownership.forwardOwned (own : Ownership state calls) {address : UInt64} {serial : Nat}
    {response : InternalResponse} (owner : ownerOf state.contexts address = some serial)
    (owners : ownerOf state'.contexts = Function.update (ownerOf state.contexts) address none)
    (counts : ∀ other, (kept calls').count other = (kept calls).count other)
    (admitted : state'.admitted = state.admitted)
    (released : state'.released = state.released ++ [serial])
    (forwarded : state'.forwarded = state.forwarded ++ [(serial, response)]) :
    Ownership state' calls' := by
  have releasedCount : ∀ other, state'.released.count other =
      state.released.count other + if serial = other then 1 else 0 := by
    intro other
    simp only [released, List.count_append, List.count_singleton, beq_iff_eq]
  have alone := own.ownedAlone address serial owner
  have moved : ∀ other, other ≠ serial → ((∃ holder, ownerOf state'.contexts holder = some other) ↔
      ∃ holder, ownerOf state.contexts holder = some other) := by
    intro other fresh
    rw [owners]
    constructor
    · rintro ⟨holder, owned⟩
      exact ⟨holder, (eq_some_of_update_none owned).2⟩
    · rintro ⟨holder, old⟩
      have away : holder ≠ address := fun same => fresh (by simp_all)
      exact ⟨holder, by rwa [Function.update_noteq away]⟩
  exact {
    released := by rw [released, forwarded, own.released, List.map_append]; rfl
    ownedOnce := fun first second other firstOwned secondOwned => by
      rw [owners] at firstOwned secondOwned
      exact own.ownedOnce first second other (eq_some_of_update_none firstOwned).2
        (eq_some_of_update_none secondOwned).2
    ownedAlone := fun holder other owned => by
      rw [owners] at owned
      obtain ⟨away, old⟩ := eq_some_of_update_none owned
      have fresh : serial ≠ other := fun same =>
        away (own.ownedOnce holder address other old (same ▸ owner))
      rw [counts, releasedCount, if_neg fresh]
      exact own.ownedAlone holder other old
    heldOnce := fun other => by
      have once := own.heldOnce other
      rw [counts, releasedCount]
      split_ifs with same
      · subst same
        omega
      · omega
    accounted := fun other => by
      rw [counts, releasedCount, admitted]
      by_cases same : other = serial
      · subst same
        exact ⟨fun _ => .inr (by rw [if_pos rfl]; omega), fun _ => own.owned_lt owner⟩
      · rw [moved other same, if_neg (Ne.symm same), Nat.add_zero]
        exact own.accounted other }

end Carry

section Steps

variable {support : Support} {state state' : FuseInstance} {calls : List Call}
  {index : Nat} {call call' : Call}

/-- Every call step keeps `Ownership`. -/
theorem Ownership.effect (own : Ownership state calls) (found : calls[index]? = some call)
    (effect : Effect state call state' call') : Ownership state' (calls.set index call') := by
  have counts : ∀ serial, (kept (calls.set index call')).count serial +
      (if keptSerial call = some serial then 1 else 0) =
      (kept calls).count serial + (if keptSerial call' = some serial then 1 else 0) :=
    count_filterMap_set keptSerial found call'
  cases effect with
  | keep owners same admitted released forwarded =>
    refine own.keep owners (fun serial => ?_) admitted released forwarded
    have moved := counts serial
    rw [same] at moved
    omega
  | admitKept before after owners admitted released forwarded =>
    refine own.admitKept owners (fun serial => ?_) admitted released forwarded
    have moved := counts serial
    simp only [before, after, Option.some.injEq, reduceCtorEq, if_false] at moved
    split_ifs at moved ⊢ <;> omega
  | admitOwned free owners same admitted released forwarded =>
    refine own.admitOwned (by simp [ownerOf, free]) owners (fun serial => ?_) admitted released
      forwarded
    have moved := counts serial
    rw [same] at moved
    omega
  | forwardKept atStatus before after owners admitted released forwarded =>
    refine own.forwardKept owners (fun serial => ?_) admitted released forwarded
    have moved := counts serial
    rw [after] at moved
    simp only [keptSerial, before, Option.map_some', Option.some.injEq, reduceCtorEq,
      if_false] at moved
    split_ifs at moved ⊢ <;> omega
  | forwardOwned live owner gone owners same admitted released forwarded =>
    refine own.forwardOwned (by simp [ownerOf, live, owner]) owners (fun serial => ?_) admitted
      released forwarded
    have moved := counts serial
    rw [same] at moved
    omega

theorem ownerOf_place_unowned {contexts : UInt64 → Option Context} {address : UInt64}
    {context : Context} (free : contexts address = none) (unowned : context.internalRequest = none) :
    ownerOf (Function.update contexts address (some context)) = ownerOf contexts := by
  rw [ownerOf_update_some, unowned]
  exact Function.update_eq_self_iff.2 (by simp [ownerOf, free])

/-- Every step keeps `Ownership`. -/
theorem Ownership.step {system next : System} (inv : Invariant support system)
    (own : Ownership system.state system.calls) (step : Step support system next) :
    Ownership next.state next.calls := by
  cases step with
  | begin inputBufferLength outputBufferLength buffer =>
    exact own.keep rfl (fun serial => by simp [kept, keptSerial, Call.begin]) rfl rfl rfl
  | call index inside choice state call stepped =>
    have found := List.getElem?_eq_getElem inside
    exact own.effect found (callStep_effect inv found (stepCall_sound stepped))
  | postForget forgetList address nonempty nonzero free =>
    exact own.keep (ownerOf_place_unowned free rfl) (fun _ => rfl) rfl rfl rfl

/-- The instance `FuseDeviceInit` leaves has admitted nothing. -/
theorem ownership_initial (address : UInt64) :
    Ownership (FuseInstance.initial address) [] := by
  have unowned : ∀ other, ownerOf (FuseInstance.initial address).contexts other = none := by
    intro other
    rw [FuseInstance.initial, ownerOf_place_unowned rfl rfl]
    rfl
  refine ⟨rfl, fun _ _ _ owned _ => ?_, fun _ _ owned => ?_, fun _ => by simp [kept, FuseInstance.initial],
    fun serial => ?_⟩
  · rw [unowned] at owned
    cases owned
  · rw [unowned] at owned
    cases owned
  · simp only [unowned, reduceCtorEq, exists_false, false_or]
    simp [kept, FuseInstance.initial]

/-- `Ownership` holds in every reachable state. -/
theorem ownership_reachable {system : System} (reachable : Reachable support system) :
    Ownership system.state system.calls := by
  induction reachable with
  | initial address _ => exact ownership_initial address
  | step reached step own => exact own.step (invariant_reachable reached) step

end Steps

/-! ## What a step does to one request -/

section Logs

variable {support : Support} {state state' : FuseInstance} {call call' : Call}

/-- A call step only appends to the logs of forwarded and released requests. -/
theorem Effect.grows (effect : Effect state call state' call') :
    state.released <+: state'.released ∧ state.forwarded <+: state'.forwarded := by
  cases effect with
  | keep _ _ _ released forwarded
  | admitKept _ _ _ _ released forwarded
  | admitOwned _ _ _ _ released forwarded =>
    rw [released, forwarded]
    exact ⟨List.prefix_refl _, List.prefix_refl _⟩
  | forwardKept _ _ _ _ _ released forwarded
  | forwardOwned _ _ _ _ _ _ released forwarded =>
    rw [released, forwarded]
    exact ⟨List.prefix_append _ _, List.prefix_append _ _⟩

/-- A context stops owning a request only when a call step deletes it, forwarding its internal
response and releasing the request. -/
theorem Effect.disowned (effect : Effect state call state' call') {address : UInt64} {serial : Nat}
    (owned : ownerOf state.contexts address = some serial)
    (lost : ownerOf state'.contexts address ≠ some serial) :
    ∃ context, state.contexts address = some context ∧ state'.contexts address = none ∧
      state'.forwarded = state.forwarded ++ [(serial, context.internalResponse)] ∧
      state'.released = state.released ++ [serial] := by
  cases effect with
  | keep owners | admitKept _ _ owners | forwardKept _ _ _ owners =>
    exact absurd (owners ▸ owned) lost
  | @admitOwned fresh free owners =>
    have away : address ≠ fresh := fun same => by simp [ownerOf, same, free] at owned
    exact absurd (by rw [owners, Function.update_noteq away]; exact owned) lost
  | @forwardOwned deleted context request live owner gone owners _ _ released forwarded =>
    by_cases same : address = deleted
    · subst same
      have matching : request.serial = serial := by
        simpa [ownerOf, live, owner] using owned
      subst matching
      exact ⟨context, live, gone, forwarded, released⟩
    · exact absurd (by rw [owners, Function.update_noteq same]; exact owned) lost

/-- The status-only forward always runs: the internal response carries the kept request's
`Kind` and `Hint` and the context's status, the request is freed, and the call returns. -/
theorem stepCall_requestStatus (choice : Choice) {status : NtStatus} {request : InternalRequest}
    (atStatus : call.pc = .requestStatus status) (held : call.internalRequest = some request) :
    ∃ call', stepCall support choice state call =
        some (((state.forward request.serial ⟨request.kind, request.hint, status⟩).freeExternal
          (some request)), call') ∧
      call'.internalRequest = none ∧ ∃ result, call'.pc = .returned result := by
  unfold stepCall
  simp only [atStatus, held, Option.bind_eq_bind, Option.some_bind]
  split <;> simp [exitWith, held]

end Logs

section Steps

variable {support : Support} {system next : System}

theorem step_grows (inv : Invariant support system) (step : Step support system next) :
    system.state.released <+: next.state.released ∧
      system.state.forwarded <+: next.state.forwarded := by
  cases step with
  | call index inside choice state call stepped =>
    have found := List.getElem?_eq_getElem inside
    exact (callStep_effect inv found (stepCall_sound stepped)).grows
  | begin | postForget => exact ⟨List.prefix_refl _, List.prefix_refl _⟩

/-- Only a call step that forwards a context's internal response deletes a context that owns a
request. -/
theorem step_disowned (inv : Invariant support system) (step : Step support system next)
    {address : UInt64} {serial : Nat}
    (owned : ownerOf system.state.contexts address = some serial)
    (lost : ownerOf next.state.contexts address ≠ some serial) :
    ∃ context, system.state.contexts address = some context ∧
      next.state.contexts address = none ∧
      next.state.forwarded = system.state.forwarded ++ [(serial, context.internalResponse)] ∧
      next.state.released = system.state.released ++ [serial] := by
  cases step with
  | call index inside choice state call stepped =>
    have found := List.getElem?_eq_getElem inside
    exact (callStep_effect inv found (stepCall_sound stepped)).disowned owned lost
  | begin => exact absurd owned lost
  | postForget forgetList fresh nonempty nonzero free =>
    exact absurd (by rw [fuseProtoPostForget, fuseIoqPostPending, setContext,
      ownerOf_place_unowned free rfl]; exact owned) lost

theorem hostShape_of_owner {context : Context} {request : InternalRequest}
    (holds : ContextInv support context) (owner : context.internalRequest = some request) :
    HostShape context request := by
  rcases holds.shape with init | forget | ⟨other, host⟩
  · simp [init.unowned] at owner
  · simp [forget.unowned] at owner
  · rw [host.owner, Option.some.injEq] at owner
    exact owner ▸ host

end Steps

/-! ## Each request released once, with one response -/

/-- Every host request a transact call is handed is owned by one context, kept by the call
that got a status-only result, or released; it is released at most once, with one internal
response forwarded, of the request's kind and hint. -/
theorem requests_released_once {support : Support} {system : System}
    (reachable : Reachable support system) :
    system.state.released.Nodup ∧ (system.state.forwarded.map Prod.fst).Nodup ∧
    system.state.released = system.state.forwarded.map Prod.fst ∧
    (∀ serial, serial < system.state.admitted ↔
      (∃ address, ownerOf system.state.contexts address = some serial) ∨
        serial ∈ kept system.calls ∨ serial ∈ system.state.released) ∧
    (∀ address context request, system.state.contexts address = some context →
      context.internalRequest = some request →
      request.serial ∉ kept system.calls ∧ request.serial ∉ system.state.released ∧
      (∀ other, ownerOf system.state.contexts other = some request.serial → other = address) ∧
      context.internalResponse.kind = request.kind ∧
      context.internalResponse.hint = request.hint) ∧
    (∀ call ∈ system.calls, ∀ request, call.internalRequest = some request →
      (∃ status, call.pc = .requestStatus status) ∧ (kept system.calls).count request.serial = 1 ∧
        request.serial ∉ system.state.released) ∧
    (∀ call ∈ system.calls, ∀ status request choice, call.pc = .requestStatus status →
      call.internalRequest = some request →
      ∃ call', stepCall support choice system.state call =
          some ((system.state.forward request.serial
            ⟨request.kind, request.hint, status⟩).freeExternal (some request), call') ∧
        call'.internalRequest = none ∧ ∃ result, call'.pc = .returned result) ∧
    (∀ next, Step support system next →
      system.state.released <+: next.state.released ∧
      system.state.forwarded <+: next.state.forwarded ∧
      ∀ address serial, ownerOf system.state.contexts address = some serial →
        ownerOf next.state.contexts address ≠ some serial →
        ∃ context, system.state.contexts address = some context ∧
          next.state.contexts address = none ∧
          next.state.forwarded = system.state.forwarded ++ [(serial, context.internalResponse)] ∧
          next.state.released = system.state.released ++ [serial]) := by
  have inv := invariant_reachable reachable
  have own := ownership_reachable reachable
  have once : system.state.released.Nodup :=
    List.nodup_iff_count_le_one.2 fun serial => by have := own.heldOnce serial; omega
  refine ⟨once, own.released ▸ once, own.released, fun serial => ?_,
    fun address context request live owner => ?_, fun call member request held => ?_,
    fun call _ status request choice atStatus held => stepCall_requestStatus choice atStatus held,
    fun next step => ⟨(step_grows inv step).1, (step_grows inv step).2,
      fun _ _ owned lost => step_disowned inv step owned lost⟩⟩
  · rw [own.accounted serial, Nat.add_pos_iff_pos_or_pos, List.count_pos_iff, List.count_pos_iff]
  · have owned : ownerOf system.state.contexts address = some request.serial := by
      simp [ownerOf, live, owner]
    have alone := own.ownedAlone address _ owned
    have host := hostShape_of_owner (inv.contexts address context live) owner
    exact ⟨List.count_eq_zero.1 (by omega), List.count_eq_zero.1 (by omega),
      fun other owns => own.ownedOnce other address _ owns owned, host.kind, host.hint⟩
  · have atStatus : ∃ status, call.pc = .requestStatus status := by
      by_contra other
      push_neg at other
      simp [(inv.calls call member).internalRequest_eq_none other] at held
    have present : request.serial ∈ kept system.calls :=
      List.mem_filterMap.2 ⟨call, member, by simp [keptSerial, held]⟩
    have once := own.heldOnce request.serial
    have counted := List.count_pos_iff.2 present
    exact ⟨atStatus, by omega, List.count_eq_zero.1 (by omega)⟩

/-- After the INIT exchange and the admission of one host request, whose context at 2 waits for
the reply to its LOOKUP, that request is owned, kept or released. -/
theorem requests_released_once_admitted :
    ∃ system, run lookupOpen ⟨FuseInstance.initial 1, []⟩ lookupSent = some system ∧
      Reachable lookupOpen system ∧ system.state.admitted = 1 ∧
      ((∃ address, ownerOf system.state.contexts address = some 0) ∨
        0 ∈ kept system.calls ∨ 0 ∈ system.state.released) := by
  obtain ⟨system, ran, reachable, observed⟩ := reachable_run_map (.initial 1 (by decide))
    (by decide : (run lookupOpen ⟨FuseInstance.initial 1, []⟩ lookupSent).map
      (fun system => system.state.admitted) = some 1)
  exact ⟨system, ran, reachable, observed,
    ((requests_released_once reachable).2.2.2.1 0).1 (by omega)⟩

end WinFuse.Engine.Requests
