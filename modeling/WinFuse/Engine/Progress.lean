import Mathlib.Algebra.BigOperators.Group.List
import Mathlib.Algebra.Order.Ring.Nat
import WinFuse.Engine.Teardown
import WinFuse.Engine.Split
import WinFuse.Engine.Drain
import WinFuse.Engine.Correlation

/-!
# The IOQ always drains

No reachable state strands a context: from every state in which no transact call is in
progress, a daemon that answers can finish every live operation.  It can ask for a request with
a buffer of `FUSE_PROTO_REQ_SIZEMIN` bytes, or bring an error-free reply to the request of a
context in processing.  The host framework takes every response and hands down no new request.

Each such call, run alone, resumes one context: the head of pending, or the context the reply
names.  The call then puts the context back in the IOQ or deletes it.  So the weight of the work
an operation has left drops at every resume: two moves per send still to do, one more while it
is ready, and one per inode still to forget.  The load of the IOQ is the weight of the contexts
in it, and every call lowers it.  When the IOQ is empty, no context is live.  A host request's
context is deleted only in the step that forwards its internal response.  So the response of
every request that a context owned went up on the way.
-/

namespace WinFuse.Engine.Progress

open WinFuse.Wire.Bytes
open WinFuse.Wire.Layout
open WinFuse.Proto.OperationContext
open WinFuse.Proto.Routines
open WinFuse.Engine.Instance
open WinFuse.Engine.Instance.FuseInstance
open WinFuse.Engine.Transact
open WinFuse.Engine.Invariants
open WinFuse.Engine.Preservation
open WinFuse.Engine.Requests
open WinFuse.Engine.Drain
open WinFuse.Engine.Split
open WinFuse.Engine.Teardown

/-! ## The work left -/

/-- What an operation has left: a resume to write and one to answer for each send still to do,
one more resume while it is ready, and one inode for each still to forget. -/
def weight (context : Context) : Nat :=
  2 * context.routine.length + (if context.coroState = .ready then 1 else 0) +
    context.forgetList.length

/-- The weight of the context at an address, 0 where none is live. -/
def weightAt (contexts : UInt64 → Option Context) (address : UInt64) : Nat :=
  ((contexts address).map weight).getD 0

/-- The work left to the contexts in the IOQ. -/
def load (state : FuseInstance) : Nat :=
  ((state.pending ++ state.processing).map (weightAt state.contexts)).sum

section Weight

variable {support : Support} {address : UInt64} {context : Context} {resumed : Resumed}

/-- `resumeRequest` stops at a send that waits for its reply or at the end, and never adds a
send. -/
theorem resumeRequest_progress (routine : List Send) :
    (resumeRequest address context routine).1 ≠ .ready ∧
      (resumeRequest address context routine).2.1.length ≤ routine.length := by
  induction routine with
  | nil => exact ⟨by simp [resumeRequest], le_refl _⟩
  | cons send rest ih =>
    simp only [resumeRequest]
    split
    · exact ⟨ih.1, by simp only [List.length_cons]; omega⟩
    · exact ⟨by simp, le_refl _⟩

theorem weight_resumeReady (ready : context.coroState = .ready) :
    weight (resumeReady address context).context < weight context := by
  have progress := @resumeRequest_progress address context context.routine
  simp only [weight, resumeReady, withResume_routine, withResume_coroState, withResume_forgetList,
    ready, if_true, if_neg progress.1]
  omega

/-- Every resume of a ready live context with an output buffer runs, and leaves less work. -/
theorem request_resume_lowers (wellFormed : ContextInv support context)
    (ready : context.coroState = .ready) :
    ∃ resumed, fuseContextProcess support address context none true = some resumed ∧
      weight resumed.context < weight context := by
  rcases wellFormed.shape with init | forget | ⟨request, host⟩
  · exact ⟨_, fuseContextProcess_ready init.not_isForget (.inr init.hint) ready,
      weight_resumeReady ready⟩
  · obtain ⟨writes, forgotten⟩ := @resumeForget_eq support address context forget.nonempty
    refine ⟨_, (fuseContextProcess_forget forget.isForget).trans forgotten, ?_⟩
    have batch := @forgetBatch_pos support
    have nonempty := List.length_pos.2 forget.nonempty
    simp only [weight, forgetAdvance, List.length_drop]
    omega
  · exact ⟨_, fuseContextProcess_ready host.not_isForget (.inl (by simp [host.owner])) ready,
      weight_resumeReady ready⟩

/-- Every resume of a live context waiting for its reply runs with the reply, and leaves less
work. -/
theorem response_resume_lowers {response : Buffer} (wellFormed : ContextInv support context)
    (reply : context.coroState = .reply) (notForget : isForget context = false) :
    ∃ resumed, fuseContextProcess support address context (some response) false = some resumed ∧
      weight resumed.context < weight context := by
  obtain ⟨send, rest, routine⟩ := List.exists_cons_of_ne_nil (wellFormed.awaiting reply)
  refine ⟨_, fuseContextProcess_reply notForget (wellFormed.operation notForget) reply routine,
    ?_⟩
  by_cases finished : Response.error.read response ≠ 0 ∨ rest = []
  · simp [weight, finished, routine, reply]
  · simp [weight, finished, routine, reply]
    omega

end Weight

/-! ## The load of the IOQ -/

section Load

variable {state state' : FuseInstance} {address : UInt64} {others : List UInt64}

theorem sum_weightAt_congr {contexts contexts' : UInt64 → Option Context}
    (absent : address ∉ others)
    (frame : ∀ other ≠ address, contexts' other = contexts other) :
    (others.map (weightAt contexts')).sum = (others.map (weightAt contexts)).sum := by
  congr 1
  exact List.map_congr_left fun other member => by
    simp only [weightAt, frame other fun same => absent (same ▸ member)]

/-- A call that resumes the context at one address and puts it back in the IOQ with less work
left lowers the load. -/
theorem load_lt_of_moved {context context' : Context}
    (before : (state.pending ++ state.processing).Perm (address :: others))
    (absent : address ∉ others) (live : state.contexts address = some context)
    (contexts : state'.contexts = Function.update state.contexts address (some context'))
    (after : (state'.pending ++ state'.processing).Perm (address :: others))
    (lower : weight context' < weight context) :
    load state' < load state := by
  have frame : ∀ other ≠ address, state'.contexts other = state.contexts other :=
    fun other different => by rw [contexts, Function.update_noteq different]
  rw [load, load, (after.map _).sum_eq, (before.map _).sum_eq, List.map_cons, List.map_cons,
    List.sum_cons, List.sum_cons, sum_weightAt_congr absent frame]
  simp only [weightAt, contexts, Function.update_same, live, Option.map_some', Option.getD_some]
  omega

/-- A call that deletes the context at one address, with some work left, lowers the load. -/
theorem load_lt_of_removed {context : Context}
    (before : (state.pending ++ state.processing).Perm (address :: others))
    (absent : address ∉ others) (live : state.contexts address = some context)
    (positive : 0 < weight context)
    (contexts : state'.contexts = Function.update state.contexts address none)
    (after : (state'.pending ++ state'.processing).Perm others) :
    load state' < load state := by
  have frame : ∀ other ≠ address, state'.contexts other = state.contexts other :=
    fun other different => by rw [contexts, Function.update_noteq different]
  rw [load, load, (after.map _).sum_eq, (before.map _).sum_eq, List.map_cons, List.sum_cons,
    sum_weightAt_congr absent frame]
  simp only [weightAt, live, Option.map_some', Option.getD_some]
  omega

end Load

/-! ## A call run alone is a run of the system -/

section Runs

variable {support : Support} {choice : Choice}

theorem run_append (system : System) (first second : List Action) :
    run support system (first ++ second) =
      (run support system first).bind fun middle => run support middle second := by
  induction first generalizing system with
  | nil => rfl
  | cons action rest ih =>
    rw [List.cons_append]
    simp only [run, ih, Option.bind_assoc]

theorem run_call_last {calls : List Call} {state : FuseInstance} {call : Call}
    {moved : FuseInstance × Call} (stepped : stepCall support choice state call = some moved)
    (rest : List Action) :
    run support ⟨state, calls ++ [call]⟩ (.call calls.length choice :: rest) =
      run support ⟨moved.1, calls ++ [moved.2]⟩ rest := by
  have current : (calls ++ [call]).get ⟨calls.length, by simp⟩ = call := by simp
  have replaced : (calls ++ [call]).set calls.length moved.2 = calls ++ [moved.2] := by
    simp [List.set_append_right]
  simp only [run, Action.apply, List.length_append, List.length_singleton, Nat.lt_succ_self,
    dite_true, current, stepped, Option.map_some', replaced, Option.some_bind]

/-- A call at the end of the calls, run alone under one set of outcomes, is a run of the
system: steps of that call. -/
theorem run_finish (calls : List Call) :
    ∀ (fuel : Nat) (state : FuseInstance) (call : Call) (result : FuseInstance × Call),
      finish support (fun _ => choice) fuel state call = some result →
      ∃ steps, run support ⟨state, calls ++ [call]⟩
          (List.replicate steps (.call calls.length choice)) =
        some ⟨result.1, calls ++ [result.2]⟩
  | 0, _, _, _, ran => by cases ran
  | fuel + 1, state, call, result, ran => by
    simp only [finish] at ran
    split at ran
    · cases ran
      exact ⟨0, rfl⟩
    · obtain ⟨moved, stepped, ran⟩ := Option.bind_eq_some.1 ran
      obtain ⟨steps, later⟩ := run_finish calls fuel moved.1 moved.2 result ran
      exact ⟨steps + 1, (run_call_last stepped _).trans later⟩

/-- A call made and run alone to its end under one set of outcomes is a run of the system: the
call, then its steps. -/
theorem run_transact {state : FuseInstance} {calls : List Call}
    {inputBufferLength outputBufferLength : Nat} {buffer : Buffer} {result : FuseInstance × Call}
    (ran : transact support (fun _ => choice) state
      (Call.begin inputBufferLength outputBufferLength buffer) = some result) :
    ∃ steps, run support ⟨state, calls⟩
      (.begin inputBufferLength outputBufferLength buffer ::
        List.replicate steps (.call calls.length choice)) =
      some ⟨result.1, calls ++ [result.2]⟩ :=
  run_finish calls _ state _ result ran

end Runs

/-! ## The daemon's calls -/

/-- A call that asks for a request with a buffer of `FUSE_PROTO_REQ_SIZEMIN` bytes. -/
def askCall : Call :=
  Call.begin 0 fuseProtoReqSizeMin zeroBuffer

/-- The daemon's reply to the request of the context at `address`: a `fuse_out_header` with
`error` 0. -/
def replyTo (address : UInt64) : Buffer :=
  applyAll [Response.len.store fuseProtoRspHeaderSize, Response.unique.store address.toNat]
    zeroBuffer

/-- A call that brings only the reply to the request of the context at `address`. -/
def replyCall (address : UInt64) : Call :=
  Call.begin fuseProtoRspHeaderSize 0 (replyTo address)

/-- The moves of a cooperative daemon: a call that asks for a request, a call that brings an
error-free reply, and a step of a call where the host framework takes every response and hands
down no request. -/
inductive Cooperative : Action → Prop
  | ask : Cooperative (.begin 0 fuseProtoReqSizeMin zeroBuffer)
  | reply (address : UInt64) : Cooperative (.begin fuseProtoRspHeaderSize 0 (replyTo address))
  | step (index : Nat) : Cooperative (.call index idle)

section Reply

variable (address : UInt64)

@[simp]
theorem len_read_replyTo : Response.len.read (replyTo address) = fuseProtoRspHeaderSize := by
  rw [replyTo, show [Response.len.store fuseProtoRspHeaderSize, Response.unique.store address.toNat]
      = [] ++ Response.len.store fuseProtoRspHeaderSize :: [Response.unique.store address.toNat]
      from rfl, Field.read_applyAll_of_last]
  · rfl
  · simp only [written_cons, written_nil, Field.covers_store, Response.len, Response.unique,
      or_false]
    omega

@[simp]
theorem unique_read_replyTo : Response.unique.read (replyTo address) = address.toNat := by
  rw [replyTo, show [Response.len.store fuseProtoRspHeaderSize, Response.unique.store address.toNat]
      = [Response.len.store fuseProtoRspHeaderSize] ++ Response.unique.store address.toNat :: []
      from rfl, Field.read_applyAll_of_last (by simp [Written])]
  exact Nat.mod_eq_of_lt (lt_of_lt_of_eq address.toNat_lt_size (by decide))

@[simp]
theorem error_read_replyTo : Response.error.read (replyTo address) = 0 := by
  rw [replyTo, Field.read_applyAll_of_disjoint]
  · rfl
  · simp only [written_cons, written_nil, Field.covers_store, Response.len, Response.unique,
      Response.error, or_false]
    omega

theorem checkParameters_replyCall : checkParameters (replyCall address) = none := by
  simp [checkParameters, replyCall, Call.begin]

end Reply

theorem checkParameters_askCall : checkParameters askCall = none := by
  simp only [checkParameters, askCall, Call.begin]
  decide

/-- The reply's `unique` takes the context it names out of processing. -/
theorem fuseIoqEndProcessing_of_mem {state : FuseInstance} {address : UInt64}
    (member : address ∈ state.processing) :
    state.fuseIoqEndProcessing address.toNat =
      (some address, { state with processing := state.processing.erase address }) := by
  unfold fuseIoqEndProcessing
  split
  · rename_i found named
    have same : found = address := UInt64.toNat.inj (by simpa using List.find?_some named)
    rw [same]
  · rename_i missing
    exact absurd (List.find?_eq_none.1 missing address member) (by simp)

/-! ## One call of the daemon, run alone -/

@[simp]
theorem fuseContextDelete_pending (state : FuseInstance) (address : UInt64) :
    (state.fuseContextDelete address).pending = state.pending := by
  unfold fuseContextDelete
  split <;> rfl

@[simp]
theorem completeInit_pending (state : FuseInstance) (version : Option (Nat × Nat)) :
    (state.completeInit version).pending = state.pending := by
  cases version <;> rfl

section Outcomes

variable {support : Support} {state : FuseInstance} {call : Call} {address : UInt64}
  {context : Context} {resumed : Resumed}

theorem transact_askCall {rest : List UInt64} (head : state.pending = address :: rest) :
    ∃ call, call.pc = .requestResume address ∧ call.internalRequest = none ∧
      transact support (fun _ => idle) state askCall =
        transact support (fun _ => idle) { state with pending := rest } call := by
  refine ⟨{ askCall with information := 0, buffer := zeroHeader.apply zeroBuffer,
                         pc := .requestResume address }, rfl, rfl, ?_⟩
  rw [transact_noResponse _ _ _ rfl rfl checkParameters_askCall, transact_step _ _ _ (by simp)]
  simp [stepCall, askCall, Call.begin, head, fuseProtoReqSizeMin]

theorem transact_resume_continues (atResume : call.pc = .requestResume address)
    (unheld : call.internalRequest = none) (live : state.contexts address = some context)
    (process : fuseContextProcess support address context none true = some resumed)
    (continues : resumed.continues = true) :
    ∃ call', transact support (fun _ => idle) state call =
      some ((state.setContext address resumed.context).fuseIoqStartProcessing address, call') := by
  rw [transact_step _ _ _ (by simp [atResume])]
  simp [stepCall, atResume, live, process, continues, exitWith, unheld]
  exact ⟨_, transact_returned _ _ _ rfl⟩

/-- A resume with the output buffer that finishes a host request's operation: its internal
response goes up and the context is deleted. -/
theorem transact_resume_finishes {request : InternalRequest}
    (atResume : call.pc = .requestResume address) (unheld : call.internalRequest = none)
    (live : state.contexts address = some context)
    (process : fuseContextProcess support address context none true = some resumed)
    (stops : resumed.continues = false) (owner : resumed.context.internalRequest = some request) :
    ∃ call', transact support (fun _ => idle) state call =
      some (((state.setContext address resumed.context).forward request.serial
        resumed.context.internalResponse).fuseContextDelete address, call') := by
  rw [transact_step _ _ _ (by simp [atResume])]
  simp [stepCall, atResume, live, process, stops, owner]
  rw [transact_step _ _ _ (by simp)]
  simp [stepCall, setContext, owner, exitWith, idle, unheld]
  exact ⟨_, transact_returned _ _ _ rfl⟩

/-- A resume of a FORGET operation: the context goes back on pending while inodes are left,
and is deleted otherwise. -/
theorem transact_resume_forgets (atResume : call.pc = .requestResume address)
    (unheld : call.internalRequest = none) (live : state.contexts address = some context)
    (process : fuseContextProcess support address context none true = some resumed)
    (stops : resumed.continues = false) (forget : isForget resumed.context = true) :
    ∃ call', transact support (fun _ => idle) state call =
      some (if resumed.context.forgetList ≠ [] then
          (state.setContext address resumed.context).fuseIoqPostPending address
        else (state.setContext address resumed.context).fuseContextDelete address, call') := by
  have unowned : resumed.context.internalRequest = none := by
    simp only [isForget, decide_eq_true_eq] at forget
    exact forget.1
  rw [transact_step _ _ _ (by simp [atResume])]
  simp only [stepCall, atResume, live, process, stops, unowned, forget, Option.some_bind,
    Option.bind_eq_bind, if_true, Bool.false_eq_true, if_false, exitWith, unheld,
    freeExternal_none]
  split <;> exact ⟨_, transact_returned _ _ _ rfl⟩

theorem transact_matched (choose : Pc → Choice) (atStart : call.pc = .start)
    (nonempty : call.inputBufferLength ≠ 0) (valid : checkParameters call = none)
    (member : address ∈ state.processing)
    (keyed : Response.unique.read call.buffer = address.toNat) :
    transact support choose state call =
      transact support choose { state with processing := state.processing.erase address }
        { call with pc := .responseResume address } := by
  rw [transact_step _ _ _ (by simp [atStart])]
  simp only [stepCall, atStart, valid, nonempty, keyed, fuseIoqEndProcessing_of_mem member,
    ne_eq, not_false_eq_true, if_true, Option.some_bind]

theorem transact_replyCall (member : address ∈ state.processing) :
    ∃ call, call.pc = .responseResume address ∧ call.fuseResponse = some (replyTo address) ∧
      call.outputBufferLength = 0 ∧ call.internalRequest = none ∧
      transact support (fun _ => idle) state (replyCall address) =
        transact support (fun _ => idle)
          { state with processing := state.processing.erase address } call :=
  ⟨{ replyCall address with pc := .responseResume address }, rfl, rfl, rfl, rfl,
    transact_matched _ rfl (by simp [replyCall, Call.begin,
    fuseProtoRspHeaderSize]) (checkParameters_replyCall address) member
    (unique_read_replyTo address)⟩

section Reply

variable {response : Buffer} (atResume : call.pc = .responseResume address)
  (fuseResponse : call.fuseResponse = some response) (empty : call.outputBufferLength = 0)
  (unheld : call.internalRequest = none) (live : state.contexts address = some context)
  (process : fuseContextProcess support address context (some response) false = some resumed)

include atResume fuseResponse empty unheld live process

theorem transact_reply_continues (continues : resumed.continues = true) :
    ∃ call', transact support (fun _ => idle) state call =
      some (((state.setContext address resumed.context).completeInit
        resumed.initVersion).fuseIoqPostPending address, call') := by
  rw [transact_step _ _ _ (by simp [atResume])]
  simp only [stepCall, atResume, live, process, fuseResponse, continues, Option.some_bind,
    Option.bind_eq_bind, if_true, Option.pure_def, Option.some_bind]
  rw [@transact_request_empty support _ _ { call with pc := .request } rfl empty]
  exact ⟨_, by simp only [unheld, freeExternal_none]; rfl⟩

theorem transact_reply_deletes (stops : resumed.continues = false)
    (unowned : resumed.context.internalRequest = none) :
    ∃ call', transact support (fun _ => idle) state call =
      some (((state.setContext address resumed.context).completeInit
        resumed.initVersion).fuseContextDelete address, call') := by
  rw [transact_step _ _ _ (by simp [atResume])]
  simp only [stepCall, atResume, live, process, fuseResponse, stops, unowned, Option.some_bind,
    Option.bind_eq_bind, Bool.false_eq_true, if_false, if_true, Option.pure_def, Option.some_bind]
  rw [@transact_request_empty support _ _ { call with pc := .request } rfl empty]
  exact ⟨_, by simp only [unheld, freeExternal_none]; rfl⟩

/-- A resume with the reply that finishes a host request's operation: its internal response
goes up and the context is deleted. -/
theorem transact_reply_finishes {request : InternalRequest} (stops : resumed.continues = false)
    (owner : resumed.context.internalRequest = some request) :
    ∃ call', transact support (fun _ => idle) state call =
      some ((((state.setContext address resumed.context).completeInit
        resumed.initVersion).forward request.serial
          resumed.context.internalResponse).fuseContextDelete address, call') := by
  rw [transact_step _ _ _ (by simp [atResume])]
  simp only [stepCall, atResume, live, process, fuseResponse, stops, owner, Option.some_bind,
    Option.bind_eq_bind, Bool.false_eq_true, if_false, reduceCtorEq, Option.pure_def,
    Option.some_bind]
  rw [transact_step _ _ _ (by simp)]
  simp [stepCall, setContext, owner, idle, show ntSuccess statusSuccess = true by decide]
  rw [@transact_request_empty support _ _ { call with pc := .request } rfl empty]
  exact ⟨_, by simp only [unheld, freeExternal_none]; rfl⟩

end Reply

end Outcomes

/-! ## Each call of the daemon lowers the load -/

section Rounds

variable {support : Support} {system : System}

/-- With a context on pending, an ask call run alone resumes it and lowers the load. -/
theorem askCall_lowers_load (reachable : Reachable support system) {address : UInt64}
    {rest : List UInt64} (head : system.state.pending = address :: rest) :
    ∃ result, transact support (fun _ => idle) system.state askCall = some result ∧
      load result.1 < load system.state := by
  have inv := invariant_reachable reachable
  obtain ⟨isLive, notRest, notProcessing, -⟩ := inv.pending_alone head
  obtain ⟨context, live, ready⟩ := inv.pendingReady address (by simp [head])
  have wellFormed := inv.contexts address context live
  obtain ⟨resumed, process, lower⟩ :=
    @request_resume_lowers support address context wellFormed ready
  obtain ⟨call, atResume, unheld, asked⟩ := @transact_askCall support _ _ _ head
  have before : (system.state.pending ++ system.state.processing).Perm
      (address :: (rest ++ system.state.processing)) := by rw [head]; rfl
  have absent : address ∉ rest ++ system.state.processing := by simp [notRest, notProcessing]
  have positive : 0 < weight context := by simp only [weight, ready, if_true]; omega
  have live' : ({ system.state with pending := rest } : FuseInstance).contexts address =
      some context := live
  rw [asked]
  cases continues : resumed.continues
  · cases owner : resumed.context.internalRequest with
    | some request =>
      obtain ⟨call', ran⟩ :=
        transact_resume_finishes atResume unheld live' process continues owner
      exact ⟨_, ran, load_lt_of_removed before absent live positive
        (by simp [setContext, forward]) (by simp [setContext, forward])⟩
    | none =>
      have forget : isForget resumed.context = true := by
        rcases wellFormed.request ready process with
          ⟨stays, -⟩ | ⟨-, owned, -⟩ | ⟨-, forget, advanced⟩
        · simp [stays] at continues
        · simp [owner] at owned
        · rw [advanced]
          exact forget.isForget
      obtain ⟨call', ran⟩ :=
        transact_resume_forgets atResume unheld live' process continues forget
      refine ⟨_, ran, ?_⟩
      split
      · exact load_lt_of_moved before absent live rfl
          (by simp [setContext, fuseIoqPostPending]) lower
      · exact load_lt_of_removed before absent live positive (by simp [setContext])
          (by simp [setContext])
  · obtain ⟨call', ran⟩ := transact_resume_continues atResume unheld live' process continues
    exact ⟨_, ran, load_lt_of_moved before absent live rfl
      (by simp [setContext, fuseIoqStartProcessing]) lower⟩

/-- With a context in processing, a call bringing the reply to its request, run alone, resumes it
and lowers the load. -/
theorem replyCall_lowers_load (reachable : Reachable support system) {address : UInt64}
    (member : address ∈ system.state.processing) :
    ∃ result, transact support (fun _ => idle) system.state (replyCall address) = some result ∧
      load result.1 < load system.state := by
  have inv := invariant_reachable reachable
  obtain ⟨-, once, notPending, -⟩ := inv.processing_alone member
  obtain ⟨context, live, reply, notForget⟩ := inv.processingAwaiting address member
  obtain ⟨resumed, process, lower⟩ :=
    @response_resume_lowers support address context (replyTo address)
      (inv.contexts address context live) reply notForget
  obtain ⟨call, atResume, fuseResponse, empty, unheld, replied⟩ :=
    @transact_replyCall support _ _ member
  have before : (system.state.pending ++ system.state.processing).Perm
      (address :: (system.state.pending ++ system.state.processing.erase address)) :=
    ((List.perm_append_left_iff _).2 (List.perm_cons_erase member)).trans List.perm_middle
  have absent : address ∉ system.state.pending ++ system.state.processing.erase address := by
    have erased := List.count_erase_self address system.state.processing
    rw [once] at erased
    simp [notPending, ← List.count_pos_iff, erased, List.count_eq_zero_of_not_mem notPending]
  have positive : 0 < weight context := by
    have awaiting := List.length_pos.2 ((inv.contexts address context live).awaiting reply)
    simp only [weight]
    omega
  have live' : ({ system.state with processing := system.state.processing.erase address } :
      FuseInstance).contexts address = some context := live
  rw [replied]
  cases continues : resumed.continues
  · cases owner : resumed.context.internalRequest with
    | some request =>
      obtain ⟨call', ran⟩ := transact_reply_finishes atResume fuseResponse empty unheld live'
        process continues owner
      exact ⟨_, ran, load_lt_of_removed before absent live positive
        (by simp [setContext, forward]) (by simp [setContext, forward])⟩
    | none =>
      obtain ⟨call', ran⟩ := transact_reply_deletes atResume fuseResponse empty unheld live'
        process continues owner
      exact ⟨_, ran, load_lt_of_removed before absent live positive (by simp [setContext])
        (by simp [setContext])⟩
  · obtain ⟨call', ran⟩ := transact_reply_continues atResume fuseResponse empty unheld live'
      process continues
    exact ⟨_, ran, load_lt_of_moved before absent live (by simp [setContext, fuseIoqPostPending])
      (by simp [setContext, fuseIoqPostPending]) lower⟩

end Rounds

/-! ## Draining -/

section Drain

variable {support : Support} {system : System}

/-- One call of a cooperative daemon, from a quiet reachable state whose IOQ is not empty, ends
in a quiet state with a smaller load. -/
theorem cooperative_call_lowers_load (reachable : Reachable support system)
    (quiet : Quiet system) (busy : system.state.pending ≠ [] ∨ system.state.processing ≠ []) :
    ∃ actions next, (∀ action ∈ actions, Cooperative action) ∧
      run support system actions = some next ∧ Quiet next ∧
        load next.state < load system.state := by
  obtain ⟨inputBufferLength, outputBufferLength, buffer, cooperative, result, ran, lower⟩ :
      ∃ inputBufferLength outputBufferLength buffer,
        Cooperative (.begin inputBufferLength outputBufferLength buffer) ∧ ∃ result,
          transact support (fun _ => idle) system.state
            (Call.begin inputBufferLength outputBufferLength buffer) = some result ∧
          load result.1 < load system.state := by
    cases head : system.state.pending with
    | nil =>
      obtain ⟨address, member⟩ :=
        List.exists_mem_of_ne_nil _ (busy.resolve_left (by simp [head]))
      exact ⟨_, _, _, .reply address, replyCall_lowers_load reachable member⟩
    | cons address rest => exact ⟨_, _, _, .ask, askCall_lowers_load reachable head⟩
  obtain ⟨steps, called⟩ :=
    @run_transact support idle system.state system.calls _ _ _ result ran
  refine ⟨_, _, fun action member => ?_, called, fun call member => ?_, lower⟩
  · rcases List.mem_cons.1 member with rfl | repeated
    · exact cooperative
    · rw [List.eq_of_mem_replicate repeated]
      exact .step _
  · rcases List.mem_append.1 member with old | fresh
    · exact quiet call old
    · rw [List.mem_singleton.1 fresh]
      exact finish_returned ran

theorem owned_or_answered_step {next : System} (inv : Invariant support system)
    (step : Step support system next) {serial : Nat}
    (held : (∃ address, ownerOf system.state.contexts address = some serial) ∨
      serial ∈ system.state.forwarded.map Prod.fst) :
    (∃ address, ownerOf next.state.contexts address = some serial) ∨
      serial ∈ next.state.forwarded.map Prod.fst := by
  rcases held with ⟨address, owned⟩ | answered
  · by_cases kept : ownerOf next.state.contexts address = some serial
    · exact .inl ⟨address, kept⟩
    · obtain ⟨context, -, -, forwarded, -⟩ := step_disowned inv step owned kept
      exact .inr (by simp [forwarded])
  · obtain ⟨later, grown⟩ := (step_grows inv step).2
    exact .inr (by rw [← grown, List.map_append]; exact List.mem_append_left _ answered)

theorem owned_or_answered_run {actions : List Action} {final : System}
    (reachable : Reachable support system) (ran : run support system actions = some final)
    {serial : Nat} (held : (∃ address, ownerOf system.state.contexts address = some serial) ∨
      serial ∈ system.state.forwarded.map Prod.fst) :
    (∃ address, ownerOf final.state.contexts address = some serial) ∨
      serial ∈ final.state.forwarded.map Prod.fst := by
  induction actions generalizing system with
  | nil =>
    cases ran
    exact held
  | cons action rest ih =>
    obtain ⟨next, applied, ran⟩ := Option.bind_eq_some.1 ran
    have step := Action.step applied
    exact ih (.step reachable step) ran
      (owned_or_answered_step (invariant_reachable reachable) step held)

end Drain

/-- A cooperative daemon empties the IOQ of a quiet reachable state. -/
theorem cooperative_run_empties {support : Support} {system : System}
    (reachable : Reachable support system) (quiet : Quiet system) :
    ∃ actions final, (∀ action ∈ actions, Cooperative action) ∧
      run support system actions = some final ∧ Quiet final ∧
      final.state.pending = [] ∧ final.state.processing = [] := by
  by_cases empty : system.state.pending = [] ∧ system.state.processing = []
  · exact ⟨[], system, by simp, rfl, quiet, empty.1, empty.2⟩
  · obtain ⟨actions, next, cooperative, ran, quiet', lower⟩ :=
      cooperative_call_lowers_load reachable quiet (not_and_or.1 empty)
    obtain ⟨rest, final, cooperative', ran', done⟩ :=
      cooperative_run_empties (reachable_run reachable ran) quiet'
    refine ⟨actions ++ rest, final, fun action member => ?_, by rw [run_append, ran]; exact ran',
      done⟩
    rcases List.mem_append.1 member with early | late
    · exact cooperative action early
    · exact cooperative' action late
termination_by load system.state
decreasing_by exact lower

/-- From every reachable state in which no transact call is in progress, a daemon that asks for
requests and answers each with an error-free reply, while the host framework takes every
response and hands down nothing new, finishes every live operation.  Its calls all return, the
IOQ ends empty with no context live, and the internal response of every host request a context
owned has gone up. -/
theorem quiet_state_drains {support : Support} {system : System}
    (reachable : Reachable support system) (quiet : Quiet system) :
    ∃ actions final, (∀ action ∈ actions, Cooperative action) ∧
      run support system actions = some final ∧ Quiet final ∧
      final.state.pending = [] ∧ final.state.processing = [] ∧
      (∀ address, final.state.contexts address = none) ∧
      ∀ address serial, ownerOf system.state.contexts address = some serial →
        serial ∈ final.state.forwarded.map Prod.fst := by
  obtain ⟨actions, final, cooperative, ran, quiet', pending, processing⟩ :=
    cooperative_run_empties reachable quiet
  have reached := reachable_run reachable ran
  have dead : ∀ address, final.state.contexts address = none := fun address => by
    have count := ioq_count_quiet (invariant_reachable reached) quiet' address
    rw [pending, processing, List.append_nil, List.count_nil] at count
    split at count
    · omega
    · exact Option.not_isSome_iff_eq_none.1 ‹_›
  refine ⟨actions, final, cooperative, ran, quiet', pending, processing, dead,
    fun address serial owned => ?_⟩
  rcases owned_or_answered_run reachable ran (.inl ⟨address, owned⟩) with
    ⟨other, owner⟩ | answered
  · simp [ownerOf, dead] at owner
  · exact answered

/-- The instance `FuseDeviceInit` leaves drains: the INIT context goes once it has sent its
request and got a reply. -/
theorem quiet_state_drains_initial :
    Reachable lookupOpen ⟨FuseInstance.initial 1, []⟩ ∧ Quiet ⟨FuseInstance.initial 1, []⟩ ∧
      ∃ actions final, run lookupOpen ⟨FuseInstance.initial 1, []⟩ actions = some final ∧
        ∀ address, final.state.contexts address = none :=
  have reachable : Reachable lookupOpen ⟨FuseInstance.initial 1, []⟩ := .initial 1 (by decide)
  have quiet : Quiet ⟨FuseInstance.initial 1, []⟩ := fun _ member => by cases member
  have drained := quiet_state_drains reachable quiet
  ⟨reachable, quiet, drained.elim fun actions ⟨final, _, ran, _, _, _, dead, _⟩ =>
    ⟨actions, final, ran, dead⟩⟩

end WinFuse.Engine.Progress
