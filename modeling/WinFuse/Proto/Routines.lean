import WinFuse.Proto.BatchForget

/-!
# Resuming an operation

`FuseContextProcess` resumes a context's operation, either with the daemon's response or with
an output buffer to write the next request into, and reports whether the operation's coroutine
is still active (*Continue*).  It is not among the sources, nor are the operation routines it
dispatches to; what the spec says of them is modelled here, on top of the `FuseProtoSend*`
routines and forget fills of `proto.c`.

An operation of a host request runs its sends in order.  Resumed with an output buffer, it
finishes the `FuseProtoSendCreate` stubs at once and has the next send write its request and
yield.  Resumed with the response, the send records a nonzero `error` as the status and breaks;
the operation then finishes, or yields once more to get a buffer for its next send.  The INIT
operation is the single send `FuseProtoSendInit`, whose completion sets the negotiated version.
A FORGET operation fills one FORGET or BATCH_FORGET request per resume and never waits for a
reply.

A resume that reaches a store through the missing buffer (a request-side resume of a send
waiting for its response, or a response-side resume of a send about to write) dereferences a
null pointer: `fuseContextProcess` is then `none`.
-/

namespace WinFuse.Proto.Routines

open WinFuse.Wire.Bytes
open WinFuse.Wire.Layout
open WinFuse.Proto.OperationContext
open WinFuse.Proto.Encode

/--
Modelled from the spec: the parts of the driver that `fuse.c` and `proto.c` call but that are
not among the sources.
-/
structure Support where
  /-- `FuseNtStatusFromErrno`, a pure map from FUSE error numbers to status codes. -/
  ntStatusFromErrno : Nat → NtStatus
  /-- The operation `FuseContextCreate` starts for a host request of a kind: its sends. -/
  operation : Nat → List Send
  /-- Whether the driver's FORGET operations fill BATCH_FORGET rather than FORGET requests. -/
  batchForget : Bool

/-- What a resume did: the context after it, *Continue*, the stores into the request buffer,
and the version an INIT completion negotiated. -/
structure Resumed where
  context : Context
  continues : Bool
  writes : List Write
  initVersion : Option (Nat × Nat)

/-- Modelled from the spec: the `VersionMajor` and `VersionMinor` an INIT response sets (the
completion of `FuseProtoSendInit` is not among the sources).  An error-free response sets the
daemon's version; this model also takes a major of 0 or `(UINT32)-1` as unusable and leaves the
sentinel `(UINT32)-1` for it, as for an error, so that a completed exchange always leaves
`VersionMajor` nonzero. -/
def initVersionOf (response : Buffer) : Nat × Nat :=
  let major := Response.initMajor.read response
  if Response.error.read response = 0 ∧ major ≠ 0 ∧ major ≠ 0xFFFFFFFF then
    (major, Response.initMinor.read response)
  else (0xFFFFFFFF, 0)

/-- An operation resumed with an output buffer: the `create` stubs break at once, the next send
writes its request and yields.  The resume point, the sends left and the stores. -/
def resumeRequest (address : UInt64) (context : Context) :
    List Send → CoroState × List Send × List Write
  | [] => (.finished, [], [])
  | send :: rest =>
      match sendRequest address context send with
      | none => resumeRequest address context rest
      | some writes => (.reply, send :: rest, writes)

/-- The statements of every send after its `coro_yield`: a nonzero `error` becomes the status
of the internal response. -/
def sendStatus (support : Support) (context : Context) (response : Buffer) : NtStatus :=
  if Response.error.read response ≠ 0 then
    support.ntStatusFromErrno (Response.error.read response)
  else context.internalResponse.status

/-- The context with the resume point, the sends left and the counts updated. -/
def withResume (context : Context) (coroState : CoroState) (routine : List Send)
    (sent answered : Nat) : Context :=
  { context with
    coroState := coroState
    routine := routine
    ghost := { context.ghost with sent := sent, answered := answered } }

section WithResume

variable {context : Context} {coroState : CoroState} {routine : List Send} {sent answered : Nat}

@[simp]
theorem withResume_coroState : (withResume context coroState routine sent answered).coroState =
    coroState := rfl

@[simp]
theorem withResume_routine : (withResume context coroState routine sent answered).routine =
    routine := rfl

@[simp]
theorem withResume_sent : (withResume context coroState routine sent answered).ghost.sent =
    sent := rfl

@[simp]
theorem withResume_answered :
    (withResume context coroState routine sent answered).ghost.answered = answered := rfl

@[simp]
theorem withResume_internalRequest :
    (withResume context coroState routine sent answered).internalRequest =
      context.internalRequest := rfl

@[simp]
theorem withResume_internalResponse :
    (withResume context coroState routine sent answered).internalResponse =
      context.internalResponse := rfl

@[simp]
theorem withResume_forgetList :
    (withResume context coroState routine sent answered).forgetList = context.forgetList := rfl

@[simp]
theorem withResume_finiDeletesForgetList :
    (withResume context coroState routine sent answered).finiDeletesForgetList =
      context.finiDeletesForgetList := rfl

end WithResume

/-- A completed INIT exchange leaves `VersionMajor` nonzero: the negotiated major or the
sentinel. -/
theorem initVersionOf_fst_ne_zero (response : Buffer) : (initVersionOf response).1 ≠ 0 := by
  simp only [initVersionOf]
  split
  · exact ‹_ ∧ _ ∧ _›.2.1
  · decide

/-- An operation at the start of a send, resumed with an output buffer: the next send writes
its request and yields, or the operation finishes. -/
def resumeReady (address : UInt64) (context : Context) : Resumed :=
  let resumed := resumeRequest address context context.routine
  let sent := if resumed.1 = .reply then context.ghost.sent + 1 else context.ghost.sent
  ⟨withResume context resumed.1 resumed.2.1 sent context.ghost.answered,
    resumed.1 = .reply, resumed.2.2, none⟩

/-- The operation of a host request or of INIT, resumed with an output buffer. -/
def resumeOperationRequest (address : UInt64) (context : Context) : Option Resumed :=
  match context.coroState with
  | .ready => some (resumeReady address context)
  | .reply => none
  | .finished => some ⟨context, false, [], none⟩

/-- An operation at the `coro_yield` of a send, resumed with the response: it finishes when the
response carries an error or no send is left, and yields for its next send otherwise. -/
def resumeReply (support : Support) (context : Context) (response : Buffer)
    (rest : List Send) : Resumed :=
  let finished := Response.error.read response ≠ 0 ∨ rest = []
  let updated := withResume context (if finished then .finished else .ready)
    (if finished then [] else rest) context.ghost.sent (context.ghost.answered + 1)
  let completed := { updated with
    internalResponse := { context.internalResponse with
      status := sendStatus support context response } }
  let initVersion := if context.internalRequest = none ∧ finished then
    some (initVersionOf response) else none
  ⟨completed, !finished, [], initVersion⟩

section ResumeReply

variable {support : Support} {context : Context} {response : Buffer} {rest : List Send}

@[simp]
theorem resumeReply_context : (resumeReply support context response rest).context =
    { withResume context
        (if Response.error.read response ≠ 0 ∨ rest = [] then .finished else .ready)
        (if Response.error.read response ≠ 0 ∨ rest = [] then [] else rest)
        context.ghost.sent (context.ghost.answered + 1) with
      internalResponse := { context.internalResponse with
        status := sendStatus support context response } } := rfl

@[simp]
theorem resumeReply_continues : (resumeReply support context response rest).continues =
    !decide (Response.error.read response ≠ 0 ∨ rest = []) := rfl

@[simp]
theorem resumeReply_initVersion : (resumeReply support context response rest).initVersion =
    if context.internalRequest = none ∧ (Response.error.read response ≠ 0 ∨ rest = []) then
      some (initVersionOf response) else none := rfl

end ResumeReply

/-- The operation of a host request or of INIT, resumed with the response. -/
def resumeOperationResponse (support : Support) (address : UInt64) (context : Context)
    (response : Buffer) : Option Resumed :=
  match context.coroState, context.routine with
  | .reply, _ :: rest => some (resumeReply support context response rest)
  | .reply, [] => some ⟨withResume context .finished [] context.ghost.sent context.ghost.answered,
      false, [], none⟩
  | .ready, routine =>
      match resumeRequest address context routine with
      | (.finished, _, _) => some ⟨withResume context .finished [] context.ghost.sent
          context.ghost.answered, false, [], none⟩
      | _ => none
  | .finished, _ => some ⟨context, false, [], none⟩

/-- Whether a context is one of the driver's own FORGET operations. -/
def isForget (context : Context) : Bool :=
  context.internalRequest = none ∧
    (context.internalResponse.hint = fuseProtoOpcodeForget ∨
      context.internalResponse.hint = fuseProtoOpcodeBatchForget)

/-- Modelled from the spec: a FORGET operation resumed with an output buffer fills one FORGET
or BATCH_FORGET request and does not wait for a reply. -/
def resumeForget (support : Support) (address : UInt64) (context : Context) :
    Option Resumed :=
  let filled := if support.batchForget then some (fuseProtoFillBatchForget address context)
    else fuseProtoFillForget address context
  filled.map fun (writes, rest) =>
    let taken := context.forgetList.take (context.forgetList.length - rest.length)
    let forgotten := context.ghost.forgotten ++ [taken]
    ⟨{ context with
        forgetList := rest
        ghost := { context.ghost with forgotten := forgotten } },
      false, writes, none⟩

/--
Modelled from the spec: `FuseContextProcess`, resumed either with a response or with an
output buffer.  Host requests run their operation; without one, the hint names the driver's
own operation.
-/
def fuseContextProcess (support : Support) (address : UInt64) (context : Context) :
    Option Buffer → Bool → Option Resumed
  | none, true =>
      if isForget context then resumeForget support address context
      else if context.internalRequest.isSome ∨
          context.internalResponse.hint = fuseProtoOpcodeInit then
        resumeOperationRequest address context
      else some ⟨context, false, [], none⟩
  | some response, false =>
      if isForget context then none
      else if context.internalRequest.isSome ∨
          context.internalResponse.hint = fuseProtoOpcodeInit then
        resumeOperationResponse support address context response
      else some ⟨context, false, [], none⟩
  | _, _ => none

/-- Modelled from the spec: the inodes one FORGET operation request forgets, one for FORGET and
`K` for BATCH_FORGET. -/
def forgetBatch (support : Support) : Nat :=
  if support.batchForget then BatchForget.batchForgetCapacity else 1

/-- The context after a FORGET operation forgot the first `forgetBatch` inodes of its list. -/
def forgetAdvance (support : Support) (context : Context) : Context :=
  { context with
    forgetList := context.forgetList.drop (forgetBatch support)
    ghost := { context.ghost with
      forgotten := context.ghost.forgotten ++ [context.forgetList.take (forgetBatch support)] } }

/-! ## What a resume does -/

section Resume

variable {support : Support} {address : UInt64} {context : Context}

/-- `resumeRequest` stops at the first send that writes a request, or runs out of sends. -/
theorem resumeRequest_cases (routine : List Send) :
    ((resumeRequest address context routine).1 = .reply ∧
      ∃ send rest, (resumeRequest address context routine).2.1 = send :: rest ∧
        sendRequest address context send = some (resumeRequest address context routine).2.2) ∨
    resumeRequest address context routine = (.finished, [], []) := by
  induction routine with
  | nil => exact .inr rfl
  | cons send rest ih =>
    unfold resumeRequest
    split
    · exact ih
    · rename_i writes found
      exact .inl ⟨rfl, send, rest, rfl, found⟩

/-- A resume changes only the resume point, the sends left, the forget list, the status of the
internal response and the auxiliary record. -/
theorem fuseContextProcess_frame {response : Option Buffer} {output : Bool} {resumed : Resumed}
    (process : fuseContextProcess support address context response output = some resumed) :
    ∃ coroState routine forgetList status ghost,
      resumed.context = { context with
        coroState := coroState
        routine := routine
        forgetList := forgetList
        internalResponse := { context.internalResponse with status := status }
        ghost := ghost } := by
  unfold fuseContextProcess at process
  split at process
  · split at process
    · simp only [resumeForget, Option.map_eq_some'] at process
      obtain ⟨filled, -, rfl⟩ := process
      exact ⟨_, _, _, _, _, rfl⟩
    · split at process
      · unfold resumeOperationRequest at process
        split at process <;> cases process <;> exact ⟨_, _, _, _, _, rfl⟩
      · cases process
        exact ⟨_, _, _, _, _, rfl⟩
  · split at process
    · cases process
    · split at process
      · unfold resumeOperationResponse at process
        split at process
        · cases process; exact ⟨_, _, _, _, _, rfl⟩
        · cases process; exact ⟨_, _, _, _, _, rfl⟩
        · split at process
          · cases process; exact ⟨_, _, _, _, _, rfl⟩
          · cases process
        · cases process; exact ⟨_, _, _, _, _, rfl⟩
      · cases process
        exact ⟨_, _, _, _, _, rfl⟩
  · cases process

theorem fuseContextProcess_ready (notForget : isForget context = false)
    (operation : context.internalRequest.isSome = true ∨
      context.internalResponse.hint = fuseProtoOpcodeInit)
    (ready : context.coroState = .ready) :
    fuseContextProcess support address context none true =
      some (resumeReady address context) := by
  simp [fuseContextProcess, notForget, operation, resumeOperationRequest, ready]

theorem fuseContextProcess_reply {response : Buffer} {send : Send} {rest : List Send}
    (notForget : isForget context = false)
    (operation : context.internalRequest.isSome = true ∨
      context.internalResponse.hint = fuseProtoOpcodeInit)
    (reply : context.coroState = .reply) (routine : context.routine = send :: rest) :
    fuseContextProcess support address context (some response) false =
      some (resumeReply support context response rest) := by
  simp [fuseContextProcess, notForget, operation, resumeOperationResponse, reply, routine]

/-- A resume with an output buffer that continues wrote the request of a send, and the context
waits for its reply. -/
theorem fuseContextProcess_continues {resumed : Resumed}
    (process : fuseContextProcess support address context none true = some resumed)
    (continues : resumed.continues = true) :
    (∃ send, sendRequest address context send = some resumed.writes) ∧
      resumed.context.coroState = .reply := by
  simp only [fuseContextProcess] at process
  split_ifs at process
  · simp only [resumeForget, Option.map_eq_some'] at process
    obtain ⟨_, _, rfl⟩ := process
    simp at continues
  · unfold resumeOperationRequest at process
    split at process <;> cases process
    · rcases @resumeRequest_cases address context context.routine with
        ⟨reply, send, rest, _, found⟩ | finished
      · exact ⟨⟨send, found⟩, by simp [resumeReady, withResume, reply]⟩
      · simp [resumeReady, finished] at continues
    · simp at continues
  · cases process
    simp at continues

theorem fuseContextProcess_forget (forget : isForget context = true) :
    fuseContextProcess support address context none true =
      resumeForget support address context := by
  simp [fuseContextProcess, forget]

/-- A FORGET operation with inodes left takes the first `forgetBatch` of them, or all. -/
theorem resumeForget_eq (nonempty : context.forgetList ≠ []) :
    ∃ writes, resumeForget support address context =
      some ⟨forgetAdvance support context, false, writes, none⟩ := by
  unfold resumeForget forgetAdvance forgetBatch
  cases batch : support.batchForget
  · obtain ⟨ino, rest, list⟩ := List.exists_cons_of_ne_nil nonempty
    simp [fuseProtoFillForget, fuseCacheForgetNextItem, list]
  · have taken : context.forgetList.length - (context.forgetList.drop
        (min context.forgetList.length BatchForget.batchForgetCapacity)).length =
        min context.forgetList.length BatchForget.batchForgetCapacity := by
      simp only [List.length_drop]; omega
    simp only [if_true, Option.map_some', BatchForget.fuseProtoFillBatchForget_snd, taken]
    refine ⟨(fuseProtoFillBatchForget address context).1, ?_⟩
    rcases le_total context.forgetList.length BatchForget.batchForgetCapacity with short | long
    · simp [min_eq_left short, List.take_of_length_le short, List.drop_of_length_le short]
    · simp [min_eq_right long]

end Resume

end WinFuse.Proto.Routines
