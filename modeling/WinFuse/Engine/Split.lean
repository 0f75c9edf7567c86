import WinFuse.Engine.Transitions

/-!
# One call with both buffers, or two calls

`FuseDeviceTransact` has no loop: every atomic step moves a call to a later point of the
function, so a call run alone returns or sticks within ten steps.  `transact` is such a run,
with the outcomes the environment gives at each point.

A call that carries a response `R` and an output buffer runs the response half and then, from
the label `request:`, the request half.  The response half never reads the output buffer, and
the request half never reads the input, nor the bytes of the system buffer past the header it
zeroes; the header it writes is all the daemon decodes.  So the combined call ends as a call
carrying only `R`, which returns `STATUS_SUCCESS` with nothing written, followed by a call
carrying only the output buffer: the same instance, status, `Information` and request header.
-/

namespace WinFuse.Engine.Split

open WinFuse.Wire.Bytes
open WinFuse.Wire.Layout
open WinFuse.Proto.OperationContext
open WinFuse.Proto.Routines
open WinFuse.Engine.Instance
open WinFuse.Engine.Instance.FuseInstance
open WinFuse.Engine.Transact
open WinFuse.Engine.Transitions

/-! ## A call on its own -/

/-- The atomic steps a call can still take from a point of `FuseDeviceTransact`. -/
def stepsLeft : Pc → Nat
  | .start => 9
  | .responseResume _ => 8
  | .responseForward _ => 7
  | .request => 6
  | .requestVersion => 5
  | .requestWait => 4
  | .requestAdmit => 3
  | .requestResume _ => 2
  | .requestStatus _ => 1
  | .requestForward _ => 1
  | .returned _ => 0

/-- Every step moves a call to a later point. -/
theorem stepCall_stepsLeft {support : Support} {choice : Choice} {state state' : FuseInstance}
    {call call' : Call} (stepped : stepCall support choice state call = some (state', call')) :
    stepsLeft call'.pc < stepsLeft call.pc := by
  cases stepCall_sound stepped <;> first
    | (simp only [stepsLeft, *]; decide)
    | (split <;> simp only [stepsLeft, *] <;> decide)

/-- The call run alone with at most `fuel` steps, each with the outcomes `choose` gives at its
point, until it returns. -/
def finish (support : Support) (choose : Pc → Choice) :
    Nat → FuseInstance → Call → Option (FuseInstance × Call)
  | 0, _, _ => none
  | fuel + 1, state, call =>
      match call.pc with
      | .returned _ => some (state, call)
      | pc => (stepCall support (choose pc) state call).bind fun moved =>
          finish support choose fuel moved.1 moved.2

/-- Any fuel past the steps left gives the same run. -/
theorem finish_eq (support : Support) (choose : Pc → Choice) :
    ∀ (fuel fuel' : Nat) (state : FuseInstance) (call : Call),
      stepsLeft call.pc < fuel → stepsLeft call.pc < fuel' →
      finish support choose fuel state call = finish support choose fuel' state call
  | 0, _, _, _, enough, _ => absurd enough (Nat.not_lt_zero _)
  | _, 0, _, _, _, enough => absurd enough (Nat.not_lt_zero _)
  | fuel + 1, fuel' + 1, state, call, enough, enough' => by
    simp only [finish]
    split
    · rfl
    · cases stepped : stepCall support (choose call.pc) state call with
      | none => rfl
      | some moved =>
        have later := stepCall_stepsLeft stepped
        exact finish_eq support choose fuel fuel' moved.1 moved.2 (by omega) (by omega)

/-- A transact call run alone to its end: it returns, or sticks at a point where it cannot
move. -/
def transact (support : Support) (choose : Pc → Choice) (state : FuseInstance) (call : Call) :
    Option (FuseInstance × Call) :=
  finish support choose (stepsLeft call.pc + 1) state call

theorem transact_returned (support : Support) (choose : Pc → Choice) (state : FuseInstance)
    {call : Call} {result : NtStatus} (returned : call.pc = .returned result) :
    transact support choose state call = some (state, call) := by
  simp [transact, finish, returned]

/-- A call that has not returned takes its next step and goes on from there. -/
theorem transact_step (support : Support) (choose : Pc → Choice) (state : FuseInstance)
    {call : Call} (running : ∀ result, call.pc ≠ .returned result) :
    transact support choose state call =
      (stepCall support (choose call.pc) state call).bind fun moved =>
        transact support choose moved.1 moved.2 := by
  show finish support choose (stepsLeft call.pc + 1) state call = _
  simp only [finish]
  cases stepped : stepCall support (choose call.pc) state call with
  | none => rfl
  | some moved =>
    exact finish_eq support choose _ _ _ _ (by have := stepCall_stepsLeft stepped; omega)
      (Nat.lt_succ_self _)

/-- A run that ends has returned. -/
theorem finish_returned {support : Support} {choose : Pc → Choice} :
    ∀ {fuel : Nat} {state : FuseInstance} {call : Call} {result : FuseInstance × Call},
      finish support choose fuel state call = some result →
        ∃ status, result.2.pc = .returned status
  | 0, _, _, _, ran => by cases ran
  | fuel + 1, state, call, result, ran => by
    simp only [finish] at ran
    split at ran
    · cases ran
      exact ⟨_, ‹_›⟩
    · obtain ⟨moved, _, ran⟩ := Option.bind_eq_some.1 ran
      exact finish_returned ran

/-- With no output buffer, `request:` returns at once. -/
theorem transact_request_empty (support : Support) (choose : Pc → Choice) (state : FuseInstance)
    {call : Call} (atRequest : call.pc = .request) (empty : call.outputBufferLength = 0) :
    transact support choose state call =
      some (state.freeExternal call.internalRequest, { call with
        information := 0, pc := .returned statusSuccess, internalRequest := none }) := by
  rw [transact_step _ _ _ (by simp [atRequest])]
  simp only [stepCall, atRequest, empty, if_true, exitWith, Option.some_bind]
  exact transact_returned _ _ _ rfl

/-- A call that brings no response goes straight to `request:`. -/
theorem transact_noResponse (support : Support) (choose : Pc → Choice) (state : FuseInstance)
    {call : Call} (atStart : call.pc = .start) (empty : call.inputBufferLength = 0)
    (valid : checkParameters call = none) :
    transact support choose state call =
      transact support choose state { call with pc := .request } := by
  rw [transact_step _ _ _ (by simp [atStart])]
  simp [stepCall, atStart, valid, empty]

/-- A call whose response's `unique` names no context in processing goes on to `request:`
with the instance unchanged. -/
theorem transact_unmatched (support : Support) (choose : Pc → Choice) (state : FuseInstance)
    {call : Call} (atStart : call.pc = .start) (nonempty : call.inputBufferLength ≠ 0)
    (valid : checkParameters call = none)
    (unknown : ∀ address ∈ state.processing,
      address.toNat ≠ Response.unique.read call.buffer) :
    transact support choose state call =
      transact support choose state { call with pc := .request } := by
  have ended : state.fuseIoqEndProcessing (Response.unique.read call.buffer) = (none, state) := by
    unfold fuseIoqEndProcessing
    rw [List.find?_eq_none.2 fun address member => by simpa using unknown address member]
  rw [transact_step _ _ _ (by simp [atStart])]
  simp [stepCall, atStart, valid, nonempty, ended]

/-! ## Related options -/

theorem rel_bind_same {α β γ : Type} {relation : β → γ → Prop} (option : Option α)
    {continuation : α → Option β} {continuation' : α → Option γ}
    (related : ∀ value, Option.Rel relation (continuation value) (continuation' value)) :
    Option.Rel relation (option.bind continuation) (option.bind continuation') := by
  cases option
  · exact .none
  · exact related _

theorem rel_bind {α β γ δ : Type} {relation : α → β → Prop}
    {relation' : γ → δ → Prop} {option : Option α} {option' : Option β}
    {continuation : α → Option γ} {continuation' : β → Option δ}
    (related : Option.Rel relation option option')
    (next : ∀ value value', option = some value → relation value value' →
      Option.Rel relation' (continuation value) (continuation' value')) :
    Option.Rel relation' (option.bind continuation) (option'.bind continuation') := by
  cases related with
  | none => exact .none
  | some both => exact next _ _ rfl both

theorem rel_ite {α β : Type} {relation : α → β → Prop} {condition : Prop}
    [Decidable condition] {taken skipped : Option α} {taken' skipped' : Option β}
    (yes : Option.Rel relation taken taken') (no : Option.Rel relation skipped skipped') :
    Option.Rel relation (if condition then taken else skipped)
      (if condition then taken' else skipped') := by
  split
  · exact yes
  · exact no

theorem map_eq_of_rel {α β γ : Type} {relation : α → β → Prop} {option : Option α}
    {option' : Option β} {view : α → γ} {view' : β → γ}
    (related : Option.Rel relation option option')
    (same : ∀ value value', option = some value → relation value value' →
      view value = view' value') :
    option.map view = option'.map view' := by
  cases related with
  | none => rfl
  | some both => exact congrArg some (same _ _ rfl both)

/-! ## Buffers equal on the request header -/

/-- Two buffers hold the same bytes below `bound`. -/
def AgreeBelow (bound : Nat) (buffer other : Buffer) : Prop :=
  ∀ position < bound, buffer position = other position

theorem agreeBelow_applyAll {bound : Nat} {buffer other : Buffer}
    (agree : AgreeBelow bound buffer other) (writes : List Write) :
    AgreeBelow bound (applyAll writes buffer) (applyAll writes other) := fun position below => by
  by_cases written : Written writes position
  · exact applyAll_eq_of_written written buffer other
  · rw [applyAll_of_not_written written, applyAll_of_not_written written]
    exact agree position below

theorem agreeBelow_zeroHeader (buffer other : Buffer) :
    AgreeBelow fuseProtoReqHeaderSize (zeroHeader.apply buffer) (zeroHeader.apply other) :=
  fun _ below => Write.apply_of_covers
    (by simpa [Write.Covers, Write.limit, zeroHeader] using below) buffer other

theorem read_of_agreeBelow {field : Field} {bound : Nat} {buffer other : Buffer}
    (inside : field.offset + field.width ≤ bound) (agree : AgreeBelow bound buffer other) :
    field.read buffer = field.read other :=
  readLittleEndian_congr fun _ below => agree _ (by omega)

/-- The daemon decodes the same request header from buffers equal on it. -/
theorem requestHeader_read_of_agreeBelow {buffer other : Buffer}
    (agree : AgreeBelow fuseProtoReqHeaderSize buffer other) :
    RequestHeader.read buffer = RequestHeader.read other := by
  have read : ∀ field : Field, field.offset + field.width ≤ fuseProtoReqHeaderSize →
      field.read buffer = field.read other := fun _ inside => read_of_agreeBelow inside agree
  simp only [RequestHeader.read, RequestHeader.mk.injEq]
  exact ⟨read _ (by decide), read _ (by decide), read _ (by decide), read _ (by decide),
    read _ (by decide), read _ (by decide), read _ (by decide)⟩

/-! ## The request half reads only the header it writes -/

/-- The points before the label `request:`: the entry and the response half. -/
def responseHalf : Pc → Bool
  | .start | .responseResume _ | .responseForward _ => true
  | _ => false

/-- Two calls at the same point of the request half, equal in all it reads: the output buffer
length, `Information`, the host request held, and, once `request:` has zeroed it, the request
header in the system buffer. -/
structure Agree (call other : Call) : Prop where
  pc : call.pc = other.pc
  outputBufferLength : call.outputBufferLength = other.outputBufferLength
  information : call.information = other.information
  internalRequest : call.internalRequest = other.internalRequest
  header : call.pc ≠ .request → AgreeBelow fuseProtoReqHeaderSize call.buffer other.buffer

/-- Two ends of the request half: the same instance, and calls that agree. -/
structure AgreeAfter (ended ended' : FuseInstance × Call) : Prop where
  state : ended.1 = ended'.1
  call : Agree ended.2 ended'.2

/-- The request half takes the same step from two calls that agree, and they agree after it. -/
theorem stepCall_agree {support : Support} {choice : Choice} {state : FuseInstance}
    {call other : Call} (agree : Agree call other) (late : responseHalf call.pc = false)
    (nonzero : call.outputBufferLength ≠ 0) :
    Option.Rel AgreeAfter (stepCall support choice state call)
      (stepCall support choice state other) := by
  obtain ⟨input, output, buffer, pc, information, request⟩ := call
  obtain ⟨input', output', buffer', pc', information', request'⟩ := other
  obtain ⟨rfl, rfl, rfl, rfl, header⟩ := agree
  replace header : pc ≠ .request → AgreeBelow fuseProtoReqHeaderSize buffer buffer' := header
  replace nonzero : output ≠ 0 := nonzero
  cases pc <;> simp only [responseHalf, reduceCtorEq] at late
  all_goals simp only [stepCall, Option.bind_eq_bind, Option.pure_def]
  case request =>
    rw [if_neg nonzero, if_neg nonzero]
    split <;>
      exact .some ⟨rfl, rfl, rfl, rfl, rfl, fun _ => agreeBelow_zeroHeader buffer buffer'⟩
  case returned => exact .none
  all_goals replace header := header (by simp)
  case requestResume address =>
    refine rel_bind_same _ fun context => rel_bind_same _ fun resumed => ?_
    have written := agreeBelow_applyAll header resumed.writes
    have len := @read_of_agreeBelow Request.len _ _ _ (by decide) written
    repeat' apply rel_ite
    all_goals first
      | exact .some ⟨rfl, rfl, rfl, len, rfl, fun _ => written⟩
      | exact .some ⟨rfl, rfl, rfl, rfl, rfl, fun _ => written⟩
  case requestStatus =>
    have len := @read_of_agreeBelow Request.len _ _ _ (by decide) header
    exact rel_bind_same _ fun _ => rel_ite (.some ⟨rfl, rfl, rfl, len, rfl, fun _ => header⟩)
      (.some ⟨rfl, rfl, rfl, rfl, rfl, fun _ => header⟩)
  case requestForward =>
    have len := @read_of_agreeBelow Request.len _ _ _ (by decide) header
    exact rel_bind_same _ fun _ => rel_bind_same _ fun _ =>
      rel_ite (.some ⟨rfl, rfl, rfl, len, rfl, fun _ => header⟩)
        (.some ⟨rfl, rfl, rfl, rfl, rfl, fun _ => header⟩)
  all_goals
    repeat' split
  all_goals first
    | exact .none
    | exact .some ⟨rfl, rfl, rfl, rfl, rfl, fun _ => header⟩

theorem stepCall_outputBufferLength {support : Support} {choice : Choice}
    {state state' : FuseInstance} {call call' : Call}
    (stepped : stepCall support choice state call = some (state', call')) :
    call'.outputBufferLength = call.outputBufferLength := by
  cases stepCall_sound stepped <;> (try split) <;> rfl

theorem stepCall_late {support : Support} {choice : Choice} {state state' : FuseInstance}
    {call call' : Call} (late : responseHalf call.pc = false)
    (stepped : stepCall support choice state call = some (state', call')) :
    responseHalf call'.pc = false := by
  cases stepCall_sound stepped <;> first
    | rfl
    | (split <;> rfl)
    | (rw [‹call.pc = _›] at late; cases late)

/-- Run to their ends, two calls that agree in the request half end in the same instance, and
agree. -/
theorem finish_agree (support : Support) (choose : Pc → Choice) :
    ∀ (fuel : Nat) (state : FuseInstance) {call other : Call}, Agree call other →
      responseHalf call.pc = false → call.outputBufferLength ≠ 0 →
      Option.Rel AgreeAfter (finish support choose fuel state call)
        (finish support choose fuel state other)
  | 0, _, _, _, _, _, _ => .none
  | fuel + 1, state, call, other, agree, late, nonzero => by
    simp only [finish]
    rw [← agree.pc]
    split
    · exact .some ⟨rfl, agree⟩
    · refine rel_bind (stepCall_agree agree late nonzero)
        fun moved moved' stepped ⟨same, agree'⟩ => ?_
      rw [← same]
      exact finish_agree support choose fuel moved.1 agree' (stepCall_late late stepped)
        (by rwa [stepCall_outputBufferLength stepped])

/-- What a returned call leaves: the instance, the status it returned, `Information`, and the
request header the daemon decodes from the system buffer. -/
def outcome (ended : FuseInstance × Call) : FuseInstance × Pc × Nat × RequestHeader :=
  (ended.1, ended.2.pc, ended.2.information, RequestHeader.read ended.2.buffer)

/-- Two calls that agree in the request half have the same outcome. -/
theorem transact_agree (support : Support) (choose : Pc → Choice) (state : FuseInstance)
    {call other : Call} (agree : Agree call other) (late : responseHalf call.pc = false)
    (nonzero : call.outputBufferLength ≠ 0) :
    (transact support choose state call).map outcome =
      (transact support choose state other).map outcome := by
  unfold transact
  rw [← agree.pc]
  refine map_eq_of_rel (finish_agree support choose _ state agree late nonzero)
    fun ended ended' ran ⟨same, agree'⟩ => ?_
  obtain ⟨status, returned⟩ := finish_returned ran
  have header := agree'.header (by rw [returned]; exact nofun)
  simp only [outcome, same, agree'.pc, agree'.information, requestHeader_read_of_agreeBelow header]

/-! ## The response half never reads the output buffer length -/

/-- Past equal parameter checks, a step of the response half does the same with another output
buffer length, which it keeps. -/
theorem stepCall_withOutput {support : Support} {choice : Choice} {state : FuseInstance}
    {call : Call} {length : Nat} (early : responseHalf call.pc = true)
    (checks : checkParameters { call with outputBufferLength := length } = checkParameters call) :
    stepCall support choice state { call with outputBufferLength := length } =
      (stepCall support choice state call).map fun moved =>
        (moved.1, { moved.2 with outputBufferLength := length }) := by
  obtain ⟨input, output, buffer, pc, information, request⟩ := call
  cases pc <;> simp only [responseHalf, reduceCtorEq] at early
  all_goals simp only [stepCall, Option.bind_eq_bind, Option.pure_def]
  case start =>
    rw [checks]
    repeat' split
    all_goals rfl
  case responseResume address =>
    simp only [Call.fuseResponse]
    cases state.contexts address with
    | none => rfl
    | some context =>
      simp only [Option.some_bind]
      cases fuseContextProcess support address context (if input ≠ 0 then some buffer else none)
        false with
      | none => rfl
      | some resumed =>
        simp only [Option.some_bind]
        split_ifs <;> rfl
  case responseForward address =>
    cases state.contexts address with
    | none => rfl
    | some context =>
      simp only [Option.some_bind]
      cases context.internalRequest with
      | none => rfl
      | some _ =>
        simp only [Option.some_bind]
        split_ifs <;> rfl

/-- With valid parameters and a successful forward, a step of the response half only moves the
call, to another point of the response half or to `request:`. -/
theorem stepCall_responseHalf {support : Support} {choice : Choice} {state state' : FuseInstance}
    {call call' : Call} (early : responseHalf call.pc = true) (valid : checkParameters call = none)
    (forwarded : ∀ address, call.pc = .responseForward address →
      ntSuccess choice.forwardResult = true)
    (stepped : stepCall support choice state call = some (state', call')) :
    ∃ pc, call' = { call with pc := pc } ∧ (pc = .request ∨ responseHalf pc = true) := by
  cases stepCall_sound stepped
  case rejected => cases valid.symm.trans ‹checkParameters call = some _›
  case responseForwardFailed atForward _ _ unsuccessful =>
    cases (forwarded _ atForward).symm.trans unsuccessful
  case noResponse | unmatched | responseRepost | responseDelete | responseForwarded =>
    exact ⟨_, rfl, .inl rfl⟩
  case matched | responseFinish => exact ⟨_, rfl, .inr rfl⟩
  all_goals
    rw [‹call.pc = _›] at early
    cases early

/-- Run alone, a valid call carrying a response first runs the response half, which ends in an
instance (or sticks).  From there, with no output buffer the call returns `STATUS_SUCCESS`
with `Information` 0, and with one it goes on as from `request:`. -/
theorem transact_responseHalf (support : Support) (choose : Pc → Choice)
    (forwarded : ∀ address, ntSuccess (choose (.responseForward address)).forwardResult = true)
    (state : FuseInstance) (call : Call) (early : responseHalf call.pc = true)
    (empty : call.outputBufferLength = 0) (unheld : call.internalRequest = none)
    (valid : checkParameters call = none) :
    ∃ middle : Option FuseInstance,
      transact support choose state call =
        middle.map (fun reached =>
          (reached, { call with information := 0, pc := .returned statusSuccess })) ∧
      ∀ length, checkParameters { call with outputBufferLength := length } = none →
        transact support choose state { call with outputBufferLength := length } =
          middle.bind fun reached => transact support choose reached
            { call with outputBufferLength := length, pc := .request } := by
  have running : ∀ result, call.pc ≠ .returned result := by
    intro result returned
    simp [returned, responseHalf] at early
  rw [transact_step _ _ _ running]
  cases stepped : stepCall support (choose call.pc) state call with
  | none =>
    refine ⟨none, rfl, fun length valid' => ?_⟩
    rw [@transact_step support choose state { call with outputBufferLength := length } running,
      stepCall_withOutput early (valid'.trans valid.symm), stepped]
    rfl
  | some moved =>
    obtain ⟨reached, moved⟩ := moved
    obtain ⟨pc, rfl, next⟩ := stepCall_responseHalf early valid
      (fun address atForward => atForward ▸ forwarded address) stepped
    have withOutput : ∀ length,
        checkParameters { call with outputBufferLength := length } = none →
        transact support choose state { call with outputBufferLength := length } =
          transact support choose reached { call with outputBufferLength := length, pc := pc } := by
      intro length valid'
      rw [@transact_step support choose state { call with outputBufferLength := length } running,
        stepCall_withOutput early (valid'.trans valid.symm), stepped]
      rfl
    rcases next with rfl | early'
    · refine ⟨some reached, ?_, withOutput⟩
      show transact support choose reached { call with pc := .request } = _
      rw [@transact_request_empty support choose reached { call with pc := .request } rfl empty,
        unheld, freeExternal_none]
      rfl
    · obtain ⟨middle, alone, withBuffer⟩ :=
        transact_responseHalf support choose forwarded reached { call with pc := pc } early' empty
          unheld valid
      exact ⟨middle, alone, fun length valid' => (withOutput length valid').trans
        (withBuffer length valid')⟩
termination_by stepsLeft call.pc
decreasing_by exact stepCall_stepsLeft stepped

/-! ## One call or two -/

/-- Run alone, a call carrying a valid response and an output buffer of at least
`FUSE_PROTO_REQ_SIZEMIN` bytes, whose forward of a finished response succeeds, has the outcome of
a call carrying only the response followed by a call carrying only the output buffer.  The
first of these returns `STATUS_SUCCESS` with `Information` 0, and when the response's `unique`
names no context in processing it changes nothing. -/
theorem combined_transact_splits (support : Support) (choose : Pc → Choice)
    (state : FuseInstance) (response output : Buffer) (inputBufferLength outputBufferLength : Nat)
    (valid : fuseProtoRspHeaderSize ≤ Response.len.read response ∧
      Response.len.read response ≤ inputBufferLength)
    (large : fuseProtoReqSizeMin ≤ outputBufferLength)
    (forwarded : ∀ address, ntSuccess (choose (.responseForward address)).forwardResult = true) :
    (transact support choose state
        (Call.begin inputBufferLength outputBufferLength response)).map outcome =
        (transact support choose state (Call.begin inputBufferLength 0 response)).bind
          (fun first => (transact support choose first.1
            (Call.begin 0 outputBufferLength output)).map outcome) ∧
      (∀ first ∈ transact support choose state (Call.begin inputBufferLength 0 response),
        first.2.pc = .returned statusSuccess ∧ first.2.information = 0) ∧
      ((∀ address ∈ state.processing, address.toNat ≠ Response.unique.read response) →
        transact support choose state (Call.begin inputBufferLength 0 response) =
          some (state,
            { Call.begin inputBufferLength 0 response with pc := .returned statusSuccess })) := by
  have minimum : 0 < fuseProtoReqSizeMin := by decide
  have checked : ∀ length, length = 0 ∨ fuseProtoReqSizeMin ≤ length →
      checkParameters (Call.begin inputBufferLength length response) = none := by
    intro length roomy
    simp only [checkParameters, Call.begin]
    rw [if_neg (by omega), if_neg (by omega)]
  have outputOnly : checkParameters (Call.begin 0 outputBufferLength output) = none := by
    simp only [checkParameters, Call.begin]
    rw [if_neg (by omega), if_neg (by omega)]
  obtain ⟨middle, alone, withBuffer⟩ := transact_responseHalf support choose forwarded state
    (Call.begin inputBufferLength 0 response) rfl rfl rfl (checked 0 (.inl rfl))
  refine ⟨?_, ?_, fun unmatched => ?_⟩
  · rw [show Call.begin inputBufferLength outputBufferLength response =
        { Call.begin inputBufferLength 0 response with outputBufferLength := outputBufferLength }
        from rfl, withBuffer outputBufferLength (checked _ (.inr large)), alone, Option.map_bind,
      Option.bind_map]
    congr 1
    funext reached
    simp only [Function.comp_apply]
    rw [transact_noResponse _ _ _ rfl rfl outputOnly]
    exact transact_agree support choose reached
      ⟨rfl, rfl, rfl, rfl, fun away => absurd rfl away⟩ rfl
      (by show outputBufferLength ≠ 0; omega)
  · intro first ran
    rw [alone] at ran
    obtain ⟨reached, _, rfl⟩ := Option.map_eq_some'.1 ran
    exact ⟨rfl, rfl⟩
  · have nonempty : inputBufferLength ≠ 0 := by
      have : 0 < fuseProtoRspHeaderSize := by decide
      omega
    rw [transact_unmatched _ _ _ rfl nonempty (checked 0 (.inl rfl)) unmatched,
      transact_request_empty _ _ _ rfl rfl]
    simp only [Call.begin, freeExternal_none]

/-- While the INIT context is still pending, the INIT reply names no context in processing: the
call carrying it alone changes nothing and returns `STATUS_SUCCESS`. -/
theorem combined_transact_splits_initial :
    (fuseProtoRspHeaderSize ≤ Response.len.read initReply ∧
        Response.len.read initReply ≤ 24) ∧
      fuseProtoReqSizeMin ≤ 8192 ∧
      transact lookupOpen (fun _ => idle) (FuseInstance.initial 1) (Call.begin 24 0 initReply) =
        some (FuseInstance.initial 1,
          { Call.begin 24 0 initReply with pc := .returned statusSuccess }) :=
  ⟨⟨by decide, by decide⟩, by decide,
    (combined_transact_splits lookupOpen (fun _ => idle) (FuseInstance.initial 1) initReply
      zeroBuffer 24 8192 ⟨by decide, by decide⟩ (by decide) (fun _ => rfl)).2.2
      (by simp [FuseInstance.initial])⟩

end WinFuse.Engine.Split
