import WinFuse.Engine.Invariants

/-!
# What a transact call reports

`FuseDeviceTransact` sets `Irp->IoStatus.Information` to 0 at the label `request:` and zeroes
the request header of the output buffer.  Every path that reaches the end of the request half
then sets `Information` to the header's `len`; without an output buffer it is 0 (`Reports`).
The other exits come before the end of the request half, and `Information` is still 0 there.
Each of them returns a status that `NT_SUCCESS` rejects, except the exits with no output buffer
or no host request waiting, which return `STATUS_SUCCESS`; the wait's time-out, a status
`NT_SUCCESS` accepts, becomes `STATUS_CANCELLED` (`Settles`).

`Information`, the buffer and the program point belong to the call, and only the call's own
steps change them, so both hold of every call of every reachable state, whatever the
interleaving.  `Bounds` builds on them to bound what a call reports by its output buffer.
-/

namespace WinFuse.Engine.Information

open WinFuse.Wire.Bytes
open WinFuse.Wire.Layout
open WinFuse.Proto.OperationContext
open WinFuse.Proto.Routines
open WinFuse.Engine.Instance
open WinFuse.Engine.Transact
open WinFuse.Engine.Transitions
open WinFuse.Engine.Invariants

theorem len_read_zeroHeader (buffer : Buffer) : Request.len.read (zeroHeader.apply buffer) = 0 := by
  have zeroed : Request.len.read (zeroHeader.apply buffer) =
      Request.len.read (zeroHeader.apply fun _ => 0) :=
    readLittleEndian_congr fun index below => Write.apply_of_covers
      (by simp only [Request.len] at below ⊢; simp [Write.Covers, Write.limit, zeroHeader,
        fuseProtoReqHeaderSize]; omega) _ _
  rw [zeroed]
  decide

theorem ne_statusSuccess {status : NtStatus} (failed : ntSuccess status = false) :
    status ≠ statusSuccess := by
  rintro rfl
  exact absurd failed (by decide)

theorem checkParameters_failure {call : Call} {failure : NtStatus}
    (invalid : checkParameters call = some failure) : ntSuccess failure = false := by
  unfold checkParameters at invalid
  split_ifs at invalid <;> cases invalid <;> decide

/-- A record a call keeps holds of every call of every reachable state when a new call has it and
every step of a call of a reachable state keeps it: new calls and the expiration routine leave
the other calls alone. -/
theorem calls_reachable {support : Support} {keeps : Call → Prop}
    (begins : ∀ inputBufferLength outputBufferLength buffer,
      keeps (Call.begin inputBufferLength outputBufferLength buffer))
    (steps : ∀ {system : System} {choice : Choice} {state' : FuseInstance} {call call' : Call},
      Reachable support system → call ∈ system.calls →
      CallStep support choice system.state call state' call' → keeps call → keeps call')
    {system : System} (reachable : Reachable support system) :
    ∀ call ∈ system.calls, keeps call := by
  induction reachable with
  | initial => simp
  | step reached step ih =>
    cases step with
    | begin =>
      intro call member
      rcases List.mem_append.1 member with old | fresh
      · exact ih call old
      · rw [List.mem_singleton.1 fresh]
        exact begins _ _ _
    | call index inside choice state call stepped =>
      intro member placed
      rcases mem_set_cases placed with rfl | ⟨other, _, found⟩
      · exact steps reached (List.getElem_mem inside) (stepCall_sound stepped)
          (ih _ (List.getElem_mem inside))
      · exact ih _ (List.mem_iff_getElem?.2 ⟨other, found⟩)
    | postForget => exact ih

/-- What `FuseDeviceTransact` keeps of `Information`, the output buffer and its length at each
point of a call: between `request:` and the resume, a zeroed header, `Information` 0 and an
output buffer; before the forward, an output buffer; and after a `STATUS_SUCCESS` return, the
`len` of the header as `Information`, or 0 without an output buffer. -/
def Reports (call : Call) : Prop :=
  match call.pc with
  | .requestVersion | .requestWait | .requestAdmit | .requestResume _ | .requestStatus _ =>
      call.information = 0 ∧ Request.len.read call.buffer = 0 ∧ call.outputBufferLength ≠ 0
  | .requestForward _ => call.outputBufferLength ≠ 0
  | .returned status => status = statusSuccess →
      call.information =
        if call.outputBufferLength = 0 then 0 else Request.len.read call.buffer
  | _ => True

/-- Every step of a call keeps what it reports. -/
theorem reports_callStep {support : Support} {choice : Choice} {state state' : FuseInstance}
    {call call' : Call} (step : CallStep support choice state call state' call')
    (reports : Reports call) : Reports call' := by
  cases step
  case rejected invalid =>
    exact fun same => absurd same (ne_statusSuccess (checkParameters_failure invalid))
  case noResponse | unmatched | matched | responseRepost | responseDelete | responseFinish
      | responseForwarded => trivial
  case responseForwardFailed unsuccessful =>
    exact fun same => absurd same (ne_statusSuccess unsuccessful)
  case requestSkipped empty => exact fun _ => by simp [empty]
  case requestPending nonempty _ | requestIdle nonempty _ =>
    exact ⟨rfl, len_read_zeroHeader _, nonempty⟩
  case versionDenied | waitDenied => exact fun same => absurd same (by decide)
  case waitFailed unsuccessful | admitFailed unsuccessful =>
    exact fun same => absurd same (ne_statusSuccess unsuccessful)
  case requestForward atForward _ _ =>
    simp only [Reports, atForward] at reports
    split
    · exact fun _ => (if_neg reports).symm
    · exact fun same => absurd same
        (ne_statusSuccess (by simpa using ‹¬ntSuccess choice.forwardResult = true›))
  all_goals simp only [Reports, ‹call.pc = _›] at reports
  case versionUnset | versionSet | waitAdmit | admitStatus | admitContext => exact reports
  case admitNone => exact fun _ => by rw [if_neg reports.2.2, reports.2.1]
  case requestStarted | requestReposted | requestDrained | requestAbandoned =>
    exact fun _ => (if_neg reports.2.2).symm
  case requestFinish => exact reports.2.2
  case requestStatus =>
    split
    · exact fun _ => (if_neg reports.2.2).symm
    · exact fun same => absurd same
        (ne_statusSuccess (by simpa using ‹¬ntSuccess choice.forwardResult = true›))

theorem reports_reachable {support : Support} {system : System}
    (reachable : Reachable support system) : ∀ call ∈ system.calls, Reports call :=
  calls_reachable (fun _ _ _ => trivial) (fun _ _ step => reports_callStep step) reachable

/-! ## What a failing call reports -/

/-- What a call keeps of its status and `Information`: until it returns, `Information` is 0,
never set or set so at `request:`; it returns `STATUS_SUCCESS`, or a failure that reports 0. -/
def Settles (call : Call) : Prop :=
  match call.pc with
  | .returned status =>
      status = statusSuccess ∨ (ntSuccess status = false ∧ call.information = 0)
  | _ => call.information = 0

/-- Every step of a call keeps `Settles`: the exits before the end of the request half return a
status that failed, and only the end of the request half sets `Information`. -/
theorem settles_callStep {support : Support} {choice : Choice} {state state' : FuseInstance}
    {call call' : Call} (step : CallStep support choice state call state' call')
    (settles : Settles call) : Settles call' := by
  cases step
  case requestSkipped | admitNone | requestStarted | requestReposted | requestDrained
      | requestAbandoned => exact .inl rfl
  case requestPending | requestIdle => rfl
  case requestForward | requestStatus =>
    simp only [Settles, ‹call.pc = _›] at settles
    split
    · exact .inl rfl
    · exact .inr ⟨by simpa using ‹¬ntSuccess choice.forwardResult = true›, settles⟩
  all_goals simp only [Settles, ‹call.pc = _›] at settles
  case rejected invalid => exact .inr ⟨checkParameters_failure invalid, settles⟩
  case responseForwardFailed unsuccessful | waitFailed unsuccessful | admitFailed unsuccessful =>
    exact .inr ⟨unsuccessful, settles⟩
  case versionDenied | waitDenied => exact .inr ⟨by decide, settles⟩
  all_goals exact settles

theorem settles_reachable {support : Support} {system : System}
    (reachable : Reachable support system) : ∀ call ∈ system.calls, Settles call :=
  @calls_reachable support Settles (fun _ _ _ => rfl) (fun _ _ step => settles_callStep step)
    _ reachable

end WinFuse.Engine.Information
