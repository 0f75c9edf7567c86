import WinFuse.Engine.Lifecycle

/-!
# What a request half hands the daemon

The request half zeroes the first `FUSE_PROTO_REQ_HEADER_SIZE` bytes of the system buffer and
lets the resumed operation write its request over them; `Irp->IoStatus.Information` is the
`len` the request carries.  Two things about those bytes are checked here; `Bounds` shows that a
request that fits its buffer reaches the daemon as the request its send means.

Not every byte below `len` is written.  `FuseProtoSendGetattr` writes only the header, so the
`fuse_getattr_in` after it (`getattr_flags`, `dummy`, `fh`) is whatever the buffer held: the
daemon's own response, or stale pool memory.  Two runs that differ only in the output buffer's
prior contents hand the daemon different GETATTR requests.  Over every send, the bytes below
`len` left so are exactly `unwrittenBytes`: GETATTR's payload, OPENDIR's `fuse_open_in` and
OPEN's `unused`.  INIT and LOOKUP fix every byte.

Not every request stays within `FUSE_PROTO_REQ_SIZEMIN`.  `FuseProtoSendLookup` copies the whole
name and its NUL after the header with no check but a debug `ASSERT`; its stores stay below the
minimum exactly when that `ASSERT` holds.  A name of 8152 bytes gives a request of 8193 bytes
in an output buffer of 8192.
-/

namespace WinFuse.Engine.Emission

open WinFuse.Wire.Bytes
open WinFuse.Wire.Layout
open WinFuse.Proto.OperationContext
open WinFuse.Proto.Encode
open WinFuse.Proto.Routines
open WinFuse.Engine.Instance
open WinFuse.Engine.Instance.FuseInstance
open WinFuse.Engine.Transact
open WinFuse.Engine.Invariants
open WinFuse.Engine.Preservation

/-! ## The request half's first send -/

/-- The request half resuming an operation that is ready, whose next send writes a request:
the request goes over the output buffer, `Information` is its `len`, the context enters
processing and the call returns. -/
theorem stepCall_sends {support : Support} {state : FuseInstance} {call : Call}
    {address : UInt64} {context : Context} {send : Send} {rest : List Send}
    {writes : List Write} (atResume : call.pc = .requestResume address)
    (live : state.contexts address = some context) (ready : context.coroState = .ready)
    (notForget : isForget context = false)
    (operation : context.internalRequest.isSome = true ∨
      context.internalResponse.hint = fuseProtoOpcodeInit)
    (sends : resumeRequest address context context.routine = (.reply, send :: rest, writes))
    (choice : Choice) :
    ∃ state', stepCall support choice state call = some (state',
        { call with
          buffer := applyAll writes call.buffer
          information := Request.len.read (applyAll writes call.buffer)
          pc := .returned statusSuccess
          internalRequest := none }) ∧
      state'.processing = address :: state.processing := by
  have continues : (resumeReady address context).continues = true := by
    simp [resumeReady, sends]
  have written : (resumeReady address context).writes = writes := by
    simp [resumeReady, sends]
  simp only [stepCall, atResume, live, fuseContextProcess_ready notForget operation ready,
    Option.bind_eq_bind, Option.some_bind, continues, written, if_true]
  exact ⟨_, rfl, rfl⟩

/-- The call a daemon worker makes for a request, at the resume of the INIT context, which
`FuseDeviceInit` left on pending. -/
def resumingInit : Call :=
  { Call.begin 0 fuseProtoReqSizeMin zeroBuffer with
    information := 0, buffer := zeroHeader.apply zeroBuffer, pc := .requestResume 1 }

/-! ## Bytes below `len` the request never writes -/

/-- A GETATTR request is 56 bytes long, but its stores and the header's zeroing end at byte 40:
every byte of `fuse_getattr_in` is the buffer's own. -/
theorem fuseProtoSendGetattrRequest_stale (address : UInt64) (context : Context)
    (buffer : Buffer) :
    Request.len.read (applyAll (fuseProtoSendGetattrRequest address context)
        (zeroHeader.apply buffer)) = fuseProtoReqSize .getattr ∧
      ∀ position, fuseProtoReqHeaderSize ≤ position →
        applyAll (fuseProtoSendGetattrRequest address context) (zeroHeader.apply buffer) position =
          buffer position := by
  constructor
  · simpa using @len_read_fuseProtoInitRequest address context (fuseProtoReqSize .getattr)
      fuseProtoOpcodeGetattr context.ino.toNat [] (by simp) (zeroHeader.apply buffer)
  · intro position beyond
    have outside := (within_fuseProtoInitRequest address context (fuseProtoReqSize .getattr)
      fuseProtoOpcodeGetattr context.ino.toNat).not_written (Or.inr (le_trans (by decide) beyond))
    rw [fuseProtoSendGetattrRequest, applyAll_of_not_written outside, Write.apply_of_not_covers]
    simp only [Write.Covers, zeroHeader, Write.limit, List.length_replicate,
      fuseProtoReqHeaderSize] at beyond ⊢
    omega

/-- Modelled from the spec: a driver whose host operations are a single GETATTR. -/
def getattrOnly : Support :=
  ⟨fun _ => statusAccessDenied, fun _ => [.getattr], false⟩

/-- A buffer of `0xFF` bytes. -/
def onesBuffer : Buffer := fun _ => 0xFF

/-- A host request on inode 1. -/
def inodeRequest : InternalRequest :=
  ⟨1, 0, 1, LookupName.empty, 0, 0, 0, 0, 0⟩

/-- Two runs that differ only in what call 2's output buffer held before: zeros, or `0xFF`
bytes.  Call 2 hands the daemon a GETATTR of `len` 56 with the same header in both, and
`getattr_flags` of 0 in one and `0xFF` in the other. -/
theorem getattr_request_stale_bytes :
    ∃ zeroed filled : System,
      Reachable getattrOnly zeroed ∧ Reachable getattrOnly filled ∧
      zeroed.calls[2]?.map (fun call =>
          (call.pc, call.information, RequestHeader.read call.buffer, call.buffer 40)) =
        some (.returned statusSuccess, 56, ⟨56, fuseProtoOpcodeGetattr, 2, 1, 0, 0, 0⟩, 0) ∧
      filled.calls[2]?.map (fun call =>
          (call.pc, call.information, RequestHeader.read call.buffer, call.buffer 40)) =
        some (.returned statusSuccess, 56, ⟨56, fuseProtoOpcodeGetattr, 2, 1, 0, 0, 0⟩, 0xFF) :=
  ⟨_, _,
    @reachable_run getattrOnly _ _ (initExchange ++ admitAtTwo zeroBuffer inodeRequest)
      (.initial 1 (by decide)) rfl,
    @reachable_run getattrOnly _ _ (initExchange ++ admitAtTwo onesBuffer inodeRequest)
      (.initial 1 (by decide)) rfl,
    by decide, by decide⟩

/-! ## Which bytes below `len` the driver fixes -/

/-- The payload bytes below a request's `len` that its send does not store: for GETATTR the
whole `fuse_getattr_in` (`getattr_flags`, `dummy`, `fh`), for OPEN the `unused` of
`fuse_open_in`, and for OPENDIR the whole `fuse_open_in`. -/
def unwrittenBytes : Send → List Nat
  | .getattr => List.range' 40 16
  | .open => List.range' 44 4
  | .opendir => List.range' 40 8
  | .init | .lookup | .create => []

/-- `FuseProtoInitRequest` stores the first 36 bytes of the header, and no others. -/
theorem written_fuseProtoInitRequest_iff (address : UInt64) (context : Context)
    (len opcode nodeid position : Nat) :
    Written (fuseProtoInitRequest address context len opcode nodeid) position ↔
      position < 36 := by
  simp only [fuseProtoInitRequest, written_cons, written_nil, Field.covers_store, Request.len,
    Request.opcode, Request.unique, Request.nodeid, Request.uid, Request.gid, Request.pid,
    or_false]
  omega

theorem zeroHeader_covers_iff (position : Nat) :
    zeroHeader.Covers position ↔ position < fuseProtoReqHeaderSize := by
  simp [zeroHeader, Write.Covers, Write.limit]

theorem len_read_fuseProtoInitRequest_alone (address : UInt64) (context : Context)
    (len opcode nodeid : Nat) (buffer : Buffer) :
    Request.len.read (applyAll (fuseProtoInitRequest address context len opcode nodeid) buffer) =
      len % 256 ^ 4 := by
  simpa using @len_read_fuseProtoInitRequest address context len opcode nodeid [] (by simp) buffer

/-- Below the `len` of the request a send writes over the zeroed header, a byte the daemon
reads is fixed by the driver exactly when it is not one of `unwrittenBytes`: the others keep
what the output buffer held before, whatever that was.  INIT and LOOKUP fix every byte. -/
theorem request_half_fixes_bytes_iff {address : UInt64} {context : Context} {send : Send}
    {writes : List Write} (sent : sendRequest address context send = some writes)
    (buffer : Buffer) {position : Nat}
    (inside : position < Request.len.read (applyAll writes (zeroHeader.apply buffer))) :
    (∀ prior other : Buffer, applyAll writes (zeroHeader.apply prior) position =
        applyAll writes (zeroHeader.apply other) position) ↔
      position ∉ unwrittenBytes send := by
  have short := context.lookupName.length_lt
  simp only [← applyAll_cons]
  rw [applyAll_independent_iff, written_cons, zeroHeader_covers_iff]
  cases send <;> simp only [sendRequest, Option.some.injEq, reduceCtorEq] at sent <;> subst sent
  case init =>
    rw [fuseProtoSendInitRequest, len_read_fuseProtoInitRequest _ _ _ _ _ (by decide)] at inside
    simp only [fuseProtoSendInitRequest, written_append, written_fuseProtoInitRequest_iff,
      written_cons, written_nil, Field.covers_store, Request.initMajor, Request.initMinor,
      Request.initMaxReadahead, Request.initFlags, unwrittenBytes, List.not_mem_nil,
      not_false_eq_true, iff_true, or_false]
    simp only [fuseProtoReqSize, fuseProtoReqHeaderSize] at inside ⊢
    omega
  case lookup =>
    rw [fuseProtoSendLookupRequest, len_read_fuseProtoInitRequest _ _ _ _ _
      (by simp [Request.lookupName]; omega), Nat.mod_eq_of_lt
      (by simp [lookupRequestLength, fuseProtoReqSize, fuseProtoReqHeaderSize]; omega)] at inside
    simp only [fuseProtoSendLookupRequest, written_append, written_fuseProtoInitRequest_iff,
      written_cons, written_nil, Write.Covers, Write.limit, List.length_singleton,
      Request.lookupName, unwrittenBytes, List.not_mem_nil, not_false_eq_true, iff_true,
      or_false]
    simp only [lookupRequestLength, fuseProtoReqSize, fuseProtoReqHeaderSize] at inside ⊢
    omega
  case getattr =>
    rw [fuseProtoSendGetattrRequest, len_read_fuseProtoInitRequest_alone] at inside
    simp only [fuseProtoSendGetattrRequest, written_fuseProtoInitRequest_iff, unwrittenBytes,
      List.mem_range'_1]
    simp only [fuseProtoReqSize, fuseProtoReqHeaderSize] at inside ⊢
    omega
  case «open» =>
    rw [fuseProtoSendOpenRequest,
      len_read_fuseProtoInitRequest _ _ _ _ _ (by simp [Request.openFlags])] at inside
    simp only [fuseProtoSendOpenRequest, written_append, written_fuseProtoInitRequest_iff,
      written_cons, written_nil, Field.covers_store, Request.openFlags, unwrittenBytes,
      List.mem_range'_1, or_false]
    simp only [fuseProtoReqSize, fuseProtoReqHeaderSize] at inside ⊢
    omega
  case opendir =>
    rw [fuseProtoSendOpendirRequest, len_read_fuseProtoInitRequest_alone] at inside
    simp only [fuseProtoSendOpendirRequest, written_fuseProtoInitRequest_iff, unwrittenBytes,
      List.mem_range'_1]
    simp only [fuseProtoReqSize, fuseProtoReqHeaderSize] at inside ⊢
    omega

/-- The OPENDIR of inode 2 reaches the daemon with its `flags` as the buffer held them. -/
theorem request_half_fixes_bytes_iff_opendir :
    40 < Request.len.read
        (applyAll (fuseProtoSendOpendirRequest 8 getattrContext) (zeroHeader.apply zeroBuffer)) ∧
      ((∀ prior other : Buffer,
        applyAll (fuseProtoSendOpendirRequest 8 getattrContext) (zeroHeader.apply prior) 40 =
          applyAll (fuseProtoSendOpendirRequest 8 getattrContext) (zeroHeader.apply other) 40) ↔
        40 ∉ unwrittenBytes .opendir) :=
  have inside : 40 < Request.len.read
      (applyAll (fuseProtoSendOpendirRequest 8 getattrContext) (zeroHeader.apply zeroBuffer)) := by
    rw [fuseProtoSendOpendirRequest, len_read_fuseProtoInitRequest_alone]
    decide
  ⟨inside, request_half_fixes_bytes_iff
    (rfl : sendRequest 8 getattrContext .opendir = _) _ inside⟩

/-! ## Stores past `FUSE_PROTO_REQ_SIZEMIN` -/

theorem fuseProtoSendLookupRequest_len (address : UInt64) (context : Context) (buffer : Buffer) :
    Request.len.read (applyAll (fuseProtoSendLookupRequest address context) buffer) =
      lookupRequestLength context % 256 ^ 4 :=
  len_read_fuseProtoInitRequest address context _ _ _
    (by simp [Request.lookupName]; omega) buffer

/-- The stores of `FuseProtoSendLookup` stay below `FUSE_PROTO_REQ_SIZEMIN` exactly when its
`ASSERT` holds. -/
theorem fuseProtoSendLookupRequest_within_iff (address : UInt64) (context : Context) :
    Within (fuseProtoSendLookupRequest address context) 0 fuseProtoReqSizeMin ↔
      FuseProtoSendLookupAssert context := by
  have header := within_fuseProtoInitRequest address context (lookupRequestLength context)
    fuseProtoOpcodeLookup context.ino.toNat
  simp only [fuseProtoSendLookupRequest, within_append, within_cons, within_nil, and_true,
    FuseProtoSendLookupAssert, lookupRequestLength, Write.limit, List.length_singleton,
    Request.lookupName, fuseProtoReqSize, fuseProtoReqHeaderSize, fuseProtoReqSizeMin]
  constructor
  · rintro ⟨-, -, -, nul⟩
    omega
  · intro fits
    exact ⟨header.mono (le_refl _) (by decide), ⟨Nat.zero_le _, by omega⟩, Nat.zero_le _,
      by omega⟩

/-- A name of 8152 bytes. -/
def longName : LookupName :=
  ⟨List.replicate 8152 0x61, by rw [List.length_replicate]; decide⟩

theorem longName_length : longName.bytes.length = 8152 :=
  List.length_replicate _ _

/-- A host request on inode 1 whose LOOKUP carries `longName`. -/
def longLookup : InternalRequest :=
  ⟨1, 0, 1, longName, 0, 0, 0, 0, 0⟩

/-- INIT completes, then call 2, whose output buffer is exactly `FUSE_PROTO_REQ_SIZEMIN` long,
admits `longLookup`, whose context goes to 2, and is about to resume it. -/
def overflowScript : List Action :=
  initExchange ++ (admitAtTwo zeroBuffer longLookup).dropLast

/-- A reachable state where call 2, with an output buffer of `FUSE_PROTO_REQ_SIZEMIN` bytes, is
about to resume the LOOKUP of a context whose name is 8152 bytes long: the `ASSERT` of
`FuseProtoSendLookup` fails, a store lands past the buffer, and the call returns an
`Information` of 8193. -/
theorem lookup_request_overflows :
    ∃ system next : System, ∃ context call,
      Reachable lookupOpen system ∧ Step lookupOpen system next ∧
      system.state.contexts 2 = some context ∧ ¬ FuseProtoSendLookupAssert context ∧
      ¬ Within (fuseProtoSendLookupRequest 2 context) 0 fuseProtoReqSizeMin ∧
      system.calls[2]? = some call ∧ call.pc = .requestResume 2 ∧
      call.outputBufferLength = fuseProtoReqSizeMin ∧
      next.calls[2]? = some { call with
        buffer := applyAll (fuseProtoSendLookupRequest 2 context) call.buffer
        information := 8193
        pc := .returned statusSuccess
        internalRequest := none } := by
  obtain ⟨system, ran⟩ : ∃ system,
      run lookupOpen ⟨FuseInstance.initial 1, []⟩ overflowScript = some system := ⟨_, rfl⟩
  have resumeAt : system.calls[2]?.map (fun call => (call.pc, call.outputBufferLength)) =
      some (.requestResume 2, fuseProtoReqSizeMin) := by
    have evaluated : (run lookupOpen ⟨FuseInstance.initial 1, []⟩ overflowScript).map
        (fun system => system.calls[2]?.map fun call => (call.pc, call.outputBufferLength)) =
        some (some (.requestResume 2, fuseProtoReqSizeMin)) := by decide
    simpa [ran] using evaluated
  have live : system.state.contexts 2 =
      some (hostContext lookupOpen { longLookup with serial := 0 }) := by
    have evaluated : (run lookupOpen ⟨FuseInstance.initial 1, []⟩ overflowScript).map
        (fun system => system.state.contexts 2) =
        some (some (hostContext lookupOpen { longLookup with serial := 0 })) := rfl
    simpa [ran] using evaluated
  obtain ⟨call, found, atResume, minimal⟩ : ∃ call, system.calls[2]? = some call ∧
      call.pc = .requestResume 2 ∧ call.outputBufferLength = fuseProtoReqSizeMin := by
    cases found : system.calls[2]? with
    | none => simp [found] at resumeAt
    | some call =>
      simp only [found, Option.map_some', Option.some.injEq, Prod.mk.injEq] at resumeAt
      exact ⟨call, rfl, resumeAt⟩
  have length : lookupRequestLength (hostContext lookupOpen { longLookup with serial := 0 }) =
      8193 := by
    have named : (hostContext lookupOpen { longLookup with serial := 0 }).lookupName =
        longName := rfl
    rw [lookupRequestLength, named, longName_length]
    rfl
  have tooLong : ¬ FuseProtoSendLookupAssert
      (hostContext lookupOpen { longLookup with serial := 0 }) := by
    unfold FuseProtoSendLookupAssert
    rw [length]
    decide
  obtain ⟨inside, atIndex⟩ := List.getElem?_eq_some_iff.1 found
  obtain ⟨state', stepped, -⟩ := @stepCall_sends lookupOpen system.state call 2 _ .lookup [.open]
    _ atResume live rfl rfl (.inl rfl) rfl idle
  refine ⟨system, _, _, call, reachable_run (.initial 1 (by decide)) ran,
    .call system 2 inside idle _ _ (atIndex ▸ stepped), live, tooLong,
    mt (fuseProtoSendLookupRequest_within_iff 2 _).1 tooLong, found, atResume, minimal, ?_⟩
  rw [List.getElem?_set_self inside, fuseProtoSendLookupRequest_len, length,
    Nat.mod_eq_of_lt (by decide : 8193 < 256 ^ 4), atIndex]

end WinFuse.Engine.Emission
