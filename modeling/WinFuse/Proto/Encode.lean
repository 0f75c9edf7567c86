import WinFuse.Proto.OperationContext

/-!
# The request encoders of `proto.c`

Every `FuseProtoSend*` routine writes its request before its `coro_yield`, and
`FuseProtoFillForget` and `FuseProtoFillBatchForget` write the requests of the driver's own
FORGET operations.  Each is modelled as the sequence of stores it performs into the request
buffer, in source order, so that what a request holds is `applyAll` of the stores over the
buffer's previous contents.

`FuseProtoFillBatchForget` holds the only loop of the sources.  `batchForgetLoop` is that loop
with the entry pointer `P` as a byte offset: it runs while `EndP > P` and the forget list
yields an inode, and advances `P` by one whole `FUSE_PROTO_FORGET_ONE` per entry.
-/

namespace WinFuse.Proto.Encode

open WinFuse.Wire.Bytes
open WinFuse.Wire.Layout
open WinFuse.Proto.OperationContext

/-- `FuseProtoInitRequest`: the header stores, with the context's address as `unique`. -/
def fuseProtoInitRequest (address : UInt64) (context : Context) (len opcode nodeid : Nat) :
    List Write :=
  [Request.len.store len,
   Request.opcode.store opcode,
   Request.unique.store address.toNat,
   Request.nodeid.store nodeid,
   Request.uid.store context.origUid.toNat,
   Request.gid.store context.origGid.toNat,
   Request.pid.store context.origPid.toNat]

theorem within_fuseProtoInitRequest (address : UInt64) (context : Context)
    (len opcode nodeid : Nat) :
    Within (fuseProtoInitRequest address context len opcode nodeid) 0 36 := by
  simp [fuseProtoInitRequest, Request.len, Request.opcode, Request.unique, Request.nodeid,
    Request.uid, Request.gid, Request.pid]

/-- The header the daemon decodes after `FuseProtoInitRequest`, whatever came before, when the
stores after it keep off the header: `unique` is the context's address. -/
theorem requestHeader_read_fuseProtoInitRequest (address : UInt64) (context : Context)
    (len opcode nodeid : Nat) {before after : List Write}
    (clear : ∀ position < 36, ¬ Written after position) (buffer : Buffer) :
    RequestHeader.read
        (applyAll (before ++ fuseProtoInitRequest address context len opcode nodeid ++ after)
          buffer) =
      { len := len % 256 ^ 4, opcode := opcode % 256 ^ 4, unique := address.toNat,
        nodeid := nodeid % 256 ^ 8, uid := context.origUid.toNat, gid := context.origGid.toNat,
        pid := context.origPid.toNat } := by
  have sole : ∀ field : Field, ∀ value, field.store value ∈
      fuseProtoInitRequest address context len opcode nodeid →
      field.offset + field.width ≤ 36 →
      (∀ other ∈ fuseProtoInitRequest address context len opcode nodeid,
        other ≠ field.store value → ∀ index < field.width, ¬ other.Covers (field.offset + index)) →
      field.read (applyAll (before ++ fuseProtoInitRequest address context len opcode nodeid ++
        after) buffer) = value % 256 ^ field.width := by
    intro field value member inside others
    rw [applyAll_append, Field.read_applyAll_of_disjoint (fun index below =>
        clear _ (by omega)), applyAll_append, Field.read_applyAll_of_sole member others]
  have small : ∀ (value : Nat) (width : Nat), value < 256 ^ width →
      value % 256 ^ width = value := fun _ _ => Nat.mod_eq_of_lt
  simp only [RequestHeader.read, RequestHeader.mk.injEq]
  refine ⟨sole _ _ ?_ ?_ ?_, sole _ _ ?_ ?_ ?_, (sole _ _ ?_ ?_ ?_).trans
      (small _ _ address.toNat_lt_size), sole _ _ ?_ ?_ ?_,
    (sole _ _ ?_ ?_ ?_).trans (small _ _ context.origUid.toNat_lt_size),
    (sole _ _ ?_ ?_ ?_).trans (small _ _ context.origGid.toNat_lt_size),
    (sole _ _ ?_ ?_ ?_).trans (small _ _ context.origPid.toNat_lt_size)⟩
  all_goals first
    | simp [fuseProtoInitRequest]; done
    | decide
    | intro other member different index below
      simp only [fuseProtoInitRequest, List.mem_cons, List.not_mem_nil, or_false] at member
      rcases member with rfl | rfl | rfl | rfl | rfl | rfl | rfl <;>
        first
          | exact absurd rfl different
          | simp only [Field.covers_store, Request.len, Request.opcode, Request.unique,
              Request.nodeid, Request.uid, Request.gid, Request.pid] at below ⊢
            omega

/-- The stores of `FuseProtoSendInit` before its `coro_yield`. -/
def fuseProtoSendInitRequest (address : UInt64) (context : Context) : List Write :=
  fuseProtoInitRequest address context (fuseProtoReqSize .init) fuseProtoOpcodeInit 0 ++
    [Request.initMajor.store fuseProtoVersion,
     Request.initMinor.store fuseProtoMinorVersion,
     Request.initMaxReadahead.store 0,
     Request.initFlags.store 0]

/-- The `len` of a LOOKUP request: the header and the name with its terminating NUL. -/
def lookupRequestLength (context : Context) : Nat :=
  fuseProtoReqSize .lookup + context.lookupName.bytes.length + 1

/-- The stores of `FuseProtoSendLookup` before its `coro_yield`: the header, the name
(`RtlCopyMemory`) and its NUL. -/
def fuseProtoSendLookupRequest (address : UInt64) (context : Context) : List Write :=
  fuseProtoInitRequest address context (lookupRequestLength context) fuseProtoOpcodeLookup
      context.ino.toNat ++
    [⟨Request.lookupName, context.lookupName.bytes⟩,
     ⟨Request.lookupName + context.lookupName.bytes.length, [0]⟩]

/-- The `ASSERT(FUSE_PROTO_REQ_SIZEMIN >= Context->FuseRequest->len)` of
`FuseProtoSendLookup`. -/
def FuseProtoSendLookupAssert (context : Context) : Prop :=
  lookupRequestLength context ≤ fuseProtoReqSizeMin

instance (context : Context) : Decidable (FuseProtoSendLookupAssert context) :=
  inferInstanceAs (Decidable (_ ≤ _))

/-- The stores of `FuseProtoSendGetattr` before its `coro_yield`. -/
def fuseProtoSendGetattrRequest (address : UInt64) (context : Context) : List Write :=
  fuseProtoInitRequest address context (fuseProtoReqSize .getattr) fuseProtoOpcodeGetattr
    context.ino.toNat

/-- Modelled from the spec: `FILE_READ_DATA` of the Windows access mask. -/
def fileReadData : UInt32 := 1

/-- Modelled from the spec: `FILE_WRITE_DATA` of the Windows access mask. -/
def fileWriteData : UInt32 := 2

/-- The `switch` of `FuseProtoSendOpen` from granted access to `O_RDONLY`, `O_WRONLY` or
`O_RDWR`. -/
def openFlagsOfAccess (grantedAccess : UInt32) : Nat :=
  let access := grantedAccess &&& (fileReadData ||| fileWriteData)
  if access = fileWriteData then 1
  else if access = fileReadData ||| fileWriteData then 2
  else 0

/-- The stores of `FuseProtoSendOpen` before its `coro_yield`. -/
def fuseProtoSendOpenRequest (address : UInt64) (context : Context) : List Write :=
  fuseProtoInitRequest address context (fuseProtoReqSize .open) fuseProtoOpcodeOpen
      context.ino.toNat ++
    [Request.openFlags.store (openFlagsOfAccess context.grantedAccess)]

/-- The stores of `FuseProtoSendOpendir` before its `coro_yield`: only the header. -/
def fuseProtoSendOpendirRequest (address : UInt64) (context : Context) : List Write :=
  fuseProtoInitRequest address context (fuseProtoReqSize .open) fuseProtoOpcodeOpendir
    context.ino.toNat

/-- The request a send writes before its `coro_yield`; `FuseProtoSendCreate` writes none, its
block is a bare `coro_break`. -/
def sendRequest (address : UInt64) (context : Context) : Send → Option (List Write)
  | .init => some (fuseProtoSendInitRequest address context)
  | .lookup => some (fuseProtoSendLookupRequest address context)
  | .getattr => some (fuseProtoSendGetattrRequest address context)
  | .create => none
  | .open => some (fuseProtoSendOpenRequest address context)
  | .opendir => some (fuseProtoSendOpendirRequest address context)

/-- A request whose stores after the header keep off it carries the context's address as
`unique`, whatever the buffer held. -/
theorem unique_read_fuseProtoInitRequest (address : UInt64) (context : Context)
    (len opcode nodeid : Nat) {after : List Write} (clear : ∀ write ∈ after, 36 ≤ write.offset)
    (buffer : Buffer) :
    Request.unique.read
      (applyAll (fuseProtoInitRequest address context len opcode nodeid ++ after) buffer) =
        address.toNat := by
  have header := @requestHeader_read_fuseProtoInitRequest address context len opcode nodeid [] after
    (fun position below ⟨write, member, lower, _⟩ => by have := clear write member; omega) buffer
  simpa [RequestHeader.read] using congrArg RequestHeader.unique header

/-- A request whose stores after the header keep off it carries the `len` that
`FuseProtoInitRequest` set, in its 32 bits. -/
theorem len_read_fuseProtoInitRequest (address : UInt64) (context : Context)
    (len opcode nodeid : Nat) {after : List Write} (clear : ∀ write ∈ after, 36 ≤ write.offset)
    (buffer : Buffer) :
    Request.len.read
      (applyAll (fuseProtoInitRequest address context len opcode nodeid ++ after) buffer) =
        len % 256 ^ 4 := by
  have header := @requestHeader_read_fuseProtoInitRequest address context len opcode nodeid [] after
    (fun position below ⟨write, member, lower, _⟩ => by have := clear write member; omega) buffer
  simpa [RequestHeader.read] using congrArg RequestHeader.len header

/-- Every request a send writes is `FuseProtoInitRequest` followed by stores that keep off the
header. -/
theorem sendRequest_eq {address : UInt64} {context : Context} {send : Send}
    {writes : List Write} (sent : sendRequest address context send = some writes) :
    ∃ len opcode nodeid after, (∀ write ∈ after, 36 ≤ write.offset) ∧
      writes = fuseProtoInitRequest address context len opcode nodeid ++ after := by
  cases send <;> simp only [sendRequest, Option.some.injEq, reduceCtorEq] at sent <;> subst sent
  case init =>
    exact ⟨_, _, _, _, by simp [Request.initMajor, Request.initMinor, Request.initMaxReadahead,
      Request.initFlags], rfl⟩
  case lookup => exact ⟨_, _, _, _, by simp [Request.lookupName]; omega, rfl⟩
  case «open» => exact ⟨_, _, _, _, by simp [Request.openFlags], rfl⟩
  all_goals exact ⟨_, _, _, [], by simp, (List.append_nil _).symm⟩

theorem sendRequest_unique {address : UInt64} {context : Context} {send : Send}
    {writes : List Write} (sent : sendRequest address context send = some writes)
    (buffer : Buffer) : Request.unique.read (applyAll writes buffer) = address.toNat := by
  obtain ⟨len, opcode, nodeid, after, clear, rfl⟩ := sendRequest_eq sent
  exact unique_read_fuseProtoInitRequest address context len opcode nodeid clear buffer

/-- A GETATTR of inode 2 for process 42 of user and group 1000. -/
def getattrContext : Context :=
  ⟨.ready, [.getattr], none, ⟨0, 0, 0⟩, 2, .empty, 0, 1000, 1000, 42, [], false, ⟨0, 0, [], []⟩⟩

/-! ## Forget requests -/

/-- Modelled from the spec: `FuseCacheForgetNextItem`, which takes the first item off a forget
list and yields its inode number, and fails on an empty list. -/
def fuseCacheForgetNextItem : List UInt64 → Option (UInt64 × List UInt64)
  | [] => none
  | ino :: rest => some (ino, rest)

/-- `FuseProtoFillForget`: one FORGET of the first inode on the list, and the rest of the
list.  On an empty list `ASSERT(Ok)` fails and `Ino` is never set: `none`. -/
def fuseProtoFillForget (address : UInt64) (context : Context) :
    Option (List Write × List UInt64) :=
  (fuseCacheForgetNextItem context.forgetList).map fun (ino, rest) =>
    (fuseProtoInitRequest address context (fuseProtoReqSize .forget) fuseProtoOpcodeForget
        ino.toNat ++
      [Request.forgetNlookup.store 1],
     rest)

/-- The stores into the `FUSE_PROTO_FORGET_ONE` at `position`. -/
def forgetOne (position : Nat) (ino : UInt64) : List Write :=
  [(Request.forgetOneNodeid position).store ino.toNat,
   (Request.forgetOneNlookup position).store 1]

/--
The loop of `FuseProtoFillBatchForget`, with `P` at byte offset `position` and `EndP` at
`endOffset`: while `EndP > P` and `FuseCacheForgetNextItem` yields an inode, fill the entry at
`P` and advance `P` by one entry.  It returns the stores, the final `P` and the rest of the
list.
-/
def batchForgetLoop (endOffset position : Nat) (list : List UInt64) :
    List Write × Nat × List UInt64 :=
  if endOffset > position then
    match list with
    | [] => ([], position, [])
    | ino :: rest =>
        let next := batchForgetLoop endOffset (position + fuseProtoForgetOneSize) rest
        (forgetOne position ino ++ next.1, next.2)
  else ([], position, list)

/-- `StartP` of `FuseProtoFillBatchForget`, as an offset into the request. -/
def batchForgetStart : Nat :=
  fuseProtoReqSize .batchForget

/-- `EndP` of `FuseProtoFillBatchForget`, as an offset into the request. -/
def batchForgetEnd : Nat :=
  batchForgetStart + (fuseProtoReqSizeMin - fuseProtoReqSize .batchForget)

/-- `FuseProtoFillBatchForget`: the entries, then the header with `len = P - FuseRequest`,
then `count = P - StartP`; and the rest of the list. -/
def fuseProtoFillBatchForget (address : UInt64) (context : Context) :
    List Write × List UInt64 :=
  let loop := batchForgetLoop batchForgetEnd batchForgetStart context.forgetList
  (loop.1 ++
      fuseProtoInitRequest address context loop.2.1 fuseProtoOpcodeBatchForget 0 ++
      [Request.batchForgetCount.store
        ((loop.2.1 - batchForgetStart) / fuseProtoForgetOneSize)],
   loop.2.2)

end WinFuse.Proto.Encode
