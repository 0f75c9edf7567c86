import WinFuse.Wire.Layout

/-!
# Operation contexts

A `FUSE_CONTEXT` carries one operation through its FUSE exchanges: the internal request the
host framework handed down (absent for the driver's own INIT and FORGET operations), the
internal response it will hand back, the resume point of the operation's coroutine, and the
scratch fields the encoders of `proto.c` read (`Ino`, `Lookup.Name`, `Lookup.GrantedAccess`,
`OrigUid`, `OrigGid`, `OrigPid`, `Forget.ForgetList`).

The record keeps the fields the two sources read or write.  `FUSE_CONTEXT` itself is declared
in a header that is not among the sources; the fields below are named as `proto.c` and
`fuse.c` name them.  A context lives at an address, which is also the `unique` of every
request it sends, so the address is not a field: the instance maps addresses to contexts.

`ContextGhost` holds auxiliary state that no code reads.  It records what happened to the
context so far, so that properties of whole runs can be stated as invariants of states.
-/

namespace WinFuse.Proto.OperationContext

/-! ## Status codes -/

/-- An `NTSTATUS`. -/
abbrev NtStatus := UInt32

/-- Modelled from the spec: `STATUS_SUCCESS`. -/
def statusSuccess : NtStatus := 0

/-- Modelled from the spec: `STATUS_TIMEOUT`, a success code. -/
def statusTimeout : NtStatus := 0x00000102

/-- Modelled from the spec: `STATUS_INVALID_PARAMETER`. -/
def statusInvalidParameter : NtStatus := 0xC000000D

/-- Modelled from the spec: `STATUS_ACCESS_DENIED`. -/
def statusAccessDenied : NtStatus := 0xC0000022

/-- Modelled from the spec: `STATUS_BUFFER_TOO_SMALL`. -/
def statusBufferTooSmall : NtStatus := 0xC0000023

/-- Modelled from the spec: `STATUS_THREAD_IS_TERMINATING`. -/
def statusThreadIsTerminating : NtStatus := 0xC000004B

/-- Modelled from the spec: `STATUS_CANCELLED`. -/
def statusCancelled : NtStatus := 0xC0000120

/-- Modelled from the spec: `NT_SUCCESS`, a status whose severity is success or information. -/
def ntSuccess (status : NtStatus) : Bool :=
  status.toNat < 0x80000000

/-! ## Internal requests and responses -/

/-- Modelled from the spec: `FspFsctlTransactReservedKind`, the kind no host request has. -/
def fspFsctlTransactReservedKind : Nat := 0

/-- Modelled from the spec: the name a LOOKUP sends, a counted `STRING` whose `Length` is a
`USHORT`. -/
structure LookupName where
  bytes : List UInt8
  length_lt : bytes.length < 65536
deriving DecidableEq

/-- The empty name. -/
def LookupName.empty : LookupName :=
  ⟨[], by decide⟩

/--
Modelled from the spec: the `FSP_FSCTL_TRANSACT_REQ` the host framework hands down, with the
fields `FuseContextCreate` copies into the context's scratch.  `serial` is auxiliary: the
number of requests admitted before this one, which tells requests apart.
-/
structure InternalRequest where
  kind : Nat
  hint : Nat
  ino : UInt64
  lookupName : LookupName
  grantedAccess : UInt32
  origUid : UInt32
  origGid : UInt32
  origPid : UInt32
  serial : Nat
deriving DecidableEq

/-- The part of an `FSP_FSCTL_TRANSACT_RSP` the two sources set: `Kind`, `Hint` and
`IoStatus.Status`. -/
structure InternalResponse where
  kind : Nat
  hint : Nat
  status : NtStatus
deriving DecidableEq, Repr

/-! ## Coroutines -/

/-- The `FuseProtoSend*` routines of `proto.c` an operation runs in order. -/
inductive Send
  | init
  | lookup
  | getattr
  | create
  | «open»
  | opendir
deriving DecidableEq, Repr

/-- The resume point kept in `Context->CoroState`. -/
inductive CoroState
  /-- At the start of the operation's next send: resumed with an output buffer, it writes a
  request. -/
  | ready
  /-- At the `coro_yield` after a request: resumed with the response to it. -/
  | reply
  /-- Past the operation's last `coro_break`. -/
  | finished
deriving DecidableEq, Repr

/-! ## The context record -/

/-- Auxiliary state of a context: what it did so far.  No code reads it. -/
structure ContextGhost where
  /-- Requests the context emitted that expect a response. -/
  sent : Nat
  /-- Responses the context was resumed with. -/
  answered : Nat
  /-- The forget list as `FuseProtoPostForget` spliced it in. -/
  spliced : List UInt64
  /-- The inode numbers of the FORGET and BATCH_FORGET requests emitted so far, one list per
  request, in emission order. -/
  forgotten : List (List UInt64)
deriving DecidableEq

/-- The fields of `FUSE_CONTEXT` the two sources use. -/
structure Context where
  coroState : CoroState
  /-- Modelled from the spec: the sends of the operation not yet finished, in order (the
  operation routines that call them are not among the sources). -/
  routine : List Send
  internalRequest : Option InternalRequest
  internalResponse : InternalResponse
  ino : UInt64
  lookupName : LookupName
  grantedAccess : UInt32
  origUid : UInt32
  origGid : UInt32
  origPid : UInt32
  forgetList : List UInt64
  /-- `Context->Fini` is `FuseProtoPostForget_ContextFini`. -/
  finiDeletesForgetList : Bool
  ghost : ContextGhost
deriving DecidableEq

end WinFuse.Proto.OperationContext
