import WinFuse.Proto.Routines

/-!
# The state: IOQ, live contexts and the INIT handshake

A `FUSE_INSTANCE` owns the IOQ (a pending FIFO and a processing map keyed by the contexts'
addresses), the live contexts, and the negotiated version with the `InitEvent` that signals
the end of the INIT exchange.  The IOQ and the context allocator are not among the sources;
they are modelled from the spec's table of IOQ operations and its account of context
ownership.  Each operation here is one atomic step of the interleaving model in `Transact`.

The auxiliary fields at the end record the host-facing history: how many host requests were
admitted, which internal responses went up, which host requests were released, and which
forget lists `FuseCacheDeleteItems` deleted.  No code reads them.
-/

namespace WinFuse.Engine.Instance

open WinFuse.Wire.Bytes
open WinFuse.Wire.Layout
open WinFuse.Proto.OperationContext
open WinFuse.Proto.Routines

/-- The shared state of one mounted volume. -/
structure FuseInstance where
  /-- The live contexts, by address. -/
  contexts : UInt64 → Option Context
  /-- The pending FIFO of the IOQ. -/
  pending : List UInt64
  /-- The keys of the processing map of the IOQ: the addresses of its contexts. -/
  processing : List UInt64
  versionMajor : Nat
  versionMinor : Nat
  initEvent : Bool
  /-- Host requests admitted so far. -/
  admitted : Nat
  /-- The internal responses passed up, with the serial of the host request they answer. -/
  forwarded : List (Nat × InternalResponse)
  /-- The serials of the host requests released. -/
  released : List Nat
  /-- The forget lists `FuseCacheDeleteItems` deleted. -/
  finiDeleted : List (List UInt64)

namespace FuseInstance

/-- Modelled from the spec: `FuseIoqPostPending`, an append at the tail of pending. -/
def fuseIoqPostPending (state : FuseInstance) (address : UInt64) : FuseInstance :=
  { state with pending := state.pending ++ [address] }

/-- Modelled from the spec: `FuseIoqStartProcessing`, an insertion into processing under the
context's address. -/
def fuseIoqStartProcessing (state : FuseInstance) (address : UInt64) : FuseInstance :=
  { state with processing := address :: state.processing }

/-- Modelled from the spec: `FuseIoqEndProcessing`, the removal of the context whose address
is the response's `unique`, or nothing. -/
def fuseIoqEndProcessing (state : FuseInstance) (unique : Nat) : Option UInt64 × FuseInstance :=
  match state.processing.find? (fun address => address.toNat = unique) with
  | some address => (some address, { state with processing := state.processing.erase address })
  | none => (none, state)

/-- The context at an address replaced after a resume. -/
def setContext (state : FuseInstance) (address : UInt64) (context : Context) : FuseInstance :=
  { state with contexts := Function.update state.contexts address (some context) }

/-- Modelled from the spec: `FuseContextDelete`.  The context's `Fini`
(`FuseProtoPostForget_ContextFini`, which deletes its forget list) runs, and the context and
the host request it owns are released. -/
def fuseContextDelete (state : FuseInstance) (address : UInt64) : FuseInstance :=
  match state.contexts address with
  | none => state
  | some context =>
      { state with
        contexts := Function.update state.contexts address none
        released := state.released ++ (context.internalRequest.map (·.serial)).toList
        finiDeleted := state.finiDeleted ++
          (if context.finiDeletesForgetList then [context.forgetList] else []) }

/-- An internal response passed to `FspFsextProviderTransact` for the host request with
`serial`. -/
def forward (state : FuseInstance) (serial : Nat) (response : InternalResponse) : FuseInstance :=
  { state with forwarded := state.forwarded ++ [(serial, response)] }

/-- `FuseFreeExternal` of a host request still held by a call. -/
def freeExternal (state : FuseInstance) (request : Option InternalRequest) : FuseInstance :=
  { state with released := state.released ++ (request.map (·.serial)).toList }

/-- Modelled from the spec: the completion of the INIT exchange sets the negotiated version and
signals `InitEvent`, a notification event that stays signalled. -/
def completeInit (state : FuseInstance) : Option (Nat × Nat) → FuseInstance
  | none => state
  | some version =>
      { state with versionMajor := version.1, versionMinor := version.2, initEvent := true }

theorem fuseContextDelete_of_live {state : FuseInstance} {address : UInt64} {context : Context}
    (live : state.contexts address = some context) :
    state.fuseContextDelete address = { state with
      contexts := Function.update state.contexts address none
      released := state.released ++ (context.internalRequest.map (·.serial)).toList
      finiDeleted := state.finiDeleted ++
        (if context.finiDeletesForgetList then [context.forgetList] else []) } := by
  simp [fuseContextDelete, live]

@[simp]
theorem completeInit_none (state : FuseInstance) : state.completeInit none = state :=
  rfl

@[simp]
theorem freeExternal_none (state : FuseInstance) : state.freeExternal none = state := by
  simp [freeExternal]

/-! ## Contexts the driver creates -/

/-- A context with no scratch, as `FuseContextCreate` makes one for the driver's own
operations. -/
def reservedContext (hint : Nat) (routine : List Send) (forgetList : List UInt64)
    (fini : Bool) : Context where
  coroState := .ready
  routine := routine
  internalRequest := none
  internalResponse := ⟨fspFsctlTransactReservedKind, hint, statusSuccess⟩
  ino := 0
  lookupName := LookupName.empty
  grantedAccess := 0
  origUid := 0
  origGid := 0
  origPid := 0
  forgetList := forgetList
  finiDeletesForgetList := fini
  ghost := ⟨0, 0, forgetList, []⟩

/-- The context of `FuseProtoPostInit`: the INIT operation, hint `FUSE_PROTO_OPCODE_INIT`. -/
def initContext : Context :=
  reservedContext fuseProtoOpcodeInit [.init] [] false

/-- The context of `FuseProtoPostForget`: hint `FUSE_PROTO_OPCODE_FORGET`, `Fini` set, and the
caller's forget list spliced in. -/
def forgetContext (forgetList : List UInt64) : Context :=
  reservedContext fuseProtoOpcodeForget [] forgetList true

/-- Modelled from the spec: `FuseContextCreate` for a host request: the operation of its kind,
the scratch it carries, and an internal response with its `Kind` and `Hint`. -/
def hostContext (support : Support) (request : InternalRequest) : Context where
  coroState := .ready
  routine := support.operation request.kind
  internalRequest := some request
  internalResponse := ⟨request.kind, request.hint, statusSuccess⟩
  ino := request.ino
  lookupName := request.lookupName
  grantedAccess := request.grantedAccess
  origUid := request.origUid
  origGid := request.origGid
  origPid := request.origPid
  forgetList := []
  finiDeletesForgetList := false
  ghost := ⟨0, 0, [], []⟩

/-- `FuseProtoPostForget` once `FuseContextCreate` succeeded at `address`: the context is
posted to pending. -/
def fuseProtoPostForget (state : FuseInstance) (address : UInt64) (forgetList : List UInt64) :
    FuseInstance :=
  fuseIoqPostPending (setContext state address (forgetContext forgetList)) address

/-- The state after `FuseDeviceInit`, whose `FuseProtoPostInit` put the INIT context at
`address` on pending. -/
def initial (address : UInt64) : FuseInstance where
  contexts := Function.update (fun _ => none) address (some initContext)
  pending := [address]
  processing := []
  versionMajor := 0
  versionMinor := 0
  initEvent := false
  admitted := 0
  forwarded := []
  released := []
  finiDeleted := []

end FuseInstance

end WinFuse.Engine.Instance
