import WinFuse.Engine.Transact

/-!
# Mounting a volume

`FuseDeviceInit` makes the volume parameters fit for FUSE operations.  It then creates the IOQ
and the cache, installs them in the instance, and posts the INIT context with
`FuseProtoPostInit`.  Each of `FuseIoqCreate`, `FuseCacheCreate` and the `FuseContextCreate` of
`FuseProtoPostInit` may fail, and a failure jumps to `fail:`.  That label deletes the cache and
the IOQ if they were created, and returns the failing status.  The three callees are not among
the sources, so their outcomes are the `InitOutcomes` of a call.

When its callees succeed and `FuseContextCreate` gives a context, a call returns
`STATUS_SUCCESS` with the IOQ and a case-sensitive cache installed and the INIT context alone on
pending: the state every run of the transact model starts from (`fuseDeviceInit_created`,
`reachable_fuseDeviceInit`).
-/

namespace WinFuse.Engine.Mount

open WinFuse.Proto.OperationContext
open WinFuse.Proto.Routines
open WinFuse.Engine.Instance
open WinFuse.Engine.Instance.FuseInstance
open WinFuse.Engine.Transact

/-- The flags of `FSP_FSCTL_VOLUME_PARAMS` that `FuseDeviceInit` sets. -/
structure VolumeParams where
  caseSensitiveSearch : Bool
  casePreservedNames : Bool
  persistentAcls : Bool
  reparsePoints : Bool
  reparsePointsAccessCheck : Bool
  namedStreams : Bool
  readOnlyVolume : Bool
  postCleanupWhenModifiedOnly : Bool
  passQueryDirectoryFileName : Bool
  deviceControl : Bool
  directoryMarkerAsNextOffset : Bool
deriving DecidableEq, Repr

/-- "ensure that VolumeParams can be used for FUSE operations". -/
def forFuseOperations (volumeParams : VolumeParams) : VolumeParams :=
  { volumeParams with
    caseSensitiveSearch := true
    casePreservedNames := true
    persistentAcls := true
    reparsePoints := true
    reparsePointsAccessCheck := false
    namedStreams := false
    readOnlyVolume := false
    postCleanupWhenModifiedOnly := true
    passQueryDirectoryFileName := true
    deviceControl := true
    directoryMarkerAsNextOffset := true }

/-- Modelled from the spec: the outcomes of the callees of `FuseDeviceInit` that are not among
the sources.  `FuseContextCreate` gives a status-only context or a context at a nonzero
address (its `ASSERT(0 != Context)`). -/
structure InitOutcomes where
  ioqCreate : NtStatus
  cacheCreate : NtStatus
  createStatus : Option NtStatus
  address : UInt64
  nonzero : address ≠ 0

/-- The instance's IOQ and contexts as `FuseIoqCreate` leaves them: empty, with no version
negotiated and `InitEvent` not signalled. -/
def empty : FuseInstance where
  contexts := fun _ => none
  pending := []
  processing := []
  versionMajor := 0
  versionMinor := 0
  initEvent := false
  admitted := 0
  forwarded := []
  released := []
  finiDeleted := []

/-- `FuseProtoPostInit`: the status of a status-only context, or the INIT context posted to
pending. -/
def fuseProtoPostInit (state : FuseInstance) (outcomes : InitOutcomes) :
    NtStatus × FuseInstance :=
  match outcomes.createStatus with
  | some status => (status, state)
  | none => (statusSuccess, fuseIoqPostPending (setContext state outcomes.address initContext)
      outcomes.address)

/-- What `FuseDeviceInit` leaves: its result, the volume parameters, whether the IOQ and the
cache it created are still allocated, whether `Instance->Ioq` and `Instance->Cache` were set to
them, the case-insensitivity the cache was created with, and the instance's IOQ and contexts. -/
structure DeviceInit where
  result : NtStatus
  volumeParams : VolumeParams
  ioqLive : Bool
  cacheLive : Bool
  installed : Bool
  cacheCaseInsensitive : Bool
  state : FuseInstance

/-- `FuseDeviceInit`.  The label `fail:` deletes the cache and the IOQ if they were created. -/
def fuseDeviceInit (volumeParams : VolumeParams) (outcomes : InitOutcomes) : DeviceInit :=
  let volumeParams := forFuseOperations volumeParams
  let caseInsensitive := !volumeParams.caseSensitiveSearch
  let fail (installed : Bool) (result : NtStatus) : DeviceInit :=
    ⟨result, volumeParams, false, false, installed, caseInsensitive, empty⟩
  if ntSuccess outcomes.ioqCreate = false then fail false outcomes.ioqCreate
  else if ntSuccess outcomes.cacheCreate = false then fail false outcomes.cacheCreate
  else
    let (posted, state) := fuseProtoPostInit empty outcomes
    if ntSuccess posted = false then fail true posted
    else ⟨statusSuccess, volumeParams, true, true, true, caseInsensitive, state⟩

theorem fuseProtoPostInit_created {outcomes : InitOutcomes}
    (created : outcomes.createStatus = none) :
    fuseProtoPostInit empty outcomes = (statusSuccess, FuseInstance.initial outcomes.address) := by
  simp only [fuseProtoPostInit, created]
  rfl

/-- When every callee succeeds and `FuseContextCreate` gives a context, `FuseDeviceInit` returns
`STATUS_SUCCESS` with the IOQ and a case-sensitive cache installed, and the INIT context alone on
pending. -/
theorem fuseDeviceInit_created (volumeParams : VolumeParams) {outcomes : InitOutcomes}
    (ioqOk : ntSuccess outcomes.ioqCreate = true) (cacheOk : ntSuccess outcomes.cacheCreate = true)
    (created : outcomes.createStatus = none) :
    fuseDeviceInit volumeParams outcomes = ⟨statusSuccess, forFuseOperations volumeParams, true,
      true, true, false, FuseInstance.initial outcomes.address⟩ := by
  have succeeded : ntSuccess statusSuccess = true := by decide
  simp only [fuseDeviceInit, ioqOk, cacheOk, fuseProtoPostInit_created created, succeeded,
    Bool.true_eq_false, if_false]
  rfl

/-- Every run of the transact model may start from what a successful `FuseDeviceInit` leaves
when `FuseContextCreate` gave the INIT context. -/
theorem reachable_fuseDeviceInit (support : Support) (volumeParams : VolumeParams)
    {outcomes : InitOutcomes} (ioqOk : ntSuccess outcomes.ioqCreate = true)
    (cacheOk : ntSuccess outcomes.cacheCreate = true) (created : outcomes.createStatus = none) :
    Reachable support ⟨(fuseDeviceInit volumeParams outcomes).state, []⟩ := by
  rw [fuseDeviceInit_created volumeParams ioqOk cacheOk created]
  exact .initial _ outcomes.nonzero

/-- Volume parameters with every flag clear, as a host might pass them. -/
def clearParams : VolumeParams :=
  ⟨false, false, false, false, false, false, false, false, false, false, false⟩

/-- Outcomes where `FuseIoqCreate`, `FuseCacheCreate` and `FuseContextCreate` succeed, with the
INIT context at address 1. -/
def mountedAtOne : InitOutcomes :=
  ⟨statusSuccess, statusSuccess, none, 1, by decide⟩

end WinFuse.Engine.Mount
