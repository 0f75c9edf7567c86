import Mathlib.Data.UInt
import Mathlib.Tactic.Ring

/-!
# From FUSE attributes to host file information

`FuseAttrToFileInfo` maps the attributes a daemon reports to the `FSP_FSCTL_FILE_INFO` the
host framework reads.  Its only arithmetic is the allocation size: the file size rounded up to
the allocation unit, `SectorSize * SectorsPerAllocationUnit`, computed in `UINT64` as
`(FileSize + AllocationUnit - 1) / AllocationUnit * AllocationUnit`.

The daemon chooses the size freely.  When `FileSize + AllocationUnit - 1` stays below `2^64`
the result is the rounded-up size; above that the sum wraps and the result is zero, and no
`UINT64` multiple of the unit at or above the size exists in most of that range.
-/

namespace WinFuse.Proto.AttrMap

/-- The part of `FUSE_PROTO_ATTR` the mapping reads. -/
structure FuseProtoAttr where
  ino : UInt64
  size : UInt64
  atime : UInt64
  mtime : UInt64
  ctime : UInt64
  atimensec : UInt32
  mtimensec : UInt32
  ctimensec : UInt32
  mode : UInt32
deriving DecidableEq, Repr

/-- `FSP_FSCTL_FILE_INFO`. -/
structure FileInfo where
  fileAttributes : UInt32
  reparseTag : UInt32
  allocationSize : UInt64
  fileSize : UInt64
  creationTime : UInt64
  lastAccessTime : UInt64
  lastWriteTime : UInt64
  changeTime : UInt64
  indexNumber : UInt64
  hardLinks : UInt32
  eaSize : UInt32
deriving DecidableEq, Repr

/-- The two `FSP_FSCTL_VOLUME_PARAMS` fields the mapping reads. -/
structure VolumeParams where
  sectorSize : UInt16
  sectorsPerAllocationUnit : UInt16
deriving DecidableEq, Repr

/-- Modelled from the spec: `FILE_ATTRIBUTE_DIRECTORY`. -/
def fileAttributeDirectory : UInt32 := 0x10

/-- Modelled from the spec: `FILE_ATTRIBUTE_REPARSE_POINT`. -/
def fileAttributeReparsePoint : UInt32 := 0x400

/-- Modelled from the spec: `IO_REPARSE_TAG_NFS`. -/
def ioReparseTagNfs : UInt32 := 0x80000014

/-- Modelled from the spec: `IO_REPARSE_TAG_SYMLINK`. -/
def ioReparseTagSymlink : UInt32 := 0xA000000C

/-- The `switch (Attr->mode & 0170000)`: file attributes and reparse tag by file type. -/
def attributesOfMode (mode : UInt32) : UInt32 × UInt32 :=
  let format := mode &&& 0o170000
  if format = 0o040000 then (fileAttributeDirectory, 0)
  else if format = 0o010000 ∨ format = 0o020000 ∨ format = 0o060000 ∨ format = 0o140000 then
    (fileAttributeReparsePoint, ioReparseTagNfs)
  else if format = 0o120000 then (fileAttributeReparsePoint, ioReparseTagSymlink)
  else (0, 0)

/-- `AllocationUnit`: `(UINT64)SectorSize * (UINT64)SectorsPerAllocationUnit`. -/
def allocationUnit (volume : VolumeParams) : UInt64 :=
  volume.sectorSize.toUInt64 * volume.sectorsPerAllocationUnit.toUInt64

/-- `FuseAttrToFileInfo`.  `FuseUnixTimeToFileTime` is not among the sources; it is taken as the
parameter `unixTimeToFileTime`. -/
def fuseAttrToFileInfo (unixTimeToFileTime : UInt64 → UInt32 → UInt64)
    (volume : VolumeParams) (attr : FuseProtoAttr) : FileInfo :=
  let unit := allocationUnit volume
  let changeTime := unixTimeToFileTime attr.ctime attr.ctimensec
  { fileAttributes := (attributesOfMode attr.mode).1
    reparseTag := (attributesOfMode attr.mode).2
    fileSize := attr.size
    allocationSize := (attr.size + unit - 1) / unit * unit
    lastAccessTime := unixTimeToFileTime attr.atime attr.atimensec
    lastWriteTime := unixTimeToFileTime attr.mtime attr.mtimensec
    changeTime := changeTime
    creationTime := changeTime
    indexNumber := attr.ino
    hardLinks := 0
    eaSize := 0 }

/-! ## The allocation size -/

theorem toNat_allocationUnit (volume : VolumeParams) :
    (allocationUnit volume).toNat =
      volume.sectorSize.toNat * volume.sectorsPerAllocationUnit.toNat := by
  have product : volume.sectorSize.toNat * volume.sectorsPerAllocationUnit.toNat < 2 ^ 64 :=
    calc volume.sectorSize.toNat * volume.sectorsPerAllocationUnit.toNat
        < 2 ^ 16 * 2 ^ 16 :=
          Nat.mul_lt_mul'' volume.sectorSize.toNat_lt_size
            volume.sectorsPerAllocationUnit.toNat_lt_size
      _ ≤ 2 ^ 64 := by decide
  show (volume.sectorSize.toUInt64.toBitVec * volume.sectorsPerAllocationUnit.toUInt64.toBitVec).toNat = _
  rw [BitVec.toNat_mul]
  exact Nat.mod_eq_of_lt product

/-- The `UINT64` rounding in natural numbers: the wrapped `FileSize + AllocationUnit - 1`,
divided and multiplied back by the unit. -/
theorem toNat_allocationSize (size unit : UInt64) (positive : 0 < unit.toNat) :
    ((size + unit - 1) / unit * unit).toNat =
      (size.toNat + unit.toNat - 1) % 2 ^ 64 / unit.toNat * unit.toNat := by
  have sum : (size + unit - 1).toNat = (size.toNat + unit.toNat - 1) % 2 ^ 64 := by
    show ((size.toBitVec + unit.toBitVec) - 1#64).toNat = _
    rw [BitVec.toNat_sub, BitVec.toNat_add]
    have one : (1#64).toNat = 1 := rfl
    have sizeBits : size.toNat = size.toBitVec.toNat := rfl
    have unitBits : unit.toNat = unit.toBitVec.toNat := rfl
    rw [one]
    omega
  have bound : (size.toNat + unit.toNat - 1) % 2 ^ 64 / unit.toNat * unit.toNat < 2 ^ 64 :=
    lt_of_le_of_lt (Nat.div_mul_le_self _ _) (Nat.mod_lt _ (by decide))
  show ((size + unit - 1).toBitVec / unit.toBitVec * unit.toBitVec).toNat = _
  rw [BitVec.toNat_mul, BitVec.toNat_udiv]
  exact (congrArg (fun value => value / unit.toNat * unit.toNat % 2 ^ 64) sum).trans
    (Nat.mod_eq_of_lt bound)

/-- Rounding up below `2^64`: a multiple of the unit, at least the size, less than a unit
above it. -/
theorem roundUp_bounds {size unit : Nat} (positive : 0 < unit) :
    (size + unit - 1) / unit * unit % unit = 0 ∧
      size ≤ (size + unit - 1) / unit * unit ∧
      (size + unit - 1) / unit * unit < size + unit := by
  have split := Nat.div_add_mod (size + unit - 1) unit
  have below := Nat.mod_lt (size + unit - 1) positive
  rw [Nat.mul_comm] at split
  refine ⟨Nat.mul_mod_left _ _, ?_, ?_⟩ <;> omega

/--
For every size the daemon reports and every volume with nonzero sector parameters,
`FuseAttrToFileInfo` copies the size and makes the allocation size a multiple of the unit.  It
is the size rounded up to the unit when `FileSize + AllocationUnit - 1` fits in `UINT64`, and
zero when that sum wraps.
-/
theorem fuseAttrToFileInfo_allocationSize (unixTimeToFileTime : UInt64 → UInt32 → UInt64)
    (volume : VolumeParams) (attr : FuseProtoAttr)
    (sectorSizePositive : 0 < volume.sectorSize.toNat)
    (sectorsPositive : 0 < volume.sectorsPerAllocationUnit.toNat) :
    let unit := volume.sectorSize.toNat * volume.sectorsPerAllocationUnit.toNat
    let info := fuseAttrToFileInfo unixTimeToFileTime volume attr
    info.fileSize = attr.size ∧ info.allocationSize.toNat % unit = 0 ∧
      (attr.size.toNat + unit ≤ 2 ^ 64 →
        attr.size.toNat ≤ info.allocationSize.toNat ∧
          info.allocationSize.toNat < attr.size.toNat + unit) ∧
      (2 ^ 64 < attr.size.toNat + unit → info.allocationSize = 0) := by
  intro unit info
  have positive : 0 < unit := Nat.mul_pos sectorSizePositive sectorsPositive
  have rounded : info.allocationSize.toNat =
      (attr.size.toNat + unit - 1) % 2 ^ 64 / unit * unit := by
    have unitNat := toNat_allocationUnit volume
    simp only [info, fuseAttrToFileInfo]
    rw [toNat_allocationSize _ _ (unitNat ▸ positive), unitNat]
  refine ⟨rfl, by rw [rounded]; exact Nat.mul_mod_left _ _, fun fits => ?_, fun wraps => ?_⟩
  · have noWrap : (attr.size.toNat + unit - 1) % 2 ^ 64 = attr.size.toNat + unit - 1 :=
      Nat.mod_eq_of_lt (by omega)
    rw [rounded, noWrap]
    exact (roundUp_bounds positive).2
  · have sizeBound : attr.size.toNat < 2 ^ 64 := attr.size.toNat_lt_size
    have unitBound : unit < 2 ^ 64 := by
      have bound := (allocationUnit volume).toNat_lt_size
      rwa [toNat_allocationUnit] at bound
    have wrapped : (attr.size.toNat + unit - 1) % 2 ^ 64 =
        attr.size.toNat + unit - 1 - 2 ^ 64 := by
      rw [Nat.mod_eq_sub_mod (by omega), Nat.mod_eq_of_lt (by omega)]
    apply UInt64.toNat.inj
    rw [rounded, wrapped, Nat.div_eq_of_lt (by omega)]
    simp

/-- A 512-byte-sector volume with 8 sectors per unit and a file of 1000 bytes: the allocation
size is 4096. -/
theorem fuseAttrToFileInfo_allocationSize_sample :
    0 < (VolumeParams.mk 512 8).sectorSize.toNat ∧
      0 < (VolumeParams.mk 512 8).sectorsPerAllocationUnit.toNat ∧
      (fuseAttrToFileInfo (fun _ _ => 0) (VolumeParams.mk 512 8)
        ⟨2, 1000, 0, 0, 0, 0, 0, 0, 0o100644⟩).allocationSize.toNat % (512 * 8) = 0 :=
  ⟨by decide, by decide,
    (fuseAttrToFileInfo_allocationSize (fun _ _ => 0) (VolumeParams.mk 512 8)
      ⟨2, 1000, 0, 0, 0, 0, 0, 0, 0o100644⟩ (by decide) (by decide)).2.1⟩

/-- A daemon that reports a size of `2^64 - 1` on a volume with 4096-byte units gets an
allocation size of zero, below the file size. -/
theorem fuseAttrToFileInfo_allocationSize_wraps :
    let info := fuseAttrToFileInfo (fun _ _ => 0) (VolumeParams.mk 512 8)
      ⟨2, 18446744073709551615, 0, 0, 0, 0, 0, 0, 0o100644⟩
    info.fileSize.toNat = 18446744073709551615 ∧ info.allocationSize.toNat = 0 ∧
      info.allocationSize.toNat < info.fileSize.toNat := by
  decide

end WinFuse.Proto.AttrMap
