import WinFuse.Wire.Bytes

/-!
# The FUSE wire layout the driver writes

`proto.c` and `fuse.c` reach the wire format only through the names of `winfuse/proto.h`
(`FUSE_PROTO_REQ_SIZE(f)`, `FUSE_PROTO_REQ_SIZEMIN`, the opcodes, the fields of
`FUSE_PROTO_REQ` and `FUSE_PROTO_RSP`), and that header is not among the sources.  The spec says
the driver speaks standard FUSE, so every value below is the one of the standard kernel
protocol: the 40-byte `fuse_in_header`, the 16-byte `fuse_out_header`, the request payload
structures that follow the header, and the 8192-byte minimum read buffer.

A field is an offset and a width; a store into a field is a little-endian `Write`, and a read
of a field is `readLittleEndian`, so the round trip of `Bytes` holds for every field.
-/

namespace WinFuse.Wire.Layout

open WinFuse.Wire.Bytes

/-- A field of a wire structure, as an offset from the start of the buffer and a width. -/
structure Field where
  offset : Nat
  width : Nat
deriving DecidableEq, Repr

namespace Field

/-- The C store `buffer->field = value`. -/
def store (field : Field) (value : Nat) : Write :=
  Bytes.field field.offset field.width value

/-- The value a reader of the buffer finds in the field. -/
def read (field : Field) (buffer : Buffer) : Nat :=
  readLittleEndian buffer field.offset field.width

@[simp]
theorem store_offset (field : Field) (value : Nat) : (field.store value).offset = field.offset :=
  rfl

@[simp]
theorem store_limit (field : Field) (value : Nat) :
    (field.store value).limit = field.offset + field.width := by
  simp [store]

@[simp]
theorem covers_store (field : Field) (value position : Nat) :
    (field.store value).Covers position ↔
      field.offset ≤ position ∧ position < field.offset + field.width := by
  simp [store, Write.Covers]

@[simp]
theorem read_store (field : Field) (value : Nat) (buffer : Buffer) :
    field.read ((field.store value).apply buffer) = value % 256 ^ field.width :=
  readLittleEndian_field field.offset field.width value buffer

/-- A field read after a sequence of stores gives the value of its last store, when the stores
after it leave the field alone. -/
theorem read_applyAll_of_last {before after : List Write} {field : Field} {value : Nat}
    (untouched : ∀ index < field.width, ¬ Written after (field.offset + index))
    (buffer : Buffer) :
    field.read (applyAll (before ++ field.store value :: after) buffer) =
      value % 256 ^ field.width := by
  rw [applyAll_append, applyAll_cons, read,
    readLittleEndian_applyAll_of_disjoint untouched]
  exact read_store field value _

/-- A field read after a sequence of stores gives the value of a store of that field, when no
other store of the sequence touches the field. -/
theorem read_applyAll_of_sole {writes : List Write} {field : Field} {value : Nat}
    (member : field.store value ∈ writes)
    (others : ∀ write ∈ writes, write ≠ field.store value →
      ∀ index < field.width, ¬ write.Covers (field.offset + index))
    (buffer : Buffer) :
    field.read (applyAll writes buffer) = value % 256 ^ field.width := by
  induction writes generalizing buffer with
  | nil => simp at member
  | cons write rest ih =>
      have restOthers : ∀ other ∈ rest, other ≠ field.store value →
          ∀ index < field.width, ¬ other.Covers (field.offset + index) :=
        fun other inRest => others other (List.mem_cons_of_mem _ inRest)
      by_cases later : field.store value ∈ rest
      · exact ih later restOthers _
      · have first : write = field.store value := by
          rcases List.mem_cons.1 member with equal | inRest
          · exact equal.symm
          · exact absurd inRest later
        subst first
        have untouched : ∀ index < field.width, ¬ Written rest (field.offset + index) := by
          rintro index below ⟨other, inRest, covers⟩
          exact restOthers other inRest (fun equal => later (equal ▸ inRest)) index below covers
        rw [applyAll_cons, read, readLittleEndian_applyAll_of_disjoint untouched]
        exact read_store field value _

theorem read_applyAll_of_disjoint {writes : List Write} {field : Field}
    (untouched : ∀ index < field.width, ¬ Written writes (field.offset + index))
    (buffer : Buffer) :
    field.read (applyAll writes buffer) = field.read buffer :=
  readLittleEndian_applyAll_of_disjoint untouched buffer

end Field

/-! ## Sizes -/

/-- Modelled from the spec: `FUSE_PROTO_REQ_HEADER_SIZE`, the size of `fuse_in_header`. -/
def fuseProtoReqHeaderSize : Nat := 40

/-- Modelled from the spec: `FUSE_PROTO_RSP_HEADER_SIZE`, the size of `fuse_out_header`. -/
def fuseProtoRspHeaderSize : Nat := 16

/-- Modelled from the spec: `FUSE_PROTO_REQ_SIZEMIN`, the minimum request buffer of standard
FUSE (`FUSE_MIN_READ_BUFFER`). -/
def fuseProtoReqSizeMin : Nat := 8192

/-- The request structures whose size `FUSE_PROTO_REQ_SIZE(f)` names. -/
inductive ReqKind
  | init
  | lookup
  | forget
  | batchForget
  | getattr
  | «open»
deriving DecidableEq, Repr

/-- Modelled from the spec: `FUSE_PROTO_REQ_SIZE(f)`, the header plus the payload structure of
the standard request (`fuse_init_in`, `fuse_forget_in`, `fuse_batch_forget_in`,
`fuse_getattr_in`, `fuse_open_in`; a LOOKUP's name follows the header directly). -/
def fuseProtoReqSize : ReqKind → Nat
  | .init => fuseProtoReqHeaderSize + 16
  | .lookup => fuseProtoReqHeaderSize
  | .forget => fuseProtoReqHeaderSize + 8
  | .batchForget => fuseProtoReqHeaderSize + 8
  | .getattr => fuseProtoReqHeaderSize + 16
  | .open => fuseProtoReqHeaderSize + 8

/-- Modelled from the spec: `sizeof(FUSE_PROTO_FORGET_ONE)`, a `fuse_forget_one`. -/
def fuseProtoForgetOneSize : Nat := 16

/-! ## Opcodes and versions -/

/-- Modelled from the spec: `FUSE_PROTO_OPCODE_LOOKUP` of standard FUSE. -/
def fuseProtoOpcodeLookup : Nat := 1

/-- Modelled from the spec: `FUSE_PROTO_OPCODE_FORGET`. -/
def fuseProtoOpcodeForget : Nat := 2

/-- Modelled from the spec: `FUSE_PROTO_OPCODE_GETATTR`. -/
def fuseProtoOpcodeGetattr : Nat := 3

/-- Modelled from the spec: `FUSE_PROTO_OPCODE_OPEN`. -/
def fuseProtoOpcodeOpen : Nat := 14

/-- Modelled from the spec: `FUSE_PROTO_OPCODE_INIT`. -/
def fuseProtoOpcodeInit : Nat := 26

/-- Modelled from the spec: `FUSE_PROTO_OPCODE_OPENDIR`. -/
def fuseProtoOpcodeOpendir : Nat := 27

/-- Modelled from the spec: `FUSE_PROTO_OPCODE_BATCH_FORGET`. -/
def fuseProtoOpcodeBatchForget : Nat := 42

/-- Modelled from the spec: `FUSE_PROTO_VERSION`, the FUSE kernel protocol major. -/
def fuseProtoVersion : Nat := 7

/-- Modelled from the spec: `FUSE_PROTO_MINOR_VERSION`. -/
def fuseProtoMinorVersion : Nat := 31

/-! ## Request fields -/

namespace Request

/-- Modelled from the spec: `len` of `fuse_in_header`. -/
def len : Field := ⟨0, 4⟩

/-- Modelled from the spec: `opcode` of `fuse_in_header`. -/
def opcode : Field := ⟨4, 4⟩

/-- Modelled from the spec: `unique` of `fuse_in_header`. -/
def unique : Field := ⟨8, 8⟩

/-- Modelled from the spec: `nodeid` of `fuse_in_header`. -/
def nodeid : Field := ⟨16, 8⟩

/-- Modelled from the spec: `uid` of `fuse_in_header`. -/
def uid : Field := ⟨24, 4⟩

/-- Modelled from the spec: `gid` of `fuse_in_header`. -/
def gid : Field := ⟨28, 4⟩

/-- Modelled from the spec: `pid` of `fuse_in_header`; its last four bytes are padding. -/
def pid : Field := ⟨32, 4⟩

/-- Modelled from the spec: `req.init.major` of `fuse_init_in`. -/
def initMajor : Field := ⟨40, 4⟩

/-- Modelled from the spec: `req.init.minor`. -/
def initMinor : Field := ⟨44, 4⟩

/-- Modelled from the spec: `req.init.max_readahead`. -/
def initMaxReadahead : Field := ⟨48, 4⟩

/-- Modelled from the spec: `req.init.flags`. -/
def initFlags : Field := ⟨52, 4⟩

/-- Modelled from the spec: `req.lookup.name`, which follows the header. -/
def lookupName : Nat := 40

/-- Modelled from the spec: `req.forget.nlookup` of `fuse_forget_in`. -/
def forgetNlookup : Field := ⟨40, 8⟩

/-- Modelled from the spec: `req.batch_forget.count`; the four bytes after it are the
structure's `dummy` field, and the entries follow. -/
def batchForgetCount : Field := ⟨40, 4⟩

/-- Modelled from the spec: `req.open.flags` of `fuse_open_in`. -/
def openFlags : Field := ⟨40, 4⟩

/-- Modelled from the spec: `nodeid` of the `FUSE_PROTO_FORGET_ONE` entry at `offset`. -/
def forgetOneNodeid (offset : Nat) : Field := ⟨offset, 8⟩

/-- Modelled from the spec: `nlookup` of the `FUSE_PROTO_FORGET_ONE` entry at `offset`. -/
def forgetOneNlookup (offset : Nat) : Field := ⟨offset + 8, 8⟩

end Request

/-- A request header as the daemon decodes it from the buffer. -/
structure RequestHeader where
  len : Nat
  opcode : Nat
  unique : Nat
  nodeid : Nat
  uid : Nat
  gid : Nat
  pid : Nat
deriving DecidableEq, Repr

/-- Decode the request header of a buffer. -/
def RequestHeader.read (buffer : Buffer) : RequestHeader where
  len := Request.len.read buffer
  opcode := Request.opcode.read buffer
  unique := Request.unique.read buffer
  nodeid := Request.nodeid.read buffer
  uid := Request.uid.read buffer
  gid := Request.gid.read buffer
  pid := Request.pid.read buffer

/-! ## Response fields -/

namespace Response

/-- Modelled from the spec: `len` of `fuse_out_header`. -/
def len : Field := ⟨0, 4⟩

/-- Modelled from the spec: `error` of `fuse_out_header`. -/
def error : Field := ⟨4, 4⟩

/-- Modelled from the spec: `unique` of `fuse_out_header`. -/
def unique : Field := ⟨8, 8⟩

/-- Modelled from the spec: `rsp.init.major` of `fuse_init_out`. -/
def initMajor : Field := ⟨16, 4⟩

/-- Modelled from the spec: `rsp.init.minor` of `fuse_init_out`. -/
def initMinor : Field := ⟨20, 4⟩

end Response

end WinFuse.Wire.Layout
