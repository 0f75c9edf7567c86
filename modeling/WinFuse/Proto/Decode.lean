import WinFuse.Proto.Encode

/-!
# What the daemon decodes

The daemon reads a request from the buffer the driver hands it.  It reads the `fuse_in_header`,
then the payload its opcode carries: INIT's version and capabilities, the name of a LOOKUP up
to the NUL that ends the request, the `flags` of an OPEN.  `decodeRequest` is that reader,
modelled from the spec's account of the FUSE wire protocol.

`intendedRequest` is the request a send means, in the spec's words.  It has the context's
address as `unique` and the originating process's ids.  For INIT it carries the driver's
protocol version with no read-ahead and no capabilities.  For LOOKUP it carries the name and its
NUL.  For OPEN it carries the POSIX access mode of the rights the open was granted.  Whatever
the buffer held before, the stores of `FuseProtoSendInit`, `FuseProtoSendLookup` and
`FuseProtoSendOpen` decode as exactly the request they mean (`decodeRequest_sent`), one lemma
per send.  The stores of the payload never touch the header, and the `switch` of
`FuseProtoSendOpen`, whose `default` shares the `FILE_READ_DATA` case, gives the access mode of
the rights.  The daemon receives only the bytes of its output buffer: `Bounds` shows that a
request half hands it the whole request when the stores fit there.
-/

namespace WinFuse.Proto.Decode

open WinFuse.Wire.Bytes
open WinFuse.Wire.Layout
open WinFuse.Proto.OperationContext
open WinFuse.Proto.Encode

/-- Modelled from the spec: the payload fields the daemon reads after the header. -/
inductive Payload
  | init (major minor maxReadahead flags : Nat)
  | lookup (name : List UInt8) (terminator : UInt8)
  | «open» (flags : Nat)
  | other
deriving DecidableEq, Repr

/-- A request as the daemon decodes it. -/
structure Decoded where
  header : RequestHeader
  payload : Payload
deriving DecidableEq, Repr

/-- `count` bytes of a buffer from `offset` on. -/
def readBytes (buffer : Buffer) (offset count : Nat) : List UInt8 :=
  (List.range count).map fun index => buffer (offset + index)

/-- Modelled from the spec: the daemon's reader of a payload.  A LOOKUP's name is the bytes
between the header and the last byte of the request, its NUL. -/
def decodePayload (header : RequestHeader) (buffer : Buffer) : Payload :=
  if header.opcode = fuseProtoOpcodeInit then
    .init (Request.initMajor.read buffer) (Request.initMinor.read buffer)
      (Request.initMaxReadahead.read buffer) (Request.initFlags.read buffer)
  else if header.opcode = fuseProtoOpcodeLookup then
    .lookup (readBytes buffer Request.lookupName (header.len - fuseProtoReqSize .lookup - 1))
      (buffer (header.len - 1))
  else if header.opcode = fuseProtoOpcodeOpen then .open (Request.openFlags.read buffer)
  else .other

/-- Modelled from the spec: the daemon's reader of a request. -/
def decodeRequest (buffer : Buffer) : Decoded :=
  ⟨RequestHeader.read buffer, decodePayload (RequestHeader.read buffer) buffer⟩

/-! ## The requests the sends mean -/

/-- The POSIX access mode for the rights an open was granted: `O_RDWR` (2) with both
`FILE_READ_DATA` and `FILE_WRITE_DATA`, `O_WRONLY` (1) with `FILE_WRITE_DATA` alone, and
`O_RDONLY` (0) otherwise. -/
def accessMode (grantedAccess : UInt32) : Nat :=
  if grantedAccess.toNat.testBit 1 then (if grantedAccess.toNat.testBit 0 then 2 else 1) else 0

/-- The header of a request of a context, with the context's address as `unique`. -/
def intendedHeader (address : UInt64) (context : Context) (len opcode nodeid : Nat) :
    RequestHeader :=
  ⟨len, opcode, address.toNat, nodeid, context.origUid.toNat, context.origGid.toNat,
    context.origPid.toNat⟩

/-- The request a send of a context means, for the sends whose payload is written whole. -/
def intendedRequest (address : UInt64) (context : Context) : Send → Option Decoded
  | .init => some ⟨intendedHeader address context (fuseProtoReqSize .init) fuseProtoOpcodeInit 0,
      .init fuseProtoVersion fuseProtoMinorVersion 0 0⟩
  | .lookup => some ⟨intendedHeader address context (lookupRequestLength context)
        fuseProtoOpcodeLookup context.ino.toNat,
      .lookup context.lookupName.bytes 0⟩
  | .open => some ⟨intendedHeader address context (fuseProtoReqSize .open) fuseProtoOpcodeOpen
        context.ino.toNat,
      .open (accessMode context.grantedAccess)⟩
  | _ => none

/-- The `switch` of `FuseProtoSendOpen` gives the access mode of the granted rights: it looks
only at `FILE_READ_DATA` and `FILE_WRITE_DATA`, and its `default` opens read-only. -/
theorem openFlagsOfAccess_eq_accessMode (grantedAccess : UInt32) :
    openFlagsOfAccess grantedAccess = accessMode grantedAccess := by
  have byValue : ∀ x y : UInt32, x = y ↔ x.toNat = y.toNat :=
    fun _ _ => ⟨congrArg _, UInt32.toNat.inj⟩
  have masked : (grantedAccess &&& (fileReadData ||| fileWriteData)).toNat =
      grantedAccess.toNat % 4 := by
    rw [UInt32.and_toNat, show (fileReadData ||| fileWriteData).toNat = 2 ^ 2 - 1 by decide,
      Nat.and_pow_two_sub_one_eq_mod]
  have low : grantedAccess.toNat.testBit 0 = decide (grantedAccess.toNat % 4 % 2 = 1) := by
    rw [Nat.testBit_to_div_mod, Nat.pow_zero, Nat.div_one,
      show grantedAccess.toNat % 2 = grantedAccess.toNat % 4 % 2 by omega]
  have high : grantedAccess.toNat.testBit 1 = decide (grantedAccess.toNat % 4 / 2 = 1) := by
    rw [Nat.testBit_to_div_mod, Nat.pow_one,
      show grantedAccess.toNat / 2 % 2 = grantedAccess.toNat % 4 / 2 by omega]
  simp only [openFlagsOfAccess, accessMode, byValue _ fileWriteData,
    byValue _ (fileReadData ||| fileWriteData), masked, low, high,
    show fileWriteData.toNat = 2 by decide,
    show (fileReadData ||| fileWriteData).toNat = 3 by decide]
  obtain bits | bits | bits | bits : grantedAccess.toNat % 4 = 0 ∨ grantedAccess.toNat % 4 = 1 ∨
      grantedAccess.toNat % 4 = 2 ∨ grantedAccess.toNat % 4 = 3 := by omega
  all_goals rw [bits]; decide

/-! ## Reading the stores back -/

theorem readBytes_apply (bytes : List UInt8) (offset : Nat) (buffer : Buffer) :
    readBytes ((Write.mk offset bytes).apply buffer) offset bytes.length = bytes := by
  refine List.ext_getElem (by simp [readBytes]) fun index inside _ => ?_
  simp only [readBytes, List.length_map, List.length_range] at inside
  simp [readBytes, Write.apply, Write.Covers, Write.limit, inside]

/-- A header written by `FuseProtoInitRequest` and followed by stores past it decodes as the
header the send means, when its fields fit their widths. -/
theorem requestHeader_read_intended (address : UInt64) (context : Context)
    {len opcode nodeid : Nat} {after : List Write}
    (clear : ∀ write ∈ after, 36 ≤ write.offset)
    (lenFits : len < 256 ^ 4) (opcodeFits : opcode < 256 ^ 4) (nodeidFits : nodeid < 256 ^ 8)
    (buffer : Buffer) :
    RequestHeader.read
        (applyAll (fuseProtoInitRequest address context len opcode nodeid ++ after) buffer) =
      intendedHeader address context len opcode nodeid := by
  have header := @requestHeader_read_fuseProtoInitRequest address context len opcode nodeid [] after
    (fun _ below ⟨write, member, lower, _⟩ => by have := clear write member; omega) buffer
  rw [List.nil_append, Nat.mod_eq_of_lt lenFits, Nat.mod_eq_of_lt opcodeFits,
    Nat.mod_eq_of_lt nodeidFits] at header
  exact header

theorem readBytes_apply_of_disjoint {write : Write} {offset count : Nat}
    (outside : ∀ index < count, ¬ write.Covers (offset + index)) (buffer : Buffer) :
    readBytes (write.apply buffer) offset count = readBytes buffer offset count :=
  List.map_congr_left fun index member =>
    Write.apply_of_not_covers (outside index (List.mem_range.1 member)) buffer

/-- A request decodes with the header the send means, and the payload its opcode selects. -/
theorem decodeRequest_fuseProtoInitRequest (address : UInt64) (context : Context)
    {len opcode nodeid : Nat} {after : List Write}
    (clear : ∀ write ∈ after, 36 ≤ write.offset)
    (lenFits : len < 256 ^ 4) (opcodeFits : opcode < 256 ^ 4) (nodeidFits : nodeid < 256 ^ 8)
    (buffer : Buffer) :
    decodeRequest
        (applyAll (fuseProtoInitRequest address context len opcode nodeid ++ after) buffer) =
      ⟨intendedHeader address context len opcode nodeid,
        decodePayload (intendedHeader address context len opcode nodeid)
          (applyAll (fuseProtoInitRequest address context len opcode nodeid ++ after)
            buffer)⟩ := by
  rw [decodeRequest, requestHeader_read_intended address context clear lenFits opcodeFits
    nodeidFits]

/-- A field that one store of the payload writes, and no other, reads as that store's value. -/
theorem read_applyAll_append_of_sole {header payload : List Write} {field : Field} {value : Nat}
    (member : field.store value ∈ payload)
    (others : ∀ write ∈ payload, write ≠ field.store value →
      ∀ index < field.width, ¬ write.Covers (field.offset + index))
    (fits : value < 256 ^ field.width) (buffer : Buffer) :
    field.read (applyAll (header ++ payload) buffer) = value := by
  rw [applyAll_append, Field.read_applyAll_of_sole member others, Nat.mod_eq_of_lt fits]

/-- INIT decodes as the driver's protocol version, with no read-ahead and no capabilities. -/
theorem decodeRequest_sendInit (address : UInt64) (context : Context) (buffer : Buffer) :
    decodeRequest (applyAll (fuseProtoSendInitRequest address context) buffer) =
      ⟨intendedHeader address context (fuseProtoReqSize .init) fuseProtoOpcodeInit 0,
        .init fuseProtoVersion fuseProtoMinorVersion 0 0⟩ := by
  rw [fuseProtoSendInitRequest, decodeRequest_fuseProtoInitRequest address context (by decide)
    (by decide) (by decide) (by decide)]
  simp only [decodePayload, intendedHeader, if_pos, Decoded.mk.injEq, Payload.init.injEq,
    true_and]
  refine ⟨?_, ?_, ?_, ?_⟩ <;>
    exact read_applyAll_append_of_sole (by decide) (by decide) (by decide) buffer

/-- LOOKUP decodes as the name the context holds, ended by its NUL. -/
theorem decodeRequest_sendLookup (address : UInt64) (context : Context) (buffer : Buffer) :
    decodeRequest (applyAll (fuseProtoSendLookupRequest address context) buffer) =
      ⟨intendedHeader address context (lookupRequestLength context) fuseProtoOpcodeLookup
        context.ino.toNat, .lookup context.lookupName.bytes 0⟩ := by
  have short := context.lookupName.length_lt
  have count : lookupRequestLength context - fuseProtoReqSize .lookup - 1 =
      context.lookupName.bytes.length := by simp only [lookupRequestLength]; omega
  have last : lookupRequestLength context - 1 =
      Request.lookupName + context.lookupName.bytes.length := by
    simp [lookupRequestLength, fuseProtoReqSize, fuseProtoReqHeaderSize, Request.lookupName]
  rw [fuseProtoSendLookupRequest, decodeRequest_fuseProtoInitRequest address context
    (by simp [Request.lookupName]; omega)
    (by simp [lookupRequestLength, fuseProtoReqSize, fuseProtoReqHeaderSize]; omega)
    (by decide) context.ino.toNat_lt_size]
  simp only [decodePayload, intendedHeader, fuseProtoOpcodeLookup, fuseProtoOpcodeInit,
    Nat.reduceEqDiff, reduceIte, count, last, applyAll_append, applyAll_cons, applyAll_nil,
    Decoded.mk.injEq, Payload.lookup.injEq, true_and]
  have outside : ∀ index < context.lookupName.bytes.length,
      ¬ (Write.mk (Request.lookupName + context.lookupName.bytes.length) [0]).Covers
        (Request.lookupName + index) := fun index below => by
    simp only [Write.Covers, Write.limit]
    omega
  constructor
  · rw [readBytes_apply_of_disjoint outside, readBytes_apply]
  · simp [Write.apply, Write.Covers, Write.limit]

/-- OPEN decodes as the access mode of the rights the open was granted. -/
theorem decodeRequest_sendOpen (address : UInt64) (context : Context) (buffer : Buffer) :
    decodeRequest (applyAll (fuseProtoSendOpenRequest address context) buffer) =
      ⟨intendedHeader address context (fuseProtoReqSize .open) fuseProtoOpcodeOpen
        context.ino.toNat, .open (accessMode context.grantedAccess)⟩ := by
  have small : openFlagsOfAccess context.grantedAccess < 256 ^ Request.openFlags.width := by
    rw [openFlagsOfAccess_eq_accessMode, accessMode]
    split_ifs <;> decide
  rw [fuseProtoSendOpenRequest, decodeRequest_fuseProtoInitRequest address context
    (by simp [Request.openFlags]) (by decide) (by decide) context.ino.toNat_lt_size]
  simp only [decodePayload, intendedHeader, fuseProtoOpcodeOpen, fuseProtoOpcodeInit,
    fuseProtoOpcodeLookup, Nat.reduceEqDiff, reduceIte, Decoded.mk.injEq, Payload.open.injEq,
    true_and]
  rw [read_applyAll_append_of_sole (List.mem_singleton_self _) (by simp) small,
    openFlagsOfAccess_eq_accessMode]

/-- The stores of a send decode as the request it means, whatever the buffer held. -/
theorem decodeRequest_sent {address : UInt64} {context : Context} {send : Send}
    {writes : List Write} {intended : Decoded}
    (sent : sendRequest address context send = some writes)
    (meant : intendedRequest address context send = some intended) (buffer : Buffer) :
    decodeRequest (applyAll writes buffer) = intended := by
  cases send <;> simp only [sendRequest, intendedRequest, Option.some.injEq, reduceCtorEq]
    at sent meant <;> subst sent meant
  case init => exact decodeRequest_sendInit address context buffer
  case lookup => exact decodeRequest_sendLookup address context buffer
  case «open» => exact decodeRequest_sendOpen address context buffer

end WinFuse.Proto.Decode
