import WinFuse.Proto.Routines

/-!
# FORGET requests as the daemon reads them

A FORGET operation of the driver's own fills one request per resume: a FORGET of the first
inode on its list, or a BATCH_FORGET of as many as fit.  `forgetPairs` is what the daemon reads
from such a request, the `(nodeid, nlookup)` of each inode it forgets.  Every resume of a
FORGET operation writes one request of its opcode, holding exactly the inodes `forgetAdvance`
takes off the list, in list order, each with `nlookup = 1`.
-/

namespace WinFuse.Proto.Forget

open WinFuse.Wire.Bytes
open WinFuse.Wire.Layout
open WinFuse.Proto.OperationContext
open WinFuse.Proto.Encode
open WinFuse.Proto.BatchForget
open WinFuse.Proto.Routines

/-- Modelled from the spec: the `(nodeid, nlookup)` pairs the daemon reads from a FORGET
(`fuse_forget_in` after the header) or a BATCH_FORGET (`count` entries `fuse_forget_one`), and
none from another request. -/
def forgetPairs (request : Buffer) : List (Nat × Nat) :=
  if Request.opcode.read request = fuseProtoOpcodeForget then
    [(Request.nodeid.read request, Request.forgetNlookup.read request)]
  else if Request.opcode.read request = fuseProtoOpcodeBatchForget then
    (List.range (Request.batchForgetCount.read request)).map fun index =>
      ((Request.forgetOneNodeid (batchForgetStart + fuseProtoForgetOneSize * index)).read request,
        (Request.forgetOneNlookup (batchForgetStart + fuseProtoForgetOneSize * index)).read
          request)
  else []

/-- The opcode of the requests a FORGET operation fills. -/
def forgetOpcode (support : Support) : Nat :=
  if support.batchForget then fuseProtoOpcodeBatchForget else fuseProtoOpcodeForget

section Fill

variable (address : UInt64) (context : Context)

/-- A FORGET of the first inode: opcode FORGET, its inode, `nlookup = 1`. -/
theorem forgetPairs_fuseProtoFillForget {ino : UInt64} {rest : List UInt64}
    (list : context.forgetList = ino :: rest) (buffer : Buffer) :
    ∃ writes, fuseProtoFillForget address context = some (writes, rest) ∧
      Request.opcode.read (applyAll writes buffer) = fuseProtoOpcodeForget ∧
      forgetPairs (applyAll writes buffer) = [(ino.toNat, 1)] := by
  have header := @requestHeader_read_fuseProtoInitRequest address context
    (fuseProtoReqSize .forget) fuseProtoOpcodeForget ino.toNat [] [Request.forgetNlookup.store 1]
    (fun position below => by simp [Write.Covers, Request.forgetNlookup]; omega) buffer
  have nlookup := @Field.read_applyAll_of_last
    (fuseProtoInitRequest address context (fuseProtoReqSize .forget) fuseProtoOpcodeForget
      ino.toNat) [] Request.forgetNlookup 1 (by simp) buffer
  simp only [List.nil_append, RequestHeader.read, RequestHeader.mk.injEq] at header
  have opcode : Request.opcode.read (applyAll (fuseProtoInitRequest address context
      (fuseProtoReqSize .forget) fuseProtoOpcodeForget ino.toNat ++
        [Request.forgetNlookup.store 1]) buffer) = fuseProtoOpcodeForget :=
    header.2.1.trans (by decide)
  refine ⟨_, by simp [fuseProtoFillForget, fuseCacheForgetNextItem, list], opcode, ?_⟩
  rw [forgetPairs, if_pos opcode, header.2.2.2.1,
    Nat.mod_eq_of_lt (show ino.toNat < 256 ^ 8 from ino.toNat_lt_size), nlookup]
  rfl

/-- A BATCH_FORGET: opcode BATCH_FORGET and the inodes it takes, in list order, each with
`nlookup = 1`. -/
theorem forgetPairs_fuseProtoFillBatchForget (buffer : Buffer) :
    Request.opcode.read (applyAll (fuseProtoFillBatchForget address context).1 buffer) =
        fuseProtoOpcodeBatchForget ∧
      forgetPairs (applyAll (fuseProtoFillBatchForget address context).1 buffer) =
        (context.forgetList.take batchForgetCapacity).map fun ino => (ino.toNat, 1) := by
  have opcode := congrArg RequestHeader.opcode
    (fuseProtoFillBatchForget_header_read address context buffer)
  simp only [RequestHeader.read] at opcode
  refine ⟨opcode, ?_⟩
  rw [forgetPairs, if_neg (by rw [opcode]; decide), if_pos opcode,
    fuseProtoFillBatchForget_count_read]
  apply List.ext_getElem (by simp [Nat.min_comm])
  intro index inRange _
  have inside : index < min context.forgetList.length batchForgetCapacity := by simpa using inRange
  have inList : index < context.forgetList.length := lt_of_lt_of_le inside (min_le_left _ _)
  obtain ⟨nodeid, nlookup⟩ := fuseProtoFillBatchForget_entry_read address context
    (List.getElem?_eq_getElem inList) inside buffer
  simp only [List.getElem_map, List.getElem_range, List.getElem_take, nodeid, nlookup]

end Fill

/-- Every resume of a FORGET operation writes one request of its opcode, holding exactly the
inodes `forgetAdvance` takes off the list, in list order, each with `nlookup = 1`. -/
theorem resumeForget_writes {support : Support} {address : UInt64} {context : Context}
    {resumed : Resumed} (nonempty : context.forgetList ≠ [])
    (resumed_eq : resumeForget support address context = some resumed) (buffer : Buffer) :
    Request.opcode.read (applyAll resumed.writes buffer) = forgetOpcode support ∧
      forgetPairs (applyAll resumed.writes buffer) =
        (context.forgetList.take (forgetBatch support)).map fun ino => (ino.toNat, 1) := by
  unfold resumeForget at resumed_eq
  simp only [forgetOpcode, forgetBatch]
  cases batch : support.batchForget
  · obtain ⟨ino, rest, list⟩ := List.exists_cons_of_ne_nil nonempty
    obtain ⟨writes, filled, opcode, pairs⟩ := forgetPairs_fuseProtoFillForget address context list
      buffer
    simp only [batch, filled, Option.map_some', Option.some.injEq, Bool.false_eq_true,
      if_false] at resumed_eq
    subst resumed_eq
    simp [opcode, pairs, list]
  · simp only [batch, if_true, Option.map_some', Option.some.injEq] at resumed_eq
    subst resumed_eq
    exact forgetPairs_fuseProtoFillBatchForget address context buffer

end WinFuse.Proto.Forget
