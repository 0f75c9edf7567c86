import WinFuse.Proto.Encode

/-!
# The batch-forget loop

`FuseProtoFillBatchForget` packs as many `FUSE_PROTO_FORGET_ONE` entries as fit between
`FUSE_PROTO_REQ_SIZE(batch_forget)` and `FUSE_PROTO_REQ_SIZEMIN`.  Its loop tests `EndP > P`
in bytes but advances `P` one whole entry at a time, so it visits every entry offset below
`EndP`: `batchForgetSlots` counts them, rounding up.  With the FUSE layout the space after
`fuse_batch_forget_in` is a whole number of entries, so the rounding does not matter and the
loop fills exactly `min N K` entries for a list of `N` inodes, `K` the capacity.

Because `EndP > P` is tested before `FuseCacheForgetNextItem`, a full request takes nothing
off the list: the inodes taken are exactly the inodes written.
-/

namespace WinFuse.Proto.BatchForget

open WinFuse.Wire.Bytes
open WinFuse.Wire.Layout
open WinFuse.Proto.OperationContext
open WinFuse.Proto.Encode

/-- The entries for `inos`, one `FUSE_PROTO_FORGET_ONE` after another from `position`. -/
def forgetEntries (position : Nat) : List UInt64 → List Write
  | [] => []
  | ino :: rest => forgetOne position ino ++ forgetEntries (position + fuseProtoForgetOneSize) rest

/-- The entry offsets `P` with `EndP > P` that the loop visits from `position`. -/
def batchForgetSlots (endOffset position : Nat) : Nat :=
  (endOffset - position + fuseProtoForgetOneSize - 1) / fuseProtoForgetOneSize

/-- `K`: the number of entries between `FUSE_PROTO_REQ_SIZE(batch_forget)` and
`FUSE_PROTO_REQ_SIZEMIN`. -/
def batchForgetCapacity : Nat :=
  (fuseProtoReqSizeMin - fuseProtoReqSize .batchForget) / fuseProtoForgetOneSize

/-- The space after `fuse_batch_forget_in` is a whole number of entries, so the loop visits
exactly `K` offsets. -/
theorem batchForgetSlots_start :
    batchForgetSlots batchForgetEnd batchForgetStart = batchForgetCapacity := by
  decide

/-- The loop fills the first `min N (slots)` inodes as consecutive entries, stops one entry
past the last, and leaves the rest of the list. -/
theorem batchForgetLoop_eq (endOffset position : Nat) (list : List UInt64) :
    batchForgetLoop endOffset position list =
      (forgetEntries position (list.take (min list.length (batchForgetSlots endOffset position))),
       position + fuseProtoForgetOneSize *
         min list.length (batchForgetSlots endOffset position),
       list.drop (min list.length (batchForgetSlots endOffset position))) := by
  induction list generalizing position with
  | nil => unfold batchForgetLoop; split <;> simp [forgetEntries]
  | cons ino rest ih =>
      unfold batchForgetLoop
      by_cases room : endOffset > position
      · have slots : batchForgetSlots endOffset position =
            batchForgetSlots endOffset (position + fuseProtoForgetOneSize) + 1 := by
          simp only [batchForgetSlots, fuseProtoForgetOneSize]
          omega
        have count : min (ino :: rest).length (batchForgetSlots endOffset position) =
            min rest.length (batchForgetSlots endOffset (position + fuseProtoForgetOneSize)) + 1 := by
          simp only [List.length_cons, slots]
          omega
        simp only [room, if_true, ih, count, List.take_succ_cons, List.drop_succ_cons,
          forgetEntries, Prod.mk.injEq, true_and, and_true]
        simp only [fuseProtoForgetOneSize]
        omega
      · have slots : batchForgetSlots endOffset position = 0 := by
          simp only [batchForgetSlots, fuseProtoForgetOneSize]
          omega
        simp [room, slots, forgetEntries]

theorem within_forgetOne (position : Nat) (ino : UInt64) :
    Within (forgetOne position ino) position (position + fuseProtoForgetOneSize) := by
  simp [forgetOne, Request.forgetOneNodeid, Request.forgetOneNlookup, fuseProtoForgetOneSize]

theorem within_forgetEntries (position : Nat) (inos : List UInt64) :
    Within (forgetEntries position inos) position
      (position + fuseProtoForgetOneSize * inos.length) := by
  induction inos generalizing position with
  | nil => simp [forgetEntries]
  | cons ino rest ih =>
      simp only [forgetEntries, within_append, List.length_cons]
      constructor
      · exact (within_forgetOne position ino).mono (le_refl _)
          (by simp only [fuseProtoForgetOneSize]; omega)
      · exact (ih _).mono (by omega) (by simp only [fuseProtoForgetOneSize]; omega)

/-- The daemon reads back every entry: its inode and `nlookup = 1`, when the stores after the
entries all lie below them. -/
theorem forgetEntries_read {position index : Nat} {inos : List UInt64} {ino : UInt64}
    (found : inos[index]? = some ino) {rest : List Write} (below : Within rest 0 position)
    (buffer : Buffer) :
    (Request.forgetOneNodeid (position + fuseProtoForgetOneSize * index)).read
        (applyAll (forgetEntries position inos ++ rest) buffer) = ino.toNat ∧
      (Request.forgetOneNlookup (position + fuseProtoForgetOneSize * index)).read
        (applyAll (forgetEntries position inos ++ rest) buffer) = 1 := by
  induction inos generalizing position index buffer with
  | nil => simp at found
  | cons head tail ih =>
      cases index with
      | zero =>
          simp only [List.getElem?_cons_zero, Option.some.injEq] at found
          subst found
          have later := within_forgetEntries (position + fuseProtoForgetOneSize) tail
          have small : head.toNat < 256 ^ 8 := head.toNat_lt_size
          simp only [forgetEntries, forgetOne, List.cons_append, List.nil_append, Nat.mul_zero,
            Nat.add_zero]
          constructor
          · rw [applyAll_cons, Field.read_applyAll_of_disjoint, Field.read_store]
            · exact Nat.mod_eq_of_lt small
            · intro index inside
              simp only [written_cons, written_append, not_or]
              refine ⟨?_, later.not_written ?_, below.not_written ?_⟩ <;>
                simp only [Write.Covers, Write.limit, Field.store_offset, Field.store_limit,
                  Request.forgetOneNodeid, Request.forgetOneNlookup, fuseProtoForgetOneSize] at * <;>
                omega
          · rw [applyAll_cons, applyAll_cons, Field.read_applyAll_of_disjoint, Field.read_store]
            · rfl
            · intro index inside
              simp only [written_append, not_or]
              refine ⟨later.not_written ?_, below.not_written ?_⟩ <;>
                simp only [Request.forgetOneNlookup, fuseProtoForgetOneSize] at * <;> omega
      | succ index =>
          simp only [List.getElem?_cons_succ] at found
          have shifted := @ih (position + fuseProtoForgetOneSize) index found
            (below.mono (le_refl _) (Nat.le_add_right _ _))
            (applyAll (forgetOne position head) buffer)
          have offset : position + fuseProtoForgetOneSize + fuseProtoForgetOneSize * index =
              position + fuseProtoForgetOneSize * (index + 1) := by
            simp only [fuseProtoForgetOneSize]; omega
          rw [offset] at shifted
          simpa only [forgetEntries, List.append_assoc, applyAll_append] using shifted

/-- The stores of `FuseProtoFillBatchForget`: `K` entries of room. -/
theorem fuseProtoFillBatchForget_fst (address : UInt64) (context : Context) :
    (fuseProtoFillBatchForget address context).1 =
      forgetEntries batchForgetStart
          (context.forgetList.take (min context.forgetList.length batchForgetCapacity)) ++
        fuseProtoInitRequest address context
          (batchForgetStart +
            fuseProtoForgetOneSize * min context.forgetList.length batchForgetCapacity)
          fuseProtoOpcodeBatchForget 0 ++
        [Request.batchForgetCount.store (min context.forgetList.length batchForgetCapacity)] := by
  simp only [fuseProtoFillBatchForget, batchForgetLoop_eq, batchForgetSlots_start,
    Nat.add_sub_cancel_left]
  simp [fuseProtoForgetOneSize]

theorem fuseProtoFillBatchForget_snd (address : UInt64) (context : Context) :
    (fuseProtoFillBatchForget address context).2 =
      context.forgetList.drop (min context.forgetList.length batchForgetCapacity) := by
  simp [fuseProtoFillBatchForget, batchForgetLoop_eq, batchForgetSlots_start]

/-! ## What the daemon reads from a BATCH_FORGET -/

section Fill

variable (address : UInt64) (context : Context)

/-- The stores of `FuseProtoFillBatchForget`, grouped as the entries and then the header and the
count. -/
theorem fuseProtoFillBatchForget_fst_assoc :
    (fuseProtoFillBatchForget address context).1 =
      forgetEntries batchForgetStart
          (context.forgetList.take (min context.forgetList.length batchForgetCapacity)) ++
        (fuseProtoInitRequest address context
          (batchForgetStart +
            fuseProtoForgetOneSize * min context.forgetList.length batchForgetCapacity)
          fuseProtoOpcodeBatchForget 0 ++
        [Request.batchForgetCount.store (min context.forgetList.length batchForgetCapacity)]) := by
  rw [fuseProtoFillBatchForget_fst, List.append_assoc]

theorem count_le_batchForgetCapacity :
    min context.forgetList.length batchForgetCapacity ≤ 509 :=
  le_trans (min_le_right _ _) (by decide)

theorem within_batchForgetEntries :
    Within (forgetEntries batchForgetStart
        (context.forgetList.take (min context.forgetList.length batchForgetCapacity)))
      batchForgetStart
      (batchForgetStart +
        fuseProtoForgetOneSize * min context.forgetList.length batchForgetCapacity) := by
  have entries := within_forgetEntries batchForgetStart
    (context.forgetList.take (min context.forgetList.length batchForgetCapacity))
  rwa [List.length_take, min_eq_left (min_le_left _ _)] at entries

theorem within_batchForgetHeader :
    Within (fuseProtoInitRequest address context
          (batchForgetStart +
            fuseProtoForgetOneSize * min context.forgetList.length batchForgetCapacity)
          fuseProtoOpcodeBatchForget 0 ++
        [Request.batchForgetCount.store (min context.forgetList.length batchForgetCapacity)])
      0 batchForgetStart := by
  rw [within_append]
  exact ⟨(within_fuseProtoInitRequest _ _ _ _ _).mono (le_refl _) (by decide),
    by simp [Request.batchForgetCount, batchForgetStart, fuseProtoReqSize, fuseProtoReqHeaderSize]⟩

/-- Every entry of a BATCH_FORGET holds its inode, in list order, with `nlookup = 1`. -/
theorem fuseProtoFillBatchForget_entry_read {index : Nat} {ino : UInt64}
    (found : context.forgetList[index]? = some ino)
    (inside : index < min context.forgetList.length batchForgetCapacity) (buffer : Buffer) :
    (Request.forgetOneNodeid (batchForgetStart + fuseProtoForgetOneSize * index)).read
        (applyAll (fuseProtoFillBatchForget address context).1 buffer) = ino.toNat ∧
      (Request.forgetOneNlookup (batchForgetStart + fuseProtoForgetOneSize * index)).read
        (applyAll (fuseProtoFillBatchForget address context).1 buffer) = 1 := by
  have foundTaken : (context.forgetList.take
      (min context.forgetList.length batchForgetCapacity))[index]? = some ino := by
    rw [List.getElem?_take, if_pos inside, found]
  rw [fuseProtoFillBatchForget_fst_assoc]
  exact forgetEntries_read foundTaken (within_batchForgetHeader address context) buffer

/-- The count of a BATCH_FORGET is the number of inodes it takes. -/
theorem fuseProtoFillBatchForget_count_read (buffer : Buffer) :
    Request.batchForgetCount.read (applyAll (fuseProtoFillBatchForget address context).1 buffer) =
      min context.forgetList.length batchForgetCapacity := by
  have entries := within_batchForgetEntries context
  have header := within_fuseProtoInitRequest address context
    (batchForgetStart + fuseProtoForgetOneSize * min context.forgetList.length batchForgetCapacity)
    fuseProtoOpcodeBatchForget 0
  have capacity := count_le_batchForgetCapacity context
  rw [fuseProtoFillBatchForget_fst_assoc,
    @Field.read_applyAll_of_sole _ _ (min context.forgetList.length batchForgetCapacity) (by simp)]
  · exact Nat.mod_eq_of_lt (by simp only [Request.batchForgetCount]; omega)
  · intro other member different index below covers
    simp only [List.mem_append, List.mem_singleton] at member
    rcases member with inEntries | inHeader | equal
    · have := entries other inEntries
      simp only [Write.Covers, Request.batchForgetCount, batchForgetStart, fuseProtoReqSize,
        fuseProtoReqHeaderSize] at covers this below
      omega
    · have := header other inHeader
      simp only [Write.Covers, Request.batchForgetCount] at covers this below
      omega
    · exact different equal

/-- The header of a BATCH_FORGET: `len` past the last entry, opcode BATCH_FORGET, and the
context's address as `unique`. -/
theorem fuseProtoFillBatchForget_header_read (buffer : Buffer) :
    RequestHeader.read (applyAll (fuseProtoFillBatchForget address context).1 buffer) =
      { len := batchForgetStart +
          fuseProtoForgetOneSize * min context.forgetList.length batchForgetCapacity,
        opcode := fuseProtoOpcodeBatchForget, unique := address.toNat, nodeid := 0,
        uid := context.origUid.toNat, gid := context.origGid.toNat,
        pid := context.origPid.toNat } := by
  have capacity := count_le_batchForgetCapacity context
  rw [fuseProtoFillBatchForget_fst, requestHeader_read_fuseProtoInitRequest]
  · simp only [batchForgetStart, fuseProtoReqSize, fuseProtoReqHeaderSize, fuseProtoForgetOneSize,
      fuseProtoOpcodeBatchForget, RequestHeader.mk.injEq, and_true]
    exact ⟨Nat.mod_eq_of_lt (by omega), by decide⟩
  · intro position below
    have countBounds : Within
        [Request.batchForgetCount.store (min context.forgetList.length batchForgetCapacity)]
        40 44 := by
      simp [Request.batchForgetCount]
    exact countBounds.not_written (Or.inl (by omega))

end Fill

/--
For every forget list of `N` inodes, `FuseProtoFillBatchForget` takes exactly the first
`c = min N K` inodes off the list and leaves the other `N - c`; the request it writes holds
them in list order as entries with `nlookup = 1` from `FUSE_PROTO_REQ_SIZE(batch_forget)` on,
with `count = c`, opcode BATCH_FORGET and `len = FUSE_PROTO_REQ_SIZE(batch_forget) + c * 16`,
which is at most `FUSE_PROTO_REQ_SIZEMIN`; and no store lands at or past `len`.
-/
theorem fuseProtoFillBatchForget_packs (address : UInt64) (context : Context)
    (buffer : Buffer) :
    let count := min context.forgetList.length batchForgetCapacity
    let request := applyAll (fuseProtoFillBatchForget address context).1 buffer
    (fuseProtoFillBatchForget address context).2 = context.forgetList.drop count ∧
      (∀ index ino, context.forgetList[index]? = some ino → index < count →
        (Request.forgetOneNodeid (batchForgetStart + fuseProtoForgetOneSize * index)).read
            request = ino.toNat ∧
          (Request.forgetOneNlookup (batchForgetStart + fuseProtoForgetOneSize * index)).read
            request = 1) ∧
      Request.batchForgetCount.read request = count ∧
      Request.opcode.read request = fuseProtoOpcodeBatchForget ∧
      Request.len.read request = batchForgetStart + fuseProtoForgetOneSize * count ∧
      batchForgetStart + fuseProtoForgetOneSize * count ≤ fuseProtoReqSizeMin ∧
      Within (fuseProtoFillBatchForget address context).1 0
        (batchForgetStart + fuseProtoForgetOneSize * count) := by
  intro count request
  have header := fuseProtoFillBatchForget_header_read address context buffer
  have capacity := count_le_batchForgetCapacity context
  refine ⟨fuseProtoFillBatchForget_snd address context,
    fun index ino found inside => fuseProtoFillBatchForget_entry_read address context found inside
      buffer, fuseProtoFillBatchForget_count_read address context buffer,
    congrArg RequestHeader.opcode header, congrArg RequestHeader.len header, ?_, ?_⟩
  · simp only [count, batchForgetStart, fuseProtoReqSize, fuseProtoReqHeaderSize,
      fuseProtoForgetOneSize, fuseProtoReqSizeMin] at capacity ⊢
    omega
  · rw [fuseProtoFillBatchForget_fst_assoc, within_append]
    exact ⟨(within_batchForgetEntries context).mono (Nat.zero_le _) (le_refl _),
      (within_batchForgetHeader address context).mono (le_refl _) (Nat.le_add_right _ _)⟩

end WinFuse.Proto.BatchForget
