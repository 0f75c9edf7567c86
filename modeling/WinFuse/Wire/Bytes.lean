import Mathlib.Data.Nat.Defs
import Mathlib.Algebra.Group.Nat.Basic

/-!
# Request buffers as bytes

`FuseDeviceTransact` reads the daemon's response from, and writes the next request into, one
`METHOD_BUFFERED` system buffer.  This module models that buffer as a map from byte offsets to
bytes, every C store into it as a byte string written at an offset, and the integer fields of
the FUSE wire format as little-endian numbers.

Two laws carry every later argument about buffers.  The frame law: after a sequence of stores
a byte that none of them covers still holds what it held before, and a byte that one of them
covers no longer depends on what it held before.  The round trip: a little-endian field read
back after it was stored gives the stored value modulo its width.
-/

namespace WinFuse.Wire.Bytes

/--
The contents of a buffer, byte by byte.  Offsets past the end of the allocation are bytes too:
a store past the buffer lands in whatever lies there.
-/
abbrev Buffer := Nat → UInt8

/-- One store into the buffer: `bytes` copied to `offset`, `offset + 1`, and so on. -/
structure Write where
  offset : Nat
  bytes : List UInt8
deriving DecidableEq, Repr

namespace Write

/-- One past the last offset the store writes. -/
def limit (write : Write) : Nat :=
  write.offset + write.bytes.length

/-- The store writes the byte at `position`. -/
def Covers (write : Write) (position : Nat) : Prop :=
  write.offset ≤ position ∧ position < write.limit

instance (write : Write) (position : Nat) : Decidable (write.Covers position) :=
  inferInstanceAs (Decidable (_ ∧ _))

/-- The buffer after the store. -/
def apply (write : Write) (buffer : Buffer) : Buffer := fun position =>
  if write.Covers position then write.bytes.getD (position - write.offset) 0
  else buffer position

theorem apply_of_not_covers {write : Write} {position : Nat}
    (outside : ¬ write.Covers position) (buffer : Buffer) :
    write.apply buffer position = buffer position := by
  simp [apply, outside]

theorem apply_of_covers {write : Write} {position : Nat}
    (inside : write.Covers position) (buffer other : Buffer) :
    write.apply buffer position = write.apply other position := by
  simp [apply, inside]

/-- Past its first byte, a store is the store of the rest one offset later. -/
theorem apply_cons_of_lt {offset position : Nat} (byte : UInt8) (rest : List UInt8)
    (later : offset < position) (buffer : Buffer) :
    (Write.mk offset (byte :: rest)).apply buffer position =
      (Write.mk (offset + 1) rest).apply buffer position := by
  have shift : position - offset = position - (offset + 1) + 1 := by omega
  simp only [apply, Covers, limit, List.length_cons, shift, List.getD_cons_succ]
  congr 1
  exact propext ⟨fun ⟨_, below⟩ => ⟨later, by omega⟩, fun ⟨_, below⟩ => ⟨by omega, by omega⟩⟩

end Write

/-- A sequence of stores, performed in order. -/
def applyAll (writes : List Write) (buffer : Buffer) : Buffer :=
  writes.foldl (fun current write => write.apply current) buffer

@[simp]
theorem applyAll_nil (buffer : Buffer) : applyAll [] buffer = buffer :=
  rfl

@[simp]
theorem applyAll_cons (write : Write) (writes : List Write) (buffer : Buffer) :
    applyAll (write :: writes) buffer = applyAll writes (write.apply buffer) :=
  rfl

@[simp]
theorem applyAll_append (first second : List Write) (buffer : Buffer) :
    applyAll (first ++ second) buffer = applyAll second (applyAll first buffer) := by
  simp [applyAll, List.foldl_append]

/-- Some store of the sequence writes the byte at `position`. -/
def Written (writes : List Write) (position : Nat) : Prop :=
  ∃ write ∈ writes, write.Covers position

instance (writes : List Write) (position : Nat) : Decidable (Written writes position) :=
  inferInstanceAs (Decidable (∃ write ∈ writes, write.Covers position))

@[simp]
theorem written_append {first second : List Write} {position : Nat} :
    Written (first ++ second) position ↔ Written first position ∨ Written second position := by
  simp only [Written, List.mem_append]
  constructor
  · rintro ⟨write, member | member, covers⟩
    · exact Or.inl ⟨write, member, covers⟩
    · exact Or.inr ⟨write, member, covers⟩
  · rintro (⟨write, member, covers⟩ | ⟨write, member, covers⟩)
    · exact ⟨write, Or.inl member, covers⟩
    · exact ⟨write, Or.inr member, covers⟩

@[simp]
theorem written_nil (position : Nat) : ¬ Written [] position := by
  simp [Written]

@[simp]
theorem written_cons {write : Write} {writes : List Write} {position : Nat} :
    Written (write :: writes) position ↔ write.Covers position ∨ Written writes position := by
  simp [Written]

/-- Frame law: a byte no store covers keeps its old contents. -/
theorem applyAll_of_not_written {writes : List Write} {position : Nat}
    (outside : ¬ Written writes position) (buffer : Buffer) :
    applyAll writes buffer position = buffer position := by
  induction writes generalizing buffer with
  | nil => rfl
  | cons write rest ih =>
      have notHead : ¬ write.Covers position := fun covers =>
        outside ⟨write, List.mem_cons_self _ _, covers⟩
      have notRest : ¬ Written rest position := fun ⟨other, member, covers⟩ =>
        outside ⟨other, List.mem_cons_of_mem _ member, covers⟩
      rw [applyAll_cons, ih notRest, Write.apply_of_not_covers notHead]

/-- A covered byte no longer depends on the old contents of the buffer. -/
theorem applyAll_eq_of_written {writes : List Write} {position : Nat}
    (inside : Written writes position) (buffer other : Buffer) :
    applyAll writes buffer position = applyAll writes other position := by
  induction writes generalizing buffer other with
  | nil => exact absurd inside (by simp [Written])
  | cons write rest ih =>
      by_cases later : Written rest position
      · exact ih later _ _
      · obtain ⟨first, member, covers⟩ := inside
        have head : write.Covers position := by
          rcases List.mem_cons.1 member with rfl | member
          · exact covers
          · exact absurd ⟨first, member, covers⟩ later
        simp only [applyAll_cons, applyAll_of_not_written later]
        exact Write.apply_of_covers head _ _

/-- The frame law read both ways: the result at a byte ignores the old contents exactly when
some store covers that byte. -/
theorem applyAll_independent_iff (writes : List Write) (position : Nat) :
    (∀ buffer other : Buffer,
        applyAll writes buffer position = applyAll writes other position) ↔
      Written writes position := by
  constructor
  · intro independent
    by_contra outside
    have differ := independent (fun _ => 0) (fun _ => 1)
    rw [applyAll_of_not_written outside, applyAll_of_not_written outside] at differ
    exact absurd differ (by decide)
  · exact fun inside => applyAll_eq_of_written inside

/-! ## Little-endian fields -/

/-- The `width` bytes of `value`, least significant first: a `UINT32` or `UINT64` field as
the little-endian FUSE wire lays it out. -/
def littleEndian : Nat → Nat → List UInt8
  | 0, _ => []
  | width + 1, value => UInt8.ofNat (value % 256) :: littleEndian width (value / 256)

@[simp]
theorem length_littleEndian (width value : Nat) :
    (littleEndian width value).length = width := by
  induction width generalizing value with
  | zero => rfl
  | succ width ih => simp [littleEndian, ih]

/-- The number held in the `width` bytes at `offset`. -/
def readLittleEndian (buffer : Buffer) (offset : Nat) : Nat → Nat
  | 0 => 0
  | width + 1 => (buffer offset).toNat + 256 * readLittleEndian buffer (offset + 1) width

/-- A field read depends only on the bytes it reads. -/
theorem readLittleEndian_congr {buffer other : Buffer} {offset width : Nat}
    (agree : ∀ index < width, buffer (offset + index) = other (offset + index)) :
    readLittleEndian buffer offset width = readLittleEndian other offset width := by
  induction width generalizing offset with
  | zero => rfl
  | succ width ih =>
      have first : buffer offset = other offset := agree 0 (Nat.succ_pos _)
      have rest : ∀ index < width,
          buffer (offset + 1 + index) = other (offset + 1 + index) := by
        intro index below
        have shifted := agree (index + 1) (by omega)
        rwa [← Nat.add_assoc, Nat.add_right_comm] at shifted
      simp only [readLittleEndian, first, ih rest]

/-- The store of a `width`-byte field holding `value`. -/
def field (offset width value : Nat) : Write :=
  ⟨offset, littleEndian width value⟩

@[simp]
theorem field_offset (offset width value : Nat) : (field offset width value).offset = offset :=
  rfl

@[simp]
theorem field_limit (offset width value : Nat) :
    (field offset width value).limit = offset + width := by
  simp [field, Write.limit]

/-- Round trip: reading back a stored field gives its value modulo the field's width. -/
theorem readLittleEndian_field (offset width value : Nat) (buffer : Buffer) :
    readLittleEndian ((field offset width value).apply buffer) offset width =
      value % 256 ^ width := by
  induction width generalizing offset value with
  | zero => simp [readLittleEndian, Nat.mod_one]
  | succ width ih =>
      have low : (field offset (width + 1) value).apply buffer offset =
          UInt8.ofNat (value % 256) := by
        simp [field, littleEndian, Write.apply, Write.Covers, Write.limit]
      have high : readLittleEndian ((field offset (width + 1) value).apply buffer)
            (offset + 1) width =
          readLittleEndian ((field (offset + 1) width (value / 256)).apply buffer)
            (offset + 1) width :=
        readLittleEndian_congr fun index _ =>
          Write.apply_cons_of_lt _ _ (by omega) buffer
      have lowNat : (UInt8.ofNat (value % 256)).toNat = value % 256 := by
        simp [UInt8.ofNat, UInt8.toNat, Fin.ofNat]
      simp only [readLittleEndian, low, high, ih, lowNat]
      rw [Nat.pow_succ', Nat.mod_mul]

theorem readLittleEndian_applyAll_of_disjoint {writes : List Write} {offset width : Nat}
    (outside : ∀ index < width, ¬ Written writes (offset + index)) (buffer : Buffer) :
    readLittleEndian (applyAll writes buffer) offset width =
      readLittleEndian buffer offset width :=
  readLittleEndian_congr fun index below =>
    applyAll_of_not_written (outside index below) buffer

/-! ## Footprints -/

/-- Every store of the sequence lies within the offsets `[low, high)`. -/
def Within (writes : List Write) (low high : Nat) : Prop :=
  ∀ write ∈ writes, low ≤ write.offset ∧ write.limit ≤ high

theorem Within.written {writes : List Write} {low high position : Nat}
    (within : Within writes low high) (written : Written writes position) :
    low ≤ position ∧ position < high := by
  obtain ⟨write, member, lower, upper⟩ := written
  have bounds := within write member
  omega

@[simp]
theorem within_nil (low high : Nat) : Within [] low high := by
  simp [Within]

@[simp]
theorem within_append {first second : List Write} {low high : Nat} :
    Within (first ++ second) low high ↔ Within first low high ∧ Within second low high := by
  simp only [Within, List.mem_append]
  exact ⟨fun both => ⟨fun write member => both write (Or.inl member),
      fun write member => both write (Or.inr member)⟩,
    fun ⟨left, right⟩ write member => member.elim (left write) (right write)⟩

theorem Within.not_written {writes : List Write} {low high position : Nat}
    (within : Within writes low high) (outside : position < low ∨ high ≤ position) :
    ¬ Written writes position := fun written => by
  have bounds := within.written written
  omega

@[simp]
theorem within_cons {write : Write} {writes : List Write} {low high : Nat} :
    Within (write :: writes) low high ↔
      (low ≤ write.offset ∧ write.limit ≤ high) ∧ Within writes low high := by
  simp [Within]

theorem Within.mono {writes : List Write} {low high low' high' : Nat}
    (within : Within writes low high) (lower : low' ≤ low) (upper : high ≤ high') :
    Within writes low' high' := fun write member => by
  have bounds := within write member
  omega

/-- Bytes that agree below `bound` with the result of stores that all lie below `bound` are left
as they are by those stores. -/
theorem applyAll_eq_self_of_agree {writes : List Write} {buffer received : Buffer} {bound : Nat}
    (within : Within writes 0 bound)
    (agree : ∀ position < bound, received position = applyAll writes buffer position) :
    applyAll writes received = received := funext fun position => by
  by_cases written : Written writes position
  · rw [applyAll_eq_of_written written received buffer, agree position (within.written written).2]
  · exact applyAll_of_not_written written received

end WinFuse.Wire.Bytes
