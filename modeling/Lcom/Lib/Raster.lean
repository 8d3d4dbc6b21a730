import Mathlib.Data.List.Basic
import Mathlib.Tactic

/-! Byte memories, rasters of pixels that lie in them row by row, and grids of equal tiles. -/

namespace Lcom.Lib

def Memory := Nat → UInt8

instance : Inhabited Memory := ⟨fun _ => 0⟩

def Memory.store (mem : Memory) (offset : Nat) (bytes : List UInt8) : Memory := fun address =>
  if offset ≤ address ∧ address < offset + bytes.length then bytes.getD (address - offset) 0
  else mem address

def littleEndian (value : UInt32) : List UInt8 :=
  [value.toUInt8, (value >>> 8).toUInt8, (value >>> 16).toUInt8, (value >>> 24).toUInt8]

theorem Memory.store_inside (mem : Memory) {offset byte : Nat} {bytes : List UInt8}
    (inside : byte < bytes.length) : mem.store offset bytes (offset + byte) = bytes.getD byte 0 := by
  rw [Memory.store, if_pos ⟨Nat.le_add_right _ _, by omega⟩, Nat.add_sub_cancel_left]

theorem Memory.store_outside (mem : Memory) {offset address : Nat} {bytes : List UInt8}
    (outside : address < offset ∨ offset + bytes.length ≤ address) :
    mem.store offset bytes address = mem address := by
  rw [Memory.store, if_neg (by omega)]

/-- A screen of `width` times `height` pixels of `depth` bytes each. -/
structure Raster where
  width : Nat
  height : Nat
  depth : Nat

namespace Raster

variable (raster : Raster)

def offset (j i : Nat) : Nat := raster.depth * (i * raster.width + j)

def size : Nat := raster.depth * raster.width * raster.height

def pixel (mem : Memory) (j i : Nat) : List UInt8 :=
  (List.range raster.depth).map (fun byte => mem (raster.offset j i + byte))

variable {raster}

theorem pixel_one (single : raster.depth = 1) (mem : Memory) (j i : Nat) :
    raster.pixel mem j i = [mem (i * raster.width + j)] := by
  rw [pixel, offset, single, Nat.one_mul]
  rfl

theorem position_inj {j i j' i' : Nat} (inside : j < raster.width) (inside' : j' < raster.width)
    (same : i * raster.width + j = i' * raster.width + j') : j = j' ∧ i = i' := by
  have positive : 0 < raster.width := Nat.zero_lt_of_lt inside
  have columns : j = j' := by
    have remainders := congrArg (· % raster.width) same
    simpa [Nat.mul_add_mod_self_right, Nat.mod_eq_of_lt inside, Nat.mod_eq_of_lt inside'] using
      remainders
  refine ⟨columns, Nat.eq_of_mul_eq_mul_right positive ?_⟩
  omega

theorem offset_lt {j i : Nat} (column : j < raster.width) (row : i < raster.height) :
    raster.offset j i + raster.depth ≤ raster.size := by
  have rows : (i + 1) * raster.width ≤ raster.height * raster.width := Nat.mul_le_mul_right _ row
  calc raster.offset j i + raster.depth
      = raster.depth * (i * raster.width + j + 1) := by rw [offset]; ring
    _ ≤ raster.depth * (raster.height * raster.width) := by
        apply Nat.mul_le_mul_left
        rw [Nat.add_mul, Nat.one_mul] at rows
        omega
    _ = raster.size := by rw [size]; ring

theorem offset_last (wide : 0 < raster.width) (high : 0 < raster.height) :
    raster.offset (raster.width - 1) (raster.height - 1) + raster.depth = raster.size := by
  obtain ⟨j, columns⟩ := Nat.exists_eq_add_of_lt wide
  obtain ⟨i, rows⟩ := Nat.exists_eq_add_of_lt high
  rw [offset, size, columns, rows]
  simp only [Nat.zero_add, Nat.add_sub_cancel]
  ring

theorem offset_apart {j i j' i' : Nat} (inside : j < raster.width) (inside' : j' < raster.width)
    (other : (j', i') ≠ (j, i)) : raster.offset j i + raster.depth ≤ raster.offset j' i' ∨
      raster.offset j' i' + raster.depth ≤ raster.offset j i := by
  have apart : ∀ {p q : Nat}, p < q → raster.depth * p + raster.depth ≤ raster.depth * q := by
    intro p q before
    calc raster.depth * p + raster.depth = raster.depth * (p + 1) := by ring
      _ ≤ raster.depth * q := Nat.mul_le_mul_left _ before
  rcases Nat.lt_trichotomy (i * raster.width + j) (i' * raster.width + j') with
    before | same | after
  · exact .inl (apart before)
  · obtain ⟨columns, rows⟩ := position_inj inside inside' same
    exact absurd (by rw [columns, rows]) other
  · exact .inr (apart after)

theorem store_pixel (mem : Memory) {j i j' i' : Nat} (inside : j < raster.width)
    (inside' : j' < raster.width) {bytes : List UInt8} (whole : bytes.length = raster.depth) :
    raster.pixel (mem.store (raster.offset j' i') bytes) j i =
      if (j', i') = (j, i) then bytes else raster.pixel mem j i := by
  split
  · rename_i same
    obtain ⟨rfl, rfl⟩ := Prod.mk.inj same
    apply List.ext_getElem
    · simp [pixel, whole]
    · intro byte first second
      simp [pixel, Memory.store_inside mem second, second]
  · rename_i other
    rw [pixel, pixel]
    apply List.map_congr_left
    intro byte member
    have bound := List.mem_range.mp member
    rcases offset_apart inside inside' other with before | after
    · exact mem.store_outside (.inl (by omega))
    · exact mem.store_outside (.inr (by omega))

variable (raster) in
/-- What a sequence of stores to pixels of the screen leaves: each pixel that is stored has its
content, and everything else is as before. All stores to a pixel store the same content. -/
theorem stores_pixels {Call : Type} (place : Call → Nat × Nat) (start : Call → Nat)
    (bytes : Call → List UInt8) (content : Nat → Nat → List UInt8) (calls : List Call)
    (inside : ∀ call ∈ calls, (place call).1 < raster.width ∧ (place call).2 < raster.height)
    (aligned : ∀ call ∈ calls, start call = raster.offset (place call).1 (place call).2)
    (whole : ∀ call ∈ calls, (bytes call).length = raster.depth)
    (stored : ∀ call ∈ calls, bytes call = content (place call).1 (place call).2) (mem : Memory) :
    (∀ j i, j < raster.width →
      raster.pixel (calls.foldl (fun mem call => mem.store (start call) (bytes call)) mem) j i =
        if ∃ call ∈ calls, place call = (j, i) then content j i else raster.pixel mem j i) ∧
    ∀ address, raster.size ≤ address →
      calls.foldl (fun mem call => mem.store (start call) (bytes call)) mem address =
        mem address := by
  induction calls generalizing mem with
  | nil => exact ⟨fun j i _ => by simp, fun _ _ => rfl⟩
  | cons call rest ih =>
      simp only [List.forall_mem_cons] at inside aligned whole stored
      obtain ⟨pixels, beyond⟩ := ih inside.2 aligned.2 whole.2 stored.2
        (mem.store (start call) (bytes call))
      have fits := offset_lt inside.1.1 inside.1.2
      refine ⟨?_, ?_⟩
      · intro j i column
        rw [List.foldl_cons, pixels j i column, aligned.1,
          store_pixel mem column inside.1.1 whole.1]
        by_cases later : ∃ call ∈ rest, place call = (j, i)
        · rw [if_pos later, if_pos]
          obtain ⟨other, member, there⟩ := later
          exact ⟨other, List.mem_cons_of_mem _ member, there⟩
        · rw [if_neg later]
          by_cases now : place call = (j, i)
          · rw [if_pos now, if_pos ⟨call, List.mem_cons_self, now⟩, stored.1, now]
          · rw [if_neg now, if_neg]
            rintro ⟨other, member, there⟩
            rcases List.mem_cons.mp member with rfl | member
            · exact now there
            · exact later ⟨other, member, there⟩
      · intro address past
        rw [List.foldl_cons, beyond address past, aligned.1]
        exact mem.store_outside (.inr (by rw [whole.1]; omega))

end Raster

theorem interval_iff (length index j : Nat) :
    (index * length ≤ j ∧ j < index * length + length) ↔ 0 < length ∧ j / length = index := by
  constructor
  · intro inside
    have positive : 0 < length := by omega
    exact ⟨positive, (Nat.div_eq_iff positive).mpr (by omega)⟩
  · rintro ⟨positive, quotient⟩
    have bounds := (Nat.div_eq_iff positive).mp quotient
    omega

theorem flatMap_range_eq {α : Type*} (visit : Nat → Nat → α) (rows columns : Nat) :
    ((List.range rows).flatMap fun row => (List.range columns).map (visit row)) =
      (List.range (rows * columns)).map (fun k => visit (k / columns) (k % columns)) := by
  induction rows with
  | zero => simp
  | succ rows ih =>
      rw [List.range_succ, List.flatMap_append, ih, List.flatMap_singleton, Nat.add_mul,
        Nat.one_mul, List.range_add, List.map_append, List.map_map]
      congr 1
      apply List.map_congr_left
      intro column member
      have bound := List.mem_range.mp member
      rw [Function.comp_apply, Nat.mul_comm, Nat.mul_add_div (by omega), Nat.mul_add_mod,
        Nat.div_eq_of_lt bound, Nat.mod_eq_of_lt bound, Nat.add_zero]

end Lcom.Lib
