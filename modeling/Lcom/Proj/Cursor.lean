import Lcom.Proj.Devices

/-! The displacements of a mouse packet and the motion of the cursor. -/

namespace Lcom.Proj

/-- The signed number of nine bits whose sign is a bit of the first byte of a packet. -/
def nineBit (first : UInt8) (sign : Nat) (byte : UInt8) : Int :=
  (BitVec.cons (first.toBitVec.getLsbD sign) byte.toBitVec).toInt

def MouseBytes.dx (bytes : MouseBytes) : Int := nineBit bytes.first 4 bytes.second

def MouseBytes.dy (bytes : MouseBytes) : Int := nineBit bytes.first 5 bytes.third

theorem sign_set (first : UInt8) :
    (first &&& xSign ≠ 0 ↔ first.toBitVec.getLsbD 4 = true) ∧
      (first &&& ySign ≠ 0 ↔ first.toBitVec.getLsbD 5 = true) := by
  have all : ∀ bits : BitVec 8,
      (UInt8.ofBitVec bits &&& xSign ≠ 0 ↔ bits.getLsbD 4 = true) ∧
        (UInt8.ofBitVec bits &&& ySign ≠ 0 ↔ bits.getLsbD 5 = true) := by
    decide +kernel
  exact all first.toBitVec

theorem nineBit_table : ∀ (negative : Bool) (byte : BitVec 8),
    (BitVec.cons negative byte).toInt =
      (if negative then (BitVec.setWidth 16 byte ||| 0xFF00#16).toInt
        else (BitVec.setWidth 16 byte).toInt) ∧
    (BitVec.cons negative byte).toInt = byte.toNat - (if negative then 256 else 0) := by
  decide +kernel

theorem displacement_eq (first mask byte : UInt8) (sign : Nat)
    (same : first &&& mask ≠ 0 ↔ first.toBitVec.getLsbD sign = true) :
    displacement (first &&& mask) byte = nineBit first sign byte := by
  rw [displacement, nineBit, (nineBit_table _ _).1]
  by_cases set : first &&& mask ≠ 0
  · rw [if_pos set, if_pos (same.mp set)]
  · rw [if_neg set, if_neg (fun bit => set (same.mpr bit))]

theorem deltaX_eq (bytes : MouseBytes) : (getMousePacket bytes).deltaX = bytes.dx :=
  displacement_eq bytes.first xSign bytes.second 4 (sign_set bytes.first).1

theorem deltaY_eq (bytes : MouseBytes) : (getMousePacket bytes).deltaY = bytes.dy :=
  displacement_eq bytes.first ySign bytes.third 5 (sign_set bytes.first).2

theorem nineBit_sign (first : UInt8) (sign : Nat) (byte : UInt8) :
    nineBit first sign byte < 0 ↔ first.toBitVec.getLsbD sign = true := by
  have below : (byte.toBitVec.toNat : Int) < 256 := by
    have bound := byte.toBitVec.isLt
    omega
  rw [nineBit, (nineBit_table _ _).2]
  cases first.toBitVec.getLsbD sign with
  | true =>
      simp only [if_true, iff_true]
      omega
  | false =>
      simp only [Bool.false_eq_true, if_false, iff_false]
      omega

def CursorPlace (mouse : Mouse) : Prop :=
  (mouse.img.width = 25 ∧ mouse.img.height = 34) ∧ OnScreen mouse.x mouse.y mouse.img

theorem createMouse_place (loader : XpmLoader) : CursorPlace (createMouse loader 50 700) := by
  have width : (loader.load .mouseXpm).width = 25 := loader.width_eq .mouseXpm
  have height : (loader.load .mouseXpm).height = 34 := loader.height_eq .mouseXpm
  refine ⟨⟨width, height⟩, ?_⟩
  simp only [OnScreen, createMouse, width, height]
  omega

/-- `updateMouse` tests the bound on the side of the motion only. The other one cannot be
crossed from a place on the screen. -/
theorem updateMouse_x {mouse : Mouse} (place : CursorPlace mouse) (bytes : MouseBytes) :
    (updateMouse (getMousePacket bytes) mouse).x = max 0 (min 999 (mouse.x + bytes.dx)) := by
  have width : (mouse.img.width : Int) = 25 := by exact_mod_cast place.1.1
  have left := place.2.1
  have right := place.2.2.1
  have side := nineBit_sign bytes.first 4 bytes.second
  simp only [updateMouse, deltaX_eq, width, xRes]
  by_cases set : bytes.first &&& xSign ≠ 0
  · have back : bytes.dx < 0 := side.mpr ((sign_set bytes.first).1.mp set)
    rw [if_pos (show (getMousePacket bytes).bytes.first &&& xSign ≠ 0 from set)]
    split <;> omega
  · have forth : ¬ bytes.dx < 0 := fun back => set ((sign_set bytes.first).1.mpr (side.mp back))
    rw [if_neg (show ¬ (getMousePacket bytes).bytes.first &&& xSign ≠ 0 from set)]
    split <;> omega

theorem updateMouse_y {mouse : Mouse} (place : CursorPlace mouse) (bytes : MouseBytes) :
    (updateMouse (getMousePacket bytes) mouse).y = max 0 (min 734 (mouse.y - bytes.dy)) := by
  have height : (mouse.img.height : Int) = 34 := by exact_mod_cast place.1.2
  have top := place.2.2.2.1
  have bottom := place.2.2.2.2
  have side := nineBit_sign bytes.first 5 bytes.third
  simp only [updateMouse, deltaY_eq, height, yRes]
  by_cases set : bytes.first &&& ySign ≠ 0
  · have down : bytes.dy < 0 := side.mpr ((sign_set bytes.first).2.mp set)
    rw [if_pos (show (getMousePacket bytes).bytes.first &&& ySign ≠ 0 from set)]
    split <;> omega
  · have up : ¬ bytes.dy < 0 := fun down => set ((sign_set bytes.first).2.mpr (side.mp down))
    rw [if_neg (show ¬ (getMousePacket bytes).bytes.first &&& ySign ≠ 0 from set)]
    split <;> omega

theorem updateMouse_place {mouse : Mouse} (place : CursorPlace mouse) (bytes : MouseBytes) :
    CursorPlace (updateMouse (getMousePacket bytes) mouse) := by
  have width := place.1.1
  have height := place.1.2
  refine ⟨place.1, ?_⟩
  rw [OnScreen, updateMouse_x place, updateMouse_y place]
  change _ ∧ _ + (mouse.img.width : Int) ≤ _ ∧ _ ∧ _ + (mouse.img.height : Int) ≤ _
  omega

def moveCursor (mouse : Mouse) (packets : List MouseBytes) : Mouse :=
  packets.foldl (fun mouse bytes => updateMouse (getMousePacket bytes) mouse) mouse

theorem moveCursor_place {mouse : Mouse} (place : CursorPlace mouse) (packets : List MouseBytes) :
    CursorPlace (moveCursor mouse packets) := by
  induction packets generalizing mouse with
  | nil => exact place
  | cons bytes rest ih => exact ih (updateMouse_place place bytes)

/-- Whatever the packets, the cursor stays on the screen and each of them adds its displacement
up to the borders. -/
theorem cursor_clamped (loader : XpmLoader) (packets : List MouseBytes) :
    (0 ≤ (moveCursor (createMouse loader 50 700) packets).x ∧
      (moveCursor (createMouse loader 50 700) packets).x ≤ 999 ∧
      0 ≤ (moveCursor (createMouse loader 50 700) packets).y ∧
      (moveCursor (createMouse loader 50 700) packets).y ≤ 734) ∧
    ∀ bytes,
      (moveCursor (createMouse loader 50 700) (packets ++ [bytes])).x =
        max 0 (min 999 ((moveCursor (createMouse loader 50 700) packets).x + bytes.dx)) ∧
      (moveCursor (createMouse loader 50 700) (packets ++ [bytes])).y =
        max 0 (min 734 ((moveCursor (createMouse loader 50 700) packets).y - bytes.dy)) := by
  have place := moveCursor_place (createMouse_place loader) packets
  constructor
  · obtain ⟨⟨width, height⟩, left, right, top, bottom⟩ := place
    omega
  · intro bytes
    rw [moveCursor, List.foldl_append]
    exact ⟨updateMouse_x place bytes, updateMouse_y place bytes⟩

end Lcom.Proj
