import Lcom.Lib.Raster
import Lcom.Proj.Commands

/-! The bytes of `video_mem` after `drawXpm` and `drawMouse`, and how many there are. -/

namespace Lcom.Proj

open Lcom.Lib Lcom.Minix

def bytesPerPixel (bitsPerPixel : Nat) : Nat := (bitsPerPixel + 7) >>> 3

namespace VideoMode

variable (mode : VideoMode)

def vramSize : Nat := mode.xRes * mode.yRes * (mode.bitsPerPixel / 8)

def videoMemSize : Nat := mode.xRes * mode.yRes * mode.bitsPerPixel / 8

def displayedSize : Nat := mode.yRes * mode.xRes * bytesPerPixel mode.bitsPerPixel

end VideoMode

def displayScreen (mode : VideoMode) (displayMem videoMem : Memory) : Memory :=
  displayMem.store 0 (List.ofFn fun byte : Fin mode.displayedSize => videoMem byte)

theorem displayScreen_eq (mode : VideoMode) (displayMem videoMem : Memory) (address : Nat) :
    displayScreen mode displayMem videoMem address =
      if address < mode.displayedSize then videoMem address else displayMem address := by
  have length : (List.ofFn fun byte : Fin mode.displayedSize => videoMem byte).length =
    mode.displayedSize := List.length_ofFn
  split
  · rename_i inside
    rw [displayScreen, ← Nat.zero_add address, displayMem.store_inside (inside.trans_eq length.symm)]
    simp [inside]
  · rename_i past
    exact displayMem.store_outside (.inr (by omega))

theorem vgGetModeInfo_maps {Message : Type} (mode : UInt16) :
    Dialogue.Yields (vgGetModeInfo mode : Program Message _) (fun result trace =>
      ∀ videoMode, result = some videoMode → ∃ (info : ModeInfo) (base limit : Nat),
        videoMode = ⟨info.xResolution.toNat, info.yResolution.toNat, info.bitsPerPixel.toNat⟩ ∧
        trace = [⟨.vbeGetModeInfo mode, some info⟩, ⟨.sysPrivctl base limit, true⟩,
          ⟨.vmMapPhys base videoMode.vramSize, true⟩]) := by
  have asks : ∀ request, Dialogue.Yields (call request : Program Message _)
      (fun reply trace => trace = [⟨request, reply⟩]) := fun request => .ask (fun reply => rfl)
  refine .bind (asks _) ?_
  rintro info said rfl
  cases info with
  | none => exact .pure (fun videoMode none => by cases none)
  | some info =>
      refine .bind (asks _) ?_
      rintro added said rfl
      cases added with
      | false => exact .halt
      | true =>
          refine .bind (asks _) ?_
          rintro mapped said rfl
          cases mapped with
          | false => exact .halt
          | true =>
              refine .pure ?_
              rintro videoMode found
              cases found
              exact ⟨info, _, _, rfl, rfl⟩

def PixelCall.place (call : PixelCall) : Nat × Nat :=
  ((asUint16 call.x).toNat, (asUint16 call.y).toNat)

def PixelCall.start (mode : VideoMode) (call : PixelCall) : Nat :=
  bytesPerPixel mode.bitsPerPixel * (call.place.2 * mode.xRes + call.place.1) % 2 ^ 32

def PixelCall.bytes (mode : VideoMode) (call : PixelCall) : List UInt8 :=
  (littleEndian call.color.toUInt32).take (bytesPerPixel mode.bitsPerPixel)

def drawPixel (mode : VideoMode) (videoMem : Memory) (call : PixelCall) : Memory :=
  videoMem.store (call.start mode) (call.bytes mode)

def drawPixels (mode : VideoMode) (calls : List PixelCall) (videoMem : Memory) : Memory :=
  calls.foldl (drawPixel mode) videoMem

def Covers (x y : Int) (img : XpmImage) (j i : Nat) : Prop :=
  (x ≤ j ∧ j < x + img.width) ∧ y ≤ i ∧ i < y + img.height

instance (x y : Int) (img : XpmImage) (j i : Nat) : Decidable (Covers x y img j i) :=
  inferInstanceAs (Decidable (_ ∧ _))

def sourceIndex (x y : Int) (img : XpmImage) (j i : Nat) : Nat :=
  (i - y).toNat * img.width + (j - x).toNat

structure Placed (mode : VideoMode) (x y : Int) (img : XpmImage) : Prop where
  left : 0 ≤ x
  right : x + img.width ≤ mode.xRes
  top : 0 ≤ y
  bottom : y + img.height ≤ mode.yRes

structure EightBit (mode : VideoMode) : Prop where
  depth : mode.bitsPerPixel = 8
  wide : mode.xRes ≤ 65535
  high : mode.yRes ≤ 65535
  addressable : mode.xRes * mode.yRes < 2 ^ 31

section Blit

variable {mode : VideoMode} {x y : Int} {img : XpmImage}

theorem sourceIndex_lt {j i : Nat} (covers : Covers x y img j i) :
    sourceIndex x y img j i < img.width * img.height := by
  obtain ⟨⟨left, right⟩, top, bottom⟩ := covers
  have column : (j - x).toNat < img.width := by omega
  have row : (i - y).toNat + 1 ≤ img.height := by omega
  calc sourceIndex x y img j i
      < (i - y).toNat * img.width + img.width := Nat.add_lt_add_left column _
    _ = ((i - y).toNat + 1) * img.width := by ring
    _ ≤ img.height * img.width := Nat.mul_le_mul_right _ row
    _ = img.width * img.height := Nat.mul_comm _ _

theorem drawXpm_call (placed : Placed mode x y img) {call : PixelCall}
    (member : call ∈ drawXpm x y img) :
    ∃ j i : Nat, (j < mode.xRes ∧ i < mode.yRes) ∧ Covers x y img j i ∧
      call = ⟨j, i, img.byte (sourceIndex x y img j i)⟩ := by
  obtain ⟨r, row, c, column, rfl⟩ := (mem_drawXpm x y img call).mp member
  obtain ⟨left, right, top, bottom⟩ := placed
  refine ⟨(x + c).toNat, (y + r).toNat, ⟨by omega, by omega⟩,
    ⟨⟨by omega, by omega⟩, by omega, by omega⟩, ?_⟩
  rw [sourceIndex, show (((y + r).toNat : Int) - y).toNat = r by omega,
    show (((x + c).toNat : Int) - x).toNat = c by omega, Int.toNat_of_nonneg (by omega),
    Int.toNat_of_nonneg (by omega)]

theorem drawXpm_covers {j i : Nat} (covers : Covers x y img j i) :
    ⟨j, i, img.byte (sourceIndex x y img j i)⟩ ∈ drawXpm x y img := by
  obtain ⟨⟨left, right⟩, top, bottom⟩ := covers
  refine (mem_drawXpm x y img _).mpr ⟨(i - y).toNat, by omega, (j - x).toNat, by omega, ?_⟩
  rw [sourceIndex, Int.toNat_of_nonneg (by omega), Int.toNat_of_nonneg (by omega),
    show x + ((j : Int) - x) = j by omega, show y + ((i : Int) - y) = i by omega]

theorem asUint16_small {value : Nat} (small : value ≤ 65535) : (asUint16 value).toNat = value := by
  rw [asUint16, Int.emod_eq_of_lt (by omega) (by omega)]
  rfl

theorem place_small {j i : Nat} (column : j ≤ 65535) (row : i ≤ 65535) (color : UInt8) :
    (⟨j, i, color⟩ : PixelCall).place = (j, i) := by
  rw [PixelCall.place, asUint16_small column, asUint16_small row]

theorem start_eightBit (screen : EightBit mode) {j i : Nat} (column : j < mode.xRes)
    (row : i < mode.yRes) (color : UInt8) :
    (⟨j, i, color⟩ : PixelCall).start mode = i * mode.xRes + j := by
  obtain ⟨depth, wide, high, addressable⟩ := screen
  have rows : (i + 1) * mode.xRes ≤ mode.yRes * mode.xRes := Nat.mul_le_mul_right _ row
  have small : i * mode.xRes + j < 2 ^ 32 := by
    rw [Nat.add_mul, Nat.one_mul, Nat.mul_comm mode.yRes] at rows
    omega
  rw [PixelCall.start, depth, place_small (by omega) (by omega)]
  change 1 * (i * mode.xRes + j) % 2 ^ 32 = _
  rw [Nat.one_mul, Nat.mod_eq_of_lt small]

theorem bytes_eightBit (screen : EightBit mode) (call : PixelCall) :
    call.bytes mode = [call.color] := by
  rw [PixelCall.bytes, screen.depth]
  change [call.color.toUInt32.toUInt8] = _
  rw [UInt8.toUInt8_toUInt32]

/-- Calls for pixels of an image on the screen, whichever of them are left out. -/
theorem drawPixels_exact (screen : EightBit mode) (placed : Placed mode x y img)
    (calls : List PixelCall) (some : ∀ call ∈ calls, call ∈ drawXpm x y img) (videoMem : Memory) :
    (∀ j i, j < mode.xRes → i < mode.yRes →
      drawPixels mode calls videoMem (i * mode.xRes + j) =
        if ∃ call ∈ calls, call.place = (j, i) then img.byte (sourceIndex x y img j i)
        else videoMem (i * mode.xRes + j)) ∧
    ∀ address, mode.xRes * mode.yRes ≤ address →
      drawPixels mode calls videoMem address = videoMem address := by
  let raster : Raster := ⟨mode.xRes, mode.yRes, 1⟩
  have wide := screen.wide
  have high := screen.high
  have known : ∀ call ∈ calls, (call.place.1 < mode.xRes ∧ call.place.2 < mode.yRes) ∧
      call.start mode = raster.offset call.place.1 call.place.2 ∧
      call.bytes mode = [img.byte (sourceIndex x y img call.place.1 call.place.2)] := by
    intro call member
    obtain ⟨j, i, ⟨column, row⟩, _, rfl⟩ := drawXpm_call placed (some call member)
    rw [bytes_eightBit screen, start_eightBit screen column row, place_small (by omega) (by omega)]
    exact ⟨⟨column, row⟩, (Nat.one_mul _).symm, rfl⟩
  have stored := raster.stores_pixels PixelCall.place (PixelCall.start mode)
    (PixelCall.bytes mode) (fun j i => [img.byte (sourceIndex x y img j i)]) calls
    (fun call member => (known call member).1) (fun call member => (known call member).2.1)
    (fun call member => by rw [(known call member).2.2]; rfl)
    (fun call member => (known call member).2.2) videoMem
  refine ⟨?_, ?_⟩
  · intro j i column row
    have pixel := stored.1 j i column
    rw [Raster.pixel_one rfl, Raster.pixel_one rfl] at pixel
    have byte := congrArg List.head? pixel
    rw [apply_ite List.head?] at byte
    split at byte
    · rename_i written
      rw [if_pos written]
      exact Option.some.inj byte
    · rename_i left
      rw [if_neg left]
      exact Option.some.inj byte
  · intro address past
    exact stored.2 address (by rw [Raster.size, Nat.one_mul]; exact past)

theorem byte_eq (enough : img.width * img.height ≤ img.bytes.length) {j i : Nat}
    (covers : Covers x y img j i) :
    img.bytes[sourceIndex x y img j i]? = some (img.byte (sourceIndex x y img j i)) := by
  have inside : sourceIndex x y img j i < img.bytes.length :=
    Nat.lt_of_lt_of_le (sourceIndex_lt covers) enough
  rw [XpmImage.byte, List.getElem?_eq_getElem inside]
  rfl

theorem covers_place (screen : EightBit mode) (placed : Placed mode x y img) {j i : Nat}
    (covers : Covers x y img j i) (color : UInt8) :
    (⟨j, i, color⟩ : PixelCall).place = (j, i) := by
  obtain ⟨⟨left, right⟩, top, bottom⟩ := covers
  have wide := screen.wide
  have high := screen.high
  have column := placed.right
  have row := placed.bottom
  exact place_small (by omega) (by omega) color

theorem drawXpm_writes (screen : EightBit mode) (placed : Placed mode x y img) (j i : Nat) :
    (∃ call ∈ drawXpm x y img, call.place = (j, i)) ↔ Covers x y img j i := by
  constructor
  · rintro ⟨call, member, there⟩
    obtain ⟨j', i', _, covers, rfl⟩ := drawXpm_call placed member
    rw [covers_place screen placed covers] at there
    obtain ⟨rfl, rfl⟩ := Prod.mk.inj there
    exact covers
  · intro covers
    exact ⟨_, drawXpm_covers covers, covers_place screen placed covers _⟩

theorem drawMouse_writes (screen : EightBit mode) (placed : Placed mode x y img) (j i : Nat) :
    (∃ call ∈ drawMouse x y img, call.place = (j, i)) ↔
      Covers x y img j i ∧ img.byte (sourceIndex x y img j i) ≠ 0 := by
  constructor
  · rintro ⟨call, member, there⟩
    obtain ⟨drawn, visible⟩ := List.mem_filter.mp member
    obtain ⟨j', i', _, covers, rfl⟩ := drawXpm_call placed drawn
    rw [covers_place screen placed covers] at there
    obtain ⟨rfl, rfl⟩ := Prod.mk.inj there
    exact ⟨covers, by simpa using visible⟩
  · rintro ⟨covers, visible⟩
    refine ⟨_, List.mem_filter.mpr ⟨drawXpm_covers covers, ?_⟩, covers_place screen placed covers _⟩
    simpa using visible

end Blit

/-- Drawing an image on the screen puts its bytes at their places and changes nothing else, and
`drawMouse` leaves out the pixels of color 0. -/
theorem sprite_blitting_exact (mode : VideoMode) (screen : EightBit mode) (x y : Int)
    (img : XpmImage) (placed : Placed mode x y img)
    (enough : img.width * img.height ≤ img.bytes.length) (videoMem : Memory) :
    (∀ j i, j < mode.xRes → i < mode.yRes →
      (Covers x y img j i →
        img.bytes[sourceIndex x y img j i]? =
          some (drawPixels mode (drawXpm x y img) videoMem (i * mode.xRes + j))) ∧
      (¬ Covers x y img j i →
        drawPixels mode (drawXpm x y img) videoMem (i * mode.xRes + j) =
          videoMem (i * mode.xRes + j))) ∧
    (∀ j i, j < mode.xRes → i < mode.yRes →
      (Covers x y img j i ∧ img.bytes[sourceIndex x y img j i]? ≠ some 0 →
        img.bytes[sourceIndex x y img j i]? =
          some (drawPixels mode (drawMouse x y img) videoMem (i * mode.xRes + j))) ∧
      (¬ (Covers x y img j i ∧ img.bytes[sourceIndex x y img j i]? ≠ some 0) →
        drawPixels mode (drawMouse x y img) videoMem (i * mode.xRes + j) =
          videoMem (i * mode.xRes + j))) ∧
    ∀ address, mode.xRes * mode.yRes ≤ address →
      drawPixels mode (drawXpm x y img) videoMem address = videoMem address ∧
        drawPixels mode (drawMouse x y img) videoMem address = videoMem address := by
  have drawn := drawPixels_exact screen placed (drawXpm x y img) (fun _ member => member) videoMem
  have pointed := drawPixels_exact screen placed (drawMouse x y img)
    (fun _ member => List.mem_of_mem_filter member) videoMem
  refine ⟨?_, ?_, fun address past => ⟨drawn.2 address past, pointed.2 address past⟩⟩
  · intro j i column row
    rw [drawn.1 j i column row]
    refine ⟨fun covers => ?_, fun outside => ?_⟩
    · rw [if_pos ((drawXpm_writes screen placed j i).mpr covers), byte_eq enough covers]
    · rw [if_neg (mt (drawXpm_writes screen placed j i).mp outside)]
  · intro j i column row
    rw [pointed.1 j i column row]
    have visible : Covers x y img j i ∧ img.bytes[sourceIndex x y img j i]? ≠ some 0 ↔
        ∃ call ∈ drawMouse x y img, call.place = (j, i) := by
      rw [drawMouse_writes screen placed]
      refine and_congr_right (fun covers => ?_)
      rw [byte_eq enough covers, ne_eq, Option.some.injEq]
    refine ⟨fun covers => ?_, fun outside => ?_⟩
    · rw [if_pos (visible.mp covers), byte_eq enough covers.1]
    · rw [if_neg (mt visible.mpr outside)]

/-- Two pixels of a small screen: the one of color 0 is not drawn by `drawMouse`. -/
theorem sprite_blitting_exact_pair :
    drawPixels ⟨4, 3, 8⟩ (drawXpm 1 1 ⟨2, 1, [7, 0]⟩) (fun _ => 9) 5 = 7 ∧
    drawPixels ⟨4, 3, 8⟩ (drawMouse 1 1 ⟨2, 1, [7, 0]⟩) (fun _ => 9) 6 = 9 := by
  have exact := sprite_blitting_exact ⟨4, 3, 8⟩ ⟨rfl, by decide, by decide, by decide⟩ 1 1
    ⟨2, 1, [7, 0]⟩ ⟨by decide, by decide, by decide, by decide⟩ (by decide) (fun _ => 9)
  refine ⟨?_, ?_⟩
  · exact (Option.some.inj ((exact.1 1 1 (by decide) (by decide)).1 (by decide))).symm
  · exact (exact.2.1 2 1 (by decide) (by decide)).2 (by decide)

end Lcom.Proj
