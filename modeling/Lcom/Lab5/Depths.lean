import Lcom.Lab5.Vg
import Lcom.Proj.Blit

/-! Bytes per pixel: where the code rounds down, where it rounds up, and where it takes one byte
for granted. -/

namespace Lcom.Lab5

open Lcom.Lib Lcom.Minix

/-- All that is written to the screen in the mode of `info` lies in memory that was asked for. -/
structure Covered (info : ModeInfo) : Prop where
  lab5 : ∀ vg mapping, vgGetModeInfo (some info) = some (vg, mapping) → ∀ call : PixelCall,
    call.x.toNat < vg.xRes.toNat → call.y.toNat < vg.yRes.toNat →
      vg.start call + vg.n ≤ mapping.vramSize
  proj : ∀ mode answers ended videoMode,
    (Proj.vgGetModeInfo mode : Program Proj.Message _) answers = some ended →
    ended.value = some videoMode →
    ⟨.vbeGetModeInfo mode, some info.toModeInfo⟩ ∈ ended.trace →
    ∃ base size, ⟨.vmMapPhys base size, true⟩ ∈ ended.trace ∧ videoMode.displayedSize ≤ size ∧
      videoMode.displayedSize ≤ videoMode.videoMemSize

theorem bytesPerPixel_eq (bitsPerPixel : Nat) :
    Proj.bytesPerPixel bitsPerPixel =
      if bitsPerPixel % 8 = 0 then bitsPerPixel / 8 else bitsPerPixel / 8 + 1 := by
  rw [Proj.bytesPerPixel, Nat.shiftRight_eq_div_pow]
  split <;> omega

theorem displayedSize_le {videoMode : Proj.VideoMode}
    (whole : videoMode.bitsPerPixel % 8 = 0 ∨ videoMode.xRes = 0 ∨ videoMode.yRes = 0) :
    videoMode.displayedSize ≤ videoMode.vramSize ∧
      videoMode.displayedSize ≤ videoMode.videoMemSize := by
  rw [Proj.VideoMode.displayedSize, Proj.VideoMode.vramSize, Proj.VideoMode.videoMemSize]
  rcases whole with whole | none | none
  · rw [bytesPerPixel_eq, if_pos whole, Nat.mul_comm videoMode.yRes]
    exact ⟨Nat.le_refl _, Nat.mul_div_le_mul_div_assoc _ _ _⟩
  · simp [none]
  · simp [none]

section Mapped

variable {info : ModeInfo} (deep : 1 ≤ info.bitsPerPixel.toNat)
  (small : info.xResolution.toNat * info.yResolution.toNat * info.bitsPerPixel.toNat < 2 ^ 32)
  {vg : Vg} {mapping : Mapping} (known : vgGetModeInfo (some info) = some (vg, mapping))

include deep small known

theorem mapped_sizes :
    (vg.xRes = info.xResolution ∧ vg.yRes = info.yResolution) ∧
      vg.n = Proj.bytesPerPixel info.bitsPerPixel.toNat ∧ 1 ≤ vg.n ∧
      vg.raster.size ≤ 2 ^ 32 ∧
      mapping.vramSize =
        info.xResolution.toNat * info.yResolution.toNat * (info.bitsPerPixel.toNat / 8) := by
  cases known
  have depth := bytesPerPixel_eq info.bitsPerPixel.toNat
  have some : 1 ≤ Proj.bytesPerPixel info.bitsPerPixel.toNat := by
    split at depth <;> omega
  have most : Proj.bytesPerPixel info.bitsPerPixel.toNat ≤ info.bitsPerPixel.toNat := by
    split at depth <;> omega
  refine ⟨⟨rfl, rfl⟩, rfl, some, ?_, Nat.mod_eq_of_lt ?_⟩
  · calc Proj.bytesPerPixel info.bitsPerPixel.toNat * info.xResolution.toNat *
          info.yResolution.toNat
        = info.xResolution.toNat * info.yResolution.toNat *
            Proj.bytesPerPixel info.bitsPerPixel.toNat := by ring
      _ ≤ info.xResolution.toNat * info.yResolution.toNat * info.bitsPerPixel.toNat :=
          Nat.mul_le_mul_left _ most
      _ ≤ 2 ^ 32 := by omega
  · calc info.xResolution.toNat * info.yResolution.toNat * (info.bitsPerPixel.toNat / 8)
        ≤ info.xResolution.toNat * info.yResolution.toNat * info.bitsPerPixel.toNat :=
          Nat.mul_le_mul_left _ (Nat.div_le_self _ _)
      _ < 2 ^ 32 := small

theorem pixel_mapped (whole : info.bitsPerPixel.toNat % 8 = 0) {call : PixelCall}
    (column : call.x.toNat < vg.xRes.toNat) (row : call.y.toNat < vg.yRes.toNat) :
    vg.start call + vg.n ≤ mapping.vramSize := by
  obtain ⟨⟨width, height⟩, depth, some, fits, size⟩ := mapped_sizes deep small known
  rw [bytesPerPixel_eq, if_pos whole] at depth
  calc vg.start call + vg.n
      = vg.raster.offset call.x.toNat call.y.toNat + vg.n := by
        rw [Vg.start_eq some fits column row]
    _ ≤ vg.n * vg.xRes.toNat * vg.yRes.toNat := Raster.offset_lt column row
    _ = mapping.vramSize := by
        rw [size, depth, width, height]
        ring

theorem last_pixel_unmapped (part : info.bitsPerPixel.toNat % 8 ≠ 0)
    (wide : 0 < info.xResolution.toNat) (high : 0 < info.yResolution.toNat) :
    ∃ call : PixelCall, call.x.toNat < vg.xRes.toNat ∧ call.y.toNat < vg.yRes.toNat ∧
      mapping.vramSize < vg.start call + vg.n := by
  obtain ⟨⟨width, height⟩, depth, some, fits, size⟩ := mapped_sizes deep small known
  rw [bytesPerPixel_eq, if_neg part] at depth
  have column : (UInt16.ofNat (vg.xRes.toNat - 1)).toNat = vg.xRes.toNat - 1 :=
    coordinate_eq (show _ < vg.xRes.toNat by rw [width]; omega)
  have row : (UInt16.ofNat (vg.yRes.toNat - 1)).toNat = vg.yRes.toNat - 1 :=
    coordinate_eq (show _ < vg.yRes.toNat by rw [height]; omega)
  let last : PixelCall := ⟨.ofNat (vg.xRes.toNat - 1), .ofNat (vg.yRes.toNat - 1), 0⟩
  have inside : last.x.toNat < vg.xRes.toNat ∧ last.y.toNat < vg.yRes.toNat := by
    rw [column, row, width, height]
    omega
  refine ⟨last, inside.1, inside.2, ?_⟩
  have ends : vg.raster.offset last.x.toNat last.y.toNat + vg.n = vg.raster.size := by
    rw [column, row]
    exact Raster.offset_last (by rw [Vg.raster, width]; exact wide)
      (by rw [Vg.raster, height]; exact high)
  calc mapping.vramSize
      = info.xResolution.toNat * info.yResolution.toNat * (info.bitsPerPixel.toNat / 8) := size
    _ < info.xResolution.toNat * info.yResolution.toNat * (info.bitsPerPixel.toNat / 8 + 1) :=
        Nat.mul_lt_mul_of_pos_left (Nat.lt_succ_self _) (Nat.mul_pos wide high)
    _ = vg.raster.size := by
        rw [Raster.size, Vg.raster, depth, width, height]
        ring
    _ = vg.start last + vg.n := by rw [Vg.start_eq some fits inside.1 inside.2, ends]

end Mapped

/-- The memory of the screen is mapped as a whole if the bits of a pixel are whole bytes, or if
there are no pixels. The argument of `malloc` is an `int` product, exact below `2 ^ 31`; from there
on it is undefined, and what the statement says of `videoMemSize` is meant for the range below. -/
theorem memory_covered_iff (info : ModeInfo) (deep : 1 ≤ info.bitsPerPixel.toNat)
    (small : info.xResolution.toNat * info.yResolution.toNat * info.bitsPerPixel.toNat < 2 ^ 32) :
    Covered info ↔ info.bitsPerPixel.toNat % 8 = 0 ∨ info.xResolution.toNat = 0 ∨
      info.yResolution.toNat = 0 := by
  constructor
  · intro covered
    by_contra outside
    push Not at outside
    obtain ⟨part, wide, high⟩ := outside
    obtain ⟨call, column, row, past⟩ := last_pixel_unmapped deep small rfl part
      (Nat.pos_of_ne_zero wide) (Nat.pos_of_ne_zero high)
    exact absurd (covered.lab5 _ _ rfl call column row) (Nat.not_le_of_lt past)
  · intro whole
    refine ⟨?_, ?_⟩
    · intro vg mapping known call column row
      obtain ⟨⟨width, height⟩, _⟩ := mapped_sizes deep small known
      have exact : info.bitsPerPixel.toNat % 8 = 0 := by
        rw [width] at column
        rw [height] at row
        omega
      exact pixel_mapped deep small known exact column row
    · intro mode answers ended videoMode ran found asked
      obtain ⟨info', base, limit, same, trace⟩ :=
        Proj.vgGetModeInfo_maps mode answers ended ran videoMode found
      have told : info' = info.toModeInfo := by
        rw [trace] at asked
        cases asked with
        | head => rfl
        | tail _ later => nomatch later
      have fits : videoMode.displayedSize ≤ videoMode.vramSize ∧
          videoMode.displayedSize ≤ videoMode.videoMemSize := by
        apply displayedSize_le
        rw [same, told]
        exact whole
      refine ⟨base, videoMode.vramSize, ?_, fits⟩
      rw [trace]
      simp

def info105 : ModeInfo := ⟨⟨1024, 768, 8, 4, 0xE0000000⟩, 0, 0, 0, 0, 0, 0⟩

def info110 : ModeInfo := ⟨⟨640, 480, 15, 6, 0xE0000000⟩, 5, 10, 5, 5, 5, 0⟩

theorem memory_covered_105 : Covered info105 :=
  (memory_covered_iff info105 (by decide) (by decide)).mpr (.inl (by decide))

/-- In mode `0x110` half of the screen lies outside of the mapping. -/
theorem memory_uncovered_110 : ¬ Covered info110 ∧
    (⟨640, 480, 15⟩ : Proj.VideoMode).vramSize <
      (⟨640, 480, 15⟩ : Proj.VideoMode).displayedSize ∧
    (⟨640, 480, 15⟩ : Proj.VideoMode).videoMemSize <
      (⟨640, 480, 15⟩ : Proj.VideoMode).displayedSize := by
  refine ⟨?_, by decide +kernel, by decide +kernel⟩
  intro covered
  exact absurd (covered.lab5 _ _ rfl ⟨639, 479, 0⟩ (by decide) (by decide)) (by decide +kernel)

/-- The image is on the screen at `(x, y)` and nothing else has changed. -/
structure Rendered (vg : Vg) (x y : UInt16) (img : Proj.XpmImage) (before after : Memory) :
    Prop where
  shown : ∀ r < img.height, ∀ c < img.width,
    vg.raster.pixel after (x.toNat + c) (y.toNat + r) =
      (img.bytes.drop (vg.n * (r * img.width + c))).take vg.n
  others : ∀ j i, j < vg.xRes.toNat → i < vg.yRes.toNat →
    ¬ ((x.toNat ≤ j ∧ j < x.toNat + img.width) ∧ y.toNat ≤ i ∧ i < y.toNat + img.height) →
    vg.raster.pixel after j i = vg.raster.pixel before j i
  beyond : ∀ address, vg.raster.size ≤ address → after address = before address

theorem littleEndian_byte (byte : UInt8) : littleEndian byte.toUInt32 = [byte, 0, 0, 0] := by
  have bytes : ∀ byte : BitVec 8,
      littleEndian (UInt8.ofBitVec byte).toUInt32 = [UInt8.ofBitVec byte, 0, 0, 0] := by
    decide +kernel
  exact bytes byte.toBitVec

section Xpm

variable {vg : Vg} (addressable : vg.Addressable) {x y : UInt16} {img : Proj.XpmImage}
  (right : x.toNat + img.width ≤ vg.xRes.toNat) (bottom : y.toNat + img.height ≤ vg.yRes.toNat)

include addressable right bottom

theorem drawXpm_stores (videoMem : Memory) :
    (∀ j i, j < vg.xRes.toNat →
      vg.raster.pixel (vg.drawpixels (drawXpm x y img) videoMem) j i =
        if ∃ pixel ∈ drawXpm x y img, pixel.place = (j, i) then
          vg.bytes (img.byte ((i - y.toNat) * img.width + (j - x.toNat))).toUInt32
        else vg.raster.pixel videoMem j i) ∧
    ∀ address, vg.raster.size ≤ address →
      vg.drawpixels (drawXpm x y img) videoMem address = videoMem address := by
  have colored : ∀ pixel ∈ drawXpm x y img, pixel.color = (img.byte
      ((pixel.y.toNat - y.toNat) * img.width + (pixel.x.toNat - x.toNat))).toUInt32 := by
    intro pixel member
    obtain ⟨r, row, c, column, rfl⟩ := (mem_drawXpm x y img pixel).mp member
    dsimp only
    rw [coordinate_eq (show x.toNat + c < vg.xRes.toNat by omega),
      coordinate_eq (show y.toNat + r < vg.yRes.toNat by omega), Nat.add_sub_cancel_left,
      Nat.add_sub_cancel_left]
  exact vg.drawpixels_exact addressable (drawXpm x y img) _
    (fun pixel member => drawXpm_inside right bottom member)
    (fun pixel member => by rw [colored pixel member]) videoMem

omit addressable in
theorem drawXpm_writes (j i : Nat) :
    (∃ pixel ∈ drawXpm x y img, pixel.place = (j, i)) ↔
      (x.toNat ≤ j ∧ j < x.toNat + img.width) ∧ y.toNat ≤ i ∧ i < y.toNat + img.height := by
  have coordinates : ∀ r < img.height, ∀ c < img.width, ∀ color,
      (⟨.ofNat (x.toNat + c), .ofNat (y.toNat + r), color⟩ : PixelCall).place =
        (x.toNat + c, y.toNat + r) := by
    intro r row c column color
    rw [PixelCall.place, coordinate_eq (show x.toNat + c < vg.xRes.toNat by omega),
      coordinate_eq (show y.toNat + r < vg.yRes.toNat by omega)]
  constructor
  · rintro ⟨pixel, member, there⟩
    obtain ⟨r, row, c, column, rfl⟩ := (mem_drawXpm x y img pixel).mp member
    rw [coordinates r row c column] at there
    obtain ⟨rfl, rfl⟩ := Prod.mk.inj there
    omega
  · rintro ⟨⟨left, before⟩, top, above⟩
    have row : i - y.toNat < img.height := by omega
    have column : j - x.toNat < img.width := by omega
    refine ⟨_, (mem_drawXpm x y img _).mpr ⟨_, row, _, column, rfl⟩, ?_⟩
    rw [coordinates _ row _ column, Nat.add_sub_cancel' left, Nat.add_sub_cancel' top]

theorem rendered_iff (videoMem : Memory) :
    Rendered vg x y img videoMem (vg.drawpixels (drawXpm x y img) videoMem) ↔
      ∀ r < img.height, ∀ c < img.width,
        vg.bytes (img.byte (r * img.width + c)).toUInt32 =
          (img.bytes.drop (vg.n * (r * img.width + c))).take vg.n := by
  obtain ⟨stored, beyond⟩ := drawXpm_stores addressable right bottom videoMem
  have written : ∀ r < img.height, ∀ c < img.width,
      vg.raster.pixel (vg.drawpixels (drawXpm x y img) videoMem) (x.toNat + c) (y.toNat + r) =
        vg.bytes (img.byte (r * img.width + c)).toUInt32 := by
    intro r row c column
    rw [stored _ _ (by omega), if_pos ((drawXpm_writes right bottom _ _).mpr (by omega)),
      Nat.add_sub_cancel_left, Nat.add_sub_cancel_left]
  constructor
  · intro rendered r row c column
    rw [← written r row c column, rendered.shown r row c column]
  · intro same
    refine ⟨?_, ?_, beyond⟩
    · intro r row c column
      rw [written r row c column, same r row c column]
    · intro j i inside _ outside
      rw [stored j i inside, if_neg (mt (drawXpm_writes right bottom j i).mp outside)]

end Xpm

theorem pixel_bytes_iff {vg : Vg} (addressable : vg.Addressable) {img : Proj.XpmImage} {p : Nat}
    (enough : vg.n * p + vg.n ≤ img.bytes.length) :
    vg.bytes (img.byte p).toUInt32 = (img.bytes.drop (vg.n * p)).take vg.n ↔
      ∀ b < vg.n, img.byte (vg.n * p + b) = if b = 0 then img.byte p else 0 := by
  have narrow := addressable.narrow
  have color : ∀ b < vg.n, (vg.bytes (img.byte p).toUInt32)[b]? =
      some (if b = 0 then img.byte p else 0) := by
    intro b inside
    have bounded : b < 4 := by omega
    rw [Vg.bytes, littleEndian_byte, List.getElem?_take_of_lt inside]
    interval_cases b <;> rfl
  have source : ∀ b < vg.n, ((img.bytes.drop (vg.n * p)).take vg.n)[b]? =
      some (img.byte (vg.n * p + b)) := by
    intro b inside
    rw [List.getElem?_take_of_lt inside, List.getElem?_drop, Proj.XpmImage.byte,
      List.getElem?_eq_getElem (by omega)]
    rfl
  constructor
  · intro same b inside
    have bytes := color b inside
    rw [same, source b inside] at bytes
    exact Option.some.inj bytes
  · intro same
    apply List.ext_getElem?
    intro b
    by_cases inside : b < vg.n
    · rw [color b inside, source b inside, same b inside]
    · rw [List.getElem?_eq_none, List.getElem?_eq_none]
      · rw [List.length_take]
        omega
      · rw [Vg.bytes_length addressable]
        omega

/-- Bytes that repeat the bytes of their pixels' numbers can only be 0, but for the first one. -/
theorem pixel_bytes_all_iff (byte : Nat → UInt8) (n pixels : Nat) (deep : 1 ≤ n)
    (past : ∀ i, n * pixels ≤ i → byte i = 0) :
    (∀ p < pixels, ∀ b < n, byte (n * p + b) = if b = 0 then byte p else 0) ↔
      n = 1 ∨ ∀ i, 1 ≤ i → byte i = 0 := by
  constructor
  · intro same
    by_cases single : n = 1
    · exact .inl single
    · refine .inr ?_
      intro i
      -- the byte `n * p` is the byte `p`, which comes before it
      induction i using Nat.strong_induction_on with
      | _ i ih =>
          intro later
          by_cases inside : i < n * pixels
          · have number : i / n < pixels := Nat.div_lt_of_lt_mul inside
            have byteOf := same (i / n) number (i % n) (Nat.mod_lt _ deep)
            rw [Nat.div_add_mod] at byteOf
            rw [byteOf]
            split
            · rename_i begins
              have smaller : i / n < i := Nat.div_lt_self later (by omega)
              have whole : n ≤ i := Nat.le_of_dvd later (Nat.dvd_of_mod_eq_zero begins)
              exact ih _ smaller (Nat.div_pos whole deep)
            · rfl
          · exact past i (Nat.le_of_not_lt inside)
  · rintro (rfl | zeros) p _ b inside
    · rw [Nat.lt_one_iff.mp inside, Nat.one_mul, Nat.add_zero, if_pos rfl]
    · split
      · rename_i begins
        subst b
        cases p with
        | zero => rfl
        | succ p => rw [zeros (p + 1) (by omega), zeros _ (by nlinarith)]
      · exact zeros _ (by omega)

theorem forall_pixels_iff (width height : Nat) (holds : Nat → Prop) :
    (∀ r < height, ∀ c < width, holds (r * width + c)) ↔ ∀ p < width * height, holds p := by
  constructor
  · intro all p inside
    have wide : 0 < width := Nat.pos_of_mul_pos_right (Nat.zero_lt_of_lt inside)
    have pixel := all (p / width) (Nat.div_lt_of_lt_mul inside) (p % width) (Nat.mod_lt _ wide)
    rwa [Nat.mul_comm, Nat.div_add_mod] at pixel
  · intro all r row c column
    apply all
    calc r * width + c < r * width + width := Nat.add_lt_add_left column _
      _ = width * (r + 1) := by ring
      _ ≤ width * height := Nat.mul_le_mul_left _ row

/-- An image in the format of the mode is rendered if a pixel is a single byte, or if there is
nothing but 0 after the first byte: `draw_xpm` takes one byte of the image for each pixel. -/
theorem xpm_rendered_iff (vg : Vg) (addressable : vg.Addressable) (x y : UInt16)
    (img : Proj.XpmImage) (right : x.toNat + img.width ≤ vg.xRes.toNat)
    (bottom : y.toNat + img.height ≤ vg.yRes.toNat)
    (loaded : img.bytes.length = img.width * img.height * vg.n) :
    (∀ videoMem, Rendered vg x y img videoMem (vg.drawpixels (drawXpm x y img) videoMem)) ↔
      vg.n = 1 ∨ ∀ i, 1 ≤ i → img.byte i = 0 := by
  have enough : ∀ p < img.width * img.height, vg.n * p + vg.n ≤ img.bytes.length := by
    intro p inside
    rw [loaded]
    calc vg.n * p + vg.n = (p + 1) * vg.n := by ring
      _ ≤ img.width * img.height * vg.n := Nat.mul_le_mul_right _ inside
  have past : ∀ i, vg.n * (img.width * img.height) ≤ i → img.byte i = 0 := by
    intro i outside
    rw [Proj.XpmImage.byte, List.getElem?_eq_none (by rw [loaded, Nat.mul_comm]; exact outside)]
    rfl
  rw [← pixel_bytes_all_iff img.byte vg.n (img.width * img.height) addressable.deep past]
  simp only [rendered_iff addressable right bottom, forall_const]
  rw [forall_pixels_iff img.width img.height (fun p => vg.bytes (img.byte p).toUInt32 =
    (img.bytes.drop (vg.n * p)).take vg.n)]
  exact forall₂_congr (fun p inside => pixel_bytes_iff addressable (enough p inside))

/-- An indexed image of two pixels. -/
theorem xpm_rendered_indexed : Rendered mode105 3 2 ⟨2, 1, [7, 5]⟩ (fun _ => 9)
    (mode105.drawpixels (drawXpm 3 2 ⟨2, 1, [7, 5]⟩) (fun _ => 9)) :=
  (xpm_rendered_iff mode105 ⟨by decide, by decide, by decide⟩ 3 2 ⟨2, 1, [7, 5]⟩ (by decide)
    (by decide) (by decide)).mpr (.inl (by decide)) (fun _ => 9)

def mode14C : Vg := ⟨1152, 864, 32, 6, 8, 16, 8, 8, 8, 0⟩

/-- Of the four bytes of a pixel only the first one is drawn. -/
theorem xpm_direct_color :
    mode14C.Addressable ∧
    mode14C.raster.pixel (mode14C.drawpixels (drawXpm 0 0 ⟨1, 1, [1, 2, 3, 255]⟩) (fun _ => 0)) 0 0 =
      [1, 0, 0, 0] ∧
    ¬ Rendered mode14C 0 0 ⟨1, 1, [1, 2, 3, 255]⟩ (fun _ => 0)
      (mode14C.drawpixels (drawXpm 0 0 ⟨1, 1, [1, 2, 3, 255]⟩) (fun _ => 0)) := by
  refine ⟨⟨by decide, by decide, by decide⟩, by decide +kernel, ?_⟩
  intro rendered
  exact absurd (rendered.shown 0 (by decide) 0 (by decide)) (by decide +kernel)

end Lcom.Lab5
