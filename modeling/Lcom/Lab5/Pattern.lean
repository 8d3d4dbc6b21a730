import Lcom.Lab5.Rectangles
import Lcom.Lib.Bits

/-! The rectangles of `vg_drawpattern` and their colors. -/

namespace Lcom.Lab5

open Lcom.Lib

namespace Vg

variable (vg : Vg) (noRectangles : UInt8)

def tileWidth : Nat := vg.xRes.toNat / noRectangles.toNat

def tileHeight : Nat := vg.yRes.toNat / noRectangles.toNat

def tile (color : Nat → Nat → UInt32) (row col : Nat) : RectangleCall :=
  ⟨.ofNat (col * (vg.xRes / noRectangles.toUInt16).toNat),
    .ofNat (row * (vg.yRes / noRectangles.toUInt16).toNat),
    vg.xRes / noRectangles.toUInt16, vg.yRes / noRectangles.toUInt16, color row col⟩

theorem patternLoops_eq (color : Nat → Nat → UInt32) :
    vg.patternLoops noRectangles color =
      (List.range (noRectangles.toNat * noRectangles.toNat)).map fun k =>
        vg.tile noRectangles color (k / noRectangles.toNat) (k % noRectangles.toNat) :=
  flatMap_range_eq (vg.tile noRectangles color) noRectangles.toNat noRectangles.toNat

theorem drawpattern_indexed (macros : VbeMacros) (indexed : vg.colorMode = macros.indexedMode)
    {noRectangles : UInt8} (some : 1 ≤ noRectangles.toNat) (first : UInt32) (step : UInt8) :
    vg.drawpattern macros noRectangles first step =
      .some (0, vg.patternLoops noRectangles (vg.indexedColor noRectangles first step)) := by
  have nonzero : noRectangles ≠ 0 := by
    rintro rfl
    exact absurd some (by decide)
  rw [drawpattern, if_neg nonzero, if_pos indexed]

theorem drawpattern_direct (macros : VbeMacros) (direct : vg.colorMode = macros.directMode)
    {noRectangles : UInt8} (some : 1 ≤ noRectangles.toNat) (first : UInt32) (step : UInt8) :
    vg.drawpattern macros noRectangles first step =
      .some (0, vg.patternLoops noRectangles (vg.directColor first step)) := by
  have nonzero : noRectangles ≠ 0 := by
    rintro rfl
    exact absurd some (by decide)
  have other : vg.colorMode ≠ macros.indexedMode := by
    rw [direct]
    exact macros.distinct.symm
  rw [drawpattern, if_neg nonzero, if_neg other, if_pos direct]

theorem patternLoops_getElem? (color : Nat → Nat → UInt32) {row col : Nat}
    (rows : row < noRectangles.toNat) (columns : col < noRectangles.toNat) :
    (vg.patternLoops noRectangles color)[row * noRectangles.toNat + col]? =
      some (vg.tile noRectangles color row col) := by
  have inside : row * noRectangles.toNat + col < noRectangles.toNat * noRectangles.toNat := by
    calc row * noRectangles.toNat + col
        < row * noRectangles.toNat + noRectangles.toNat := Nat.add_lt_add_left columns _
      _ = (row + 1) * noRectangles.toNat := by ring
      _ ≤ noRectangles.toNat * noRectangles.toNat := Nat.mul_le_mul_right _ rows
  rw [patternLoops_eq, List.getElem?_map, List.getElem?_range inside, Option.map_some,
    Nat.mul_comm, Nat.mul_add_div (by omega), Nat.mul_add_mod, Nat.div_eq_of_lt columns,
    Nat.mod_eq_of_lt columns, Nat.add_zero]

theorem mem_patternLoops (color : Nat → Nat → UInt32) (call : RectangleCall) :
    call ∈ vg.patternLoops noRectangles color ↔
      ∃ row < noRectangles.toNat, ∃ col < noRectangles.toNat,
        call = vg.tile noRectangles color row col := by
  simp only [patternLoops, List.mem_flatMap, List.mem_map, List.mem_range]
  constructor
  · rintro ⟨row, rows, col, columns, rfl⟩
    exact ⟨row, rows, col, columns, rfl⟩
  · rintro ⟨row, rows, col, columns, rfl⟩
    exact ⟨row, rows, col, columns, rfl⟩

theorem tile_width (color : Nat → Nat → UInt32) (row col : Nat) :
    (vg.tile noRectangles color row col).width.toNat = vg.tileWidth noRectangles := by
  rw [tile, UInt16.toNat_div, UInt8.toNat_toUInt16]
  rfl

theorem tile_height (color : Nat → Nat → UInt32) (row col : Nat) :
    (vg.tile noRectangles color row col).height.toNat = vg.tileHeight noRectangles := by
  rw [tile, UInt16.toNat_div, UInt8.toNat_toUInt16]
  rfl

theorem multiple_fits {index count : Nat} (inside : index < count) (resolution : UInt16) :
    index * (resolution.toNat / count) + resolution.toNat / count ≤ resolution.toNat :=
  calc index * (resolution.toNat / count) + resolution.toNat / count
      = (index + 1) * (resolution.toNat / count) := by ring
    _ ≤ count * (resolution.toNat / count) := Nat.mul_le_mul_right _ inside
    _ ≤ resolution.toNat := Nat.mul_div_le _ _

theorem multiple_eq {index count : Nat} (inside : index < count) (resolution : UInt16) :
    (UInt16.ofNat (index * (resolution.toNat / count))).toNat =
      index * (resolution.toNat / count) := by
  have fits := Nat.le_trans (Nat.le_add_right _ _) (multiple_fits inside resolution)
  exact UInt16.toNat_ofNat_of_lt' (Nat.lt_of_le_of_lt fits resolution.toNat_lt)

theorem stripe_lt {count : Nat} (some : 1 ≤ count) (resolution : UInt16) :
    resolution.toNat - count * (resolution.toNat / count) < count := by
  have divided := Nat.div_add_mod resolution.toNat count
  have rest := Nat.mod_lt resolution.toNat some
  omega

variable {noRectangles}

theorem tile_x (color : Nat → Nat → UInt32) (row : Nat) {col : Nat}
    (columns : col < noRectangles.toNat) :
    (vg.tile noRectangles color row col).x.toNat = col * vg.tileWidth noRectangles := by
  rw [tile, UInt16.toNat_div, UInt8.toNat_toUInt16]
  exact multiple_eq columns vg.xRes

theorem tile_y (color : Nat → Nat → UInt32) {row : Nat} (rows : row < noRectangles.toNat)
    (col : Nat) :
    (vg.tile noRectangles color row col).y.toNat = row * vg.tileHeight noRectangles := by
  rw [tile, UInt16.toNat_div, UInt8.toNat_toUInt16]
  exact multiple_eq rows vg.yRes

theorem tile_onScreen (color : Nat → Nat → UInt32) {row col : Nat}
    (rows : row < noRectangles.toNat) (columns : col < noRectangles.toNat) :
    (vg.tile noRectangles color row col).OnScreen vg := by
  refine ⟨?_, ?_⟩
  · rw [vg.tile_x color row columns, tile_width]
    exact multiple_fits columns vg.xRes
  · rw [vg.tile_y color rows col, tile_height]
    exact multiple_fits rows vg.yRes

theorem tile_contains (color : Nat → Nat → UInt32) {row col : Nat}
    (rows : row < noRectangles.toNat) (columns : col < noRectangles.toNat) (j i : Nat) :
    (vg.tile noRectangles color row col).Contains j i ↔
      (0 < vg.tileWidth noRectangles ∧ j / vg.tileWidth noRectangles = col) ∧
        0 < vg.tileHeight noRectangles ∧ i / vg.tileHeight noRectangles = row := by
  rw [RectangleCall.Contains, vg.tile_x color row columns, vg.tile_y color rows col, tile_width,
    tile_height, interval_iff, interval_iff]

theorem patternLoops_disjoint (color : Nat → Nat → UInt32) :
    (vg.patternLoops noRectangles color).Pairwise
      (fun tile other => ∀ j i, ¬ (tile.Contains j i ∧ other.Contains j i)) := by
  rw [patternLoops_eq, List.pairwise_map]
  refine List.pairwise_lt_range.imp_of_mem ?_
  rintro k k' member member' before j i ⟨contains, contains'⟩
  have bound := List.mem_range.mp member
  have bound' := List.mem_range.mp member'
  have some : 0 < noRectangles.toNat := Nat.pos_of_mul_pos_right (Nat.zero_lt_of_lt bound)
  rw [vg.tile_contains color (Nat.div_lt_of_lt_mul bound) (Nat.mod_lt _ some)] at contains
  rw [vg.tile_contains color (Nat.div_lt_of_lt_mul bound') (Nat.mod_lt _ some)] at contains'
  have same : k = k' := by
    rw [← Nat.div_add_mod k noRectangles.toNat, ← Nat.div_add_mod k' noRectangles.toNat,
      ← contains.1.2, ← contains.2.2, ← contains'.1.2, ← contains'.2.2]
  omega

theorem patternLoops_cover (color : Nat → Nat → UInt32) (j i : Nat) :
    (∃ tile ∈ vg.patternLoops noRectangles color, tile.Contains j i) ↔
      j < noRectangles.toNat * vg.tileWidth noRectangles ∧
        i < noRectangles.toNat * vg.tileHeight noRectangles := by
  constructor
  · rintro ⟨tile, member, contains⟩
    obtain ⟨row, rows, col, columns, rfl⟩ := (vg.mem_patternLoops noRectangles color tile).mp member
    obtain ⟨⟨wide, rfl⟩, high, rfl⟩ := (vg.tile_contains color rows columns j i).mp contains
    exact ⟨(Nat.div_lt_iff_lt_mul wide).mp columns, (Nat.div_lt_iff_lt_mul high).mp rows⟩
  · rintro ⟨left, above⟩
    have wide : 0 < vg.tileWidth noRectangles := Nat.pos_of_mul_pos_left (Nat.zero_lt_of_lt left)
    have high : 0 < vg.tileHeight noRectangles := Nat.pos_of_mul_pos_left (Nat.zero_lt_of_lt above)
    have columns := (Nat.div_lt_iff_lt_mul wide).mpr left
    have rows := (Nat.div_lt_iff_lt_mul high).mpr above
    exact ⟨_, (vg.mem_patternLoops noRectangles color _).mpr ⟨_, rows, _, columns, rfl⟩,
      (vg.tile_contains color rows columns j i).mpr ⟨⟨wide, rfl⟩, high, rfl⟩⟩

/-- The wrap of the 32-bit sum does not matter modulo a power of 2. -/
theorem stepped_mod (start : UInt32) (count : Nat) (step : UInt8) {bits : Nat} (small : bits ≤ 32) :
    (start + .ofNat count * step.toUInt32).toNat % 2 ^ bits =
      (start.toNat + count * step.toNat) % 2 ^ bits := by
  have sum : start + .ofNat count * step.toUInt32 =
      UInt32.ofNat (start.toNat + count * step.toNat) := by
    rw [UInt32.ofNat_add, UInt32.ofNat_mul, UInt32.ofNat_toNat, UInt32.ofNat_uInt8ToNat]
  rw [sum, UInt32.toNat_ofNat', Nat.mod_mod_of_dvd _ (Nat.pow_dvd_pow 2 small)]

theorem indexedColor_eq (deep : vg.bitsPerPixel = 8) (first : UInt32) (step : UInt8)
    (row col : Nat) :
    (vg.indexedColor noRectangles first step row col).toNat =
      (first.toNat + (row * noRectangles.toNat + col) * step.toNat) % 256 := by
  have index : UInt32.ofNat row * noRectangles.toUInt32 + .ofNat col =
      .ofNat (row * noRectangles.toNat + col) := by
    rw [UInt32.ofNat_add, UInt32.ofNat_mul, UInt32.ofNat_uInt8ToNat]
  rw [indexedColor, index, UInt32.toNat_mod, deep]
  exact stepped_mod first _ step (by decide : 8 ≤ 32)

end Vg

/-- In indexed mode the pattern is a grid of equal rectangles, with the colors of the formula. -/
theorem indexed_pattern_tiles (macros : VbeMacros) (vg : Vg)
    (indexed : vg.colorMode = macros.indexedMode) (deep : vg.bitsPerPixel = 8)
    (noRectangles : UInt8) (some : 1 ≤ noRectangles.toNat) (first : UInt32) (step : UInt8) :
    ∃ tiles, vg.drawpattern macros noRectangles first step = .some (0, tiles) ∧
      tiles.length = noRectangles.toNat * noRectangles.toNat ∧
      (∀ tile ∈ tiles, tile.width.toNat = vg.xRes.toNat / noRectangles.toNat ∧
        tile.height.toNat = vg.yRes.toNat / noRectangles.toNat ∧ tile.OnScreen vg) ∧
      tiles.Pairwise (fun tile other => ∀ j i, ¬ (tile.Contains j i ∧ other.Contains j i)) ∧
      (∀ j i, (∃ tile ∈ tiles, tile.Contains j i) ↔
        j < noRectangles.toNat * (vg.xRes.toNat / noRectangles.toNat) ∧
          i < noRectangles.toNat * (vg.yRes.toNat / noRectangles.toNat)) ∧
      (vg.xRes.toNat - noRectangles.toNat * (vg.xRes.toNat / noRectangles.toNat) <
          noRectangles.toNat ∧
        vg.yRes.toNat - noRectangles.toNat * (vg.yRes.toNat / noRectangles.toNat) <
          noRectangles.toNat) ∧
      ∀ row < noRectangles.toNat, ∀ col < noRectangles.toNat,
        ∃ tile, tiles[row * noRectangles.toNat + col]? = .some tile ∧
          tile.x.toNat = col * (vg.xRes.toNat / noRectangles.toNat) ∧
          tile.y.toNat = row * (vg.yRes.toNat / noRectangles.toNat) ∧
          tile.color.toNat =
            (first.toNat + (row * noRectangles.toNat + col) * step.toNat) % 256 := by
  refine ⟨_, vg.drawpattern_indexed macros indexed some first step, ?_, ?_,
    vg.patternLoops_disjoint _, vg.patternLoops_cover _,
    ⟨Vg.stripe_lt some vg.xRes, Vg.stripe_lt some vg.yRes⟩, ?_⟩
  · rw [Vg.patternLoops_eq, List.length_map, List.length_range]
  · intro tile member
    obtain ⟨row, rows, col, columns, rfl⟩ := (vg.mem_patternLoops noRectangles _ tile).mp member
    exact ⟨vg.tile_width noRectangles _ row col, vg.tile_height noRectangles _ row col,
      vg.tile_onScreen _ rows columns⟩
  · intro row rows col columns
    exact ⟨_, vg.patternLoops_getElem? noRectangles _ rows columns, vg.tile_x _ row columns,
      vg.tile_y _ rows col, vg.indexedColor_eq deep first step row col⟩

/-- Three times three rectangles in mode `0x105`. -/
theorem indexed_pattern_tiles_three :
    ∃ tiles, mode105.drawpattern ⟨4, 6, by decide⟩ 3 250 1 = some (0, tiles) ∧
      tiles.length = 9 ∧ (∀ tile ∈ tiles, tile.OnScreen mode105) ∧
      ∃ tile, tiles[8]? = some tile ∧ tile.color.toNat = 2 := by
  obtain ⟨tiles, drawn, count, sizes, _, _, _, colors⟩ :=
    indexed_pattern_tiles ⟨4, 6, by decide⟩ mode105 rfl rfl 3 (by decide) 250 1
  obtain ⟨tile, last, _, _, color⟩ := colors 2 (by decide) 2 (by decide)
  exact ⟨tiles, drawn, count, fun tile member => (sizes tile member).2.2, tile, last, color⟩

structure FieldFits (mask fieldPos : UInt8) : Prop where
  small : mask.toNat ≤ 8
  begins : fieldPos.toNat < 32
  ends : fieldPos.toNat + mask.toNat ≤ 32

structure DirectLayout (vg : Vg) : Prop where
  red : FieldFits vg.redMask vg.redFieldPos
  green : FieldFits vg.greenMask vg.greenFieldPos
  blue : FieldFits vg.blueMask vg.blueFieldPos
  redGreen : vg.redFieldPos.toNat + vg.redMask.toNat ≤ vg.greenFieldPos.toNat ∨
    vg.greenFieldPos.toNat + vg.greenMask.toNat ≤ vg.redFieldPos.toNat
  redBlue : vg.redFieldPos.toNat + vg.redMask.toNat ≤ vg.blueFieldPos.toNat ∨
    vg.blueFieldPos.toNat + vg.blueMask.toNat ≤ vg.redFieldPos.toNat
  greenBlue : vg.greenFieldPos.toNat + vg.greenMask.toNat ≤ vg.blueFieldPos.toNat ∨
    vg.blueFieldPos.toNat + vg.blueMask.toNat ≤ vg.greenFieldPos.toNat

def colorComponent (color : UInt32) (maskSize fieldPos : UInt8) : Nat :=
  field color.toNat fieldPos.toNat maskSize.toNat

structure DirectFormula (vg : Vg) (first : UInt32) (step : UInt8) (row col : Nat)
    (color : UInt32) : Prop where
  red : colorComponent color vg.redMask vg.redFieldPos =
    (colorComponent first vg.redMask vg.redFieldPos + col * step.toNat) % 2 ^ vg.redMask.toNat
  green : colorComponent color vg.greenMask vg.greenFieldPos =
    (colorComponent first vg.greenMask vg.greenFieldPos + row * step.toNat) %
      2 ^ vg.greenMask.toNat
  blue : colorComponent color vg.blueMask vg.blueFieldPos =
    (colorComponent first vg.blueMask vg.blueFieldPos + (col + row) * step.toNat) %
      2 ^ vg.blueMask.toNat
  clear : ∀ i, color.toNat.testBit i = true →
    (vg.redFieldPos.toNat ≤ i ∧ i < vg.redFieldPos.toNat + vg.redMask.toNat) ∨
    (vg.greenFieldPos.toNat ≤ i ∧ i < vg.greenFieldPos.toNat + vg.greenMask.toNat) ∨
    (vg.blueFieldPos.toNat ≤ i ∧ i < vg.blueFieldPos.toNat + vg.blueMask.toNat)

/-- The bits of `first` in a field are also bits of the number that is the size of its mask. -/
def Survives (first : UInt32) (maskSize fieldPos : UInt8) : Prop :=
  ∀ i < maskSize.toNat, first.toNat.testBit (fieldPos.toNat + i) = true →
    maskSize.toNat.testBit (fieldPos.toNat + i) = true

instance (first : UInt32) (maskSize fieldPos : UInt8) :
    Decidable (Survives first maskSize fieldPos) :=
  inferInstanceAs (Decidable (∀ i < maskSize.toNat, _ → _))

namespace Vg

variable {mask fieldPos : UInt8}

theorem componentFirst_eq (fits : FieldFits mask fieldPos) (first : UInt32) :
    (componentFirst first mask fieldPos).toNat =
      ((first.toNat &&& mask.toNat) >>> fieldPos.toNat) % 2 ^ 8 := by
  rw [componentFirst, UInt32.toNat_toUInt8, UInt32.toNat_shiftRight, UInt32.toNat_and,
    UInt8.toNat_toUInt32, UInt8.toNat_toUInt32, Nat.mod_eq_of_lt fits.begins]

/-- The steps begin at the field of `first & size`, not at the field of `first`. -/
theorem component_eq (fits : FieldFits mask fieldPos) (first : UInt32) (step : UInt8)
    (steps : Nat) :
    (component first step mask fieldPos steps).toNat =
      (field (first.toNat &&& mask.toNat) fieldPos.toNat mask.toNat + steps * step.toNat) %
        2 ^ mask.toNat := by
  have small := fits.small
  have power : 2 ^ mask.toNat ≤ 2 ^ 8 := Nat.pow_le_pow_right (by decide) small
  have modulus : ((1 : UInt32) <<< mask.toUInt32).toNat = 2 ^ mask.toNat := by
    rw [UInt32.toNat_shiftLeft, UInt8.toNat_toUInt32, Nat.mod_eq_of_lt (by omega : _ < 32)]
    change 1 <<< mask.toNat % 2 ^ 32 = 2 ^ mask.toNat
    rw [Nat.one_shiftLeft, Nat.mod_eq_of_lt (by omega)]
  have start : ∀ value, (value % 2 ^ 8 + steps * step.toNat) % 2 ^ mask.toNat =
      (value % 2 ^ mask.toNat + steps * step.toNat) % 2 ^ mask.toNat := by
    intro value
    rw [Nat.add_mod, Nat.mod_mod_of_dvd _ (Nat.pow_dvd_pow 2 small), ← Nat.add_mod,
      Nat.mod_add_mod]
  have below : ∀ value, value % 2 ^ mask.toNat < 2 ^ 16 := by
    intro value
    have bound := Nat.mod_lt value (Nat.two_pow_pos mask.toNat)
    omega
  rw [component, UInt32.toNat_toUInt16, UInt32.toNat_mod, modulus, Nat.mod_eq_of_lt (below _),
    stepped_mod _ _ _ (Nat.le_trans small (by decide)), UInt8.toNat_toUInt32,
    componentFirst_eq fits, start]
  rfl

theorem component_lt (fits : FieldFits mask fieldPos) (first : UInt32) (step : UInt8)
    (steps : Nat) : (component first step mask fieldPos steps).toNat < 2 ^ mask.toNat := by
  rw [component_eq fits]
  exact Nat.mod_lt _ (Nat.two_pow_pos _)

theorem component_iff (fits : FieldFits mask fieldPos) (first : UInt32) (step : UInt8)
    (steps : Nat) :
    (component first step mask fieldPos steps).toNat =
      (colorComponent first mask fieldPos + steps * step.toNat) % 2 ^ mask.toNat ↔
    Survives first mask fieldPos := by
  rw [component_eq fits, Survives, ← field_and_eq_iff]
  constructor
  · intro same
    have start : field (first.toNat &&& mask.toNat) fieldPos.toNat mask.toNat ≡
        colorComponent first mask fieldPos [MOD 2 ^ mask.toNat] :=
      Nat.ModEq.add_right_cancel' (steps * step.toNat) same
    exact start.eq_of_lt_of_lt (Nat.mod_lt _ (Nat.two_pow_pos _)) (Nat.mod_lt _ (Nat.two_pow_pos _))
  · intro same
    rw [same]
    rfl

theorem shifted_eq (fits : FieldFits mask fieldPos) {value : UInt16}
    (below : value.toNat < 2 ^ mask.toNat) :
    (value.toUInt32 <<< fieldPos.toUInt32).toNat = value.toNat <<< fieldPos.toNat := by
  have inside : value.toNat <<< fieldPos.toNat < 2 ^ 32 :=
    calc value.toNat <<< fieldPos.toNat
        < 2 ^ (mask.toNat + fieldPos.toNat) := Nat.shiftLeft_lt below
      _ ≤ 2 ^ 32 := Nat.pow_le_pow_right (by decide) (by have ends := fits.ends; omega)
  rw [UInt32.toNat_shiftLeft, UInt16.toNat_toUInt32, UInt8.toNat_toUInt32,
    Nat.mod_eq_of_lt fits.begins, Nat.mod_eq_of_lt inside]

section Direct

variable {vg : Vg} (layout : DirectLayout vg) (first : UInt32) (step : UInt8) (row col : Nat)

include layout

theorem directColor_eq : (vg.directColor first step row col).toNat =
    (component first step vg.redMask vg.redFieldPos col).toNat <<< vg.redFieldPos.toNat |||
    (component first step vg.greenMask vg.greenFieldPos row).toNat <<< vg.greenFieldPos.toNat |||
    (component first step vg.blueMask vg.blueFieldPos (col + row)).toNat <<<
      vg.blueFieldPos.toNat := by
  rw [directColor, UInt32.toNat_or, UInt32.toNat_or, UInt32.toNat_or,
    shifted_eq layout.red (component_lt layout.red first step col),
    shifted_eq layout.green (component_lt layout.green first step row),
    shifted_eq layout.blue (component_lt layout.blue first step (col + row))]
  simp

theorem directColor_components :
    colorComponent (vg.directColor first step row col) vg.redMask vg.redFieldPos =
      (component first step vg.redMask vg.redFieldPos col).toNat ∧
    colorComponent (vg.directColor first step row col) vg.greenMask vg.greenFieldPos =
      (component first step vg.greenMask vg.greenFieldPos row).toNat ∧
    colorComponent (vg.directColor first step row col) vg.blueMask vg.blueFieldPos =
      (component first step vg.blueMask vg.blueFieldPos (col + row)).toNat := by
  have red := component_lt layout.red first step col
  have green := component_lt layout.green first step row
  have blue := component_lt layout.blue first step (col + row)
  simp only [colorComponent, directColor_eq layout, field_or]
  refine ⟨?_, ?_, ?_⟩
  · rw [field_shiftLeft red, field_shiftLeft_apart green layout.redGreen.symm,
      field_shiftLeft_apart blue layout.redBlue.symm, Nat.or_zero, Nat.or_zero]
  · rw [field_shiftLeft green, field_shiftLeft_apart red layout.redGreen,
      field_shiftLeft_apart blue layout.greenBlue.symm, Nat.zero_or, Nat.or_zero]
  · rw [field_shiftLeft blue, field_shiftLeft_apart red layout.redBlue,
      field_shiftLeft_apart green layout.greenBlue, Nat.zero_or, Nat.zero_or]

theorem directColor_clear {i : Nat}
    (bit : (vg.directColor first step row col).toNat.testBit i = true) :
    (vg.redFieldPos.toNat ≤ i ∧ i < vg.redFieldPos.toNat + vg.redMask.toNat) ∨
    (vg.greenFieldPos.toNat ≤ i ∧ i < vg.greenFieldPos.toNat + vg.greenMask.toNat) ∨
    (vg.blueFieldPos.toNat ≤ i ∧ i < vg.blueFieldPos.toNat + vg.blueMask.toNat) := by
  by_contra outside
  have red := testBit_shiftLeft_outside (component_lt layout.red first step col)
    (show i < vg.redFieldPos.toNat ∨ vg.redFieldPos.toNat + vg.redMask.toNat ≤ i by omega)
  have green := testBit_shiftLeft_outside (component_lt layout.green first step row)
    (show i < vg.greenFieldPos.toNat ∨ vg.greenFieldPos.toNat + vg.greenMask.toNat ≤ i by omega)
  have blue := testBit_shiftLeft_outside (component_lt layout.blue first step (col + row))
    (show i < vg.blueFieldPos.toNat ∨ vg.blueFieldPos.toNat + vg.blueMask.toNat ≤ i by omega)
  rw [directColor_eq layout, Nat.testBit_or, Nat.testBit_or, red, green, blue] at bit
  cases bit

theorem directColor_formula_iff :
    DirectFormula vg first step row col (vg.directColor first step row col) ↔
      Survives first vg.redMask vg.redFieldPos ∧ Survives first vg.greenMask vg.greenFieldPos ∧
        Survives first vg.blueMask vg.blueFieldPos := by
  obtain ⟨red, green, blue⟩ := directColor_components layout first step row col
  rw [← component_iff layout.red first step col, ← component_iff layout.green first step row,
    ← component_iff layout.blue first step (col + row), ← red, ← green, ← blue]
  constructor
  · intro formula
    exact ⟨formula.red, formula.green, formula.blue⟩
  · rintro ⟨redFormula, greenFormula, blueFormula⟩
    exact ⟨redFormula, greenFormula, blueFormula,
      fun _ bit => directColor_clear layout first step row col bit⟩

end Direct

end Vg

/-- In direct mode the rectangles have the colors of the formula if every field of `first` goes
through its mask, for which `vg_drawpattern` takes the size of the mask. -/
theorem direct_pattern_formula_iff (macros : VbeMacros) (vg : Vg)
    (direct : vg.colorMode = macros.directMode) (layout : DirectLayout vg) (noRectangles : UInt8)
    (some : 1 ≤ noRectangles.toNat) (first : UInt32) (step : UInt8) :
    (∃ tiles, vg.drawpattern macros noRectangles first step = .some (0, tiles) ∧
      ∀ row < noRectangles.toNat, ∀ col < noRectangles.toNat,
        ∃ tile, tiles[row * noRectangles.toNat + col]? = .some tile ∧
          DirectFormula vg first step row col tile.color) ↔
    Survives first vg.redMask vg.redFieldPos ∧ Survives first vg.greenMask vg.greenFieldPos ∧
      Survives first vg.blueMask vg.blueFieldPos := by
  have drawn := vg.drawpattern_direct macros direct some first step
  constructor
  · rintro ⟨tiles, same, colored⟩
    obtain ⟨tile, there, formula⟩ := colored 0 some 0 some
    rw [drawn, Option.some.injEq, Prod.mk.injEq] at same
    rw [← same.2, vg.patternLoops_getElem? noRectangles _ some some] at there
    rw [← Option.some.inj there] at formula
    exact (Vg.directColor_formula_iff layout first step 0 0).mp formula
  · intro survive
    refine ⟨_, drawn, ?_⟩
    intro row rows col columns
    exact ⟨_, vg.patternLoops_getElem? noRectangles _ rows columns,
      (Vg.directColor_formula_iff layout first step row col).mpr survive⟩

def mode115 : Vg := ⟨800, 600, 24, 6, 8, 16, 8, 8, 8, 0⟩

theorem mode115_layout : DirectLayout mode115 :=
  ⟨⟨by decide, by decide, by decide⟩, ⟨by decide, by decide, by decide⟩,
    ⟨by decide, by decide, by decide⟩, by decide, by decide, by decide⟩

/-- The formula holds in mode `0x115` if the first color is black. -/
theorem direct_pattern_black :
    ∃ tiles, mode115.drawpattern ⟨4, 6, by decide⟩ 2 0 3 = some (0, tiles) ∧
      ∀ row < 2, ∀ col < 2, ∃ tile, tiles[row * 2 + col]? = some tile ∧
        DirectFormula mode115 0 3 row col tile.color :=
  (direct_pattern_formula_iff ⟨4, 6, by decide⟩ mode115 rfl mode115_layout 2 (by decide) 0 3).mpr
    ⟨by decide, by decide, by decide⟩

/-- With a red first color the only rectangle is black. -/
theorem direct_pattern_red :
    DirectLayout mode115 ∧
    mode115.drawpattern ⟨4, 6, by decide⟩ 1 0xFF0000 0 = some (0, [⟨0, 0, 800, 600, 0⟩]) ∧
    ¬ DirectFormula mode115 0xFF0000 0 0 0 0 := by
  refine ⟨mode115_layout, by decide +kernel, ?_⟩
  intro formula
  exact absurd formula.red (by decide +kernel)

end Lcom.Lab5
