import Lcom.Lib.Raster
import Lcom.Minix.Calls
import Lcom.Proj.Sprites

/-! The drawing functions of `lab5/vg.c`. A function that draws is the list of the calls it makes,
down to the calls of `vg_drawpixel`. -/

namespace Lcom.Lab5

open Lcom.Lib

/-- The two memory models of `vbemacros.h`, a header that the repository does not have. -/
structure VbeMacros where
  indexedMode : UInt8
  directMode : UInt8
  distinct : indexedMode ≠ directMode

structure ModeInfo extends Minix.ModeInfo where
  redMaskSize : UInt8
  redFieldPosition : UInt8
  greenMaskSize : UInt8
  greenFieldPosition : UInt8
  blueMaskSize : UInt8
  blueFieldPosition : UInt8
  deriving DecidableEq, Repr

structure Vg where
  xRes : UInt16
  yRes : UInt16
  bitsPerPixel : UInt8
  colorMode : UInt8
  redMask : UInt8
  redFieldPos : UInt8
  greenMask : UInt8
  greenFieldPos : UInt8
  blueMask : UInt8
  blueFieldPos : UInt8
  deriving DecidableEq, Repr

/-- The range given to `sys_privctl`, and the size given to `vm_map_phys`. -/
structure Mapping where
  base : Nat
  limit : Nat
  vramSize : Nat
  deriving DecidableEq, Repr

/-- What `vg_get_mode_info` leaves if it returns 0; it returns 1 without mode information, and
does not return if the memory cannot be mapped. -/
def vgGetModeInfo (info : Option ModeInfo) : Option (Vg × Mapping) :=
  info.map fun info =>
    let vramBase := info.physBasePtr.toNat
    -- the division comes first and rounds down
    let vramSize := info.xResolution.toNat * info.yResolution.toNat *
      (info.bitsPerPixel.toNat / 8) % 2 ^ 32
    (⟨info.xResolution, info.yResolution, info.bitsPerPixel, info.memoryModel,
      info.redMaskSize, info.redFieldPosition, info.greenMaskSize, info.greenFieldPosition,
      info.blueMaskSize, info.blueFieldPosition⟩,
     ⟨vramBase, vramBase + vramSize, vramSize⟩)

structure PixelCall where
  x : UInt16
  y : UInt16
  color : UInt32
  deriving DecidableEq, Repr

structure RectangleCall where
  x : UInt16
  y : UInt16
  width : UInt16
  height : UInt16
  color : UInt32
  deriving DecidableEq, Repr

namespace PixelCall

def place (call : PixelCall) : Nat × Nat := (call.x.toNat, call.y.toNat)

end PixelCall

namespace Vg

variable (vg : Vg)

def n : Nat := (vg.bitsPerPixel.toNat + 7) >>> 3

def start (call : PixelCall) : Nat :=
  vg.n * (call.y.toNat * vg.xRes.toNat + call.x.toNat) % 2 ^ 32

def bytes (color : UInt32) : List UInt8 := (littleEndian color).take vg.n

def drawpixel (videoMem : Memory) (call : PixelCall) : Memory :=
  videoMem.store (vg.start call) (vg.bytes call.color)

def drawpixels (calls : List PixelCall) (videoMem : Memory) : Memory :=
  calls.foldl vg.drawpixel videoMem

/-- The loop of `vg_drawline`. Its guard adds the counter to the `x` that the body advances. -/
def lineLoop (y : UInt16) (color : UInt32) : (left i : Nat) → (x : UInt16) → List PixelCall
  | 0, _, _ => []
  | left + 1, i, x =>
      if i + x.toNat < vg.xRes.toNat then ⟨x, y, color⟩ :: lineLoop y color left (i + 1) (x + 1)
      else []

def drawline (x y len : UInt16) (color : UInt32) : List PixelCall :=
  vg.lineLoop y color len.toNat 0 x

/-- The loop of `vg_drawrectangle`; nothing relates `y` to `Yres`. -/
def rectangleLoop (x width : UInt16) (color : UInt32) : (left : Nat) → (y : UInt16) → List PixelCall
  | 0, _ => []
  | left + 1, y => vg.drawline x y width color ++ rectangleLoop x width color left (y + 1)

def drawrectangle (call : RectangleCall) : List PixelCall :=
  vg.rectangleLoop call.x call.width call.color call.height.toNat call.y

/-- The color of a rectangle in indexed mode, with the 32-bit `size_t` of the counters. -/
def indexedColor (noRectangles : UInt8) (first : UInt32) (step : UInt8) (row col : Nat) : UInt32 :=
  (first + (.ofNat row * noRectangles.toUInt32 + .ofNat col) * step.toUInt32) %
    (1 <<< vg.bitsPerPixel.toUInt32)

/-- `redFirst`, `greenFirst` and `blueFirst`. The mask is the mask size of the mode. -/
def componentFirst (first : UInt32) (mask fieldPos : UInt8) : UInt8 :=
  ((first &&& mask.toUInt32) >>> fieldPos.toUInt32).toUInt8

/-- `red`, `green` and `blue`, for the number of steps from the first rectangle. -/
def component (first : UInt32) (step mask fieldPos : UInt8) (steps : Nat) : UInt16 :=
  (((componentFirst first mask fieldPos).toUInt32 + .ofNat steps * step.toUInt32) %
    (1 <<< mask.toUInt32)).toUInt16

def directColor (first : UInt32) (step : UInt8) (row col : Nat) : UInt32 :=
  let red := component first step vg.redMask vg.redFieldPos col
  let green := component first step vg.greenMask vg.greenFieldPos row
  let blue := component first step vg.blueMask vg.blueFieldPos (col + row)
  0 ||| (red.toUInt32 <<< vg.redFieldPos.toUInt32) |||
    (green.toUInt32 <<< vg.greenFieldPos.toUInt32) ||| (blue.toUInt32 <<< vg.blueFieldPos.toUInt32)

def patternLoops (noRectangles : UInt8) (color : Nat → Nat → UInt32) : List RectangleCall :=
  let width := vg.xRes / noRectangles.toUInt16
  let height := vg.yRes / noRectangles.toUInt16
  (List.range noRectangles.toNat).flatMap fun row =>
    (List.range noRectangles.toNat).map fun col =>
      ⟨.ofNat (col * width.toNat), .ofNat (row * height.toNat), width, height, color row col⟩

/-- `vg_drawpattern`: the result and the rectangles. The division by 0 ends the program. -/
def drawpattern (macros : VbeMacros) (noRectangles : UInt8) (first : UInt32) (step : UInt8) :
    Option (Nat × List RectangleCall) :=
  if noRectangles = 0 then none
  else if vg.colorMode = macros.indexedMode then
    some (0, vg.patternLoops noRectangles (vg.indexedColor noRectangles first step))
  else if vg.colorMode = macros.directMode then
    some (0, vg.patternLoops noRectangles (vg.directColor first step))
  else some (1, [])

end Vg

/-- `draw_xpm` has the loops of the project's `drawXpm`. One byte of the image is the color of a
pixel, whatever the mode. -/
def drawXpm (x y : UInt16) (img : Proj.XpmImage) : List PixelCall :=
  (Proj.drawXpm x.toNat y.toNat img).map fun call =>
    ⟨.ofNat (call.x % 65536).toNat, .ofNat (call.y % 65536).toNat, call.color.toUInt32⟩

/-- `draw_next_xpm`: the image is erased at `(xi, yi)` and drawn at `(xf, yf)`. -/
def drawNextXpm (vg : Vg) (img : Proj.XpmImage) (xi yi xf yf : UInt16) : List PixelCall :=
  vg.drawrectangle ⟨xi, yi, .ofNat img.width, .ofNat img.height, 0⟩ ++ drawXpm xf yf img

theorem mem_drawXpm (x y : UInt16) (img : Proj.XpmImage) (pixel : PixelCall) :
    pixel ∈ drawXpm x y img ↔ ∃ r < img.height, ∃ c < img.width,
      pixel = ⟨.ofNat (x.toNat + c), .ofNat (y.toNat + r),
        (img.byte (r * img.width + c)).toUInt32⟩ := by
  have cut : ∀ first second : Nat, UInt16.ofNat (((first : Int) + second) % 65536).toNat =
      .ofNat (first + second) := by
    intro first second
    rw [← UInt16.toNat_inj, UInt16.toNat_ofNat', UInt16.toNat_ofNat']
    omega
  rw [drawXpm, List.mem_map]
  constructor
  · rintro ⟨call, member, rfl⟩
    obtain ⟨r, row, c, column, rfl⟩ := (Proj.mem_drawXpm _ _ img call).mp member
    exact ⟨r, row, c, column, by rw [cut, cut]⟩
  · rintro ⟨r, row, c, column, rfl⟩
    exact ⟨_, (Proj.mem_drawXpm _ _ img _).mpr ⟨r, row, c, column, rfl⟩, by rw [cut, cut]⟩

theorem coordinate_eq {value : Nat} {resolution : UInt16} (below : value < resolution.toNat) :
    (UInt16.ofNat value).toNat = value :=
  UInt16.toNat_ofNat_of_lt' (Nat.lt_trans below resolution.toNat_lt)

theorem drawXpm_inside {vg : Vg} {x y : UInt16} {img : Proj.XpmImage}
    (right : x.toNat + img.width ≤ vg.xRes.toNat) (bottom : y.toNat + img.height ≤ vg.yRes.toNat)
    {pixel : PixelCall} (member : pixel ∈ drawXpm x y img) :
    pixel.x.toNat < vg.xRes.toNat ∧ pixel.y.toNat < vg.yRes.toNat := by
  obtain ⟨r, row, c, column, rfl⟩ := (mem_drawXpm x y img pixel).mp member
  have columns : x.toNat + c < vg.xRes.toNat := by omega
  have rows : y.toNat + r < vg.yRes.toNat := by omega
  dsimp only
  rw [coordinate_eq columns, coordinate_eq rows]
  exact ⟨columns, rows⟩

namespace Vg

variable {vg : Vg}

def raster (vg : Vg) : Raster := ⟨vg.xRes.toNat, vg.yRes.toNat, vg.n⟩

/-- A pixel is a part of a 32-bit color, and the screen fits in the address space. -/
structure Addressable (vg : Vg) : Prop where
  deep : 1 ≤ vg.n
  narrow : vg.n ≤ 4
  fits : vg.raster.size ≤ 2 ^ 32

theorem bytes_length (addressable : vg.Addressable) (color : UInt32) :
    (vg.bytes color).length = vg.n := by
  rw [bytes, List.length_take]
  exact Nat.min_eq_left addressable.narrow

theorem start_eq (deep : 1 ≤ vg.n) (fits : vg.raster.size ≤ 2 ^ 32) {call : PixelCall}
    (column : call.x.toNat < vg.xRes.toNat) (row : call.y.toNat < vg.yRes.toNat) :
    vg.start call = vg.raster.offset call.x.toNat call.y.toNat := by
  have inside : vg.raster.offset call.x.toNat call.y.toNat + vg.n ≤ vg.raster.size :=
    Raster.offset_lt column row
  have small : vg.raster.offset call.x.toNat call.y.toNat < 2 ^ 32 := by omega
  exact Nat.mod_eq_of_lt small

theorem drawpixels_exact (addressable : vg.Addressable) (calls : List PixelCall)
    (content : Nat → Nat → List UInt8)
    (inside : ∀ call ∈ calls, call.x.toNat < vg.xRes.toNat ∧ call.y.toNat < vg.yRes.toNat)
    (stored : ∀ call ∈ calls, vg.bytes call.color = content call.x.toNat call.y.toNat)
    (videoMem : Memory) :
    (∀ j i, j < vg.xRes.toNat →
      vg.raster.pixel (vg.drawpixels calls videoMem) j i =
        if ∃ call ∈ calls, call.place = (j, i) then content j i
        else vg.raster.pixel videoMem j i) ∧
    ∀ address, vg.raster.size ≤ address →
      vg.drawpixels calls videoMem address = videoMem address :=
  vg.raster.stores_pixels PixelCall.place vg.start (fun call => vg.bytes call.color) content calls
    inside (fun call member => start_eq addressable.deep addressable.fits (inside call member).1
      (inside call member).2)
    (fun call _ => bytes_length addressable call.color) stored videoMem

end Vg

def mode105 : Vg := ⟨1024, 768, 8, 4, 0, 0, 0, 0, 0, 0⟩

end Lcom.Lab5
