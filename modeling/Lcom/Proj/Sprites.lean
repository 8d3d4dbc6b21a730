import Mathlib.Data.List.Basic
import Mathlib.Tactic

/-! Images and the pixel loops of `graphic.c`. `xpm_load` belongs to the LCF library,
so a loader is a parameter that is only known to report the sizes of `resources/`. -/

namespace Lcom.Proj

/-- The pixmaps under `resources/`, by the names of their arrays. -/
inductive XpmMap where
  | zero | one | two | three | four | five | six | seven | eight | nine
  | alien1 | alien1M | alien2 | alien2M | alien3 | alien3M
  | shipImage | shipBullet | alienBullet | mouseXpm
  | background | initialScreen
  | menu2 | menuStart | menuInstructions | menuExit | instructions | instructionsBack
  deriving DecidableEq, Repr

def XpmMap.size : XpmMap → Nat × Nat
  | zero | one | two | three | four | five | six | seven | eight | nine => (16, 28)
  | alien1 | alien1M | alien2 | alien2M | alien3 | alien3M => (60, 40)
  | shipImage => (75, 80)
  | shipBullet | alienBullet => (5, 20)
  | mouseXpm => (25, 34)
  | background | initialScreen
  | menu2 | menuStart | menuInstructions | menuExit | instructions | instructionsBack => (1024, 768)

/-- `xpm_image_t` in the format `XPM_INDEXED`: one byte for each pixel. -/
structure XpmImage where
  width : Nat
  height : Nat
  bytes : List UInt8
  deriving DecidableEq, Repr

def XpmImage.zeroed : XpmImage := ⟨0, 0, []⟩

def XpmImage.byte (img : XpmImage) (counter : Nat) : UInt8 := img.bytes[counter]?.getD 0

structure XpmLoader where
  load : XpmMap → XpmImage
  sizes : ∀ xpm, ((load xpm).width, (load xpm).height) = xpm.size

namespace XpmLoader

variable (loader : XpmLoader) (xpm : XpmMap)

theorem width_eq : (loader.load xpm).width = xpm.size.1 := congrArg Prod.fst (loader.sizes xpm)

theorem height_eq : (loader.load xpm).height = xpm.size.2 := congrArg Prod.snd (loader.sizes xpm)

def blank : XpmLoader := ⟨fun xpm => ⟨xpm.size.1, xpm.size.2, []⟩, fun _ => rfl⟩

end XpmLoader

/-- A call `drawPixel(x, y, color)`, with the `int` arguments before they become `uint16_t`. -/
structure PixelCall where
  x : Int
  y : Int
  color : UInt8
  deriving DecidableEq, Repr

def blitRow (img : XpmImage) (i : Int) : (j : Int) → (left counter : Nat) → List PixelCall
  | _, 0, _ => []
  | j, left + 1, counter => ⟨j, i, img.byte counter⟩ :: blitRow img i (j + 1) left (counter + 1)

def blitRows (img : XpmImage) (x : Int) : (i : Int) → (left counter : Nat) → List PixelCall
  | _, 0, _ => []
  | i, left + 1, counter =>
      blitRow img i x img.width counter ++ blitRows img x (i + 1) left (counter + img.width)

def drawXpm (x y : Int) (img : XpmImage) : List PixelCall := blitRows img x y img.height 0

/-- `drawMouse` runs the loops of `drawXpm` and skips the pixels of color 0. -/
def drawMouse (x y : Int) (img : XpmImage) : List PixelCall :=
  (drawXpm x y img).filter (fun pixel => pixel.color != 0)

def OnScreen (x y : Int) (img : XpmImage) : Prop :=
  0 ≤ x ∧ x + img.width ≤ 1024 ∧ 0 ≤ y ∧ y + img.height ≤ 768

def PixelCall.InFrame (pixel : PixelCall) : Prop :=
  (0 ≤ pixel.x ∧ pixel.x < 1024) ∧ (0 ≤ pixel.y ∧ pixel.y < 768)

theorem mem_blitRow (img : XpmImage) (i j : Int) (left counter : Nat) (pixel : PixelCall) :
    pixel ∈ blitRow img i j left counter ↔
      ∃ c < left, pixel = ⟨j + c, i, img.byte (counter + c)⟩ := by
  induction left generalizing j counter with
  | zero => simp [blitRow]
  | succ left ih =>
      rw [blitRow, List.mem_cons, ih]
      constructor
      · rintro (rfl | ⟨c, bound, rfl⟩)
        · exact ⟨0, by omega, by simp⟩
        · refine ⟨c + 1, by omega, ?_⟩
          rw [show counter + 1 + c = counter + (c + 1) by omega]
          push_cast
          rw [show j + 1 + (c : Int) = j + (c + 1) by omega]
      · rintro ⟨c, bound, rfl⟩
        cases c with
        | zero => exact .inl (by simp)
        | succ c =>
            refine .inr ⟨c, by omega, ?_⟩
            rw [show counter + 1 + c = counter + (c + 1) by omega]
            push_cast
            rw [show j + 1 + (c : Int) = j + (c + 1) by omega]

theorem mem_blitRows (img : XpmImage) (x i : Int) (left counter : Nat) (pixel : PixelCall) :
    pixel ∈ blitRows img x i left counter ↔ ∃ r < left, ∃ c < img.width,
      pixel = ⟨x + c, i + r, img.byte (counter + (r * img.width + c))⟩ := by
  induction left generalizing i counter with
  | zero => simp [blitRows]
  | succ left ih =>
      rw [blitRows, List.mem_append, mem_blitRow, ih]
      constructor
      · rintro (⟨c, bound, rfl⟩ | ⟨r, row, c, bound, rfl⟩)
        · exact ⟨0, by omega, c, bound, by simp⟩
        · refine ⟨r + 1, by omega, c, bound, ?_⟩
          rw [show counter + img.width + (r * img.width + c) =
            counter + ((r + 1) * img.width + c) by ring]
          push_cast
          rw [show i + 1 + (r : Int) = i + (r + 1) by omega]
      · rintro ⟨r, row, c, bound, rfl⟩
        cases r with
        | zero => exact .inl ⟨c, bound, by simp⟩
        | succ r =>
            refine .inr ⟨r, by omega, c, bound, ?_⟩
            rw [show counter + img.width + (r * img.width + c) =
              counter + ((r + 1) * img.width + c) by ring]
            push_cast
            rw [show i + 1 + (r : Int) = i + (r + 1) by omega]

theorem mem_drawXpm (x y : Int) (img : XpmImage) (pixel : PixelCall) :
    pixel ∈ drawXpm x y img ↔ ∃ r < img.height, ∃ c < img.width,
      pixel = ⟨x + c, y + r, img.byte (r * img.width + c)⟩ := by
  rw [drawXpm, mem_blitRows]
  simp only [Nat.zero_add]

theorem drawXpm_beyond (x y : Int) (img : XpmImage) (wide : 0 < img.width) (high : 0 < img.height)
    (past : 1024 < x + img.width) : ∃ pixel ∈ drawXpm x y img, ¬ pixel.InFrame := by
  refine ⟨_, (mem_drawXpm x y img _).mpr ⟨0, high, img.width - 1, by omega, rfl⟩, ?_⟩
  rintro ⟨⟨_, inside⟩, _⟩
  dsimp only at inside
  omega

theorem drawXpm_inFrame (x y : Int) (img : XpmImage) (placed : OnScreen x y img) :
    ∀ pixel ∈ drawXpm x y img, pixel.InFrame := by
  intro pixel member
  obtain ⟨r, row, c, column, rfl⟩ := (mem_drawXpm x y img pixel).mp member
  rcases placed with ⟨left, right, top, bottom⟩
  refine ⟨⟨?_, ?_⟩, ⟨?_, ?_⟩⟩
  all_goals dsimp only; omega

theorem drawMouse_inFrame (x y : Int) (img : XpmImage) (placed : OnScreen x y img) :
    ∀ pixel ∈ drawMouse x y img, pixel.InFrame := by
  intro pixel member
  exact drawXpm_inFrame x y img placed pixel (List.mem_of_mem_filter member)

end Lcom.Proj
