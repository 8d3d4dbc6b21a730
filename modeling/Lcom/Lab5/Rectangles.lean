import Lcom.Lab5.Vg

/-! Which pixels a rectangle of `lab5/vg.c` covers. -/

namespace Lcom.Lab5

open Lcom.Lib

namespace RectangleCall

def Contains (call : RectangleCall) (j i : Nat) : Prop :=
  (call.x.toNat ≤ j ∧ j < call.x.toNat + call.width.toNat) ∧
    call.y.toNat ≤ i ∧ i < call.y.toNat + call.height.toNat

instance (call : RectangleCall) (j i : Nat) : Decidable (call.Contains j i) :=
  inferInstanceAs (Decidable (_ ∧ _))

structure OnScreen (vg : Vg) (call : RectangleCall) : Prop where
  right : call.x.toNat + call.width.toNat ≤ vg.xRes.toNat
  bottom : call.y.toNat + call.height.toNat ≤ vg.yRes.toNat

end RectangleCall

namespace Vg

variable (vg : Vg)

/-- After `k` rounds the guard of `vg_drawline` sees `2 * k` more than at the start. -/
theorem mem_lineLoop (y : UInt16) (color : UInt32) (left i : Nat) (x : UInt16) (pixel : PixelCall) :
    pixel ∈ vg.lineLoop y color left i x ↔
      ∃ k < left, i + x.toNat + 2 * k < vg.xRes.toNat ∧
        pixel = ⟨.ofNat (x.toNat + k), y, color⟩ := by
  induction left generalizing i x with
  | zero => simp [lineLoop]
  | succ left ih =>
      rw [lineLoop]
      split
      · rename_i goes
        have bound := vg.xRes.toNat_lt
        have next : (x + 1).toNat = x.toNat + 1 := by
          rw [UInt16.toNat_add]
          exact Nat.mod_eq_of_lt (by change x.toNat + 1 < _; omega)
        rw [List.mem_cons, ih, next]
        constructor
        · rintro (rfl | ⟨k, bounded, guarded, rfl⟩)
          · exact ⟨0, by omega, by omega, by simp⟩
          · exact ⟨k + 1, by omega, by omega, by rw [Nat.add_right_comm, Nat.add_assoc]⟩
        · rintro ⟨k, bounded, guarded, rfl⟩
          cases k with
          | zero => exact .inl (by simp)
          | succ k =>
              exact .inr ⟨k, by omega, by omega, by rw [Nat.add_right_comm, Nat.add_assoc]⟩
      · rename_i stops
        constructor
        · intro member
          cases member
        · rintro ⟨k, _, guarded, _⟩
          omega

theorem mem_rectangleLoop (x width : UInt16) (color : UInt32) (left : Nat) (y : UInt16)
    (pixel : PixelCall) :
    pixel ∈ vg.rectangleLoop x width color left y ↔
      ∃ r < left, ∃ k < width.toNat, x.toNat + 2 * k < vg.xRes.toNat ∧
        pixel = ⟨.ofNat (x.toNat + k), .ofNat (y.toNat + r), color⟩ := by
  induction left generalizing y with
  | zero => simp [rectangleLoop]
  | succ left ih =>
      have next : ∀ r, UInt16.ofNat ((y + 1).toNat + r) = .ofNat (y.toNat + (r + 1)) := by
        intro r
        rw [Nat.add_comm r 1, UInt16.ofNat_add, UInt16.ofNat_add, UInt16.ofNat_add,
          UInt16.ofNat_toNat, UInt16.ofNat_toNat]
        exact UInt16.add_assoc y 1 (.ofNat r)
      rw [rectangleLoop, List.mem_append, drawline, mem_lineLoop, ih]
      simp only [next, Nat.zero_add]
      constructor
      · rintro (⟨k, bounded, guarded, rfl⟩ | ⟨r, row, k, bounded, guarded, rfl⟩)
        · exact ⟨0, by omega, k, bounded, guarded, by simp⟩
        · exact ⟨r + 1, by omega, k, bounded, guarded, rfl⟩
      · rintro ⟨r, row, k, bounded, guarded, rfl⟩
        cases r with
        | zero => exact .inl ⟨k, bounded, guarded, by simp⟩
        | succ r => exact .inr ⟨r, by omega, k, bounded, guarded, rfl⟩

theorem mem_drawrectangle (call : RectangleCall) (pixel : PixelCall) :
    pixel ∈ vg.drawrectangle call ↔
      ∃ r < call.height.toNat, ∃ k < call.width.toNat, call.x.toNat + 2 * k < vg.xRes.toNat ∧
        pixel = ⟨.ofNat (call.x.toNat + k), .ofNat (call.y.toNat + r), call.color⟩ :=
  vg.mem_rectangleLoop call.x call.width call.color call.height.toNat call.y pixel

variable {vg}

theorem mem_drawrectangle_iff {call : RectangleCall}
    (bottom : call.y.toNat + call.height.toNat ≤ vg.yRes.toNat) (pixel : PixelCall) :
    pixel ∈ vg.drawrectangle call ↔
      call.Contains pixel.x.toNat pixel.y.toNat ∧ pixel.color = call.color ∧
        2 * pixel.x.toNat < vg.xRes.toNat + call.x.toNat := by
  rw [mem_drawrectangle]
  constructor
  · rintro ⟨r, row, k, bounded, guarded, rfl⟩
    have column : (UInt16.ofNat (call.x.toNat + k)).toNat = call.x.toNat + k :=
      coordinate_eq (show _ < vg.xRes.toNat by omega)
    have rows : (UInt16.ofNat (call.y.toNat + r)).toNat = call.y.toNat + r :=
      coordinate_eq (show _ < vg.yRes.toNat by omega)
    refine ⟨?_, rfl, ?_⟩
    · rw [RectangleCall.Contains, column, rows]
      omega
    · rw [column]
      omega
  · rintro ⟨⟨⟨left, right⟩, top, below⟩, colored, guarded⟩
    refine ⟨pixel.y.toNat - call.y.toNat, by omega, pixel.x.toNat - call.x.toNat, by omega,
      by omega, ?_⟩
    rw [Nat.add_sub_cancel' left, Nat.add_sub_cancel' top, UInt16.ofNat_toNat, UInt16.ofNat_toNat,
      ← colored]

theorem drawrectangle_inside {call : RectangleCall} (placed : call.OnScreen vg) {pixel : PixelCall}
    (member : pixel ∈ vg.drawrectangle call) :
    pixel.x.toNat < vg.xRes.toNat ∧ pixel.y.toNat < vg.yRes.toNat := by
  obtain ⟨⟨⟨_, right⟩, _, below⟩, _⟩ := (mem_drawrectangle_iff placed.bottom pixel).mp member
  exact ⟨Nat.lt_of_lt_of_le right placed.right, Nat.lt_of_lt_of_le below placed.bottom⟩

end Vg

/-- The rectangle is filled and nothing else is drawn: by the calls of `vg_drawpixel`, and by the
memory of the screen. -/
structure Filled (vg : Vg) (call : RectangleCall) : Prop where
  drawn : ∀ pixel, pixel ∈ vg.drawrectangle call ↔
    call.Contains pixel.x.toNat pixel.y.toNat ∧ pixel.color = call.color
  stored : vg.Addressable → ∀ videoMem,
    (∀ j i, j < vg.xRes.toNat → i < vg.yRes.toNat →
      vg.raster.pixel (vg.drawpixels (vg.drawrectangle call) videoMem) j i =
        if call.Contains j i then vg.bytes call.color else vg.raster.pixel videoMem j i) ∧
    ∀ address, vg.raster.size ≤ address →
      vg.drawpixels (vg.drawrectangle call) videoMem address = videoMem address

theorem stored_of_drawn {vg : Vg} {call : RectangleCall} (placed : call.OnScreen vg)
    (drawn : ∀ pixel, pixel ∈ vg.drawrectangle call ↔
      call.Contains pixel.x.toNat pixel.y.toNat ∧ pixel.color = call.color)
    (addressable : vg.Addressable) (videoMem : Memory) :
    (∀ j i, j < vg.xRes.toNat → i < vg.yRes.toNat →
      vg.raster.pixel (vg.drawpixels (vg.drawrectangle call) videoMem) j i =
        if call.Contains j i then vg.bytes call.color else vg.raster.pixel videoMem j i) ∧
    ∀ address, vg.raster.size ≤ address →
      vg.drawpixels (vg.drawrectangle call) videoMem address = videoMem address := by
  have exact := vg.drawpixels_exact addressable (vg.drawrectangle call)
    (fun _ _ => vg.bytes call.color)
    (fun _ member => Vg.drawrectangle_inside placed member)
    (fun pixel member => by rw [((drawn pixel).mp member).2]) videoMem
  refine ⟨?_, exact.2⟩
  intro j i column row
  rw [exact.1 j i column]
  refine if_congr ?_ rfl rfl
  constructor
  · rintro ⟨pixel, member, there⟩
    obtain ⟨rfl, rfl⟩ := Prod.mk.inj there
    exact ((drawn pixel).mp member).1
  · intro contains
    refine ⟨⟨.ofNat j, .ofNat i, call.color⟩, (drawn _).mpr ⟨?_, rfl⟩, ?_⟩
    · dsimp only
      rw [coordinate_eq column, coordinate_eq row]
      exact contains
    · rw [PixelCall.place, coordinate_eq column, coordinate_eq row]

/-- A rectangle on the screen is filled if its last column is still within the guard of
`vg_drawline`, which counts every column twice. -/
theorem rectangle_filled_iff (vg : Vg) (call : RectangleCall) (placed : call.OnScreen vg) :
    Filled vg call ↔ call.width.toNat = 0 ∨ call.height.toNat = 0 ∨
      call.x.toNat + 2 * (call.width.toNat - 1) < vg.xRes.toNat := by
  obtain ⟨right, bottom⟩ := placed
  constructor
  · intro filled
    by_cases empty : call.width.toNat = 0 ∨ call.height.toNat = 0
    · omega
    · let last : PixelCall := ⟨.ofNat (call.x.toNat + (call.width.toNat - 1)), call.y, call.color⟩
      have column : last.x.toNat = call.x.toNat + (call.width.toNat - 1) :=
        coordinate_eq (show _ < vg.xRes.toNat by omega)
      have member : last ∈ vg.drawrectangle call := by
        refine (filled.drawn last).mpr ⟨⟨?_, ?_⟩, rfl⟩
        · rw [column]
          omega
        · change call.y.toNat ≤ call.y.toNat ∧ call.y.toNat < _
          omega
      have guarded := ((Vg.mem_drawrectangle_iff bottom last).mp member).2.2
      rw [column] at guarded
      omega
  · intro within
    have drawn : ∀ pixel, pixel ∈ vg.drawrectangle call ↔
        call.Contains pixel.x.toNat pixel.y.toNat ∧ pixel.color = call.color := by
      intro pixel
      rw [Vg.mem_drawrectangle_iff bottom, ← and_assoc, and_iff_left_iff_imp]
      rintro ⟨⟨⟨_, _⟩, _, _⟩, _⟩
      omega
    exact ⟨drawn, stored_of_drawn ⟨right, bottom⟩ drawn⟩

/-- A rectangle in the left part of the screen. -/
theorem rectangle_filled_left : Filled mode105 ⟨100, 100, 50, 20, 7⟩ :=
  (rectangle_filled_iff mode105 ⟨100, 100, 50, 20, 7⟩ ⟨by decide, by decide⟩).mpr
    (.inr (.inr (by decide)))

/-- Of two pixels at the right border the last one is not drawn. -/
theorem rectangle_right_border :
    (⟨1022, 0, 2, 1, 7⟩ : RectangleCall).OnScreen mode105 ∧
    mode105.drawpixels (mode105.drawrectangle ⟨1022, 0, 2, 1, 7⟩) (fun _ => 0) 1023 = 0 ∧
    ¬ Filled mode105 ⟨1022, 0, 2, 1, 7⟩ := by
  refine ⟨⟨by decide, by decide⟩, by decide +kernel, ?_⟩
  intro filled
  have member := (filled.drawn ⟨1023, 0, 7⟩).mpr (by decide +kernel)
  exact absurd member (by decide +kernel)

/-- The pixels that a rectangle draws are all on the screen if none is drawn or it does not reach
below the screen: `vg_drawline` has a guard for the right border, but no loop has one for the
bottom. -/
theorem rectangle_clipped_iff (vg : Vg) (call : RectangleCall) :
    (∀ pixel ∈ vg.drawrectangle call,
      pixel.x.toNat < vg.xRes.toNat ∧ pixel.y.toNat < vg.yRes.toNat) ↔
    call.width.toNat = 0 ∨ call.height.toNat = 0 ∨ vg.xRes.toNat ≤ call.x.toNat ∨
      call.y.toNat + call.height.toNat ≤ vg.yRes.toNat := by
  constructor
  · intro clipped
    by_contra reaches
    -- the first row that is not on the screen, also when the rectangle begins below it
    let r := vg.yRes.toNat - call.y.toNat
    have row : (UInt16.ofNat (call.y.toNat + r)).toNat = call.y.toNat + r := by
      apply UInt16.toNat_ofNat_of_lt'
      have bound := vg.yRes.toNat_lt
      have lower := call.y.toNat_lt
      change call.y.toNat + (vg.yRes.toNat - call.y.toNat) < 65536
      omega
    have drawn : ⟨.ofNat (call.x.toNat + 0), .ofNat (call.y.toNat + r), call.color⟩ ∈
        vg.drawrectangle call :=
      (vg.mem_drawrectangle call _).mpr ⟨r, by omega, 0, by omega, by omega, rfl⟩
    have inside := (clipped _ drawn).2
    dsimp only at inside
    omega
  · intro condition pixel member
    obtain ⟨r, within, k, bounded, guarded, rfl⟩ := (vg.mem_drawrectangle call pixel).mp member
    have column : (UInt16.ofNat (call.x.toNat + k)).toNat = call.x.toNat + k :=
      coordinate_eq (show _ < vg.xRes.toNat by omega)
    have row : (UInt16.ofNat (call.y.toNat + r)).toNat = call.y.toNat + r :=
      coordinate_eq (show _ < vg.yRes.toNat by omega)
    dsimp only
    omega

/-- A rectangle that reaches below the screen is drawn below it. -/
theorem rectangle_below_bottom :
    ¬ ∀ pixel ∈ mode105.drawrectangle ⟨0, 767, 1, 2, 7⟩,
      pixel.x.toNat < mode105.xRes.toNat ∧ pixel.y.toNat < mode105.yRes.toNat := by
  intro clipped
  have below := clipped ⟨0, 768, 7⟩ (by decide +kernel)
  exact absurd below (by decide)

end Lcom.Lab5
