import Lcom.Lab5.Arrival
import Lcom.Lab5.Depths
import Lcom.Lib.Painter

/-! What a sprite that is moved by `video_test_move` leaves on the screen. -/

namespace Lcom.Lab5

open Lcom.Lib

structure Vg.Pixel (vg : Vg) where
  column : Fin vg.xRes.toNat
  row : Fin vg.yRes.toNat

def Vg.picture (vg : Vg) (videoMem : Memory) (pixel : vg.Pixel) : List UInt8 :=
  vg.raster.pixel videoMem pixel.column pixel.row

structure Place where
  x : UInt16
  y : UInt16
  deriving DecidableEq, Repr

def Place.Covers (place : Place) (img : Proj.XpmImage) {vg : Vg} (pixel : vg.Pixel) : Prop :=
  (place.x.toNat ≤ pixel.column ∧ pixel.column < place.x.toNat + img.width) ∧
    place.y.toNat ≤ pixel.row ∧ pixel.row < place.y.toNat + img.height

instance (place : Place) (img : Proj.XpmImage) {vg : Vg} (pixel : vg.Pixel) :
    Decidable (place.Covers img pixel) := inferInstanceAs (Decidable (_ ∧ _))

def Place.color (place : Place) (img : Proj.XpmImage) {vg : Vg} (pixel : vg.Pixel) : List UInt8 :=
  vg.bytes (img.byte ((pixel.row - place.y.toNat) * img.width +
    (pixel.column - place.x.toNat))).toUInt32

def Place.Erases (place : Place) {vg : Vg} (pixel : vg.Pixel) : Prop :=
  2 * pixel.column < vg.xRes.toNat + place.x.toNat

instance (place : Place) {vg : Vg} (pixel : vg.Pixel) : Decidable (place.Erases pixel) :=
  inferInstanceAs (Decidable (_ < _))

section Layers

variable (vg : Vg) (img : Proj.XpmImage)

def imageLayer (place : Place) : Layer vg.Pixel (List UInt8) := fun pixel =>
  if place.Covers img pixel then some (place.color img pixel) else none

def eraseLayer (place : Place) : Layer vg.Pixel (List UInt8) := fun pixel =>
  if place.Covers img pixel ∧ place.Erases pixel then some (vg.bytes 0) else none

variable {vg img}

theorem drawpixels_append (first second : List PixelCall) (videoMem : Memory) :
    vg.drawpixels (first ++ second) videoMem = vg.drawpixels second (vg.drawpixels first videoMem) :=
  List.foldl_append

theorem drawXpm_paints (addressable : vg.Addressable) {place : Place}
    (fits : Fits vg img place.x place.y) (videoMem : Memory) :
    vg.picture (vg.drawpixels (drawXpm place.x place.y img) videoMem) =
      (imageLayer vg img place).onto (vg.picture videoMem) := by
  funext pixel
  rw [Vg.picture, (drawXpm_stores addressable fits.1 fits.2 videoMem).1 _ _ pixel.column.2,
    if_congr (drawXpm_writes fits.1 fits.2 _ _) rfl rfl, Layer.onto, imageLayer]
  by_cases covers : place.Covers img pixel
  · rw [if_pos covers]
    exact if_pos covers
  · rw [if_neg covers]
    exact if_neg covers

def erasure (img : Proj.XpmImage) (place : Place) : RectangleCall :=
  ⟨place.x, place.y, .ofNat img.width, .ofNat img.height, 0⟩

theorem erasure_size {place : Place} (fits : Fits vg img place.x place.y) :
    (erasure img place).width.toNat = img.width ∧ (erasure img place).height.toNat = img.height := by
  have wide := vg.xRes.toNat_lt
  have high := vg.yRes.toNat_lt
  obtain ⟨right, bottom⟩ := fits
  exact ⟨UInt16.toNat_ofNat_of_lt' (Nat.lt_of_le_of_lt (by omega) wide),
    UInt16.toNat_ofNat_of_lt' (Nat.lt_of_le_of_lt (by omega) high)⟩

theorem erasure_onScreen {place : Place} (fits : Fits vg img place.x place.y) :
    (erasure img place).OnScreen vg := by
  obtain ⟨width, height⟩ := erasure_size fits
  refine ⟨?_, ?_⟩
  · rw [width]
    exact fits.1
  · rw [height]
    exact fits.2

/-- The erasure paints the part of the image that the guard of `vg_drawline` lets through. -/
theorem erasure_paints (addressable : vg.Addressable) {place : Place}
    (fits : Fits vg img place.x place.y) (videoMem : Memory) :
    vg.picture (vg.drawpixels (vg.drawrectangle (erasure img place)) videoMem) =
      (eraseLayer vg img place).onto (vg.picture videoMem) := by
  have placed := erasure_onScreen fits
  obtain ⟨width, height⟩ := erasure_size fits
  have drawn := vg.mem_drawrectangle_iff placed.bottom
  have stored := (vg.drawpixels_exact addressable (vg.drawrectangle (erasure img place))
    (fun _ _ => vg.bytes 0) (fun _ member => Vg.drawrectangle_inside placed member)
    (fun pixel member => by rw [((drawn pixel).mp member).2.1]; rfl) videoMem).1
  funext pixel
  have writes : (∃ call ∈ vg.drawrectangle (erasure img place),
      call.place = ((pixel.column : Nat), (pixel.row : Nat))) ↔
      place.Covers img pixel ∧ place.Erases pixel := by
    have column : (UInt16.ofNat pixel.column).toNat = pixel.column := coordinate_eq pixel.column.2
    have row : (UInt16.ofNat pixel.row).toNat = pixel.row := coordinate_eq pixel.row.2
    rw [Place.Covers, Place.Erases, ← width, ← height]
    constructor
    · rintro ⟨call, member, there⟩
      obtain ⟨contains, _, guarded⟩ := (drawn call).mp member
      obtain ⟨left, top⟩ := Prod.mk.inj there
      rw [left, top] at contains
      rw [left] at guarded
      exact ⟨contains, guarded⟩
    · rintro ⟨contains, guarded⟩
      refine ⟨⟨.ofNat pixel.column, .ofNat pixel.row, 0⟩, (drawn _).mpr ⟨?_, rfl, ?_⟩, ?_⟩
      · dsimp only
        rw [column, row]
        exact contains
      · dsimp only
        rw [column]
        exact guarded
      · rw [PixelCall.place, column, row]
  rw [Vg.picture, stored _ _ pixel.column.2, if_congr writes rfl rfl, Layer.onto, eraseLayer]
  by_cases erased : place.Covers img pixel ∧ place.Erases pixel
  · rw [if_pos erased, if_pos erased]
    rfl
  · rw [if_neg erased, if_neg erased]
    rfl

end Layers

def NextXpm.place (call : NextXpm) : Place := ⟨call.x, call.y⟩

def NextXpm.prev (call : NextXpm) : Place := ⟨call.prevX, call.prevY⟩

namespace Move

variable (move : Move)

def places (sprite : Sprite) : List Place :=
  ⟨move.xi, move.yi⟩ :: sprite.drawn.map NextXpm.place

/-- The memory of the screen in a state of the loop: `draw_xpm` before the loop and the calls of
`draw_next_xpm`. -/
def screen (vg : Vg) (img : Proj.XpmImage) (s : State) (videoMem : Memory) : Memory :=
  vg.drawpixels (drawXpm move.xi move.yi img ++ s.sprite.drawn.flatMap (NextXpm.pixels vg img))
    videoMem

variable {move} {plan : Plan} {vg : Vg} {img : Proj.XpmImage}

/-- Every frame erases the image of the one before, and a sprite that moves is where it was drawn
last. -/
structure Linked (move : Move) (sprite : Sprite) : Prop where
  erased : sprite.drawn.map NextXpm.prev = (move.places sprite).dropLast
  last : sprite.moving = true → (move.places sprite).getLast? = some ⟨sprite.xi, sprite.yi⟩

theorem Linked.next {sprite : Sprite} (linked : Linked move sprite) :
    Linked move (move.next plan sprite) := by
  have drawn : ∀ x y xi yi moving, sprite.moving = true → (moving = true → (x, y) = (xi, yi)) →
      Linked move ⟨xi, yi, moving, sprite.drawn ++ [⟨sprite.xi, sprite.yi, x, y⟩]⟩ := by
    intro x y xi yi moving before same
    have places : move.places ⟨xi, yi, moving, sprite.drawn ++ [⟨sprite.xi, sprite.yi, x, y⟩]⟩ =
        move.places sprite ++ [⟨x, y⟩] := by
      rw [Move.places, List.map_append]
      rfl
    constructor
    · rw [places, List.dropLast_concat, List.map_append, linked.erased]
      exact List.dropLast_append_getLast? _ (linked.last before)
    · intro moves
      obtain ⟨rfl, rfl⟩ := Prod.mk.inj (same moves)
      rw [places]
      exact List.getLast?_concat
  rw [Move.next]
  split
  · rename_i moving
    unfold Move.frame
    dsimp only
    split
    · exact drawn _ _ _ _ _ moving (fun moves => absurd moves Bool.false_ne_true)
    · exact drawn _ _ _ _ _ moving (fun _ => rfl)
  · exact linked

theorem linked_iterate (k : Nat) :
    Linked move ((move.next plan)^[k] ⟨move.xi, move.yi, true, []⟩) := by
  induction k with
  | zero => exact ⟨rfl, fun _ => rfl⟩
  | succ k ih =>
      rw [Function.iterate_succ_apply']
      exact ih.next

theorem paints_journey (addressable : vg.Addressable) {start : Place} (calls : List NextXpm)
    (linked : calls.map NextXpm.prev = (start :: calls.map NextXpm.place).dropLast)
    (fits : ∀ place ∈ start :: calls.map NextXpm.place, Fits vg img place.x place.y)
    (videoMem : Memory) :
    vg.picture (vg.drawpixels (drawXpm start.x start.y img ++
        calls.flatMap (NextXpm.pixels vg img)) videoMem) =
      (Layer.merge (Layer.journey (imageLayer vg img) (eraseLayer vg img)
        (start :: calls.map NextXpm.place))).onto (vg.picture videoMem) := by
  induction calls generalizing start videoMem with
  | nil =>
      rw [List.flatMap_nil, List.append_nil, drawXpm_paints addressable (fits _ List.mem_cons_self)]
      rfl
  | cons call calls ih =>
      obtain ⟨first, later⟩ := List.cons.inj linked
      obtain ⟨here, others⟩ := List.forall_mem_cons.mp fits
      have pixels : call.pixels vg img =
          vg.drawrectangle (erasure img start) ++ drawXpm call.place.x call.place.y img := by
        rw [← first]
        rfl
      rw [List.flatMap_cons, pixels, List.append_assoc, drawpixels_append, drawpixels_append,
        ih later others, erasure_paints addressable here, drawXpm_paints addressable here,
        List.map_cons, Layer.journey_cons (List.cons_ne_nil _ _), Layer.merge_cons_onto,
        Layer.merge_cons_onto]

end Move

theorem places_fit {platform : Platform} {move : Move} {plan : Plan}
    (straight : move.xi = move.xf ∨ move.yi = move.yf) (planned : move.Planned platform plan)
    (moves : 1 ≤ move.stride) (noWrap : move.NoWrap) {vg : Vg} {img : Proj.XpmImage}
    (first : Fits vg img move.xi move.yi) (last : Fits vg img move.xf move.yf) {scancode : UInt8}
    {messages : List Message} {s : State}
    (ran : move.received platform plan scancode messages = some s) :
    ∀ place ∈ move.places s.sprite, Fits vg img place.x place.y := by
  intro place member
  rcases List.mem_cons.mp member with rfl | drawn
  · exact first
  · obtain ⟨call, listed, rfl⟩ := List.mem_map.mp drawn
    exact (received_between straight planned moves noWrap ran listed).fits first last

/-- In every run a pixel shows what the last image over it has left: the image itself while it is
the last one; afterwards nothing, or still the image where the guard of `vg_drawline`, which counts
every column twice, has kept it from being erased. Other pixels are as before. -/
theorem trail_shown (platform : Platform) (move : Move) (rate : move.frRate ≠ 0)
    (moves : move.speed ≠ 0) (straight : move.xi = move.xf ∨ move.yi = move.yf)
    (noWrap : move.NoWrap) (vg : Vg) (addressable : vg.Addressable) (img : Proj.XpmImage)
    (first : Fits vg img move.xi move.yi) (last : Fits vg img move.xf move.yf) :
    ∃ plan, move.plan platform = some plan ∧ ∀ scancode messages s videoMem,
      move.received platform plan scancode messages = some s → ∀ pixel : vg.Pixel,
      ((∀ place ∈ move.places s.sprite, ¬ place.Covers img pixel) →
        vg.picture (move.screen vg img s videoMem) pixel = vg.picture videoMem pixel) ∧
      ∀ front place later, move.places s.sprite = front ++ place :: later →
        place.Covers img pixel → (∀ other ∈ later, ¬ other.Covers img pixel) →
        vg.picture (move.screen vg img s videoMem) pixel =
          if later ≠ [] ∧ place.Erases pixel then vg.bytes 0 else place.color img pixel := by
  obtain ⟨plan, known, planned⟩ := Move.plan_eq platform rate straight
  have positive := stride_pos moves
  refine ⟨plan, known, ?_⟩
  intro scancode messages s videoMem ran pixel
  have linked : Move.Linked move s.sprite := by
    rw [(Move.received_sprite planned.interval scancode messages ran).1]
    exact Move.linked_iterate _
  have shown := congrFun (Move.paints_journey addressable s.sprite.drawn linked.erased
    (places_fit straight planned positive noWrap first last ran) videoMem) pixel
  have free : ∀ places : List Place, (∀ place ∈ places, ¬ place.Covers img pixel) →
      ∀ place ∈ places,
        imageLayer vg img place pixel = none ∧ eraseLayer vg img place pixel = none := by
    intro places clear place member
    exact ⟨if_neg (clear place member), if_neg (fun both => clear place member both.1)⟩
  constructor
  · intro clear
    refine shown.trans ?_
    rw [Layer.onto, ← Move.places, Layer.journey_free (free _ clear)]
    rfl
  · intro front place later split covers clear
    refine shown.trans ?_
    have painted : imageLayer vg img place pixel = some (place.color img pixel) := if_pos covers
    refine Layer.onto_some ?_
    rw [← Move.places, split, Layer.journey_last painted (free _ clear), eraseLayer]
    by_cases empty : later = []
    · simp [empty]
    · by_cases erased : place.Erases pixel
      · simp [empty, erased, covers]
      · simp [empty, erased]

/-- A sprite that leaves the right border: its last column stays. -/
theorem trail_shown_border :
    ∃ s, Move.received sixtyHz ⟨1022, 0, 1018, 0, 4, 60⟩ ⟨1, -4, 0, true⟩ 0 (ticks 1) = some s ∧
      s.sprite.moving = false ∧
      mode105.picture (Move.screen ⟨1022, 0, 1018, 0, 4, 60⟩ mode105 ⟨2, 1, [7, 5]⟩ s (fun _ => 0))
        ⟨⟨1023, by decide⟩, ⟨0, by decide⟩⟩ = [5] := by
  have run : Move.received sixtyHz ⟨1022, 0, 1018, 0, 4, 60⟩ ⟨1, -4, 0, true⟩ 0 (ticks 1) =
      some ⟨⟨1018, 0, false, [⟨1022, 0, 1018, 0⟩]⟩, 0, 0⟩ := by decide +kernel
  have known : Move.plan sixtyHz ⟨1022, 0, 1018, 0, 4, 60⟩ = some ⟨1, -4, 0, true⟩ := by
    decide +kernel
  obtain ⟨plan, planned, shown⟩ := trail_shown sixtyHz ⟨1022, 0, 1018, 0, 4, 60⟩ (by decide)
    (by decide) (.inr rfl) (by decide +kernel) mode105 ⟨by decide, by decide, by decide⟩
    ⟨2, 1, [7, 5]⟩ ⟨by decide, by decide⟩ ⟨by decide, by decide⟩
  cases known.symm.trans planned
  refine ⟨_, run, rfl, ?_⟩
  exact ((shown 0 (ticks 1) _ _ run ⟨⟨1023, by decide⟩, ⟨0, by decide⟩⟩).2 [] ⟨1022, 0⟩
    [⟨1018, 0⟩] rfl (by decide +kernel) (by decide +kernel)).trans (by decide +kernel)

end Lcom.Lab5
