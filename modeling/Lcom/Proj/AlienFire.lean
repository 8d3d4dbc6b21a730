import Lcom.Proj.March
import Lcom.Proj.Play

/-! The flight of an alien bullet, tick by tick, to its end. -/

namespace Lcom.Proj

open Lcom.Lib

/-- A bullet of `createAlienBullet` in column `bx`, not below `low`, and a ship at `SHIP_YPOS`,
with the images of the game. -/
structure InTheAir (ship : Ship) (bx low : Int) (g : Game) : Prop where
  target : g.ship = ship
  level : ship.y = shipYpos
  shipSize : (ship.img.width, ship.img.height) = (75, 80)
  column : g.alienBullet.x = bx
  speed : g.alienBullet.speed = alienBulletSpeed
  bulletSize : (g.alienBullet.img.width, g.alienBullet.img.height) = (5, 20)
  height : g.alienBullet.y ≤ low

def Overhead (ship : Ship) (bx : Int) : Prop := ship.x ≤ bx ∧ bx + 5 ≤ ship.x + 75

namespace InTheAir

variable {ship : Ship} {bx low : Int} {g : Game}

/-- The bullet is contained in the ship while its `y` is between 630 and 690. -/
theorem shipHit_iff (air : InTheAir ship bx low g) (bullet : AlienBullet)
    (column : bullet.x = bx) (image : bullet.img = g.alienBullet.img) :
    ShipHit g.ship bullet ↔ Overhead ship bx ∧ 630 ≤ bullet.y ∧ bullet.y ≤ 690 := by
  obtain ⟨shipWidth, shipHeight⟩ := Prod.mk.inj air.shipSize
  obtain ⟨width, height⟩ := Prod.mk.inj air.bulletSize
  have level : ship.y = 630 := air.level
  rw [ShipHit, Overhead, air.target, column, image, level, shipWidth, shipHeight, width, height]
  constructor
  · rintro ⟨⟨left, right⟩, top, bottom⟩
    exact ⟨⟨left, by omega⟩, top, by omega⟩
  · rintro ⟨⟨left, right⟩, top, bottom⟩
    exact ⟨⟨left, by omega⟩, top, by omega⟩

theorem falls (air : InTheAir ship bx low g) (above : g.alienBullet.y < 696) :
    updateAlienBulletPosition g.alienBullet =
      ⟨bx, g.alienBullet.y + 4, 4, g.alienBullet.img, g.alienBullet.active⟩ := by
  have speed : g.alienBullet.speed = 4 := air.speed
  have height := (Prod.mk.inj air.bulletSize).2
  rw [updateAlienBulletPosition, if_neg (by rw [speed, height]; omega)]
  simp only [air.column, speed]

theorem cutOff (air : InTheAir ship bx low g) (past : 696 ≤ g.alienBullet.y) :
    (moveAlienBullet g).alienBullet.active = false ∧ (moveAlienBullet g).ship = ship := by
  have speed : g.alienBullet.speed = 4 := air.speed
  have height := (Prod.mk.inj air.bulletSize).2
  have stopped : updateAlienBulletPosition g.alienBullet =
      { g.alienBullet with active := false } := if_pos (by rw [speed, height]; omega)
  rcases moveAlienBullet_cases g with ⟨hit, _⟩ | ⟨_, same⟩
  · rw [stopped] at hit
    obtain ⟨_, _, bottom⟩ := (air.shipHit_iff _ air.column rfl).mp hit
    have inside : g.alienBullet.y ≤ 690 := bottom
    omega
  · rw [same, stopped]
    exact ⟨rfl, air.target⟩

theorem tick (air : InTheAir ship bx low g) (active : g.alienBullet.active = true)
    (above : g.alienBullet.y < 696) :
    ((Overhead ship bx ∧ 626 ≤ g.alienBullet.y ∧ g.alienBullet.y ≤ 686) ∧
      (moveAlienBullet g).alienBullet.active = false ∧
      (moveAlienBullet g).ship.lives = ship.lives - 1) ∨
    (¬ (Overhead ship bx ∧ 626 ≤ g.alienBullet.y ∧ g.alienBullet.y ≤ 686) ∧
      (moveAlienBullet g).alienBullet.active = true ∧
      (moveAlienBullet g).alienBullet.y = g.alienBullet.y + 4 ∧
      InTheAir ship bx (g.alienBullet.y + 4) (moveAlienBullet g)) := by
  have fallen := air.falls above
  have window : ShipHit g.ship (updateAlienBulletPosition g.alienBullet) ↔
      Overhead ship bx ∧ 626 ≤ g.alienBullet.y ∧ g.alienBullet.y ≤ 686 := by
    rw [fallen]
    refine (air.shipHit_iff ⟨bx, g.alienBullet.y + 4, 4, _, _⟩ rfl rfl).trans ?_
    dsimp only
    constructor
    · rintro ⟨overhead, top, bottom⟩
      exact ⟨overhead, by omega, by omega⟩
    · rintro ⟨overhead, top, bottom⟩
      exact ⟨overhead, by omega, by omega⟩
  rcases moveAlienBullet_cases g with ⟨hit, same⟩ | ⟨missed, same⟩
  · left
    rw [same]
    exact ⟨window.mp hit, rfl, congrArg (fun ship => ship.lives - 1) air.target⟩
  · right
    rw [same, fallen]
    exact ⟨mt window.mpr missed, active, rfl, ⟨air.target, air.level, air.shipSize, rfl, rfl, air.bulletSize,
      le_refl _⟩⟩

theorem lower (air : InTheAir ship bx low g) {other : Int} (bound : low ≤ other) :
    InTheAir ship bx other g :=
  { air with height := le_trans air.height bound }

end InTheAir

theorem strikes {ship : Ship} {bx : Int} (overhead : Overhead ship bx) (g : Game)
    (air : InTheAir ship bx 686 g) (active : g.alienBullet.active = true) :
    (¬ (moveAlienBullet g).alienBullet.active = true ∧
      (moveAlienBullet g).ship.lives = ship.lives - 1) ∨
    ((moveAlienBullet g).alienBullet.active = true ∧ InTheAir ship bx 686 (moveAlienBullet g) ∧
      (690 - (moveAlienBullet g).alienBullet.y).toNat < (690 - g.alienBullet.y).toNat) := by
  have height := air.height
  rcases air.tick active (by omega) with ⟨_, off, lives⟩ | ⟨missed, goes, place, flies⟩
  · left
    rw [off]
    exact ⟨by decide, lives⟩
  · right
    have higher : g.alienBullet.y < 626 := by
      by_contra low
      exact missed ⟨overhead, by omega, height⟩
    exact ⟨goes, flies.lower (by omega), by omega⟩

theorem misses {ship : Ship} {bx : Int} (beside : ¬ Overhead ship bx) (g : Game)
    (air : InTheAir ship bx 699 g) (active : g.alienBullet.active = true) :
    (¬ (moveAlienBullet g).alienBullet.active = true ∧
      (moveAlienBullet g).ship.lives = ship.lives) ∨
    ((moveAlienBullet g).alienBullet.active = true ∧ InTheAir ship bx 699 (moveAlienBullet g) ∧
      (700 - (moveAlienBullet g).alienBullet.y).toNat < (700 - g.alienBullet.y).toNat) := by
  by_cases above : g.alienBullet.y < 696
  · rcases air.tick active above with ⟨⟨overhead, _⟩, _⟩ | ⟨_, goes, place, flies⟩
    · exact absurd overhead beside
    · right
      exact ⟨goes, flies.lower (by omega), by omega⟩
  · left
    obtain ⟨off, same⟩ := air.cutOff (by omega)
    rw [off, same]
    exact ⟨by decide, rfl⟩

/-- The bullet is switched off after finitely many ticks, and the ship has lost a life exactly if
the bullet came down on it. -/
theorem alien_bullet_resolves (g : Game) (bx startY : Int) (img : XpmImage)
    (shot : g.alienBullet = createAlienBullet bx startY alienBulletSpeed img)
    (above : startY ≤ 686) (bulletSize : (img.width, img.height) = (5, 20))
    (level : g.ship.y = shipYpos)
    (shipSize : (g.ship.img.width, g.ship.img.height) = (75, 80)) :
    ∃ ticks, (∀ earlier < ticks, (moveAlienBullet^[earlier] g).alienBullet.active = true) ∧
      (moveAlienBullet^[ticks] g).alienBullet.active = false ∧
      (moveAlienBullet^[ticks] g).ship.lives = g.ship.lives -
        (if g.ship.x ≤ bx ∧ bx + 5 ≤ g.ship.x + 75 then 1 else 0) := by
  have air : InTheAir g.ship bx 686 g := by
    refine ⟨rfl, level, shipSize, ?_, ?_, ?_, ?_⟩
    all_goals rw [shot]
    · rfl
    · rfl
    · exact bulletSize
    · exact above
  have active : g.alienBullet.active = true := by rw [shot]; rfl
  by_cases overhead : g.ship.x ≤ bx ∧ bx + 5 ≤ g.ship.x + 75
  · -- down to 686 the next step is still above the window or lands in it
    obtain ⟨ticks, flying, stopped, lives⟩ := iterate_until
      (fun later => later.alienBullet.active = true) (InTheAir g.ship bx 686)
      (fun later => later.ship.lives = g.ship.lives - 1)
      (fun later => (690 - later.alienBullet.y).toNat) (strikes overhead) g air active
    refine ⟨ticks, flying, eq_false_of_ne_true stopped, ?_⟩
    rw [lives, if_pos overhead]
  · obtain ⟨ticks, flying, stopped, lives⟩ := iterate_until
      (fun later => later.alienBullet.active = true) (InTheAir g.ship bx 699)
      (fun later => later.ship.lives = g.ship.lives)
      (fun later => (700 - later.alienBullet.y).toNat) (misses overhead) g
      (air.lower (by decide)) active
    refine ⟨ticks, flying, eq_false_of_ne_true stopped, ?_⟩
    rw [lives, if_neg overhead, sub_zero]

def fallingShot : Game :=
  { startGame sampleConfig sampleMemory with
    alienBullet := createAlienBullet 540 200 alienBulletSpeed (XpmLoader.blank.load .alienBullet) }

theorem alien_bullet_resolves_overhead :
    ∃ ticks, (moveAlienBullet^[ticks] fallingShot).alienBullet.active = false ∧
      (moveAlienBullet^[ticks] fallingShot).ship.lives = 2 := by
  obtain ⟨ticks, _, stopped, lives⟩ := alien_bullet_resolves fallingShot 540 200
    (XpmLoader.blank.load .alienBullet) rfl (by decide) rfl rfl rfl
  exact ⟨ticks, stopped, lives⟩

end Lcom.Proj
