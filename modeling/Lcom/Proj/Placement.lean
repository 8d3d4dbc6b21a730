import Lcom.Proj.Cursor
import Lcom.Proj.Score

/-! Where the objects of a game can be: the cursor, the ship, both kinds of bullets and the
aliens. -/

namespace Lcom.Proj

open Lcom.Lib

theorem cursor_tracks : Tracks CursorPlace :=
  ⟨fun bytes _ place => updateMouse_place place bytes, fun _ place => place⟩

structure ShipPlace (ship : Ship) : Prop where
  speed : ship.speed = 15
  width : ship.img.width = 75
  height : ship.img.height = 80
  left : 30 ≤ ship.x
  right : ship.x ≤ 925
  row : ship.y = 630

theorem newShip_place (cfg : Config) : ShipPlace (newShip cfg) where
  speed := rfl
  width := cfg.loader.width_eq .shipImage
  height := cfg.loader.height_eq .shipImage
  left := show (30 : Int) ≤ 512 by decide
  right := show (512 : Int) ≤ 925 by decide
  row := rfl

theorem clamp_bounds (min max value : Int) (order : min ≤ max) :
    min ≤ clamp min max value ∧ clamp min max value ≤ max := by
  unfold clamp
  split
  · omega
  · split <;> omega

theorem updateShipPosition_place {ship : Ship} (place : ShipPlace ship) (key : KeyActivity) :
    ShipPlace (updateShipPosition ship key) := by
  have bounds : ∀ value, 30 ≤ clamp xMin (xMax - ship.img.width) value ∧
      clamp xMin (xMax - ship.img.width) value ≤ 925 := by
    intro value
    rw [place.width]
    exact clamp_bounds 30 925 value (by decide)
  cases key with
  | aPressed => exact ⟨place.speed, place.width, place.height, (bounds _).1, (bounds _).2, place.row⟩
  | dPressed => exact ⟨place.speed, place.width, place.height, (bounds _).1, (bounds _).2, place.row⟩
  | aReleased => exact place
  | dReleased => exact place
  | invalidKey => exact place

theorem clamp_left {x : Int} (left : 30 ≤ x) (right : x ≤ 925) :
    clamp 30 925 (x - 15) = x ↔ ¬ 30 < x := by
  unfold clamp
  split
  · omega
  · split <;> omega

theorem clamp_right {x : Int} (left : 30 ≤ x) (right : x ≤ 925) :
    clamp 30 925 (x + 15) = x ↔ ¬ x < 925 := by
  unfold clamp
  split
  · omega
  · split <;> omega

theorem keyActivity_still {ship : Ship} (place : ShipPlace ship) (byte : UInt8) :
    (updateShipPosition ship (keyActivity byte)).x = ship.x ↔
      ¬ ((byte = 0x1E ∧ xMin < ship.x) ∨ (byte = 0x20 ∧ ship.x < xMax - 75)) := by
  have bound : xMax - (ship.img.width : Int) = 925 := by rw [place.width]; rfl
  have left := place.left
  have right := place.right
  unfold keyActivity
  split
  · rename_i pressed
    rw [pressed, updateShipPosition, place.speed, bound]
    have still := clamp_left left right
    simpa using still
  · rename_i notA
    split
    · rename_i released
      simp [released, updateShipPosition]
    · split
      · rename_i pressed
        rw [pressed, updateShipPosition, place.speed, bound]
        have still := clamp_right left right
        have border : ship.x < xMax - 75 ↔ ship.x < 925 := Iff.rfl
        rw [border]
        simpa using still
      · rename_i notD
        split <;> simp [notA, notD, updateShipPosition]

theorem ShipPlace.onScreen {ship : Ship} (place : ShipPlace ship) :
    OnScreen ship.x ship.y ship.img := by
  have left := place.left
  have right := place.right
  simp only [OnScreen, place.width, place.height, place.row]
  omega

/-- A bullet of the ship flies upwards from the row of the ship and stops at the top. -/
structure ShipBulletPlace (bullet : ShipBullet) : Prop where
  width : bullet.img.width = 5
  height : bullet.img.height = 20
  speed : bullet.speed = shipBulletSpeed
  left : 0 ≤ bullet.x
  right : bullet.x ≤ 1000
  top : 0 ≤ bullet.y
  bottom : bullet.y ≤ 630

theorem moveBullet_place {bullet : ShipBullet} (place : ShipBulletPlace bullet) :
    ShipBulletPlace (moveBullet bullet) := by
  unfold moveBullet
  split
  · exact place
  · split
    · rename_i room
      have bottom := place.bottom
      have speed : bullet.speed = 4 := place.speed
      refine ⟨place.width, place.height, place.speed, place.left, place.right, room, ?_⟩
      change bullet.y - bullet.speed ≤ 630
      omega
    · exact place

theorem ShipBulletPlace.onScreen {bullet : ShipBullet} (place : ShipBulletPlace bullet) :
    OnScreen bullet.x bullet.y bullet.img := by
  have left := place.left
  have right := place.right
  have top := place.top
  have bottom := place.bottom
  simp only [OnScreen, place.width, place.height]
  omega

theorem shot_place (cfg : Config) {ship : Ship} (place : ShipPlace ship) :
    ShipBulletPlace ⟨ship.x + (ship.img.width / 2 : Nat), ship.y, shipBulletSpeed,
      cfg.loader.load .shipBullet, false⟩ := by
  have left := place.left
  have right := place.right
  refine ⟨cfg.loader.width_eq .shipBullet, cfg.loader.height_eq .shipBullet, rfl, ?_, ?_, ?_, ?_⟩
  all_goals
    dsimp only
    simp only [place.width, place.row]
    omega

theorem moveAliens_shipPlace (cfg : Config) (g : Game) (place : ShipPlace g.ship) :
    ShipPlace (moveAliens cfg g).ship :=
  moveAliens_ship (newShip_place cfg) (fun _ _ ship => ⟨ship.speed, ship.width, ship.height,
    ship.left, ship.right, ship.row⟩) g place

theorem tick_shipPlace {cfg : Config} {g after : Game} (place : ShipPlace g.ship)
    (ends : TickEnd cfg g after) : ShipPlace after.ship := by
  cases ends with
  | fired index idle alive => exact moveAliens_shipPlace cfg _ place
  | lost active dead => exact newShip_place cfg
  | flown active left =>
      apply moveAliens_shipPlace
      obtain ⟨lives, still, calls, same⟩ := moveAlienBullet_eq g
      rw [same]
      exact ⟨place.speed, place.width, place.height, place.left, place.right, place.row⟩

theorem ship_reachable {cfg : Config} (w : World) (reached : (gameLoop cfg).Reachable w) :
    ShipPlace w.game.ship := by
  apply reachable_invariant (fun g => ShipPlace g.ship) _ _ _ _ w reached
  · exact fun _ => newShip_place cfg
  · exact fun _ place => place
  · intro started before after place move
    cases move with
    | steer key playing => exact updateShipPosition_place place key
    | _ => exact place
  · intro before after place move
    cases move with
    | tick _ inputs playing ends =>
        exact tick_shipPlace (g := drawFrame cfg inputs (timerIntHandler before)) place ends
    | _ => exact place

theorem marchAliens_bulletPlace (cfg : Config) (g : Game)
    (places : g.bullets.All ShipBulletPlace) :
    (marchAliens cfg g).bullets.All ShipBulletPlace := by
  apply marchPass_rule cfg g (fun _ _ m => m.bullets.All ShipBulletPlace) _ places
  intro done a rest m a' m' bullets visit
  cases visit with
  | skipped dead => exact bullets
  | missed heap _ alive place read next misses =>
      rw [settleAlien_bullets]
      intro ref member
      change ShipBulletPlace (heap.read ref)
      rw [read]
      exact bullets ref member
  | killed heap ref moved alive place read next inside hit =>
      rw [settleAlien_bullets]
      intro other member
      have old := bullets other member
      change ShipBulletPlace (heap.read other)
      rw [read]
      by_cases same : other = ref
      · subst other
        rw [Function.update_self]
        exact ⟨old.width, old.height, old.speed, old.left, old.right, old.top, old.bottom⟩
      · rw [Function.update_of_ne same]
        exact old

theorem moveAliens_bulletPlace (cfg : Config) (g : Game) (places : g.bullets.All ShipBulletPlace) :
    (moveAliens cfg g).bullets.All ShipBulletPlace :=
  moveAliens_keeps cfg g (fun g => g.bullets.All ShipBulletPlace) (fun _ _ _ _ _ places => places)
    (marchAliens_bulletPlace cfg) places

/-- The bounds of the march together with those of the descent and of the values. -/
def Ranked (aliens : Aliens) (speed roundNum : Int) (rightMov : Bool) : Prop :=
  Bordered aliens speed roundNum rightMov ∧
    ∀ i, (0 ≤ (aliens.get i).value ∧ (aliens.get i).value ≤ 30) ∧ 0 ≤ (aliens.get i).y ∧
      ((aliens.get i).alive = true → (aliens.get i).y + 40 < 620)

theorem gridAlien_value (cfg : Config) (column row : Nat) :
    0 ≤ (gridAlien cfg column row).value ∧ (gridAlien cfg column row).value ≤ 30 := by
  unfold gridAlien
  dsimp only
  split
  · simp [createAlien]
  · split
    · simp [createAlien]
    · simp [createAlien]

theorem initAliens_ranked (cfg : Config) (roundNum : Int) (rightMov : Bool)
    (positive : 0 ≤ roundNum) :
    Ranked (initAliens cfg) (initialAlienSpeed + roundNum) roundNum rightMov := by
  refine ⟨initAliens_bordered cfg roundNum rightMov positive, ?_⟩
  intro i
  have height : ((initAliens cfg).get i).y = 20 + 60 * (i.1 % 3 : Nat) := by
    rw [initAliens_get]
    exact (gridAlien_spec cfg _ _).2.2
  have value := gridAlien_value cfg (i.1 / 3) (i.1 % 3)
  rw [← initAliens_get] at value
  refine ⟨value, ?_, fun _ => ?_⟩
  · rw [height]
    omega
  · rw [height]
    omega

theorem Marched.value_eq {rightMov movImg turned : Bool} {speed : Int} {a after : Alien}
    (marched : Marched rightMov movImg turned speed a after) : after.value = a.value := by
  cases marched with
  | dead dead => rfl
  | moved alive moved _ place outcome above border =>
      subst place
      rcases outcome with rfl | rfl <;> rfl

theorem marchAliens_ranked (cfg : Config) (g : Game)
    (holds : Ranked g.aliens g.speed g.roundNum g.rightMov)
    (playing : (marchAliens cfg g).gameState = .playing) :
    Ranked (marchAliens cfg g).aliens g.speed g.roundNum (marchAliens cfg g).rightMov := by
  refine ⟨marchAliens_bordered cfg g holds.1 playing, ?_⟩
  intro i
  obtain ⟨after, marched, place⟩ := marchAliens_get cfg g playing i
  have old := holds.2 i
  have down : 0 ≤ descent (marchPass cfg g).2.changeDir ∧
      descent (marchPass cfg g).2.changeDir ≤ 20 := by
    unfold descent
    split <;> omega
  rw [place]
  simp only [changeAlienYCoordinates]
  refine ⟨?_, ?_, ?_⟩
  · rw [marched.value_eq]
    exact old.1
  · rw [marched.y_eq]
    omega
  · intro alive
    have above := (marched.survivor alive).2.2.1
    have height : after.height = 40 := (marched.sized (holds.1.1.2.2 i)).1.2
    rw [height] at above
    simp only [territory] at above
    omega

/-- A living alien is drawn on the screen wherever one pass takes it in the rounds up to 20. -/
theorem advanceAlien_onScreen {aliens : Aliens} {speed roundNum step : Int}
    {rightMov movImg : Bool} (ranked : Ranked aliens speed roundNum rightMov) (early : roundNum ≤ 20)
    (forward : 1 ≤ step) (bounded : step ≤ speed) (i : Fin sizeOfAliens)
    (alive : (aliens.get i).alive = true) :
    OnScreen (advanceAlien rightMov movImg step (aliens.get i)).x
      (advanceAlien rightMov movImg step (aliens.get i)).y
      (if movImg then (aliens.get i).imgMov else (aliens.get i).img) := by
  obtain ⟨⟨⟨pace, positive, sized⟩, bounds⟩, heights⟩ := ranked
  have inside := bounds i alive
  have top := (heights i).2.1
  have bottom := (heights i).2.2 alive
  have size : (if movImg then (aliens.get i).imgMov else (aliens.get i).img).width = 60 ∧
      (if movImg then (aliens.get i).imgMov else (aliens.get i).img).height = 40 := by
    cases movImg with
    | false => exact (sized i).2.1
    | true => exact (sized i).2.2
  have place : (advanceAlien rightMov movImg step (aliens.get i)).x =
      (aliens.get i).x + heading rightMov step := rfl
  have row : (advanceAlien rightMov movImg step (aliens.get i)).y = (aliens.get i).y := rfl
  rw [OnScreen, size.1, size.2, place, row]
  simp only [heading, xLeftBorder, xRightBorder, initialAlienSpeed] at inside pace ⊢
  cases rightMov with
  | false =>
      have left := inside.2.2 rfl
      simp only [Bool.false_eq_true, if_false]
      omega
  | true =>
      have right := inside.2.1 rfl
      simp only [if_true]
      omega

/-- The bullet of the aliens flies downwards between the aliens and the cut-off at 720. -/
structure AlienBulletPlace (bullet : AlienBullet) : Prop where
  width : bullet.img.width = 5
  height : bullet.img.height = 20
  speed : bullet.speed = alienBulletSpeed
  top : 0 ≤ bullet.y
  bottom : bullet.y + 20 ≤ 768

def AcrossScreen (bullet : AlienBullet) : Prop := 0 ≤ bullet.x ∧ bullet.x + 5 ≤ 1024

instance (bullet : AlienBullet) : Decidable (AcrossScreen bullet) :=
  inferInstanceAs (Decidable (_ ∧ _))

theorem updateAlienBulletPosition_place {bullet : AlienBullet} (place : AlienBulletPlace bullet) :
    AlienBulletPlace (updateAlienBulletPosition bullet) := by
  unfold updateAlienBulletPosition
  split
  · exact ⟨place.width, place.height, place.speed, place.top, place.bottom⟩
  · rename_i high
    have top := place.top
    have speed : bullet.speed = 4 := place.speed
    have height := place.height
    refine ⟨place.width, place.height, place.speed, ?_, ?_⟩
    · change 0 ≤ bullet.y + bullet.speed
      omega
    · change bullet.y + bullet.speed + 20 ≤ 768
      omega

theorem updateAlienBulletPosition_x (bullet : AlienBullet) :
    (updateAlienBulletPosition bullet).x = bullet.x := by
  unfold updateAlienBulletPosition
  split <;> rfl

theorem AlienBulletPlace.onScreen {bullet : AlienBullet} (place : AlienBulletPlace bullet)
    (across : AcrossScreen bullet) : OnScreen bullet.x bullet.y bullet.img := by
  have top := place.top
  have bottom := place.bottom
  obtain ⟨left, right⟩ := across
  simp only [OnScreen, place.width, place.height]
  omega

theorem fired_place (cfg : Config) {aliens : Aliens} {speed roundNum : Int} {rightMov : Bool}
    (ranked : Ranked aliens speed roundNum rightMov) (i : Fin sizeOfAliens)
    (alive : (aliens.get i).alive = true) :
    AlienBulletPlace (createAlienBullet ((aliens.get i).x + (aliens.get i).width / 2)
        ((aliens.get i).y + (aliens.get i).height) alienBulletSpeed (cfg.loader.load .alienBullet)) ∧
      (roundNum ≤ 20 → AcrossScreen (createAlienBullet
        ((aliens.get i).x + (aliens.get i).width / 2) ((aliens.get i).y + (aliens.get i).height)
        alienBulletSpeed (cfg.loader.load .alienBullet))) := by
  obtain ⟨⟨⟨pace, positive, sized⟩, bounds⟩, heights⟩ := ranked
  have inside := bounds i alive
  have top := (heights i).2.1
  have bottom := (heights i).2.2 alive
  have width := (sized i).1.1
  have height := (sized i).1.2
  simp only [xLeftBorder, xRightBorder, initialAlienSpeed] at inside pace
  refine ⟨⟨cfg.loader.width_eq .alienBullet, cfg.loader.height_eq .alienBullet, rfl, ?_, ?_⟩, ?_⟩
  · simp only [createAlienBullet, height]
    omega
  · simp only [createAlienBullet, height]
    omega
  · intro early
    simp only [AcrossScreen, createAlienBullet, width]
    omega

end Lcom.Proj
