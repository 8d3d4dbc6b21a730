import Lcom.Proj.Sprites
import Mathlib.Data.Vector.Basic
import Mathlib.Data.Vector.Mem

/-! The game objects of `macros.h`, `alien.c`, `ship.c`, `alienBullet.c` and `menu.c`.
Every C `int` is an unbounded integer. -/

namespace Lcom.Proj

abbrev numLives : Int := 3
abbrev shipYpos : Int := 630
abbrev xMax : Int := 1000
abbrev xMin : Int := 30
abbrev xRes : Int := 1024
abbrev yRes : Int := 768
abbrev maxShipBullets : Nat := 7
abbrev shipBulletSpeed : Int := 4
abbrev alienBulletSpeed : Int := 4
abbrev sizeOfAliens : Nat := 24
abbrev xLeftBorder : Int := 20
abbrev xRightBorder : Int := 1004
abbrev initialAlienSpeed : Int := 1
abbrev territory : Int := 600
abbrev rowAliens : Nat := 3
abbrev colAliens : Nat := 8

structure Alien where
  x : Int
  y : Int
  width : Int
  height : Int
  img : XpmImage
  imgMov : XpmImage
  alive : Bool
  value : Int
  deriving DecidableEq, Repr

def Alien.zeroed : Alien :=
  { x := 0, y := 0, width := 0, height := 0, img := XpmImage.zeroed, imgMov := XpmImage.zeroed,
    alive := false, value := 0 }

abbrev Aliens := List.Vector Alien sizeOfAliens

def changeAlienXCoordinates (a1 : Alien) (xf : Int) : Alien := { a1 with x := a1.x + xf }

def changeAlienYCoordinates (a1 : Alien) (yf : Int) : Alien := { a1 with y := a1.y + yf }

def createAlien (loader : XpmLoader) (xi yi : Int) (img imgMov : XpmMap) (value : Int) : Alien :=
  { x := xi, y := yi, width := 60, height := 40, img := loader.load img,
    imgMov := loader.load imgMov, alive := true, value := value }

def changeAllY (aliens : Aliens) (yf : Int) : Aliens :=
  aliens.map (fun a1 => changeAlienYCoordinates a1 yf)

structure Ship where
  x : Int
  y : Int
  speed : Int
  img : XpmImage
  lives : Int
  score : Int
  deriving DecidableEq, Repr

inductive KeyActivity where
  | aPressed | aReleased | dPressed | dReleased | invalidKey
  deriving DecidableEq, Repr

def createShip (loader : XpmLoader) (x y speed : Int) : Ship :=
  { x := x, y := y, speed := speed, img := loader.load .shipImage, lives := numLives, score := 0 }

def clamp (min max value : Int) : Int :=
  if value < min then min else if value > max then max else value

def updateShipPosition (ship : Ship) : KeyActivity → Ship
  | .aPressed => { ship with x := clamp xMin (xMax - ship.img.width) (ship.x - ship.speed) }
  | .dPressed => { ship with x := clamp xMin (xMax - ship.img.width) (ship.x + ship.speed) }
  | .aReleased | .dReleased | .invalidKey => ship

def increaseScore (scoreToAdd : Int) (ship : Ship) : Ship :=
  { ship with score := ship.score + scoreToAdd }

def digitXpm : Nat → XpmMap
  | 0 => .zero
  | 1 => .one
  | 2 => .two
  | 3 => .three
  | 4 => .four
  | 5 => .five
  | 6 => .six
  | 7 => .seven
  | 8 => .eight
  | _ => .nine

def countDigits (div : Nat) : Nat :=
  if div > 0 then countDigits (div / 10) + 1 else 0
termination_by div
decreasing_by omega

/-- `while (count != 0)`: the digits of `div` fill `score[count-1]` down to `score[0]`. -/
def fillScore : (count div : Nat) → List XpmMap
  | 0, _ => []
  | count + 1, div => fillScore count (div / 10) ++ [digitXpm (div % 10)]

def drawScore (score : Int) : List (Int × Int × XpmMap) :=
  if score = 0 then [(120, 735, .zero)]
  else (fillScore (countDigits score.toNat) score.toNat).mapIdx
    (fun i digit => (120 + 24 * (i : Int), 735, digit))

/-- The image `drawLives` draws at `(1000, 735)`; `live` is the content of the local
variable when no case of the `switch` assigns it. -/
def livesXpm (loader : XpmLoader) (live : XpmImage) (lives : Int) : XpmImage :=
  if lives = 1 then loader.load .one
  else if lives = 2 then loader.load .two
  else if lives = 3 then loader.load .three
  else live

structure AlienBullet where
  x : Int
  y : Int
  speed : Int
  img : XpmImage
  active : Bool
  deriving DecidableEq, Repr

def createAlienBullet (x y speed : Int) (img : XpmImage) : AlienBullet :=
  { x := x, y := y, speed := speed, img := img, active := true }

def updateAlienBulletPosition (bullet : AlienBullet) : AlienBullet :=
  if bullet.y + bullet.speed + bullet.img.height ≥ 720 then { bullet with active := false }
  else { bullet with y := bullet.y + bullet.speed }

/-- The test of `verifyShipAndBulletCollision`, which does not look at `active`. -/
def ShipHit (ship : Ship) (bullet : AlienBullet) : Prop :=
  (ship.x ≤ bullet.x ∧ ship.x + ship.img.width ≥ bullet.x + bullet.img.width) ∧
    ship.y ≤ bullet.y ∧ ship.y + ship.img.height ≥ bullet.y + bullet.img.height

instance (ship : Ship) (bullet : AlienBullet) : Decidable (ShipHit ship bullet) :=
  inferInstanceAs (Decidable (_ ∧ _))

/-- The rejection loop of `generateAlienBullet` over the results of `rand()`. It returns
nothing when no result so far names a living alien. -/
def generateAlienBullet (aliens : Aliens) : List Nat → Option (Fin sizeOfAliens)
  | [] => none
  | rand :: rest =>
      let randNum : Fin sizeOfAliens := ⟨rand % sizeOfAliens, Nat.mod_lt _ (by decide)⟩
      if (aliens.get randNum).alive then some randNum else generateAlienBullet aliens rest

theorem generateAlienBullet_alive (aliens : Aliens) (rands : List Nat)
    (index : Fin sizeOfAliens) (found : generateAlienBullet aliens rands = some index) :
    (aliens.get index).alive = true := by
  induction rands with
  | nil => cases found
  | cons rand rest ih =>
      simp only [generateAlienBullet] at found
      split at found
      · rename_i alive
        cases found
        exact alive
      · exact ih found

inductive Button where
  | startButton | instructionsButton | exitButton | initial
  deriving DecidableEq, Repr

def asUint16 (value : Int) : Int := value % 65536

def getButton (x y : Int) : Button :=
  let x := asUint16 x
  let y := asUint16 y
  if x > 392 ∧ x < 632 ∧ y > 288 ∧ y < 345 then .startButton
  else if x > 208 ∧ x < 817 ∧ y > 400 ∧ y < 457 then .instructionsButton
  else if x > 408 ∧ x < 609 ∧ y > 512 ∧ y < 569 then .exitButton
  else .initial

def getInstructionButton (x y : Int) : Bool :=
  let x := asUint16 x
  let y := asUint16 y
  decide (x > 912 ∧ x < 992 ∧ y > 672 ∧ y < 736)

def menuXpm : Button → XpmMap
  | .startButton => .menuStart
  | .instructionsButton => .menuInstructions
  | .exitButton => .menuExit
  | .initial => .menu2

/-- The image that `drawInstructions` copies to the whole screen. It always returns 0. -/
def instructionsXpm (button : Bool) : XpmMap :=
  if button then .instructionsBack else .instructions

end Lcom.Proj
