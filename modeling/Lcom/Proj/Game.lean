import Lcom.Lib.Transition
import Lcom.Proj.Devices
import Lcom.Proj.ShipBullets

/-! `game.c`: the state of `game_loop` between two messages and what one
`driver_receive` message does to it. -/

namespace Lcom.Proj

open Lcom.Lib

inductive GameState where
  | menuDisplay | instructionsDisplay | playing | nextRound | exit
  deriving DecidableEq, Repr

inductive Call where
  | drawBackground (img : XpmImage)
  | drawXpm (x y : Int) (img : XpmImage)
  | drawMouse (mouse : Mouse)
  | drawLives (lives : Int)
  | getMousePacket (bytes : MouseBytes)
  | generateAlienBullet (aliens : Aliens)
  | createAlienBullet (index : Fin sizeOfAliens)
  | loseLife

def Call.pixels : Call → List PixelCall
  | .drawXpm x y img => Lcom.Proj.drawXpm x y img
  | .drawMouse mouse => Lcom.Proj.drawMouse mouse.x mouse.y mouse.img
  | _ => []

/-- The variables of a game: the globals of `game.c`, the march speed, the bullets, the
ship and the locals that steer the march, with the calls made by the last message. -/
structure Game where
  gameState : GameState
  aliens : Aliens
  killCount : Int
  frameCounter : Int
  framesPerState : Int
  row : Int
  roundNum : Int
  speed : Int
  changeSpeed : Bool
  changeDir : Bool
  nextRound : Bool
  timerCounter : Int
  bullets : ShipBullets
  alienBullet : AlienBullet
  ship : Ship
  movImg : Bool
  rightMov : Bool
  calls : List Call

/-- Everything that `game_loop` keeps from one message to the next. -/
structure World where
  game : Game
  mouse : Mouse
  mouseGlobals : MouseGlobals
  currentByte : Nat
  mouseBytes : MouseBytes
  keyboardScancode : UInt8
  size : Nat
  kbdBytes : UInt8 × UInt8
  button : Button
  instructionButton : Bool

/-- What stays fixed during a run: the loaded images and `sys_hz()`. -/
structure Config where
  loader : XpmLoader
  hz : Nat

def Config.ipf (cfg : Config) : Int := (cfg.hz / 60 : Nat)

/-- The contents of memory that `game_loop` reserves and does not initialise, and the last
status byte that `send_mouse_command` read. -/
structure Uninitialised where
  alienBullet : AlienBullet
  mouseBytes : MouseBytes
  kbdBytes : UInt8 × UInt8
  mouseStatuscode : UInt8

def newShip (cfg : Config) : Ship := createShip cfg.loader 512 shipYpos 15

def startGame (cfg : Config) (memory : Uninitialised) : Game :=
  { gameState := .menuDisplay
    aliens := List.Vector.replicate sizeOfAliens Alien.zeroed
    killCount := 0
    frameCounter := 0
    framesPerState := 20
    row := 0
    roundNum := 0
    speed := 1
    changeSpeed := false
    changeDir := false
    nextRound := false
    timerCounter := 0
    bullets := initShipBullets
    alienBullet := { memory.alienBullet with active := false }
    ship := newShip cfg
    movImg := false
    rightMov := true
    calls := [] }

def start (cfg : Config) (memory : Uninitialised) : World :=
  { game := startGame cfg memory
    mouse := createMouse cfg.loader 50 700
    mouseGlobals := ⟨0, memory.mouseStatuscode, false⟩
    currentByte := 1
    mouseBytes := memory.mouseBytes
    keyboardScancode := 0
    size := 1
    kbdBytes := memory.kbdBytes
    button := .initial
    instructionButton := false }

/-- What the devices and `rand()` reply while one notification is handled, and the
contents of the locals that are read before they are assigned. -/
structure Inputs where
  mouse : PortReads
  keyboard : PortReads
  statuscode : UInt8
  rand : List Nat
  live : XpmImage

inductive Message where
  | failedReceive
  | notFromHardware
  | hardware (interrupts : BitVec 64) (inputs : Inputs)

def Game.call (g : Game) (made : List Call) : Game := { g with calls := g.calls ++ made }

def World.call (w : World) (made : List Call) : World := { w with game := w.game.call made }

def World.clear (w : World) : World := { w with game := { w.game with calls := [] } }

def World.enter (w : World) (gameState : GameState) : World :=
  { w with game := { w.game with gameState := gameState } }

def gridAlien (cfg : Config) (column row : Nat) : Alien :=
  let xi : Int := 24 + 80 * column
  let yi : Int := 20 + 60 * row
  if row = 0 then createAlien cfg.loader xi yi .alien3 .alien3M 30
  else if row = 1 then createAlien cfg.loader xi yi .alien1 .alien1M 20
  else createAlien cfg.loader xi yi .alien2 .alien2M 10

def initAliens (cfg : Config) : Aliens :=
  ⟨(List.range colAliens).flatMap (fun column =>
    (List.range rowAliens).map (fun row => gridAlien cfg column row)), rfl⟩

def initGame (cfg : Config) (g : Game) : Game :=
  { g.call [.drawBackground (cfg.loader.load .background), .drawXpm g.ship.x g.ship.y g.ship.img]
    with
    aliens := initAliens cfg
    gameState := .playing
    killCount := 0
    framesPerState := 20
    frameCounter := 0
    changeSpeed := false
    changeDir := false
    speed := initialAlienSpeed + 2 * g.roundNum }

/-- How a part of the hardware case ends: in the part after it, or at the end of the case
through `continue`. -/
inductive Flow where
  | next (w : World)
  | leave (w : World)

def menuPacket (cfg : Config) (w : World) : World :=
  let button := getButton w.mouse.x w.mouse.y
  let w := { w with button := button }.call
    [.drawBackground (cfg.loader.load (menuXpm button)), .drawMouse w.mouse]
  if w.mouse.lbPressed then
    match button with
    | .startButton => { w with game := initGame cfg w.game }
    | .instructionsButton =>
        (w.enter .instructionsDisplay).call
          [.drawBackground (cfg.loader.load (instructionsXpm false))]
    | .exitButton => w.enter .exit
    | .initial => w
  else w

def instructionsPacket (cfg : Config) (w : World) : World :=
  let instructionButton := getInstructionButton w.mouse.x w.mouse.y
  let w := { w with instructionButton := instructionButton }.call
    [.drawBackground (cfg.loader.load (instructionsXpm instructionButton)), .drawMouse w.mouse]
  if w.mouse.lbPressed ∧ instructionButton then
    ({ w with button := .initial }.enter .menuDisplay).call
      [.drawBackground (cfg.loader.load (menuXpm .initial))]
  else w

def shoot (cfg : Config) (g : Game) : Game :=
  { g with
    bullets := createShipBullet (g.ship.x + (g.ship.img.width / 2 : Nat)) g.ship.y shipBulletSpeed
      (cfg.loader.load .shipBullet) g.bullets }

def playingPacket (cfg : Config) (w : World) : World :=
  if w.mouse.lbPressed then
    { w with game := shoot cfg w.game, mouse := { w.mouse with lbPressed := false } }
  else w

def handlePacket (cfg : Config) (w : World) : World :=
  match w.game.gameState with
  | .menuDisplay => menuPacket cfg w
  | .instructionsDisplay => instructionsPacket cfg w
  | .playing => playingPacket cfg w
  | .nextRound | .exit => w

def decodePacket (scancode : UInt8) (w : World) : World :=
  let bytes := { w.mouseBytes with third := scancode }
  { w with
    currentByte := 1
    mouseBytes := bytes
    mouse := updateMouse (getMousePacket bytes) w.mouse }.call [.getMousePacket bytes]

def readMouse (inputs : Inputs) (w : World) : World :=
  { w with mouseGlobals := mouseIh inputs.mouse w.mouseGlobals }

def mousePart (cfg : Config) (inputs : Inputs) (w : World) : Flow :=
  let w := readMouse inputs w
  let scancode := w.mouseGlobals.scancode
  if w.mouseGlobals.ihError then
    .leave { w with mouseGlobals := { w.mouseGlobals with ihError := false } }
  else if w.currentByte = 1 then
    if scancode &&& 0x08 = 0 then .leave w
    else .next { w with currentByte := 2, mouseBytes := { w.mouseBytes with first := scancode } }
  else if w.currentByte = 2 then
    .next { w with currentByte := 3, mouseBytes := { w.mouseBytes with second := scancode } }
  else if w.currentByte = 3 then .next (handlePacket cfg (decodePacket scancode w))
  else .next w

def steer (key : KeyActivity) (g : Game) : Game := { g with ship := updateShipPosition g.ship key }

def keyboardPart (inputs : Inputs) (w : World) : Flow :=
  let scancode := kbcIh inputs.keyboard inputs.statuscode w.keyboardScancode
  let w := { w with keyboardScancode := scancode }
  if twoBytes scancode then .leave { w with size := 2 }
  else
    let w := { w with
      kbdBytes := if w.size = 1 then (scancode, w.kbdBytes.2) else (0xE0, scancode)
      size := 1 }
    if scancode = escBreak then .leave (w.enter .exit)
    else if w.game.gameState = .playing then
      .next { w with game := steer (keyActivity scancode) w.game }
    else .next w

/-- The variables that the loop over the aliens reads and writes besides the alien. -/
structure March where
  bullets : ShipBullets
  killCount : Int
  ship : Ship
  speed : Int
  roundNum : Int
  gameState : GameState
  changeDir : Bool
  calls : List Call

def advanceAlien (rightMov movImg : Bool) (speed : Int) (a : Alien) : Alien :=
  let a := changeAlienXCoordinates a (if rightMov then speed else -speed)
  let img := if movImg then a.imgMov else a.img
  { a with width := img.width, height := img.height }

def AtBorder (rightMov : Bool) (a : Alien) : Prop :=
  if rightMov then a.x + a.width ≥ xRightBorder else a.x ≤ xLeftBorder

instance (rightMov : Bool) (a : Alien) : Decidable (AtBorder rightMov a) := by
  unfold AtBorder; infer_instance

def settleAlien (cfg : Config) (a : Alien) (m : March) : March :=
  if a.y + a.height ≥ territory then
    { m with
      ship := newShip cfg
      speed := initialAlienSpeed
      roundNum := 0
      gameState := .menuDisplay }
  else if m.killCount = sizeOfAliens then
    { m with gameState := .nextRound, roundNum := m.roundNum + 1 }
  else m

def strikeAlien (rightMov movImg : Bool) (a : Alien) (m : March) : Alien × March :=
  let hit := verifyAlienAndBulletCollision a m.killCount m.ship m.bullets
  (hit.alien, { m with
    bullets := { m.bullets with heap := hit.heap }
    killCount := hit.killCount
    ship := hit.ship
    changeDir := m.changeDir || decide (AtBorder rightMov a)
    calls := m.calls ++ [.drawXpm a.x a.y (if movImg then a.imgMov else a.img)] })

def marchAlien (cfg : Config) (rightMov movImg : Bool) (a : Alien) (m : March) : Alien × March :=
  if ¬ a.alive then (a, m)
  else
    let struck := strikeAlien rightMov movImg (advanceAlien rightMov movImg m.speed a) m
    (struck.1, settleAlien cfg struck.1 struck.2)

def Game.march (g : Game) : March :=
  ⟨g.bullets, g.killCount, g.ship, g.speed, g.roundNum, g.gameState, false, g.calls⟩

def marchPass (cfg : Config) (g : Game) : List Alien × March :=
  traverse (marchAlien cfg g.rightMov g.movImg) g.aliens.toList g.march

theorem marchPass_length (cfg : Config) (g : Game) : (marchPass cfg g).1.length = sizeOfAliens :=
  (traverse_length _ _ _).trans g.aliens.2

def marchedAliens (cfg : Config) (g : Game) : Aliens :=
  ⟨(marchPass cfg g).1, marchPass_length cfg g⟩

def marchAliens (cfg : Config) (g : Game) : Game :=
  let pass := marchPass cfg g
  let aliens := marchedAliens cfg g
  { g with
    aliens := if pass.2.changeDir then changeAllY aliens 20 else aliens
    rightMov := if pass.2.changeDir then !g.rightMov else g.rightMov
    changeDir := false
    bullets := pass.2.bullets
    killCount := pass.2.killCount
    ship := pass.2.ship
    speed := pass.2.speed
    roundNum := pass.2.roundNum
    gameState := pass.2.gameState
    calls := pass.2.calls }

def advanceFrame (g : Game) : Game :=
  let g := { g with row := g.row + 1, timerCounter := 0 }
  if g.frameCounter ≥ g.framesPerState then { g with movImg := !g.movImg, frameCounter := 0 } else g

def moveAliens (cfg : Config) (g : Game) : Game :=
  if g.timerCounter ≥ cfg.ipf then
    advanceFrame (marchAliens cfg { g with frameCounter := g.frameCounter + 1 })
  else g

def frameCalls (cfg : Config) (inputs : Inputs) (g : Game) : List Call :=
  [Call.drawBackground (cfg.loader.load .background), Call.drawXpm g.ship.x g.ship.y g.ship.img] ++
    (drawnShipBullets g.bullets).map (fun bullet => Call.drawXpm bullet.x bullet.y bullet.img) ++
    (if g.alienBullet.active then
      [Call.drawXpm g.alienBullet.x g.alienBullet.y g.alienBullet.img] else []) ++
    [Call.drawLives g.ship.lives,
      Call.drawXpm 1000 735 (livesXpm cfg.loader inputs.live g.ship.lives)] ++
    (drawScore g.ship.score).map (fun digit =>
      Call.drawXpm digit.1 digit.2.1 (cfg.loader.load digit.2.2))

def drawFrame (cfg : Config) (inputs : Inputs) (g : Game) : Game :=
  let g := { g with bullets := updateShipBulletPosition g.bullets }
  { g with bullets := drawShipBullets g.bullets }.call (frameCalls cfg inputs g)

def fireAlienBullet (cfg : Config) (index : Fin sizeOfAliens) (g : Game) : Game :=
  let a := g.aliens.get index
  { g with
    alienBullet := createAlienBullet (a.x + a.width / 2) (a.y + a.height) alienBulletSpeed
      (cfg.loader.load .alienBullet) }.call [.generateAlienBullet g.aliens, .createAlienBullet index]

def verifyShipAndBulletCollision (g : Game) : Game :=
  if ShipHit g.ship g.alienBullet then
    { g with
      ship := { g.ship with lives := g.ship.lives - 1 }
      alienBullet := { g.alienBullet with active := false } }.call [.loseLife]
  else g

/-- The branch of a tick with an active alien bullet, up to the test for no lives. -/
def moveAlienBullet (g : Game) : Game :=
  verifyShipAndBulletCollision { g with alienBullet := updateAlienBulletPosition g.alienBullet }

def gameOver (cfg : Config) (g : Game) : Game :=
  { g with
    ship := newShip cfg
    speed := initialAlienSpeed
    roundNum := 0
    gameState := .menuDisplay }

def playingTick (cfg : Config) (inputs : Inputs) (g : Game) : Option Game :=
  let g := drawFrame cfg inputs g
  if ¬ g.alienBullet.active then
    (generateAlienBullet g.aliens inputs.rand).map (fun index =>
      moveAliens cfg (fireAlienBullet cfg index g))
  else
    let g := moveAlienBullet g
    if g.ship.lives = 0 then some (gameOver cfg g) else some (moveAliens cfg g)

def nextRoundTick (cfg : Config) (g : Game) : Game :=
  { initGame cfg g with
    gameState := .playing
    speed := initialAlienSpeed + g.roundNum
    nextRound := true }

def menuTick (cfg : Config) (w : World) : World :=
  let button := getButton w.mouse.x w.mouse.y
  { w with button := button }.call
    [.drawBackground (cfg.loader.load (menuXpm button)), .drawMouse w.mouse]

def timerIntHandler (g : Game) : Game := { g with timerCounter := g.timerCounter + 1 }

def timerPart (cfg : Config) (inputs : Inputs) (w : World) : Option World :=
  let w := { w with game := timerIntHandler w.game }
  match w.game.gameState with
  | .playing => (playingTick cfg inputs w.game).map (fun game => { w with game := game })
  | .nextRound => some { w with game := nextRoundTick cfg w.game }
  | .menuDisplay => some (menuTick cfg w)
  | .instructionsDisplay | .exit => some w

def mouseBit : BitVec 64 := 1#64 <<< 12
def kbdBit : BitVec 64 := 1#64 <<< 1
def timerBit : BitVec 64 := 1#64 <<< 0

def Flow.part (interrupts bit : BitVec 64) (handler : World → Flow) : Flow → Flow
  | .leave w => .leave w
  | .next w => if interrupts &&& bit ≠ 0 then handler w else .next w

def inputParts (cfg : Config) (interrupts : BitVec 64) (inputs : Inputs) (w : World) : Flow :=
  ((Flow.next w).part interrupts mouseBit (mousePart cfg inputs)).part interrupts kbdBit
    (keyboardPart inputs)

def hardware (cfg : Config) (interrupts : BitVec 64) (inputs : Inputs) (w : World) : Option World :=
  match inputParts cfg interrupts inputs w with
  | .leave w => some w
  | .next w => if interrupts &&& timerBit ≠ 0 then timerPart cfg inputs w else some w

def gameStep (cfg : Config) (w : World) (message : Message) : Option World :=
  if w.game.gameState = .exit then none
  else
    let w := w.clear
    match message with
    | .failedReceive | .notFromHardware => some w
    | .hardware interrupts inputs => hardware cfg interrupts inputs w

def gameLoop (cfg : Config) : Machine World Message where
  init w := ∃ memory, w = start cfg memory
  step := gameStep cfg

end Lcom.Proj
