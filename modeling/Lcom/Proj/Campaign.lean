import Lcom.Proj.Coalescing
import Lcom.Proj.Engagement
import Lcom.Proj.Lives

/-! Runs of `game_loop` that fight a battle: keys steer the ship out of the way of the alien
bullets, packets shoot, and timer interrupts make the ticks. -/

namespace Lcom.Proj

open Lcom.Lib

def Falling (bullet : AlienBullet) : Option (Nat × Nat) → Prop
  | none => bullet.active = false
  | some bomb => (bullet.active = true ∧ bullet.img.width = 5) ∧
      bullet.x + 1000 = bomb.1 ∧ bullet.y = bomb.2

/-- The mouse is between two packets with the cursor on `START_BUTTON`. -/
structure Waiting (w : World) : Prop where
  first : w.currentByte = 1
  fine : w.mouseGlobals.ihError = false
  cursor : w.mouse.x = 450 ∧ w.mouse.y = 320

variable {cfg : Config} {memory : Uninitialised}

/-- The program has come to the state `w`, which the battle `s` describes. -/
structure Shows (cfg : Config) (memory : Uninitialised) (w : World) (s : Battle) : Prop where
  run : (gameLoop cfg).Run (fun _ _ => True) (start cfg memory) w
  waiting : Waiting w
  timer : 0 ≤ w.game.timerCounter
  ship : ShipPlace w.game.ship
  depicts : Depicts w.game s
  falling : Falling w.game.alienBullet s.bomb

theorem Shows.reachable {w : World} {s : Battle} (shown : Shows cfg memory w s) :
    (gameLoop cfg).Reachable w := ⟨_, ⟨memory, rfl⟩, shown.run⟩

theorem Shows.playing {w : World} {s : Battle} (shown : Shows cfg memory w s)
    (wave : s.living ≠ 0) : w.game.gameState = .playing := by
  rw [shown.depicts.state, if_neg wave]

theorem Shows.running {w : World} {s : Battle} (shown : Shows cfg memory w s) :
    w.game.gameState ≠ .exit := by
  rw [shown.depicts.state]
  split <;> decide

theorem Run.then {start w after : World} {message : Message}
    (run : (gameLoop cfg).Run (fun _ _ => True) start w)
    (stepped : gameStep cfg w message = some after) :
    (gameLoop cfg).Run (fun _ _ => True) start after :=
  run.tail ⟨message, trivial, stepped⟩

theorem Shows.steered {w after : World} {s : Battle} {message : Message} {calls : List Call}
    {ship : Ship} (shown : Shows cfg memory w s) (stepped : gameStep cfg w message = some after)
    (game : after.game = { w.game with calls := calls, ship := ship }) (place : ShipPlace ship)
    (waiting : Waiting after) : Shows cfg memory after s := by
  have depicts := shown.depicts
  constructor
  · exact Run.then shown.run stepped
  · exact waiting
  · rw [game]
    exact shown.timer
  · rw [game]
    exact place
  · rw [game]
    refine ⟨depicts.state, depicts.size, depicts.right, depicts.round, ?_, depicts.loaded⟩
    intro wave
    have formed := depicts.formed wave
    exact ⟨formed.alive, formed.column, formed.row⟩
  · rw [game]
    exact shown.falling

theorem kbcIh_byte (key statuscode scancode : UInt8) :
    kbcIh ⟨some 0x01, some key⟩ statuscode scancode = key := by
  have clean : ¬ (0x01 : UInt8) &&& (parityBit ||| timeoutBit) ≠ 0 := by decide
  exact if_neg clean

theorem Shows.press {w : World} {s : Battle} (shown : Shows cfg memory w s) (wave : s.living ≠ 0)
    (key : UInt8) (plain : twoBytes key = false) (stays : key ≠ escBreak) :
    ∃ after, Shows cfg memory after s ∧
      after.game.ship = updateShipPosition w.game.ship (keyActivity key) := by
  have one : ¬ twoBytes key = true := by
    rw [plain]
    decide
  have code : w.clear.nextScancode { noInputs with keyboard := ⟨some 0x01, some key⟩ } = key :=
    kbcIh_byte key _ _
  have playing : w.clear.game.gameState = .playing := shown.playing wave
  have stepped : gameStep cfg w (keyByte key) = some _ := gameStep_kbd cfg _ w shown.running
  rw [keyboardPart_eq, code, if_neg one, if_neg stays, Flow.world, World.keyed, if_pos playing,
    code] at stepped
  have waiting := shown.waiting
  exact ⟨_, shown.steered stepped rfl (updateShipPosition_place shown.ship _)
    ⟨waiting.first, waiting.fine, waiting.cursor⟩, rfl⟩

section Steer

variable {w : World} {s : Battle}

theorem left_press {ship : Ship} (place : ShipPlace ship) :
    (updateShipPosition ship .aPressed).x = 30 ∨
      (updateShipPosition ship .aPressed).x + 15 ≤ ship.x := by
  have moved : (updateShipPosition ship .aPressed).x =
      clamp xMin (xMax - ship.img.width) (ship.x - ship.speed) := rfl
  have right := place.right
  rw [moved, place.width, place.speed, clamp]
  simp only [xMin, xMax]
  split
  · exact .inl rfl
  · split <;> omega

theorem right_press {ship : Ship} (place : ShipPlace ship) :
    (updateShipPosition ship .dPressed).x = 925 ∧ ship.x + 15 ≥ 925 ∨
      (updateShipPosition ship .dPressed).x = ship.x + 15 := by
  have moved : (updateShipPosition ship .dPressed).x =
      clamp xMin (xMax - ship.img.width) (ship.x + ship.speed) := rfl
  have left := place.left
  rw [moved, place.width, place.speed, clamp]
  simp only [xMin, xMax]
  split
  · omega
  · split <;> omega

theorem Shows.goLeft (shown : Shows cfg memory w s) (wave : s.living ≠ 0) :
    ∃ after, Shows cfg memory after s ∧ after.game.ship.x = 30 := by
  have presses : ∀ count : Nat, ∃ after, Shows cfg memory after s ∧
      (after.game.ship.x = 30 ∨ after.game.ship.x + 15 * count ≤ w.game.ship.x) := by
    intro count
    induction count with
    | zero => exact ⟨w, shown, .inr (by omega)⟩
    | succ count ih =>
        obtain ⟨middle, there, place⟩ := ih
        obtain ⟨after, next, ship⟩ := there.press wave 0x1E (by decide) (by decide)
        have moved : after.game.ship = updateShipPosition middle.game.ship .aPressed := ship
        have press := left_press there.ship
        have left := next.ship.left
        refine ⟨after, next, ?_⟩
        rw [← moved] at press
        push_cast
        omega
  obtain ⟨after, there, place⟩ := presses 60
  have left := there.ship.left
  have right := shown.ship.right
  exact ⟨after, there, by push_cast at place; omega⟩

theorem Shows.goRight (shown : Shows cfg memory w s) (wave : s.living ≠ 0)
    (atLeft : w.game.ship.x = 30) (count : Nat) :
    ∃ after, Shows cfg memory after s ∧ after.game.ship.x = min 925 (30 + 15 * (count : Int)) := by
  induction count with
  | zero => exact ⟨w, shown, by rw [atLeft]; rfl⟩
  | succ count ih =>
      obtain ⟨middle, there, place⟩ := ih
      obtain ⟨after, next, ship⟩ := there.press wave 0x20 (by decide) (by decide)
      have moved : after.game.ship = updateShipPosition middle.game.ship .dPressed := ship
      have press := right_press there.ship
      have right := next.ship.right
      refine ⟨after, next, ?_⟩
      rw [← moved] at press
      push_cast
      omega

theorem Shows.dodge (shown : Shows cfg memory w s) (wave : s.living ≠ 0) (x : Int) :
    ∃ after, Shows cfg memory after s ∧
      (x < after.game.ship.x ∨ after.game.ship.x + 75 < x) := by
  obtain ⟨left, there, atLeft⟩ := shown.goLeft wave
  by_cases far : 105 < x
  · exact ⟨left, there, .inr (by omega)⟩
  · obtain ⟨right, beyond, atRight⟩ := there.goRight wave atLeft 60
    exact ⟨right, beyond, .inl (by push_cast at atRight; omega)⟩

end Steer

def World.heard (w : World) (byte : UInt8) : World :=
  { w.clear with mouseGlobals := ⟨byte, 0x21, false⟩ }

theorem readMouse_byte (w : World) (byte : UInt8) (fine : w.mouseGlobals.ihError = false) :
    readMouse { noInputs with mouse := ⟨some 0x21, some byte⟩ } w.clear = w.heard byte := by
  have clean : ¬ ¬ ((0x21 : UInt8) &&& (parityBit ||| timeoutBit) = 0 ∧
      (0x21 : UInt8) &&& obfBit ≠ 0) := by decide
  have globals : mouseIh ⟨some 0x21, some byte⟩ w.mouseGlobals =
      ⟨byte, 0x21, w.mouseGlobals.ihError⟩ := by
    rw [mouseIh]
    exact if_neg clean
  change { w.clear with mouseGlobals := mouseIh ⟨some 0x21, some byte⟩ w.mouseGlobals } = _
  rw [globals, fine]
  rfl

theorem gameStep_byte (cfg : Config) (w : World) (byte : UInt8) (running : w.game.gameState ≠ .exit)
    (fine : w.mouseGlobals.ihError = false) :
    gameStep cfg w (mouseByte byte) = some (Flow.world (
      if w.currentByte = 1 then
        if byte &&& 0x08 = 0 then .leave (w.heard byte)
        else .next { w.heard byte with
          currentByte := 2, mouseBytes := { w.mouseBytes with first := byte } }
      else if w.currentByte = 2 then
        .next { w.heard byte with
          currentByte := 3, mouseBytes := { w.mouseBytes with second := byte } }
      else if w.currentByte = 3 then .next (handlePacket cfg (decodePacket byte (w.heard byte)))
      else .next (w.heard byte))) := by
  have stepped : gameStep cfg w (mouseByte byte) = some _ := gameStep_mouse cfg _ w running
  rw [stepped, mousePart, readMouse_byte w byte fine]
  rfl

theorem click_begins {w : World} (run : (gameLoop cfg).Run (fun _ _ => True) (start cfg memory) w)
    (waiting : Waiting w) (running : w.game.gameState ≠ .exit) :
    ∃ after, (gameLoop cfg).Run (fun _ _ => True) (start cfg memory) after ∧
      after.game = { w.game with calls := [] } ∧ after.mouse = w.mouse ∧
      after.mouseGlobals.ihError = false ∧ after.currentByte = 3 ∧
      after.mouseBytes.first = 0x09 ∧ after.mouseBytes.second = 0 := by
  have sync : ¬ (0x09 : UInt8) &&& 0x08 = 0 := by decide
  have first := gameStep_byte cfg w 0x09 running waiting.fine
  rw [if_pos waiting.first, if_neg sync, Flow.world] at first
  have second := gameStep_byte cfg { w.heard 0x09 with
    currentByte := 2, mouseBytes := { w.mouseBytes with first := 0x09 } } 0x00 running rfl
  exact ⟨_, Run.then (Run.then run first) second, rfl, rfl, rfl, rfl, rfl, rfl⟩

theorem cursor_reachable {w : World} (reached : (gameLoop cfg).Reachable w) :
    CursorPlace w.mouse := by
  apply reached.invariant (fun w => CursorPlace w.mouse)
  · rintro _ ⟨memory, rfl⟩
    exact createMouse_place cfg.loader
  · intro before message after place _ stepped
    exact (gameStep_moves cursor_tracks before after message place stepped).2

theorem updateMouse_click {mouse : Mouse} {bytes : MouseBytes} (place : CursorPlace mouse)
    (cursor : mouse.x = 450 ∧ mouse.y = 320) (first : bytes.first = 0x09)
    (second : bytes.second = 0) (third : bytes.third = 0) :
    updateMouse (getMousePacket bytes) mouse = { mouse with lbPressed := true } := by
  obtain ⟨b1, b2, b3⟩ := bytes
  obtain ⟨x, y, img, lbPressed⟩ := mouse
  obtain ⟨⟨width, _⟩, _⟩ := place
  dsimp only at first second third cursor width
  obtain ⟨atX, atY⟩ := cursor
  subst first second third atX atY
  have noSignX : (0x09 : UInt8) &&& xSign = 0 := by decide
  have noSignY : (0x09 : UInt8) &&& ySign = 0 := by decide
  have pressed : ((0x09 : UInt8) &&& mouseLeft != 0) = true := by decide
  have still : displacement 0 0 = 0 := by decide
  simp only [updateMouse, getMousePacket, noSignX, noSignY, pressed, still, width, xRes, ne_eq,
    not_true_eq_false, if_false, Int.add_zero, Int.sub_zero]
  norm_num

theorem click_ends (cfg : Config) {w : World} (reached : (gameLoop cfg).Reachable w)
    (running : w.game.gameState ≠ .exit) (cursor : w.mouse.x = 450 ∧ w.mouse.y = 320)
    (fine : w.mouseGlobals.ihError = false) (third : w.currentByte = 3)
    (one : w.mouseBytes.first = 0x09) (two : w.mouseBytes.second = 0) :
    (decodePacket 0x00 (w.heard 0x00)).mouse = { w.mouse with lbPressed := true } ∧
      gameStep cfg w (mouseByte 0x00) =
        some (handlePacket cfg (decodePacket 0x00 (w.heard 0x00))) := by
  have place : CursorPlace w.mouse := cursor_reachable reached
  have stepped := gameStep_byte cfg w 0x00 running fine
  have notFirst : ¬ w.currentByte = 1 := by omega
  have notSecond : ¬ w.currentByte = 2 := by omega
  rw [if_neg notFirst, if_neg notSecond, if_pos third, Flow.world] at stepped
  exact ⟨updateMouse_click place cursor one two rfl, stepped⟩

theorem createShipBullet_loaded {bullets : ShipBullets} (shared : bullets.Shared)
    (loaded : Loaded bullets none) (x y : Int) (img : XpmImage) {a b : Nat} (atX : x + 1000 = a)
    (atY : y = b) : Loaded (createShipBullet x y shipBulletSpeed img bullets) (some (a, b)) := by
  have slots : (createShipBullet x y shipBulletSpeed img bullets).slots.toList =
      List.replicate maxShipBullets (some bullets.heap.next) := by
    obtain ⟨slot, same⟩ := shared
    rw [createShipBullet_slots, same, List.map_replicate]
    congr 1
    cases slot with
    | none => rfl
    | some ref =>
        by_cases fresh : ref = bullets.heap.next
        · subst fresh
          simp [reuseSlot]
        · have spent : (bullets.heap.read ref).hitAlien = true := by
            apply loaded ref
            rw [same]
            exact List.mem_replicate.mpr ⟨by decide, rfl⟩
          simp [reuseSlot, fresh, spent]
  refine ⟨⟨bullets.heap.next, ?_⟩, ?_⟩
  · rw [slots]
    exact List.mem_replicate.mpr ⟨by decide, rfl⟩
  · intro ref member
    rw [slots] at member
    have new : ref = bullets.heap.next := Option.some.inj (List.eq_of_mem_replicate member)
    rw [createShipBullet_read, new, Function.update_self]
    exact ⟨⟨atX, atY⟩, rfl, rfl⟩

theorem Shows.fire {w : World} {s : Battle} (shown : Shows cfg memory w s) (wave : s.living ≠ 0)
    (unloaded : s.shot = none) {x : Nat} (place : w.game.ship.x + 1037 = x) :
    ∃ after, Shows cfg memory after { s with shot := some (x, 630) } := by
  obtain ⟨middle, run, game, mouse, fine, third, one, two⟩ :=
    click_begins shown.run shown.waiting shown.running
  have reached : (gameLoop cfg).Reachable middle := ⟨_, ⟨memory, rfl⟩, run⟩
  have cursor : middle.mouse.x = 450 ∧ middle.mouse.y = 320 := by
    rw [mouse]
    exact shown.waiting.cursor
  have playing : middle.game.gameState = .playing := by
    rw [game]
    exact shown.playing wave
  have running : middle.game.gameState ≠ .exit := by
    rw [playing]
    decide
  obtain ⟨clicked, stepped⟩ := click_ends cfg reached running cursor fine third one two
  have state : (decodePacket 0x00 (middle.heard 0x00)).game.gameState = .playing := playing
  have pressed : (decodePacket 0x00 (middle.heard 0x00)).mouse.lbPressed = true := by rw [clicked]
  rw [handlePacket, state] at stepped
  dsimp only at stepped
  rw [playingPacket, if_pos pressed, clicked] at stepped
  have depicts := shown.depicts
  have loaded : Loaded w.game.bullets none := by
    rw [← unloaded]
    exact depicts.loaded
  refine ⟨_, Run.then run stepped, ⟨rfl, rfl, cursor⟩, ?_, ?_, ?_, ?_⟩
  · change 0 ≤ middle.game.timerCounter
    rw [game]
    exact shown.timer
  · change ShipPlace middle.game.ship
    rw [game]
    exact shown.ship
  · change Depicts (shoot cfg { middle.game with calls := _ }) _
    rw [game]
    refine ⟨depicts.state, depicts.size, depicts.right, depicts.round, ?_, ?_⟩
    · intro _
      have formed := depicts.formed wave
      exact ⟨formed.alive, formed.column, formed.row⟩
    · apply createShipBullet_loaded (shared_reachable w shown.reachable) loaded
      · change w.game.ship.x + (w.game.ship.img.width / 2 : Nat) + 1000 = x
        rw [shown.ship.width]
        omega
      · exact shown.ship.row
  · change Falling middle.game.alienBullet s.bomb
    rw [game]
    exact shown.falling

theorem gameStep_tick (cfg : Config) (w : World) (inputs : Inputs)
    (playing : w.game.gameState = .playing) :
    gameStep cfg w (.hardware timerBit inputs) =
      (playingTick cfg inputs (timerIntHandler w.clear.game)).map
        (fun game => { w.clear with game := game }) := by
  have running : w.game.gameState ≠ .exit := by
    rw [playing]
    decide
  have state : (timerIntHandler w.clear.game).gameState = .playing := playing
  rw [gameStep_timer cfg inputs w running, timerPart]
  simp only [state]

section Tick

variable {w : World} {s : Battle}

theorem Shows.poised (shown : Shows cfg memory w s) (wave : s.living ≠ 0)
    (rising : Battle.misses s.shot = false) (room : s.round < s.x) (inputs : Inputs) :
    Poised (drawFrame cfg inputs (timerIntHandler w.clear.game)) s (Battle.rise s.shot) := by
  have depicts := shown.depicts
  have formed := depicts.formed wave
  have playing := shown.playing wave
  have shared := shared_reachable w shown.reachable
  obtain ⟨⟨speed, _, sized⟩, _⟩ := bordered_reachable w shown.reachable playing
  have tally := wave_reachable w shown.reachable (.inl playing)
  have loaded := drawShipBullets_loaded
    (updateShipBulletPosition_loaded shared depicts.loaded rising)
  exact ⟨playing, depicts.right, depicts.round, ⟨formed.alive, formed.column, formed.row⟩, loaded,
    depicts.size, speed, sized, shared, tally, room⟩

def frameOf (cfg : Config) (w : World) (shooter : Nat) : Game :=
  drawFrame cfg { noInputs with rand := [shooter] } (timerIntHandler w.clear.game)

/-- A tick comes to the move of the aliens with the game `g`: the ship has not lost a life and the
alien bullet is where the battle has it. -/
structure Dropped (cfg : Config) (w : World) (shooter : Nat) (bomb : Option (Nat × Nat)) (g : Game) :
    Prop where
  frame : ∃ ship alienBullet calls, g = { frameOf cfg w shooter with
    ship := ship, alienBullet := alienBullet, calls := calls }
  ship : ShipPlace g.ship
  falling : Falling g.alienBullet bomb
  stepped : gameStep cfg w (timerTick [shooter]) =
    some { w.clear with game := moveAliens cfg g }

theorem Shows.fired (shown : Shows cfg memory w s) (wave : s.living ≠ 0) (clear : s.bomb = none)
    {shooter : Nat} (living : s.living.testBit shooter = true) :
    ∃ g, Dropped cfg w shooter (s.drop shooter) g := by
  have playing := shown.playing wave
  have formed := shown.depicts.formed wave
  have bound : shooter < sizeOfAliens := testBit_bound shown.depicts.size living
  have idle : w.game.alienBullet.active = false := by
    have falling := shown.falling
    rw [clear] at falling
    exact falling
  have alive : (w.game.aliens.get ⟨shooter, bound⟩).alive = true := by
    rw [formed.alive]
    exact living
  have chosen : generateAlienBullet w.game.aliens [shooter] = some ⟨shooter, bound⟩ := by
    have same : (⟨shooter % sizeOfAliens, Nat.mod_lt _ (by decide)⟩ : Fin sizeOfAliens) =
        ⟨shooter, bound⟩ := Fin.ext (Nat.mod_eq_of_lt bound)
    simp only [generateAlienBullet]
    rw [same, if_pos alive]
  refine ⟨fireAlienBullet cfg ⟨shooter, bound⟩ (frameOf cfg w shooter), ⟨_, _, _, rfl⟩, shown.ship,
    ?_, ?_⟩
  · obtain ⟨⟨width, height⟩, _⟩ :=
      (bordered_reachable w shown.reachable playing).1.2.2 ⟨shooter, bound⟩
    have x := formed.column ⟨shooter, bound⟩ alive
    have y := formed.row ⟨shooter, bound⟩
    dsimp only at x y
    rw [Battle.drop, clear]
    refine ⟨⟨rfl, cfg.loader.width_eq .alienBullet⟩, ?_, ?_⟩
    · change (w.game.aliens.get ⟨shooter, bound⟩).x +
        (w.game.aliens.get ⟨shooter, bound⟩).width / 2 + 1000 = _
      push_cast
      omega
    · change (w.game.aliens.get ⟨shooter, bound⟩).y +
        (w.game.aliens.get ⟨shooter, bound⟩).height = _
      push_cast
      omega
  · have stepped := gameStep_tick cfg w { noInputs with rand := [shooter] } playing
    rw [playingTick_idle (g := timerIntHandler w.clear.game) idle] at stepped
    have found : generateAlienBullet (timerIntHandler w.clear.game).aliens [shooter] =
        some ⟨shooter, bound⟩ := chosen
    rw [timerTick, stepped]
    dsimp only
    rw [found]
    rfl

theorem updateAlienBulletPosition_falling {bullet : AlienBullet} {x y : Nat} (inv : BulletInv bullet)
    (active : bullet.active = true) (width : bullet.img.width = 5) (atX : bullet.x + 1000 = x)
    (atY : bullet.y = y) : Falling (updateAlienBulletPosition bullet)
      (bif Nat.ble 696 y then none else some (x, y + 4)) := by
  have speed : bullet.speed = 4 := inv.speed
  have height := inv.height
  unfold updateAlienBulletPosition
  cases low : Nat.ble 696 y with
  | true =>
      have below : 696 ≤ y := Nat.le_of_ble_eq_true low
      rw [if_pos (by omega)]
      rfl
  | false =>
      have above : ¬ 696 ≤ y := by
        rw [← Nat.ble_eq, low]
        decide
      rw [if_neg (by omega)]
      refine ⟨⟨active, width⟩, atX, ?_⟩
      change bullet.y + bullet.speed = ((y + 4 : Nat) : Int)
      push_cast
      omega

theorem Shows.flown (shown : Shows cfg memory w s) (wave : s.living ≠ 0) {x y : Nat}
    (bomb : s.bomb = some (x, y))
    (past : (x : Int) - 1000 < w.game.ship.x ∨ w.game.ship.x + 75 < (x : Int) - 1000)
    (shooter : Nat) : ∃ g, Dropped cfg w shooter (s.drop shooter) g := by
  have playing := shown.playing wave
  have falling := shown.falling
  rw [bomb] at falling
  obtain ⟨⟨active, width⟩, atX, atY⟩ := falling
  have inv := lives_reachable w shown.reachable
  have bullet := inv.2 active
  have missed : ¬ ShipHit w.game.ship (updateAlienBulletPosition w.game.alienBullet) := by
    rintro ⟨⟨left, right⟩, _⟩
    rw [updateAlienBulletPosition_x] at left right
    rw [shown.ship.width] at right
    dsimp only at atX
    omega
  have flown : moveAlienBullet (frameOf cfg w shooter) = { frameOf cfg w shooter with
      alienBullet := updateAlienBulletPosition w.game.alienBullet } := if_neg missed
  refine ⟨moveAlienBullet (frameOf cfg w shooter), ?_, ?_, ?_, ?_⟩
  · rw [flown]
    exact ⟨_, _, _, rfl⟩
  · rw [flown]
    exact shown.ship
  · rw [flown, Battle.drop, bomb]
    change Falling (updateAlienBulletPosition w.game.alienBullet)
      (bif Nat.ble 696 y then none else some (x, y + 4))
    exact updateAlienBulletPosition_falling bullet active width atX atY
  · have stepped := gameStep_tick cfg w { noInputs with rand := [shooter] } playing
    rw [playingTick_active (g := timerIntHandler w.clear.game) active] at stepped
    have left : ¬ (moveAlienBullet (frameOf cfg w shooter)).ship.lives = 0 := by
      rw [flown]
      change ¬ w.game.ship.lives = 0
      have lives := inv.1.lives
      omega
    exact stepped.trans (congrArg (Option.map _) (if_neg left))

theorem Shows.dropped (shown : Shows cfg memory w s) (wave : s.living ≠ 0) {shooter : Nat}
    (living : s.living.testBit shooter = true) :
    ∃ middle g, Shows cfg memory middle s ∧ Dropped cfg middle shooter (s.drop shooter) g := by
  cases bomb : s.bomb with
  | none =>
      obtain ⟨g, dropped⟩ := shown.fired wave bomb living
      exact ⟨w, g, shown, dropped⟩
  | some point =>
      obtain ⟨middle, there, past⟩ := shown.dodge wave ((point.1 : Int) - 1000)
      obtain ⟨g, dropped⟩ := there.flown wave bomb past shooter
      exact ⟨middle, g, there, dropped⟩

theorem Dropped.poised {middle : World} {g : Game} {bomb : Option (Nat × Nat)} {shooter : Nat}
    (dropped : Dropped cfg middle shooter bomb g) (shown : Shows cfg memory middle s)
    (wave : s.living ≠ 0) (rising : Battle.misses s.shot = false) (room : s.round < s.x) :
    Poised g s (Battle.rise s.shot) ∧ g.timerCounter = middle.game.timerCounter + 1 := by
  obtain ⟨ship, alienBullet, calls, same⟩ := dropped.frame
  have poised : Poised (frameOf cfg middle shooter) s (Battle.rise s.shot) :=
    shown.poised wave rising room _
  rw [same]
  exact ⟨poised.frame ship alienBullet calls (frameOf cfg middle shooter).frameCounter, rfl⟩

theorem Shows.passed (pace : cfg.ipf ≤ 1) (shown : Shows cfg memory w s) (wave : s.living ≠ 0)
    {shooter : Nat} (living : s.living.testBit shooter = true) (safe : s.overrun = false)
    (rising : Battle.misses s.shot = false) (room : s.round < s.x) :
    ∃ after, Shows cfg memory after (s.pass (Battle.rise s.shot) (s.drop shooter)) := by
  obtain ⟨middle, g, there, dropped⟩ := shown.dropped wave living
  obtain ⟨poised, counter⟩ := dropped.poised there wave rising room
  have timer := there.timer
  have due : cfg.ipf ≤ g.timerCounter := by omega
  obtain ⟨depicts, zero⟩ := moveAliens_depicts poised safe due (s.drop shooter)
  have waiting := there.waiting
  refine ⟨_, Run.then there.run dropped.stepped, ⟨waiting.first, waiting.fine, waiting.cursor⟩, ?_,
    moveAliens_shipPlace cfg g dropped.ship, depicts, ?_⟩
  · change 0 ≤ (moveAliens cfg g).timerCounter
    omega
  · change Falling (moveAliens cfg g).alienBullet (s.drop shooter)
    rw [moveAliens_alienBullet]
    exact dropped.falling

theorem initAliens_formed (cfg : Config) {g : Game} (aliens : g.aliens = initAliens cfg)
    (s : Battle) : Formed g s.renew := by
  have place : ∀ i, ((initAliens cfg).get i).x = 24 + 80 * (i.1 / 3 : Nat) ∧
      ((initAliens cfg).get i).y = 20 + 60 * (i.1 % 3 : Nat) := by
    intro i
    rw [initAliens_get]
    exact (gridAlien_spec cfg _ _).2
  constructor
  · intro i
    rw [aliens, initAliens_alive cfg _ (List.Vector.get_mem i _)]
    change true = Nat.testBit (2 ^ 24 - 1) i.1
    rw [Nat.testBit_two_pow_sub_one]
    exact (decide_eq_true i.2).symm
  · intro i _
    rw [aliens, (place i).1]
    change (24 : Int) + 80 * (i.1 / 3 : Nat) + 1000 = (1024 : Nat) + 80 * (i.1 / 3 : Nat)
    push_cast
    omega
  · intro i
    rw [aliens, (place i).2]
    rfl

theorem Shows.renewed (shown : Shows cfg memory w s) (cleared : s.living = 0) :
    ∃ after, Shows cfg memory after s.renew := by
  have depicts := shown.depicts
  have state : w.clear.game.gameState = .nextRound := by
    change w.game.gameState = _
    rw [depicts.state, if_pos cleared]
  have stepped := gameStep_timer cfg { noInputs with rand := [] } w shown.running
  have next : (timerIntHandler w.clear.game).gameState = .nextRound := state
  rw [timerPart] at stepped
  simp only [next] at stepped
  have waiting := shown.waiting
  have timer := shown.timer
  have full : 2 ^ 24 - 1 < 2 ^ 24 := by decide
  refine ⟨_, Run.then shown.run stepped, ⟨waiting.first, waiting.fine, waiting.cursor⟩, ?_,
    shown.ship, ⟨rfl, full, depicts.right, depicts.round, ?_, depicts.loaded⟩, shown.falling⟩
  · change 0 ≤ w.game.timerCounter + 1
    omega
  · exact fun _ => initAliens_formed cfg rfl s

theorem Shows.tick (pace : cfg.ipf ≤ 1) (shown : Shows cfg memory w s) {shooter : Nat}
    {next : Battle} (ticked : s.tick shooter = some next) :
    ∃ after, Shows cfg memory after next := by
  unfold Battle.tick at ticked
  cases cleared : Nat.beq s.living 0 with
  | true =>
      rw [cleared] at ticked
      cases ticked
      exact shown.renewed (Nat.eq_of_beq_eq_true cleared)
  | false =>
      have wave : s.living ≠ 0 := Nat.ne_of_beq_eq_false cleared
      rw [cleared, cond_false] at ticked
      cases fit : (s.living.testBit shooter && !s.overrun && !Battle.misses s.shot &&
          Nat.blt s.round s.x) with
      | false =>
          rw [fit] at ticked
          cases ticked
      | true =>
          rw [fit] at ticked
          cases ticked
          simp only [Bool.and_eq_true, Bool.not_eq_true', Nat.blt_eq] at fit
          obtain ⟨⟨⟨living, safe⟩, rising⟩, room⟩ := fit
          exact shown.passed pace wave living safe rising room

theorem Shows.shoot (shown : Shows cfg memory w s) (aim : Option Nat) :
    ∃ after, Shows cfg memory after (s.shoot aim) := by
  cases aim with
  | none => exact ⟨w, shown⟩
  | some k =>
      cases blocked : s.shot.isSome || Nat.beq s.living 0 || Nat.blt 59 k with
      | true =>
          have ignored : s.shoot (some k) = s := by rw [Battle.shoot, blocked, cond_true]
          rw [ignored]
          exact ⟨w, shown⟩
      | false =>
          have fired : s.shoot (some k) = { s with shot := some (1067 + 15 * k, 630) } := by
            rw [Battle.shoot, blocked, cond_false]
          simp only [Bool.or_eq_false_iff, Option.isSome_eq_false_iff, Option.isNone_iff_eq_none]
            at blocked
          obtain ⟨⟨unloaded, under⟩, reach⟩ := blocked
          have wave : s.living ≠ 0 := Nat.ne_of_beq_eq_false under
          have near : ¬ 59 < k := by
            rw [← Nat.blt_eq, reach]
            decide
          obtain ⟨left, there, atLeft⟩ := shown.goLeft wave
          obtain ⟨aimed, ready, place⟩ := there.goRight wave atLeft k
          rw [fired]
          apply ready.fire wave unloaded
          push_cast
          omega

theorem Shows.fight (pace : cfg.ipf ≤ 1) (plan : Battle → Order) (n : Nat)
    (shown : Shows cfg memory w s) {last : Battle} (fought : Battle.fight plan n s = some last) :
    ∃ after, Shows cfg memory after last := by
  induction n generalizing w s with
  | zero =>
      cases fought
      exact ⟨w, shown⟩
  | succ n ih =>
      rw [Battle.fight] at fought
      cases lost : s.overrun with
      | true =>
          rw [lost] at fought
          cases fought
          exact ⟨w, shown⟩
      | false =>
          rw [lost, cond_false] at fought
          cases ticked : (s.shoot (plan s).aim).tick (plan s).shooter with
          | none =>
              rw [ticked] at fought
              cases fought
          | some next =>
              rw [ticked] at fought
              have rest : Battle.fight plan n next = some last :=
                (Battle.strict_eq next (Battle.fight plan n)).symm.trans fought
              obtain ⟨aimed, ready⟩ := shown.shoot (plan s).aim
              obtain ⟨after, there⟩ := ready.tick pace ticked
              exact ih there rest

theorem Shows.defeat (pace : cfg.ipf ≤ 1) (shown : Shows cfg memory w s) (lost : s.overrun = true)
    (unloaded : s.shot = none) (room : s.round < s.x) {shooter : Nat}
    (living : s.living.testBit shooter = true) :
    ∃ after, (gameLoop cfg).Run (fun _ _ => True) (start cfg memory) after ∧
      after.game.gameState = .menuDisplay ∧ Waiting after ∧
      Falling after.game.alienBullet (s.drop shooter) := by
  have wave : s.living ≠ 0 := by
    intro zero
    rw [zero, Nat.zero_testBit] at living
    cases living
  have rising : Battle.misses s.shot = false := by
    rw [unloaded]
    rfl
  obtain ⟨middle, g, there, dropped⟩ := shown.dropped wave living
  obtain ⟨poised, counter⟩ := dropped.poised there wave rising room
  rw [unloaded] at poised
  have timer := there.timer
  have due : cfg.ipf ≤ g.timerCounter := by omega
  have waiting := there.waiting
  refine ⟨_, Run.then there.run dropped.stepped, moveAliens_overrun poised lost due,
    ⟨waiting.first, waiting.fine, waiting.cursor⟩, ?_⟩
  change Falling (moveAliens cfg g).alienBullet (s.drop shooter)
  rw [moveAliens_alienBullet]
  exact dropped.falling

end Tick

theorem first_shown : ∃ w, Shows sampleConfig sampleMemory w Battle.first := by
  have evaluated : (played clickStart).any (fun w => decide ((w.currentByte = 1 ∧
      w.mouseGlobals.ihError = false ∧ w.mouse.x = 450 ∧ w.mouse.y = 320) ∧
      w.game.timerCounter = 0 ∧ w.game.ship = newShip sampleConfig ∧ w.game.gameState = .playing ∧
      w.game.rightMov = true ∧ w.game.roundNum = 0 ∧ w.game.alienBullet.active = false ∧
      w.game.bullets.slots = initShipBullets.slots ∧
      w.game.aliens = initAliens sampleConfig)) = true := by decide +kernel
  obtain ⟨w, same, checked⟩ := (Option.any_eq_true _ _).mp evaluated
  obtain ⟨⟨first, fine, cursor⟩, timer, ship, playing, right, round, idle, slots, aliens⟩ :=
    of_decide_eq_true checked
  have size : 2 ^ 24 - 1 < 2 ^ 24 := by decide
  refine ⟨w, Machine.run_of_runList clickStart same, ⟨first, fine, cursor⟩, by omega, ?_,
    ⟨playing, size, right, round, fun _ => initAliens_formed sampleConfig aliens Battle.first, ?_⟩,
    idle⟩
  · rw [ship]
    exact newShip_place sampleConfig
  · intro ref member
    rw [slots] at member
    exact absurd member (initShipBullets_empty ref)

theorem battle_lost (plan : Battle → Order) (n shooter : Nat) (bomb : Nat × Nat)
    (evaluated : (Battle.fight plan n Battle.first).any (fun s =>
      s.overrun && s.shot.isNone && Nat.blt s.round s.x && s.living.testBit shooter &&
        decide (s.drop shooter = some bomb)) = true) :
    ∃ w, (gameLoop sampleConfig).Run (fun _ _ => True) (start sampleConfig sampleMemory) w ∧
      w.game.gameState = .menuDisplay ∧ Waiting w ∧ Falling w.game.alienBullet (some bomb) := by
  obtain ⟨w, shown⟩ := first_shown
  obtain ⟨s, fought, checked⟩ := (Option.any_eq_true _ _).mp evaluated
  simp only [Bool.and_eq_true, Option.isNone_iff_eq_none, Nat.blt_eq, decide_eq_true_eq] at checked
  obtain ⟨⟨⟨⟨lost, unloaded⟩, room⟩, living⟩, dropped⟩ := checked
  have pace : sampleConfig.ipf ≤ 1 := by decide
  obtain ⟨last, there⟩ := shown.fight pace plan n fought
  obtain ⟨after, run, menu, waiting, falling⟩ := there.defeat pace lost unloaded room living
  rw [dropped] at falling
  exact ⟨after, run, menu, waiting, falling⟩

theorem start_clicked {w : World} (run : (gameLoop cfg).Run (fun _ _ => True) (start cfg memory) w)
    (menu : w.game.gameState = .menuDisplay) (waiting : Waiting w) :
    ∃ middle after, (gameLoop cfg).Run (fun _ _ => True) (start cfg memory) middle ∧
      middle.game = { w.game with calls := [] } ∧ StartClick middle (mouseByte 0x00) ∧
      gameStep cfg middle (mouseByte 0x00) = some after := by
  have running : w.game.gameState ≠ .exit := by
    rw [menu]
    decide
  obtain ⟨middle, arrived, game, mouse, fine, third, one, two⟩ := click_begins run waiting running
  have reached : (gameLoop cfg).Reachable middle := ⟨_, ⟨memory, rfl⟩, arrived⟩
  have cursor : middle.mouse.x = 450 ∧ middle.mouse.y = 320 := by
    rw [mouse]
    exact waiting.cursor
  have state : middle.game.gameState = .menuDisplay := by
    rw [game]
    exact menu
  have stays : middle.game.gameState ≠ .exit := by
    rw [state]
    decide
  obtain ⟨clicked, stepped⟩ := click_ends cfg reached stays cursor fine third one two
  have heard : (readMouse { noInputs with mouse := ⟨some 0x21, some 0x00⟩ } middle).mouseGlobals =
      ⟨0x00, 0x21, false⟩ := congrArg World.mouseGlobals (readMouse_byte middle 0x00 fine)
  have packet : (decodePacket 0x00
      (readMouse { noInputs with mouse := ⟨some 0x21, some 0x00⟩ } middle)).mouse =
      { middle.mouse with lbPressed := true } := clicked
  refine ⟨middle, _, arrived, game, ?_, stepped⟩
  refine ⟨by decide, ?_, third, state, ?_, ?_⟩
  · rw [heard]
  · rw [heard, packet]
  · rw [heard, packet]
    change getButton middle.mouse.x middle.mouse.y = .startButton
    rw [cursor.1, cursor.2]
    decide

end Lcom.Proj
