import Lcom.Proj.Campaign

/-! What a new game inherits from the games before it. -/

namespace Lcom.Proj

open Lcom.Lib

/-- The variables that influence the following game. A slot counts with the bullet it refers to. -/
structure GameView where
  aliens : Aliens
  shipBullets : List (Option ShipBullet)
  alienBulletActive : Bool
  alienBulletX : Int
  alienBulletY : Int
  shipX : Int
  lives : Int
  score : Int
  killCount : Int
  frameCounter : Int
  speed : Int
  roundNum : Int
  rightMov : Bool
  movImg : Bool

def ShipBullets.contents (bullets : ShipBullets) : List (Option ShipBullet) :=
  bullets.slots.toList.map (fun slot => slot.map bullets.heap.read)

def Game.gameView (g : Game) : GameView :=
  ⟨g.aliens, g.bullets.contents, g.alienBullet.active, g.alienBullet.x, g.alienBullet.y, g.ship.x,
    g.ship.lives, g.ship.score, g.killCount, g.frameCounter, g.speed, g.roundNum, g.rightMov,
    g.movImg⟩

/-- The menus are entered with a new ship, whose score the rest of the pass may still raise. -/
def MenuShip (gameState : GameState) (ship : Ship) : Prop :=
  gameState = .menuDisplay ∨ gameState = .instructionsDisplay →
    ship.x = 512 ∧ ship.lives = numLives

theorem settleAlien_menuShip (cfg : Config) (a : Alien) (m : March)
    (holds : MenuShip m.gameState m.ship) :
    MenuShip (settleAlien cfg a m).gameState (settleAlien cfg a m).ship := by
  unfold settleAlien
  split
  · exact fun _ => ⟨rfl, rfl⟩
  · split
    · rintro (menu | instructions) <;> contradiction
    · exact holds

theorem marchAliens_menuShip (cfg : Config) (g : Game) (holds : MenuShip g.gameState g.ship) :
    MenuShip (marchAliens cfg g).gameState (marchAliens cfg g).ship := by
  apply marchPass_rule cfg g (fun _ _ m => MenuShip m.gameState m.ship) _ holds
  intro done a rest m a' m' holds visit
  cases visit with
  | skipped dead => exact holds
  | missed heap _ alive place read next misses => exact settleAlien_menuShip cfg _ _ holds
  | killed heap ref moved alive place read next member hit =>
      exact settleAlien_menuShip cfg _ _ holds

theorem moveAliens_menuShip (cfg : Config) (g : Game) (holds : MenuShip g.gameState g.ship) :
    MenuShip (moveAliens cfg g).gameState (moveAliens cfg g).ship :=
  moveAliens_keeps cfg g (fun g => MenuShip g.gameState g.ship) (fun _ _ _ _ _ holds => holds)
    (marchAliens_menuShip cfg) holds

theorem menuShip_playing {gameState : GameState} (ship : Ship) (playing : gameState = .playing) :
    MenuShip gameState ship := by
  rw [playing]
  rintro (menu | instructions) <;> contradiction

theorem menuShip_reachable {cfg : Config} (w : World) (reached : (gameLoop cfg).Reachable w) :
    MenuShip w.game.gameState w.game.ship := by
  apply reachable_invariant (fun g => MenuShip g.gameState g.ship) _ _ _ _ w reached
  · exact fun memory _ => ⟨rfl, rfl⟩
  · exact fun g holds => holds
  · intro started before after holds move
    cases move with
    | menuCalls made menus => exact holds
    | instructions menu => exact fun _ => holds (.inl menu)
    | menu instructions => exact fun _ => holds (.inr instructions)
    | exit => rintro (menu | instructions) <;> contradiction
    | start menu click => exact menuShip_playing _ rfl
    | shoot playing => exact holds
    | steer key playing => exact menuShip_playing _ playing
  · intro before after holds move
    cases move with
    | count made menus still => exact holds
    | nextRound cleared => exact menuShip_playing _ rfl
    | tick _ inputs playing ends =>
        cases ends with
        | fired index idle alive =>
            exact moveAliens_menuShip cfg _ (menuShip_playing _ playing)
        | lost active dead => exact fun _ => ⟨rfl, rfl⟩
        | flown active left =>
            apply moveAliens_menuShip
            obtain ⟨lives, still, calls, same⟩ :=
              moveAlienBullet_eq (drawFrame cfg inputs (timerIntHandler before))
            rw [same]
            exact menuShip_playing _ playing

theorem menuPacket_start (cfg : Config) (w : World) (pressed : w.mouse.lbPressed = true)
    (button : getButton w.mouse.x w.mouse.y = .startButton) :
    ∃ made, (menuPacket cfg w).game = initGame cfg { w.game with calls := made } := by
  unfold menuPacket
  dsimp only
  split
  · split
    · exact ⟨_, rfl⟩
    all_goals
      rename_i other
      rw [button] at other
      cases other
  · rename_i released
    exact absurd pressed released

/-- The game variables right after the packet that a message completes, before the keyboard part
and the timer part. -/
def afterPacket (cfg : Config) (w : World) : Message → Game
  | .failedReceive | .notFromHardware => w.clear.game
  | .hardware _ inputs => (mousePart cfg inputs w.clear).world.game

theorem gameStep_afterPacket {cfg : Config} {w after : World} {inputs : Inputs}
    (running : w.game.gameState ≠ .exit)
    (stepped : gameStep cfg w (.hardware mouseBit inputs) = some after) :
    after.game = afterPacket cfg w (.hardware mouseBit inputs) := by
  rw [gameStep_mouse cfg inputs w running] at stepped
  cases stepped
  rfl

theorem startClick_game (cfg : Config) {w : World} {message : Message}
    (click : StartClick w message) :
    ∃ made, afterPacket cfg w message = initGame cfg { w.game with calls := made } := by
  cases message with
  | failedReceive => cases click
  | notFromHardware => cases click
  | hardware interrupts inputs =>
      have menu := startClick_menu click
      obtain ⟨_, fine, third, _, pressed, button⟩ := click
      have clean : ¬ (mouseIh inputs.mouse w.clear.mouseGlobals).ihError = true := by
        change ¬ (readMouse inputs w).mouseGlobals.ihError = true
        rw [fine]
        decide
      have state : (decodePacket (mouseIh inputs.mouse w.clear.mouseGlobals).scancode
          (readMouse inputs w.clear)).game.gameState = .menuDisplay := menu
      rw [afterPacket, mousePart_third cfg inputs w.clear clean third, Flow.world, handlePacket,
        state]
      exact menuPacket_start cfg _ pressed button

structure Unplayed (cfg : Config) (memory : Uninitialised) (g : Game) : Prop where
  state : g.gameState ≠ .playing ∧ g.gameState ≠ .nextRound
  bullets : g.bullets = initShipBullets
  alienBullet : g.alienBullet = { memory.alienBullet with active := false }
  ship : g.ship = newShip cfg
  roundNum : g.roundNum = 0
  rightMov : g.rightMov = true
  movImg : g.movImg = false

theorem Unplayed.enter {cfg : Config} {memory : Uninitialised} {g : Game}
    (holds : Unplayed cfg memory g) (gameState : GameState)
    (idle : gameState ≠ .playing ∧ gameState ≠ .nextRound) :
    Unplayed cfg memory { g with gameState := gameState } :=
  ⟨idle, holds.bullets, holds.alienBullet, holds.ship, holds.roundNum, holds.rightMov,
    holds.movImg⟩

theorem Unplayed.calls {cfg : Config} {memory : Uninitialised} {g : Game}
    (holds : Unplayed cfg memory g) (calls : List Call) (timerCounter : Int) :
    Unplayed cfg memory { g with calls := calls, timerCounter := timerCounter } :=
  ⟨holds.state, holds.bullets, holds.alienBullet, holds.ship, holds.roundNum, holds.rightMov,
    holds.movImg⟩

theorem unplayed_run {cfg : Config} {memory : Uninitialised} {w : World}
    (run : (gameLoop cfg).Run (fun before message => ¬ StartClick before message)
      (start cfg memory) w) : Unplayed cfg memory w.game := by
  apply run.invariant (fun w => Unplayed cfg memory w.game)
  · have idle : GameState.menuDisplay ≠ .playing ∧ GameState.menuDisplay ≠ .nextRound := by decide
    exact ⟨idle, rfl, rfl, rfl, rfl, rfl, rfl⟩
  · intro before message after holds none stepped
    have moves := (gameStep_moves Tracks.always before after message trivial stepped).1
    apply moves.invariant (Unplayed cfg memory)
    · intro g next holds move
      cases move with
      | menuCalls made menus => exact holds.calls _ g.timerCounter
      | instructions menu => exact holds.enter _ (by decide)
      | menu instructions => exact holds.enter _ (by decide)
      | exit => exact holds.enter _ (by decide)
      | start menu click => exact absurd click none
      | shoot playing => exact absurd playing holds.state.1
      | steer key playing => exact absurd playing holds.state.1
    · intro g next holds move
      cases move with
      | count made menus still => exact holds.calls _ _
      | tick _ inputs playing ends => exact absurd playing holds.state.1
      | nextRound cleared => exact absurd cleared holds.state.2
    · exact holds.calls [] before.game.timerCounter

/-- What an earlier game must have left for the next one to begin afresh. -/
def Fresh (memory : Uninitialised) (g : Game) : Prop :=
  (∀ i, g.bullets.slots.get i = none) ∧ g.alienBullet.active = false ∧
    g.alienBullet.x = memory.alienBullet.x ∧ g.alienBullet.y = memory.alienBullet.y ∧
    g.ship.score = 0 ∧ g.rightMov = true ∧ g.movImg = false

theorem contents_empty (bullets : ShipBullets) :
    bullets.contents = initShipBullets.contents ↔ ∀ i, bullets.slots.get i = none := by
  have empty : initShipBullets.contents = List.replicate maxShipBullets none := rfl
  rw [empty, List.eq_replicate_iff]
  constructor
  · rintro ⟨_, all⟩ i
    have inside : (bullets.slots.get i).map bullets.heap.read ∈ bullets.contents :=
      List.mem_map.mpr ⟨_, List.Vector.get_mem i bullets.slots, rfl⟩
    exact Option.map_eq_none_iff.mp (all _ inside)
  · intro all
    refine ⟨by simp [ShipBullets.contents], ?_⟩
    intro entry member
    obtain ⟨slot, inside, rfl⟩ := List.mem_map.mp member
    obtain ⟨i, rfl⟩ := (List.Vector.mem_iff_get slot bullets.slots).mp inside
    rw [all i]
    rfl

theorem initGame_gameView (cfg : Config) (memory : Uninitialised) (g first : Game)
    (made firstMade : List Call) (menu : g.gameState = .menuDisplay) (round : RoundInv g)
    (ship : MenuShip g.gameState g.ship) (unplayed : Unplayed cfg memory first) :
    (initGame cfg { g with calls := made }).gameView =
        (initGame cfg { first with calls := firstMade }).gameView ↔ Fresh memory g := by
  have place := ship (.inl menu)
  have zero := round.2 (.inl menu)
  constructor
  · intro same
    have bullets := congrArg GameView.shipBullets same
    have active := congrArg GameView.alienBulletActive same
    have x := congrArg GameView.alienBulletX same
    have y := congrArg GameView.alienBulletY same
    have score := congrArg GameView.score same
    have right := congrArg GameView.rightMov same
    have mov := congrArg GameView.movImg same
    simp only [Game.gameView, initGame, Game.call, unplayed.bullets, unplayed.alienBullet,
      unplayed.ship, unplayed.rightMov, unplayed.movImg] at bullets active x y score right mov
    exact ⟨(contents_empty _).mp bullets, active, x, y, score, right, mov⟩
  · rintro ⟨slots, active, x, y, score, right, mov⟩
    simp only [Game.gameView, initGame, Game.call, unplayed.bullets, unplayed.alienBullet,
      unplayed.ship, unplayed.rightMov, unplayed.movImg, unplayed.roundNum, zero, active, x, y,
      score, right, mov, place.1, place.2, (contents_empty _).mpr slots]
    rfl

/-- A game begins like the first one exactly if the earlier games have left nothing behind. -/
theorem fresh_start_iff (cfg : Config) (memory : Uninitialised) (w first : World)
    (message firstMessage : Message)
    (run : (gameLoop cfg).Run (fun _ _ => True) (start cfg memory) w)
    (click : StartClick w message)
    (firstRun : (gameLoop cfg).Run (fun before message => ¬ StartClick before message)
      (start cfg memory) first)
    (firstClick : StartClick first firstMessage) :
    (afterPacket cfg w message).gameView = (afterPacket cfg first firstMessage).gameView ↔
      Fresh memory w.game := by
  have reached : (gameLoop cfg).Reachable w := ⟨_, ⟨memory, rfl⟩, run⟩
  obtain ⟨made, game⟩ := startClick_game cfg click
  obtain ⟨firstMade, firstGame⟩ := startClick_game cfg firstClick
  rw [game, firstGame]
  exact initGame_gameView cfg memory w.game first.game made firstMade (startClick_menu click)
    (round_reachable w reached) (menuShip_reachable w reached) (unplayed_run firstRun)

theorem first_click : ∃ w, (gameLoop sampleConfig).Run
      (fun before message => ¬ StartClick before message) (start sampleConfig sampleMemory) w ∧
    StartClick w (mouseByte 180) := by
  have evaluated : ((gameLoop sampleConfig).runList
      (fun before message => ¬ StartClick before message) (start sampleConfig sampleMemory)
      clickStart.dropLast).any (fun w => decide (StartClick w (mouseByte 180))) = true := by
    decide +kernel
  obtain ⟨w, played, clicks⟩ := (Option.any_eq_true _ _).mp evaluated
  exact ⟨w, Machine.run_of_runList _ played, of_decide_eq_true clicks⟩

/-- A player who never shoots loses the first wave while an alien bullet is in the air. -/
theorem second_click : ∃ w, (gameLoop sampleConfig).Run (fun _ _ => True)
      (start sampleConfig sampleMemory) w ∧
    StartClick w (mouseByte 0x00) ∧ w.game.alienBullet.active = true := by
  obtain ⟨menu, lost, state, waiting, falling⟩ :=
    battle_lost Battle.idle 8000 0 (1398, 524) (by decide +kernel)
  obtain ⟨w, after, run, same, click, _⟩ := start_clicked lost state waiting
  refine ⟨w, run, click, ?_⟩
  rw [same]
  exact falling.1.1

/-- The second game of a run, and the first game of another one. -/
theorem fresh_start_iff_first_game : ∃ w first : World, w.game.alienBullet.active = true ∧
    first.game.alienBullet.active = false ∧ StartClick w (mouseByte 0x00) ∧
    StartClick first (mouseByte 180) ∧ ((afterPacket sampleConfig w (mouseByte 0x00)).gameView =
      (afterPacket sampleConfig first (mouseByte 180)).gameView ↔ Fresh sampleMemory w.game) := by
  obtain ⟨w, run, click, active⟩ := second_click
  obtain ⟨first, firstRun, firstClick⟩ := first_click
  exact ⟨w, first, active, by rw [(unplayed_run firstRun).alienBullet], click, firstClick,
    fresh_start_iff sampleConfig sampleMemory w first _ _ run click firstRun firstClick⟩

/-- The second game begins with the alien bullet of the first one, the first one without any. -/
theorem fresh_start_leaks : ∃ w first,
    (gameLoop sampleConfig).Run (fun _ _ => True) (start sampleConfig sampleMemory) w ∧
    StartClick w (mouseByte 0x00) ∧
    (gameLoop sampleConfig).Run (fun before message => ¬ StartClick before message)
      (start sampleConfig sampleMemory) first ∧ StartClick first (mouseByte 180) ∧
    (afterPacket sampleConfig w (mouseByte 0x00)).gameView.alienBulletActive = true ∧
    (afterPacket sampleConfig first (mouseByte 180)).gameView.alienBulletActive = false ∧
    (afterPacket sampleConfig w (mouseByte 0x00)).gameView ≠
      (afterPacket sampleConfig first (mouseByte 180)).gameView := by
  obtain ⟨w, run, click, active⟩ := second_click
  obtain ⟨first, firstRun, firstClick⟩ := first_click
  obtain ⟨made, game⟩ := startClick_game sampleConfig click
  obtain ⟨firstMade, firstGame⟩ := startClick_game sampleConfig firstClick
  have inherited :
      (afterPacket sampleConfig w (mouseByte 0x00)).gameView.alienBulletActive = true := by
    rw [game]
    exact active
  have clean :
      (afterPacket sampleConfig first (mouseByte 180)).gameView.alienBulletActive = false := by
    rw [firstGame]
    change first.game.alienBullet.active = false
    rw [(unplayed_run firstRun).alienBullet]
  refine ⟨w, first, run, click, firstRun, firstClick, inherited, clean, ?_⟩
  intro equal
  rw [equal, clean] at inherited
  cases inherited

end Lcom.Proj
