import Lcom.Proj.FreshStart
import Lcom.Proj.Lives
import Lcom.Proj.Volley

/-! The stages of the program: the menus, the waves of a game and the end. -/

namespace Lcom.Proj

open Lcom.Lib

/-- What is going on; in a game, the waves that were cleared, the lives that are left and the aliens
of the wave that were killed. -/
inductive Stage where
  | menu
  | instructions
  | fight (round lives killed : Int)
  | cleared (round lives : Int)
  | finished
  deriving DecidableEq, Repr

namespace Stage

/-- The parts of a message; a mouse part may click `START_BUTTON`. -/
inductive Part where
  | mouse (start : Bool)
  | key
  | tick
  deriving DecidableEq, Repr

inductive Moves : Part → Stage → Stage → Prop where
  | start : Moves (.mouse true) menu (fight 0 3 0)
  | read : Moves (.mouse false) menu instructions
  | back : Moves (.mouse false) instructions menu
  | leave : Moves (.mouse false) menu finished
  | packet (stage : Stage) : Moves (.mouse false) stage stage
  | key (stage : Stage) : Moves .key stage stage
  | escape (stage : Stage) : Moves .key stage finished
  | wait (stage : Stage) (idle : stage = menu ∨ stage = instructions ∨ stage = finished) :
      Moves .tick stage stage
  | fight (round lives left killed more : Int)
      (life : left = lives ∨ left = lives - 1 ∧ 0 < left)
      (kill : more = killed ∨ more = killed + 1) (few : more < 24) :
      Moves .tick (fight round lives killed) (fight round left more)
  | won (round lives left : Int) (life : left = lives ∨ left = lives - 1 ∧ 0 < left) :
      Moves .tick (fight round lives 23) (cleared (round + 1) left)
  | lost (round lives killed : Int) : Moves .tick (fight round lives killed) menu
  | next (round lives : Int) : Moves .tick (cleared round lives) (fight round lives 0)

def of (gameState : GameState) (round lives killed : Int) : Stage :=
  match gameState with
  | .menuDisplay => menu
  | .instructionsDisplay => instructions
  | .playing => fight round lives killed
  | .nextRound => cleared round lives
  | .exit => finished

end Stage

def Game.stage (g : Game) : Stage := .of g.gameState g.roundNum g.ship.lives g.killCount

def World.parts (cfg : Config) (w : World) (message : Message) : List Stage.Part :=
  match message with
  | .failedReceive | .notFromHardware => []
  | .hardware interrupts _ =>
      (if interrupts &&& mouseBit ≠ 0 then [.mouse (decide (StartClick w message))] else []) ++
        (if interrupts &&& kbdBit ≠ 0 then [.key] else []) ++
        (if reachesTimer cfg w message then [.tick] else [])

variable {cfg : Config}

theorem menuPacket_stage (cfg : Config) {w : World} (menu : w.game.gameState = .menuDisplay)
    (fresh : w.game.roundNum = 0 ∧ w.game.ship.lives = 3) :
    Stage.Moves (.mouse (decide (w.mouse.lbPressed = true ∧
      getButton w.mouse.x w.mouse.y = .startButton))) .menu (menuPacket cfg w).game.stage := by
  have stays : w.game.stage = .menu := by
    rw [Game.stage, menu]
    rfl
  unfold menuPacket
  dsimp only
  split
  · rename_i pressed
    change w.mouse.lbPressed = true at pressed
    rw [pressed]
    split
    · rename_i button
      rw [decide_eq_true ⟨rfl, button⟩]
      change Stage.Moves _ _ (.fight w.game.roundNum w.game.ship.lives 0)
      rw [fresh.1, fresh.2]
      exact .start
    · rename_i button
      rw [button, decide_eq_false (by simp)]
      exact .read
    · rename_i button
      rw [button, decide_eq_false (by simp)]
      exact .leave
    · rename_i button
      rw [button, decide_eq_false (by simp)]
      change Stage.Moves _ _ w.game.stage
      rw [stays]
      exact .packet _
  · rename_i unpressed
    rw [decide_eq_false (fun click => unpressed click.1)]
    change Stage.Moves _ _ w.game.stage
    rw [stays]
    exact .packet _

theorem handlePacket_stage (cfg : Config) {w : World}
    (fresh : w.game.gameState = .menuDisplay → w.game.roundNum = 0 ∧ w.game.ship.lives = 3) :
    Stage.Moves (.mouse (decide (w.game.gameState = .menuDisplay ∧ w.mouse.lbPressed = true ∧
      getButton w.mouse.x w.mouse.y = .startButton))) w.game.stage
      (handlePacket cfg w).game.stage := by
  by_cases menu : w.game.gameState = .menuDisplay
  · have moved := menuPacket_stage cfg menu (fresh menu)
    rw [handlePacket, Game.stage, menu]
    simpa [Stage.of] using moved
  · rw [decide_eq_false (fun click => menu click.1)]
    unfold handlePacket
    split
    · rename_i on
      exact absurd on menu
    · rename_i read
      unfold instructionsPacket
      dsimp only
      split
      · rw [Game.stage, read]
        exact .back
      · exact .packet _
    · unfold playingPacket
      split <;> exact .packet _
    · exact .packet _
    · exact .packet _

theorem mousePart_stage {interrupts : BitVec 64} {inputs : Inputs} {w : World}
    (bit : interrupts &&& mouseBit ≠ 0)
    (fresh : w.game.gameState = .menuDisplay → w.game.roundNum = 0 ∧ w.game.ship.lives = 3) :
    Stage.Moves (.mouse (decide (StartClick w (.hardware interrupts inputs)))) w.game.stage
      (mousePart cfg inputs w).world.game.stage := by
  by_cases third : (readMouse inputs w).mouseGlobals.ihError = false ∧
      (readMouse inputs w).currentByte = 3
  · have clean : ¬ (mouseIh inputs.mouse w.mouseGlobals).ihError = true := by
      change ¬ (readMouse inputs w).mouseGlobals.ihError = true
      rw [third.1]
      decide
    have moved := handlePacket_stage cfg
      (w := decodePacket (readMouse inputs w).mouseGlobals.scancode (readMouse inputs w)) fresh
    rw [mousePart_third cfg inputs w clean third.2]
    have same : StartClick w (.hardware interrupts inputs) ↔
        w.game.gameState = .menuDisplay ∧
          (decodePacket (readMouse inputs w).mouseGlobals.scancode
            (readMouse inputs w)).mouse.lbPressed = true ∧ _ :=
      ⟨fun click => click.2.2.2, fun click => ⟨bit, third.1, third.2, click⟩⟩
    rw [decide_eq_decide.mpr same]
    exact moved
  · rw [decide_eq_false (fun click => third ⟨click.2.1, click.2.2.1⟩)]
    unfold mousePart
    dsimp only
    split
    · exact .packet _
    · rename_i fine
      split
      · split <;> exact .packet _
      · split
        · exact .packet _
        · rw [if_neg (fun last => third ⟨Bool.eq_false_of_not_eq_true fine, last⟩)]
          exact .packet _

theorem keyboardPart_stage (inputs : Inputs) (w : World) :
    Stage.Moves .key w.game.stage (keyboardPart inputs w).world.game.stage := by
  unfold keyboardPart
  dsimp only
  split
  · exact .key _
  · split
    · exact .escape _
    · split
      · have lives : ∀ key, (updateShipPosition w.game.ship key).lives = w.game.ship.lives := by
          intro key
          cases key <;> rfl
        change Stage.Moves _ _ (.of w.game.gameState w.game.roundNum
          (updateShipPosition w.game.ship _).lives w.game.killCount)
        rw [lives]
        exact .key _
      · exact .key _

theorem afterInput_stage (cfg : Config) {w : World} (message : Message)
    (fresh : w.game.gameState = .menuDisplay → w.game.roundNum = 0 ∧ w.game.ship.lives = 3) :
    ∃ parts, w.parts cfg message = parts ++ (if reachesTimer cfg w message then [.tick] else []) ∧
      Path Stage.Moves w.game.stage parts (afterInput cfg w message).stage := by
  cases message with
  | failedReceive => exact ⟨[], rfl, .nil _⟩
  | notFromHardware => exact ⟨[], rfl, .nil _⟩
  | hardware interrupts inputs =>
      refine ⟨_, rfl, ?_⟩
      have mouse : Path Stage.Moves w.game.stage
          (if interrupts &&& mouseBit ≠ 0 then
            [.mouse (decide (StartClick w (.hardware interrupts inputs)))] else [])
          ((Flow.next w.clear).part interrupts mouseBit
            (mousePart cfg inputs)).world.game.stage := by
        unfold Flow.part
        dsimp only
        split
        · rename_i bit
          exact .single (mousePart_stage (w := w.clear) bit fresh)
        · exact .nil _
      refine mouse.append ?_
      change Path _ _ _ (inputParts cfg interrupts inputs w.clear).world.game.stage
      unfold inputParts
      cases (Flow.next w.clear).part interrupts mouseBit (mousePart cfg inputs) with
      | leave v =>
          split
          · exact .single (.key _)
          · exact .nil _
      | next v =>
          unfold Flow.part
          dsimp only
          split
          · exact .single (keyboardPart_stage inputs v)
          · exact .nil _

theorem timerMove_stage {seen : Mouse → Prop} {before after : Game} (inv : GunInv before)
    (lives : LivesInv before) (move : TimerMove cfg seen before after) :
    Stage.Moves .tick before.stage after.stage := by
  by_cases playing : before.gameState = .playing
  · obtain ⟨kills, points, ticked⟩ := timerMove_ticked inv playing move
    obtain ⟨left, life, stands⟩ := ticked.stands
    have wave := (timerMove_gun inv move).wave
    have few := (inv.wave (.inl playing)).playing playing
    have count := ticked.count
    have once := ticked.hits.once
    have life : left = before.ship.lives ∨ left = before.ship.lives - 1 ∧ 0 < left := by
      have some := lives.1.lives
      rcases life with same | ⟨less, more⟩
      · exact .inl same
      · exact .inr ⟨less, by omega⟩
    rw [Game.stage, Game.stage, playing]
    generalize state : after.gameState = gameState at stands wave ⊢
    generalize after.ship = ship, after.roundNum = next at stands ⊢
    cases stands with
    | on ship _ same =>
        have tally := (wave (.inl state)).playing state
        rw [same]
        exact .fight _ _ _ _ _ life (by omega) tally
    | cleared ship _ same =>
        have tally := (wave (.inr state)).cleared state
        have last : before.killCount = 23 := by
          simp only [sizeOfAliens] at few tally
          omega
        rw [same, last]
        exact .won _ _ _ life
    | lost ship next _ => exact .lost _ _ _
  · cases move with
    | count made menus still =>
        change Stage.Moves .tick before.stage before.stage
        refine .wait _ ?_
        rw [Game.stage]
        cases state : before.gameState with
        | menuDisplay => exact .inl rfl
        | instructionsDisplay => exact .inr (.inl rfl)
        | playing => exact absurd state still.1
        | nextRound => exact absurd state still.2
        | exit => exact .inr (.inr rfl)
    | tick _ inputs on ends => exact absurd on playing
    | nextRound cleared =>
        rw [Game.stage, cleared]
        exact .next _ _

theorem gameLoop_stages (cfg : Config) :
    (gameLoop cfg).Refines (gameLoop cfg).Reachable (fun w => w.game.stage)
      (fun w message _ => w.parts cfg message)
      (fun parts first last => Path Stage.Moves first parts last) := by
  intro w message after reached stepped
  refine ⟨reached.step trivial stepped, ?_⟩
  have fresh : w.game.gameState = .menuDisplay → w.game.roundNum = 0 ∧ w.game.ship.lives = 3 :=
    fun menu => ⟨(round_reachable w reached).2 (.inl menu),
      (menuShip_reachable w reached (.inl menu)).2⟩
  obtain ⟨parts, same, path⟩ := afterInput_stage cfg message fresh
  obtain ⟨moves, ticks⟩ := gameStep_input stepped
  dsimp only
  rw [same]
  refine path.append ?_
  cases timer : reachesTimer cfg w message with
  | false =>
      rw [timer, if_neg Bool.false_ne_true] at ticks
      rw [ticks, if_neg Bool.false_ne_true]
      exact .nil _
  | true =>
      rw [timer, if_pos rfl] at ticks
      rw [if_pos rfl]
      have lives : LivesInv (afterInput cfg w message) :=
        moves.invariant LivesInv (fun _ _ inv move => inputMove_lives inv move)
          (lives_reachable w reached)
      exact .single (timerMove_stage (afterInput_gun (gunInv_reachable reached) stepped).1 lives
        ticks)

/-- Every run of the program is a path through the stages, with the parts of its messages in their
order: a wave takes 24 kills and no tick more than one, the next one has the round and the lives
that were left, a game begins with three lives after a click on `START_BUTTON`, and one that is lost
leads to the menu only, also where an alien is killed after the territory was lost. -/
theorem stages_refined (cfg : Config) {w v : World} {labels : List (List Stage.Part)}
    (reached : (gameLoop cfg).Reachable w)
    (run : Path ((gameLoop cfg).Labelled (fun w message _ => w.parts cfg message)) w labels v) :
    Path Stage.Moves w.game.stage labels.flatten v.game.stage :=
  ((gameLoop_stages cfg).run reached run).2.flatten

/-- The click that starts a game, and the tick after it. -/
theorem stages_refined_start : ∃ w v : World, (gameLoop sampleConfig).Reachable w ∧
    w.game.stage = .menu ∧ v.game.stage = .fight 0 3 0 ∧
    Path Stage.Moves w.game.stage [.mouse true, .tick] v.game.stage := by
  obtain ⟨w, reached, menu, clicked⟩ := reachable_of_played (clickStart.take 5)
    (fun w => w.game.stage = .menu ∧ w.parts sampleConfig (mouseByte 180) = [.mouse true] ∧
      (gameStep sampleConfig w (mouseByte 180)).any (fun u : World =>
        decide (u.parts sampleConfig (timerTick [5]) = [.tick]) &&
          (gameStep sampleConfig u (timerTick [5])).any (fun v : World =>
            decide (v.game.stage = .fight 0 3 0))) = true)
    (by decide +kernel)
  obtain ⟨click, after⟩ := clicked
  obtain ⟨u, started, after⟩ := (Option.any_eq_true _ _).mp after
  obtain ⟨tick, after⟩ := Bool.and_eq_true_iff.mp after
  obtain ⟨v, ticked, fights⟩ := (Option.any_eq_true _ _).mp after
  have path : Path ((gameLoop sampleConfig).Labelled
      (fun w message _ => w.parts sampleConfig message)) w [[.mouse true], [.tick]] v :=
    .cons ⟨mouseByte 180, started, click⟩
      (.single ⟨timerTick [5], ticked, of_decide_eq_true tick⟩)
  exact ⟨w, v, reached, menu, of_decide_eq_true fights, stages_refined sampleConfig reached path⟩

end Lcom.Proj
