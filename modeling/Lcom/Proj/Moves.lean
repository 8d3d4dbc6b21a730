import Lcom.Proj.Game

/-! What a message can do to the variables of a game. The mouse assembler, the keyboard
decoder and the menus only choose among a few moves, so a property of the game variables
is established once for each move. -/

namespace Lcom.Proj

open Lcom.Lib

def StartClick (w : World) : Message → Prop
  | .failedReceive | .notFromHardware => False
  | .hardware interrupts inputs =>
      let v := readMouse inputs w
      let u := decodePacket v.mouseGlobals.scancode v
      interrupts &&& mouseBit ≠ 0 ∧ v.mouseGlobals.ihError = false ∧ v.currentByte = 3 ∧
        w.game.gameState = .menuDisplay ∧ u.mouse.lbPressed = true ∧
        getButton u.mouse.x u.mouse.y = .startButton

instance (w : World) : (message : Message) → Decidable (StartClick w message)
  | .failedReceive | .notFromHardware => inferInstanceAs (Decidable False)
  | .hardware _ _ => inferInstanceAs (Decidable (_ ∧ _))

theorem startClick_menu {w : World} {message : Message} (click : StartClick w message) :
    w.game.gameState = .menuDisplay := by
  cases message with
  | failedReceive => cases click
  | notFromHardware => cases click
  | hardware interrupts inputs => exact click.2.2.2.1

/-- The message completes a packet with the left button pressed while the game is on. -/
def ShootClick (w : World) : Message → Prop
  | .failedReceive | .notFromHardware => False
  | .hardware interrupts inputs =>
      let v := readMouse inputs w
      interrupts &&& mouseBit ≠ 0 ∧ v.mouseGlobals.ihError = false ∧ v.currentByte = 3 ∧
        w.game.gameState = .playing ∧
        (decodePacket v.mouseGlobals.scancode v).mouse.lbPressed = true

instance (w : World) : (message : Message) → Decidable (ShootClick w message)
  | .failedReceive | .notFromHardware => inferInstanceAs (Decidable False)
  | .hardware _ _ => inferInstanceAs (Decidable (_ ∧ _))

def Fighting (w : World) : Prop := w.game.gameState = .playing ∨ w.game.gameState = .nextRound

instance (w : World) : Decidable (Fighting w) := inferInstanceAs (Decidable (_ ∨ _))

theorem Fighting.not_exit {w : World} (fighting : Fighting w) : w.game.gameState ≠ .exit := by
  intro exit
  rcases fighting with playing | cleared
  · cases exit.symm.trans playing
  · cases exit.symm.trans cleared

theorem Fighting.under {w : World} (fighting : Fighting w) :
    w.game.gameState ≠ .menuDisplay ∧ w.game.gameState ≠ .instructionsDisplay := by
  rcases fighting with playing | cleared
  · rw [playing]
    exact ⟨nofun, nofun⟩
  · rw [cleared]
    exact ⟨nofun, nofun⟩

def Call.FromMenus (seen : Mouse → Prop) : Call → Prop
  | .drawBackground _ | .getMousePacket _ => True
  | .drawMouse mouse => seen mouse
  | _ => False

/-- The moves of the mouse part and of the keyboard part. A game starts only if `started`. -/
inductive InputMove (cfg : Config) (seen : Mouse → Prop) (started : Prop) : Game → Game → Prop where
  | menuCalls (g : Game) (made : List Call) (menus : ∀ call ∈ made, call.FromMenus seen) :
      InputMove cfg seen started g (g.call made)
  | instructions (g : Game) (menu : g.gameState = .menuDisplay) :
      InputMove cfg seen started g { g with gameState := .instructionsDisplay }
  | menu (g : Game) (instructions : g.gameState = .instructionsDisplay) :
      InputMove cfg seen started g { g with gameState := .menuDisplay }
  | exit (g : Game) : InputMove cfg seen started g { g with gameState := .exit }
  | start (g : Game) (menu : g.gameState = .menuDisplay) (click : started) :
      InputMove cfg seen started g (initGame cfg g)
  | shoot (g : Game) (playing : g.gameState = .playing) : InputMove cfg seen started g (shoot cfg g)
  | steer (g : Game) (key : KeyActivity) (playing : g.gameState = .playing) :
      InputMove cfg seen started g (steer key g)

inductive TickEnd (cfg : Config) (g : Game) : Game → Prop where
  | fired (index : Fin sizeOfAliens) (idle : g.alienBullet.active = false)
      (alive : (g.aliens.get index).alive = true) :
      TickEnd cfg g (moveAliens cfg (fireAlienBullet cfg index g))
  | lost (active : g.alienBullet.active = true) (dead : (moveAlienBullet g).ship.lives = 0) :
      TickEnd cfg g (gameOver cfg (moveAlienBullet g))
  | flown (active : g.alienBullet.active = true) (left : (moveAlienBullet g).ship.lives ≠ 0) :
      TickEnd cfg g (moveAliens cfg (moveAlienBullet g))

inductive TimerMove (cfg : Config) (seen : Mouse → Prop) : Game → Game → Prop where
  | count (g : Game) (made : List Call) (menus : ∀ call ∈ made, call.FromMenus seen)
      (still : g.gameState ≠ .playing ∧ g.gameState ≠ .nextRound) :
      TimerMove cfg seen g ((timerIntHandler g).call made)
  | tick (g after : Game) (inputs : Inputs) (playing : g.gameState = .playing)
      (ends : TickEnd cfg (drawFrame cfg inputs (timerIntHandler g)) after) :
      TimerMove cfg seen g after
  | nextRound (g : Game) (cleared : g.gameState = .nextRound) :
      TimerMove cfg seen g (nextRoundTick cfg (timerIntHandler g))

def InputMoves (cfg : Config) (seen : Mouse → Prop) (started : Prop) : Game → Game → Prop :=
  Relation.ReflTransGen (InputMove cfg seen started)

/-- A message makes input moves, and then at most one timer move. -/
inductive MessageMoves (cfg : Config) (seen : Mouse → Prop) (started : Prop) (g after : Game) : Prop
  where
  | input (moves : InputMoves cfg seen started g after)
  | timer (middle : Game) (moves : InputMoves cfg seen started g middle)
      (ticked : TimerMove cfg seen middle after)

variable {cfg : Config} {seen : Mouse → Prop} {started : Prop}

namespace InputMoves

theorem refl (g : Game) : InputMoves cfg seen started g g := Relation.ReflTransGen.refl

theorem one {before after : Game} (move : InputMove cfg seen started before after) :
    InputMoves cfg seen started before after := Relation.ReflTransGen.single move

theorem trans {first second third : Game} (front : InputMoves cfg seen started first second)
    (back : InputMoves cfg seen started second third) : InputMoves cfg seen started first third :=
  Relation.ReflTransGen.trans front back

theorem invariant {before after : Game} (moves : InputMoves cfg seen started before after)
    (Inv : Game → Prop)
    (kept : ∀ before after, Inv before → InputMove cfg seen started before after → Inv after)
    (holds : Inv before) : Inv after := by
  induction moves with
  | refl => exact holds
  | tail _ move ih => exact kept _ _ ih move

end InputMoves

theorem inputMove_state {before after : Game}
    (under : before.gameState ≠ .menuDisplay ∧ before.gameState ≠ .instructionsDisplay)
    (move : InputMove cfg seen started before after) :
    after.gameState = before.gameState ∨ after.gameState = .exit := by
  cases move with
  | instructions menu => exact absurd menu under.1
  | menu instructions => exact absurd instructions under.2
  | start menu click => exact absurd menu under.1
  | exit => exact .inr rfl
  | _ => exact .inl rfl

theorem InputMoves.under {before after : Game} (moves : InputMoves cfg seen started before after)
    (under : before.gameState ≠ .menuDisplay ∧ before.gameState ≠ .instructionsDisplay) :
    after.gameState ≠ .menuDisplay ∧ after.gameState ≠ .instructionsDisplay := by
  refine moves.invariant
    (fun g => g.gameState ≠ .menuDisplay ∧ g.gameState ≠ .instructionsDisplay) ?_ under
  intro before after under move
  rcases inputMove_state under move with same | exited
  · rw [same]
    exact under
  · rw [exited]
    exact ⟨nofun, nofun⟩

section Parts

structure Tracks (seen : Mouse → Prop) : Prop where
  packet : ∀ bytes mouse, seen mouse → seen (updateMouse (getMousePacket bytes) mouse)
  click : ∀ mouse, seen mouse → seen { mouse with lbPressed := false }

theorem Tracks.always : Tracks (fun _ => True) := ⟨fun _ _ _ => trivial, fun _ _ => trivial⟩

/-- `w` is reached from the game `g` by input moves and its cursor satisfies `seen`. -/
structure Arrived (cfg : Config) (seen : Mouse → Prop) (started : Prop) (g : Game) (w : World) :
    Prop where
  moves : InputMoves cfg seen started g w.game
  cursor : seen w.mouse

theorem Arrived.calls {g : Game} {w : World} (arrived : Arrived cfg seen started g w)
    (made : List Call) (menus : ∀ call ∈ made, call.FromMenus seen) :
    Arrived cfg seen started g (w.call made) :=
  ⟨arrived.moves.trans (.one (.menuCalls _ made menus)), arrived.cursor⟩

theorem Arrived.background {g : Game} {w : World} (arrived : Arrived cfg seen started g w)
    (img : XpmImage) : Arrived cfg seen started g (w.call [.drawBackground img]) := by
  apply arrived.calls
  intro call member
  rw [List.mem_singleton] at member
  subst call
  trivial

theorem Arrived.enter {g : Game} {w : World} (arrived : Arrived cfg seen started g w)
    (gameState : GameState) (move : InputMove cfg seen started w.game (w.enter gameState).game) :
    Arrived cfg seen started g (w.enter gameState) :=
  ⟨arrived.moves.trans (.one move), arrived.cursor⟩

theorem menuCalls_fromMenus (img : XpmImage) (mouse : Mouse) (cursor : seen mouse) :
    ∀ call ∈ [Call.drawBackground img, Call.drawMouse mouse], call.FromMenus seen := by
  intro call member
  simp only [List.mem_cons, List.not_mem_nil, or_false] at member
  rcases member with rfl | rfl
  · trivial
  · exact cursor

theorem menuPacket_arrives {g : Game} {w : World} (arrived : Arrived cfg seen started g w)
    (menu : w.game.gameState = .menuDisplay)
    (click : w.mouse.lbPressed = true → getButton w.mouse.x w.mouse.y = .startButton → started) :
    Arrived cfg seen started g (menuPacket cfg w) := by
  have hovered : Arrived cfg seen started g { w with button := getButton w.mouse.x w.mouse.y } :=
    ⟨arrived.moves, arrived.cursor⟩
  have drawn := hovered.calls _ (menuCalls_fromMenus
    (cfg.loader.load (menuXpm (getButton w.mouse.x w.mouse.y))) w.mouse arrived.cursor)
  unfold menuPacket
  dsimp only
  split
  · rename_i pressed
    split
    · rename_i button
      exact ⟨drawn.moves.trans (.one (.start _ menu (click pressed button))), drawn.cursor⟩
    · exact (drawn.enter .instructionsDisplay (.instructions _ menu)).background _
    · exact drawn.enter .exit (.exit _)
    · exact drawn
  · exact drawn

theorem instructionsPacket_arrives {g : Game} {w : World} (arrived : Arrived cfg seen started g w)
    (instructions : w.game.gameState = .instructionsDisplay) :
    Arrived cfg seen started g (instructionsPacket cfg w) := by
  have drawn := arrived.calls _ (menuCalls_fromMenus
    (cfg.loader.load (instructionsXpm (getInstructionButton w.mouse.x w.mouse.y)))
    w.mouse arrived.cursor)
  unfold instructionsPacket
  dsimp only
  split
  · have entered := (drawn.enter .menuDisplay (.menu _ instructions)).background
      (cfg.loader.load (menuXpm .initial))
    exact ⟨entered.moves, entered.cursor⟩
  · exact ⟨drawn.moves, drawn.cursor⟩

theorem playingPacket_arrives (tracks : Tracks seen) {g : Game} {w : World}
    (arrived : Arrived cfg seen started g w) (playing : w.game.gameState = .playing) :
    Arrived cfg seen started g (playingPacket cfg w) := by
  unfold playingPacket
  split
  · exact ⟨arrived.moves.trans (.one (.shoot _ playing)), tracks.click _ arrived.cursor⟩
  · exact arrived

theorem handlePacket_arrives (tracks : Tracks seen) {g : Game} {w : World}
    (arrived : Arrived cfg seen started g w)
    (click : w.game.gameState = .menuDisplay → w.mouse.lbPressed = true →
      getButton w.mouse.x w.mouse.y = .startButton → started) :
    Arrived cfg seen started g (handlePacket cfg w) := by
  unfold handlePacket
  split
  · rename_i menu
    exact menuPacket_arrives arrived menu (click menu)
  · rename_i instructions
    exact instructionsPacket_arrives arrived instructions
  · rename_i playing
    exact playingPacket_arrives tracks arrived playing
  · exact arrived
  · exact arrived

theorem decodePacket_arrives (tracks : Tracks seen) {g : Game} {w : World}
    (arrived : Arrived cfg seen started g w) (scancode : UInt8) :
    Arrived cfg seen started g (decodePacket scancode w) := by
  refine ⟨arrived.moves.trans (.one (.menuCalls w.game _ ?_)), tracks.packet _ _ arrived.cursor⟩
  intro call member
  rw [List.mem_singleton] at member
  subst call
  trivial

def Flow.world : Flow → World
  | .next w => w
  | .leave w => w

theorem mousePart_arrives (tracks : Tracks seen) (interrupts : BitVec 64) (inputs : Inputs)
    (w : World) (bit : interrupts &&& mouseBit ≠ 0) (cursor : seen w.mouse) :
    Arrived cfg seen (StartClick w (.hardware interrupts inputs)) w.game
      (mousePart cfg inputs w).world := by
  have arrived : Arrived cfg seen (StartClick w (.hardware interrupts inputs)) w.game
      (readMouse inputs w) := ⟨.refl _, cursor⟩
  unfold mousePart
  dsimp only
  split
  · exact ⟨arrived.moves, arrived.cursor⟩
  · rename_i fine
    split
    · split <;> exact ⟨arrived.moves, arrived.cursor⟩
    · split
      · exact ⟨arrived.moves, arrived.cursor⟩
      · split
        · rename_i third
          apply handlePacket_arrives tracks (decodePacket_arrives tracks arrived _)
          intro menu pressed button
          exact ⟨bit, by simpa using fine, third, menu, pressed, button⟩
        · exact arrived

theorem keyboardPart_arrives (inputs : Inputs) {g : Game} {w : World}
    (arrived : Arrived cfg seen started g w) :
    Arrived cfg seen started g (keyboardPart inputs w).world := by
  unfold keyboardPart
  dsimp only
  split
  · exact ⟨arrived.moves, arrived.cursor⟩
  · split
    · exact ⟨arrived.moves.trans (.one (.exit _)), arrived.cursor⟩
    · split
      · rename_i playing
        exact ⟨arrived.moves.trans (.one (.steer _ _ playing)), arrived.cursor⟩
      · exact ⟨arrived.moves, arrived.cursor⟩

theorem inputParts_arrives (tracks : Tracks seen) (interrupts : BitVec 64) (inputs : Inputs)
    (w : World) (cursor : seen w.mouse) :
    Arrived cfg seen (StartClick w (.hardware interrupts inputs)) w.game
      (inputParts cfg interrupts inputs w).world := by
  have mouse : Arrived cfg seen (StartClick w (.hardware interrupts inputs)) w.game
      ((Flow.next w).part interrupts mouseBit (mousePart cfg inputs)).world := by
    unfold Flow.part
    dsimp only
    split
    · rename_i bit
      exact mousePart_arrives tracks interrupts inputs w bit cursor
    · exact ⟨.refl _, cursor⟩
  unfold inputParts
  cases flow : (Flow.next w).part interrupts mouseBit (mousePart cfg inputs) with
  | leave v =>
      rw [flow] at mouse
      exact mouse
  | next v =>
      rw [flow] at mouse
      unfold Flow.part
      dsimp only
      split
      · exact keyboardPart_arrives inputs mouse
      · exact mouse

theorem playingTick_ends (inputs : Inputs) (g after : Game)
    (ticked : playingTick cfg inputs g = some after) :
    TickEnd cfg (drawFrame cfg inputs g) after := by
  unfold playingTick at ticked
  dsimp only at ticked
  split at ticked
  · rename_i idle
    obtain ⟨index, found, rfl⟩ := Option.map_eq_some_iff.mp ticked
    exact .fired index (by simpa using idle) (generateAlienBullet_alive _ _ _ found)
  · rename_i active
    have flying : (drawFrame cfg inputs g).alienBullet.active = true := by simpa using active
    split at ticked
    · rename_i dead
      cases ticked
      exact .lost flying dead
    · rename_i left
      cases ticked
      exact .flown flying left

theorem timerPart_moves (inputs : Inputs) (w after : World) (cursor : seen w.mouse)
    (ticked : timerPart cfg inputs w = some after) :
    TimerMove cfg seen w.game after.game ∧ seen after.mouse := by
  unfold timerPart at ticked
  dsimp only at ticked
  split at ticked
  · rename_i playing
    obtain ⟨game, moved, rfl⟩ := Option.map_eq_some_iff.mp ticked
    exact ⟨.tick _ _ inputs playing (playingTick_ends inputs _ _ moved), cursor⟩
  · rename_i cleared
    cases ticked
    exact ⟨.nextRound _ cleared, cursor⟩
  · rename_i menu
    cases ticked
    have state : w.game.gameState = .menuDisplay := menu
    exact ⟨.count w.game _ (menuCalls_fromMenus _ _ cursor) (by rw [state]; decide), cursor⟩
  all_goals
    rename_i other
    cases ticked
    have state : w.game.gameState = _ := other
    have move : TimerMove cfg seen w.game ((timerIntHandler w.game).call []) :=
      .count w.game [] (by simp) (by rw [state]; decide)
    simp only [Game.call, List.append_nil] at move
    exact ⟨move, cursor⟩

end Parts

theorem gameStep_hardware {w after : World} {interrupts : BitVec 64} {inputs : Inputs}
    (stepped : gameStep cfg w (.hardware interrupts inputs) = some after) :
    inputParts cfg interrupts inputs w.clear = .leave after ∨
      (inputParts cfg interrupts inputs w.clear = .next after ∧ interrupts &&& timerBit = 0) ∨
      ∃ v, inputParts cfg interrupts inputs w.clear = .next v ∧ interrupts &&& timerBit ≠ 0 ∧
        timerPart cfg inputs v = some after := by
  unfold gameStep at stepped
  split at stepped
  · cases stepped
  · dsimp only at stepped
    unfold hardware at stepped
    split at stepped
    · rename_i v flow
      cases stepped
      exact .inl flow
    · rename_i v flow
      split at stepped
      · rename_i bit
        exact .inr (.inr ⟨v, flow, bit, stepped⟩)
      · rename_i bit
        cases stepped
        exact .inr (.inl ⟨flow, by simpa using bit⟩)

theorem gameStep_quiet {w after : World} {message : Message}
    (quiet : message = .failedReceive ∨ message = .notFromHardware)
    (stepped : gameStep cfg w message = some after) : after = w.clear := by
  unfold gameStep at stepped
  split at stepped
  · cases stepped
  · rcases quiet with rfl | rfl <;> exact (Option.some.inj stepped).symm

theorem gameStep_moves (tracks : Tracks seen) (w after : World) (message : Message)
    (cursor : seen w.mouse) (stepped : gameStep cfg w message = some after) :
    MessageMoves cfg seen (StartClick w message) w.clear.game after.game ∧ seen after.mouse := by
  cases message with
  | failedReceive =>
      rw [gameStep_quiet (.inl rfl) stepped]
      exact ⟨.input (.refl _), cursor⟩
  | notFromHardware =>
      rw [gameStep_quiet (.inr rfl) stepped]
      exact ⟨.input (.refl _), cursor⟩
  | hardware interrupts inputs =>
      have parts : Arrived cfg seen (StartClick w (.hardware interrupts inputs)) w.clear.game
          (inputParts cfg interrupts inputs w.clear).world :=
        inputParts_arrives tracks interrupts inputs w.clear cursor
      rcases gameStep_hardware stepped with flow | ⟨flow, _⟩ | ⟨v, flow, _, ticked⟩
      · rw [flow] at parts
        exact ⟨.input parts.moves, parts.cursor⟩
      · rw [flow] at parts
        exact ⟨.input parts.moves, parts.cursor⟩
      · rw [flow] at parts
        have timer := timerPart_moves inputs v after parts.cursor ticked
        exact ⟨.timer _ parts.moves timer.1, timer.2⟩

theorem MessageMoves.invariant {g after : Game} (moves : MessageMoves cfg seen started g after)
    (Inv : Game → Prop)
    (input : ∀ before after, Inv before → InputMove cfg seen started before after → Inv after)
    (timer : ∀ before after, Inv before → TimerMove cfg seen before after → Inv after)
    (holds : Inv g) : Inv after := by
  cases moves with
  | input moves => exact moves.invariant Inv input holds
  | timer middle moves ticked => exact timer middle after (moves.invariant Inv input holds) ticked

/-- A property of the game variables that every move keeps holds in every state between
two messages. -/
theorem reachable_invariant (Inv : Game → Prop)
    (base : ∀ memory, Inv (startGame cfg memory))
    (clear : ∀ g, Inv g → Inv { g with calls := [] })
    (input : ∀ started before after, Inv before →
      InputMove cfg (fun _ => True) started before after → Inv after)
    (timer : ∀ before after, Inv before → TimerMove cfg (fun _ => True) before after → Inv after)
    (w : World) (reached : (gameLoop cfg).Reachable w) : Inv w.game := by
  apply reached.invariant (fun w => Inv w.game)
  · rintro _ ⟨memory, rfl⟩
    exact base memory
  · intro before message after holds _ stepped
    have moves := (gameStep_moves Tracks.always before after message trivial stepped).1
    exact moves.invariant Inv (input _) timer (clear _ holds)

end Lcom.Proj
