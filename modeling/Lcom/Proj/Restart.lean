import Lcom.Proj.Assembler
import Lcom.Proj.Campaign
import Lcom.Proj.Stages
import Lcom.Proj.Unarmed

/-! From every state of `game_loop` that has not ended the player can come to a new game. -/

namespace Lcom.Proj

open Lcom.Lib

variable {cfg : Config}

/-- A packet that can begin while the assembly waits for its first byte, without the left button. -/
def Hovering (bytes : MouseBytes) : Prop := bytes.first &&& 0x08 ≠ 0 ∧ bytes.first &&& mouseLeft = 0

theorem moveCursor_repeat {mouse : Mouse} (place : CursorPlace mouse) (bytes : MouseBytes)
    (count : Nat) :
    (moveCursor mouse (List.replicate count bytes)).x =
        max 0 (min 999 (mouse.x + count * bytes.dx)) ∧
      (moveCursor mouse (List.replicate count bytes)).y =
        max 0 (min 734 (mouse.y - count * bytes.dy)) := by
  have inside : (0 ≤ mouse.x ∧ mouse.x ≤ 999) ∧ 0 ≤ mouse.y ∧ mouse.y ≤ 734 := by
    obtain ⟨⟨width, height⟩, left, right, top, bottom⟩ := place
    omega
  induction count with
  | zero =>
      simp only [List.replicate_zero, moveCursor, List.foldl_nil]
      omega
  | succ count ih =>
      have there := moveCursor_place place (List.replicate count bytes)
      have next : moveCursor mouse (List.replicate (count + 1) bytes) =
          updateMouse (getMousePacket bytes) (moveCursor mouse (List.replicate count bytes)) := by
        rw [List.replicate_succ', moveCursor, List.foldl_append]
        rfl
      rw [next, updateMouse_x there, updateMouse_y there, ih.1, ih.2]
      have sides : ∀ delta : Int, 0 ≤ delta ∧ 0 ≤ count * delta ∨ delta ≤ 0 ∧ count * delta ≤ 0 := by
        intro delta
        rcases le_total 0 delta with forth | back
        · exact .inl ⟨forth, mul_nonneg (Int.natCast_nonneg _) forth⟩
        · exact .inr ⟨back, mul_nonpos_of_nonneg_of_nonpos (Int.natCast_nonneg _) back⟩
      have atX := sides bytes.dx
      have atY := sides bytes.dy
      push_cast
      rw [add_mul, add_mul, one_mul, one_mul]
      omega

theorem cursor_reaches {mouse : Mouse} (place : CursorPlace mouse) {x y : Nat} (across : x ≤ 999)
    (down : y ≤ 734) : ∃ packets, (∀ bytes ∈ packets, Hovering bytes) ∧
      (moveCursor mouse packets).x = x ∧ (moveCursor mouse packets).y = y := by
  have corner := moveCursor_repeat place ⟨0x18, 0, 255⟩ 4
  have home := moveCursor_place place (List.replicate 4 ⟨0x18, 0, 255⟩)
  have row := moveCursor_repeat home ⟨0x08, 1, 0⟩ x
  have begun := moveCursor_place home (List.replicate x ⟨0x08, 1, 0⟩)
  have column := moveCursor_repeat begun ⟨0x28, 0, 255⟩ y
  have back : MouseBytes.dx ⟨0x18, 0, 255⟩ = -256 ∧ MouseBytes.dy ⟨0x18, 0, 255⟩ = 255 := by decide
  have step : MouseBytes.dx ⟨0x08, 1, 0⟩ = 1 ∧ MouseBytes.dy ⟨0x08, 1, 0⟩ = 0 := by decide
  have drop : MouseBytes.dx ⟨0x28, 0, 255⟩ = 0 ∧ MouseBytes.dy ⟨0x28, 0, 255⟩ = -1 := by decide
  rw [back.1, back.2] at corner
  rw [step.1, step.2, corner.1, corner.2] at row
  rw [drop.1, drop.2, row.1, row.2] at column
  refine ⟨List.replicate 4 ⟨0x18, 0, 255⟩ ++ List.replicate x ⟨0x08, 1, 0⟩ ++
    List.replicate y ⟨0x28, 0, 255⟩, ?_, ?_⟩
  · intro bytes member
    simp only [List.mem_append, List.mem_replicate] at member
    rcases member with (⟨_, rfl⟩ | ⟨_, rfl⟩) | ⟨_, rfl⟩ <;> exact ⟨by decide, by decide⟩
  · obtain ⟨⟨width, height⟩, left, right, top, bottom⟩ := place
    rw [moveCursor, List.foldl_append, List.foldl_append]
    change (moveCursor (moveCursor (moveCursor mouse _) _) _).x = _ ∧
      (moveCursor (moveCursor (moveCursor mouse _) _) _).y = _
    rw [column.1, column.2]
    push_cast
    omega

theorem led {w v : World} {message : Message} (stepped : gameStep cfg w message = some v) :
    (gameLoop cfg).Run (fun _ _ => True) w v := .single ⟨message, trivial, stepped⟩

theorem reachable_led {w v : World} (reached : (gameLoop cfg).Reachable w)
    (run : (gameLoop cfg).Run (fun _ _ => True) w v) : (gameLoop cfg).Reachable v := by
  obtain ⟨start, initial, before⟩ := reached
  exact ⟨start, initial, before.trans run⟩

theorem third_byte (cfg : Config) {w : World} (running : w.game.gameState ≠ .exit)
    (fine : w.mouseGlobals.ihError = false) (third : w.currentByte = 3) (byte : UInt8) :
    gameStep cfg w (mouseByte byte) = some (handlePacket cfg (decodePacket byte (w.heard byte))) := by
  have stepped := gameStep_byte cfg w byte running fine
  rw [if_neg (by omega), if_neg (by omega), if_pos third] at stepped
  exact stepped

theorem packet_led (cfg : Config) {w : World} (running : w.game.gameState ≠ .exit)
    (fine : w.mouseGlobals.ihError = false) (waiting : w.currentByte = 1) (bytes : MouseBytes)
    (sync : bytes.first &&& 0x08 ≠ 0) :
    ∃ before u calls, (gameLoop cfg).Run (fun _ _ => True) w before ∧
      gameStep cfg before (mouseByte bytes.third) = some (handlePacket cfg u) ∧
      (w.game.gameState = .menuDisplay → u.mouse.lbPressed = true →
        getButton u.mouse.x u.mouse.y = .startButton →
        StartClick before (mouseByte bytes.third)) ∧
      u.game = { w.game with calls := calls } ∧
      u.mouse = updateMouse (getMousePacket bytes) w.mouse ∧ u.currentByte = 1 := by
  have first := gameStep_byte cfg w bytes.first running fine
  rw [if_pos waiting, if_neg sync, Flow.world] at first
  have second := gameStep_byte cfg { w.heard bytes.first with
    currentByte := 2, mouseBytes := { w.mouseBytes with first := bytes.first } } bytes.second
    running rfl
  have third := third_byte cfg (w := { w.heard bytes.second with
    currentByte := 3, mouseBytes := ⟨bytes.first, bytes.second, w.mouseBytes.third⟩ }) running rfl rfl
    bytes.third
  refine ⟨_, _, _, (led first).trans (led second), third, fun menu pressed button => ?_, rfl, rfl,
    rfl⟩
  exact ⟨by decide, rfl, rfl, menu, pressed, button⟩

theorem handlePacket_hovers (cfg : Config) {u : World}
    (menus : u.game.gameState = .menuDisplay ∨ u.game.gameState = .instructionsDisplay)
    (idle : u.mouse.lbPressed = false) :
    (handlePacket cfg u).game.gameState = u.game.gameState ∧ (handlePacket cfg u).mouse = u.mouse ∧
      (handlePacket cfg u).currentByte = u.currentByte := by
  have up : ¬ u.mouse.lbPressed = true := by
    rw [idle]
    decide
  have shown : menuPacket cfg u = { u with button := getButton u.mouse.x u.mouse.y }.call _ :=
    if_neg up
  have told : instructionsPacket cfg u =
      { u with instructionButton := getInstructionButton u.mouse.x u.mouse.y }.call _ :=
    if_neg (fun pressed => up pressed.1)
  rcases menus with menu | instructions
  · simp only [handlePacket, menu, shown]
    exact ⟨menu, rfl, rfl⟩
  · simp only [handlePacket, instructions, told]
    exact ⟨instructions, rfl, rfl⟩

theorem hover {w : World} (reached : (gameLoop cfg).Reachable w)
    (menus : w.game.gameState = .menuDisplay ∨ w.game.gameState = .instructionsDisplay)
    (waiting : w.currentByte = 1) (packets : List MouseBytes)
    (hovering : ∀ bytes ∈ packets, Hovering bytes) :
    ∃ v, (gameLoop cfg).Run (fun _ _ => True) w v ∧ v.game.gameState = w.game.gameState ∧
      v.mouse = moveCursor w.mouse packets ∧ v.currentByte = 1 := by
  induction packets generalizing w with
  | nil => exact ⟨w, .refl, rfl, rfl, waiting⟩
  | cons bytes rest ih =>
      obtain ⟨⟨sync, up⟩, others⟩ := List.forall_mem_cons.mp hovering
      have running : w.game.gameState ≠ .exit := by
        rcases menus with state | state <;> rw [state] <;> decide
      obtain ⟨before, u, calls, begun, stepped, _, game, mouse, first⟩ :=
        packet_led cfg running (assembly_reachable reached).1 waiting bytes sync
      have run := begun.trans (led stepped)
      have state : u.game.gameState = w.game.gameState := by rw [game]
      have idle : u.mouse.lbPressed = false := by
        rw [mouse]
        change (bytes.first &&& mouseLeft != 0) = false
        rw [up]
        rfl
      obtain ⟨same, cursor, still⟩ := handlePacket_hovers cfg (state ▸ menus) idle
      obtain ⟨v, later, kept, moved, synced⟩ := ih (reachable_led reached run)
        (by rw [same, state]; exact menus) (still.trans first) others
      refine ⟨v, run.trans later, kept.trans (same.trans state), ?_, synced⟩
      rw [moved, cursor, mouse]
      rfl

theorem click_led {w : World} (reached : (gameLoop cfg).Reachable w)
    (menus : w.game.gameState = .menuDisplay ∨ w.game.gameState = .instructionsDisplay)
    (waiting : w.currentByte = 1) {x y : Nat} (across : x ≤ 999) (down : y ≤ 734) :
    ∃ before u, (gameLoop cfg).Run (fun _ _ => True) w before ∧
      gameStep cfg before (mouseByte 0) = some (handlePacket cfg u) ∧
      (w.game.gameState = .menuDisplay → getButton x y = .startButton →
        StartClick before (mouseByte 0)) ∧
      u.game.gameState = w.game.gameState ∧ u.currentByte = 1 ∧ u.mouse.x = x ∧ u.mouse.y = y ∧
      u.mouse.lbPressed = true ∧ u.game.roundNum = 0 ∧ u.game.ship.lives = 3 := by
  obtain ⟨packets, hovering, atX, atY⟩ := cursor_reaches (cursor_reachable reached) across down
  obtain ⟨v, run, state, cursor, synced⟩ := hover reached menus waiting packets hovering
  have there := reachable_led reached run
  have running : v.game.gameState ≠ .exit := by
    rw [state]
    rcases menus with menu | menu <;> rw [menu] <;> decide
  obtain ⟨before, u, calls, begun, stepped, starts, game, mouse, first⟩ := packet_led cfg running
    (assembly_reachable there).1 synced ⟨0x09, 0, 0⟩ (by decide)
  have still : MouseBytes.dx ⟨0x09, 0, 0⟩ = 0 ∧ MouseBytes.dy ⟨0x09, 0, 0⟩ = 0 := by decide
  have place := cursor_reachable there
  have onX := updateMouse_x place ⟨0x09, 0, 0⟩
  have onY := updateMouse_y place ⟨0x09, 0, 0⟩
  rw [still.1, cursor, atX] at onX
  rw [still.2, cursor, atY] at onY
  have column : u.mouse.x = x := by
    rw [mouse, cursor, onX]
    omega
  have row : u.mouse.y = y := by
    rw [mouse, cursor, onY]
    omega
  have pressed : u.mouse.lbPressed = true := by
    rw [mouse]
    rfl
  have showing : v.game.gameState = .menuDisplay ∨ v.game.gameState = .instructionsDisplay := by
    rw [state]
    exact menus
  refine ⟨before, u, run.trans begun, stepped, fun menu button => ?_, ?_, first, column, row,
    pressed, ?_, ?_⟩
  · exact starts (state.trans menu) pressed (by rw [column, row, button])
  · rw [game, ← state]
  · rw [game]
    exact (round_reachable v there).2 showing
  · rw [game]
    exact (menuShip_reachable v there showing).2

/-- A click on `START_BUTTON` can follow, with which a game begins: no rounds cleared, three lives, no
kills and a fresh formation. -/
def NewGame (cfg : Config) (w : World) : Prop :=
  ∃ u message v, (gameLoop cfg).Run (fun _ _ => True) w u ∧ StartClick u message ∧
    gameStep cfg u message = some v ∧ v.game.stage = .fight 0 3 0 ∧
    v.game.aliens = initAliens cfg

theorem NewGame.of_run {w v : World} (run : (gameLoop cfg).Run (fun _ _ => True) w v)
    (begins : NewGame cfg v) : NewGame cfg w := by
  obtain ⟨u, message, after, later, click, stepped, begun⟩ := begins
  exact ⟨u, message, after, run.trans later, click, stepped, begun⟩

theorem menu_starts {w : World} (reached : (gameLoop cfg).Reachable w)
    (menu : w.game.gameState = .menuDisplay) (waiting : w.currentByte = 1) : NewGame cfg w := by
  obtain ⟨before, u, run, stepped, starts, state, _, atX, atY, pressed, round, lives⟩ :=
    click_led reached (.inl menu) waiting (x := 500) (y := 300) (by decide) (by decide)
  have button : getButton u.mouse.x u.mouse.y = .startButton := by
    rw [atX, atY]
    decide
  obtain ⟨made, begun⟩ : ∃ made, (menuPacket cfg u).game = initGame cfg (u.call made).game := by
    unfold menuPacket
    simp only [button]
    exact ⟨_, congrArg World.game (if_pos pressed)⟩
  refine ⟨before, mouseByte 0, handlePacket cfg u, run, starts menu (by decide), stepped, ?_⟩
  rw [handlePacket, state, menu, begun]
  refine ⟨?_, rfl⟩
  change Stage.fight u.game.roundNum u.game.ship.lives 0 = _
  rw [round, lives]

theorem instructions_end {w : World} (reached : (gameLoop cfg).Reachable w)
    (instructions : w.game.gameState = .instructionsDisplay) (waiting : w.currentByte = 1) :
    ∃ v, (gameLoop cfg).Run (fun _ _ => True) w v ∧ (gameLoop cfg).Reachable v ∧
      v.game.gameState = .menuDisplay ∧ v.currentByte = 1 := by
  obtain ⟨before, u, begun, stepped, _, state, first, atX, atY, pressed, _⟩ :=
    click_led reached (.inr instructions) waiting (x := 950) (y := 700) (by decide) (by decide)
  have run := begun.trans (led stepped)
  have button : getInstructionButton u.mouse.x u.mouse.y = true := by
    rw [atX, atY]
    decide
  have left : (instructionsPacket cfg u).game.gameState = .menuDisplay ∧
      (instructionsPacket cfg u).currentByte = u.currentByte := by
    unfold instructionsPacket
    simp only [button]
    rw [if_pos ⟨pressed, trivial⟩]
    exact ⟨rfl, rfl⟩
  refine ⟨handlePacket cfg u, run, reachable_led reached run, ?_⟩
  rw [handlePacket, state, instructions]
  exact ⟨left.1, left.2.trans first⟩

theorem getButton_off {x y : Int} (inside : 0 ≤ y ∧ y ≤ 734) (off : y ≤ 512 ∨ 569 ≤ y) :
    getButton x y ≠ .exitButton := by
  have same : asUint16 y = y := by
    rw [asUint16]
    omega
  unfold getButton
  dsimp only
  rw [same]
  split_ifs with start instructions exit
  · decide
  · decide
  · omega
  · decide

theorem third_avoids {mouse : Mouse} (place : CursorPlace mouse) (first second : UInt8) :
    ∃ third, getButton (updateMouse (getMousePacket ⟨first, second, third⟩) mouse).x
      (updateMouse (getMousePacket ⟨first, second, third⟩) mouse).y ≠ .exitButton := by
  have steps : MouseBytes.dy ⟨first, second, 0⟩ = -256 ∧ MouseBytes.dy ⟨first, second, 255⟩ = -1 ∨
      MouseBytes.dy ⟨first, second, 0⟩ = 0 ∧ MouseBytes.dy ⟨first, second, 255⟩ = 255 := by
    simp only [MouseBytes.dy, nineBit]
    cases first.toBitVec.getLsbD 5 with
    | true => exact .inl (by decide)
    | false => exact .inr (by decide)
  have zero := updateMouse_y place ⟨first, second, 0⟩
  have full := updateMouse_y place ⟨first, second, 255⟩
  obtain ⟨⟨_, height⟩, _, _, top, bottom⟩ := place
  by_cases off : (updateMouse (getMousePacket ⟨first, second, 0⟩) mouse).y ≤ 512 ∨
      569 ≤ (updateMouse (getMousePacket ⟨first, second, 0⟩) mouse).y
  · exact ⟨0, getButton_off (by omega) off⟩
  · exact ⟨255, getButton_off (by omega) (by omega)⟩

theorem handlePacket_running {u : World} (running : u.game.gameState ≠ .exit)
    (off : getButton u.mouse.x u.mouse.y ≠ .exitButton) :
    (handlePacket cfg u).game.gameState ≠ .exit := by
  unfold handlePacket
  split
  · rename_i menu
    unfold menuPacket
    dsimp only
    split
    · split
      · nofun
      · nofun
      · rename_i button
        exact absurd button off
      · exact running
    · exact running
  · rename_i instructions
    unfold instructionsPacket
    dsimp only
    split
    · nofun
    · exact running
  · unfold playingPacket
    split <;> exact running
  · exact running
  · exact running

/-- The mouse can always finish its packet without ending the program. -/
theorem packet_finishes {w : World} (reached : (gameLoop cfg).Reachable w)
    (running : w.game.gameState ≠ .exit) :
    ∃ v, (gameLoop cfg).Run (fun _ _ => True) w v ∧ v.game.gameState ≠ .exit ∧
      v.currentByte = 1 := by
  have third : ∀ u, (gameLoop cfg).Reachable u → u.game.gameState ≠ .exit → u.currentByte = 3 →
      ∃ v, (gameLoop cfg).Run (fun _ _ => True) u v ∧ v.game.gameState ≠ .exit ∧
        v.currentByte = 1 := by
    intro u there on ready
    obtain ⟨byte, off⟩ := third_avoids (cursor_reachable there) u.mouseBytes.first
      u.mouseBytes.second
    have stepped := third_byte cfg on (assembly_reachable there).1 ready byte
    refine ⟨_, led stepped, handlePacket_running on off, ?_⟩
    exact congrArg Assembler.currentByte (handlePacket_keeps cfg _).1
  obtain ⟨fine, one | two | three⟩ := assembly_reachable reached
  · exact ⟨w, .refl, running, one⟩
  · have stepped := gameStep_byte cfg w 0 running fine
    rw [if_neg (by omega), if_pos two] at stepped
    obtain ⟨v, later, on, synced⟩ := third _ (reachable_led reached (led stepped)) running rfl
    exact ⟨v, (led stepped).trans later, on, synced⟩
  · exact third w reached running three

theorem playingTick_some (cfg : Config) {g : Game} {i : Fin sizeOfAliens}
    (alive : (g.aliens.get i).alive = true) :
    ∃ after, playingTick cfg { noInputs with rand := [i.val] } g = some after := by
  have chosen : generateAlienBullet g.aliens [i.val] = some i := by
    have same : (⟨i.val % sizeOfAliens, Nat.mod_lt _ (by decide)⟩ : Fin sizeOfAliens) = i :=
      Fin.ext (Nat.mod_eq_of_lt i.isLt)
    simp only [generateAlienBullet]
    rw [same, if_pos alive]
  unfold playingTick
  dsimp only
  split
  · exact ⟨_, congrArg (Option.map _) chosen⟩
  · split <;> exact ⟨_, rfl⟩

theorem timerPart_some {w : World} (reached : (gameLoop cfg).Reachable w) (fighting : Fighting w) :
    ∃ rand v, timerPart cfg { noInputs with rand := rand } w.clear = some v := by
  rcases fighting with playing | cleared
  · obtain ⟨i, alive⟩ := (wave_reachable w reached).living playing
    obtain ⟨after, ticked⟩ := playingTick_some cfg (g := timerIntHandler w.clear.game) alive
    have state : (timerIntHandler w.clear.game).gameState = .playing := playing
    refine ⟨[i.val], { w.clear with game := after }, ?_⟩
    rw [timerPart]
    simp only [state, ticked]
    rfl
  · have state : (timerIntHandler w.clear.game).gameState = .nextRound := cleared
    refine ⟨[], { w.clear with game := nextRoundTick cfg (timerIntHandler w.clear.game) }, ?_⟩
    rw [timerPart]
    simp only [state]

theorem part_skipped {interrupts bit : BitVec 64} (clear : ¬ interrupts &&& bit ≠ 0)
    (handler : World → Flow) (w : World) :
    (Flow.next w).part interrupts bit handler = .next w := by
  unfold Flow.part
  exact if_neg clear

theorem tick_led {w : World} (reached : (gameLoop cfg).Reachable w) (fighting : Fighting w) :
    ∃ message v, gameStep cfg w message = some v ∧ reachesTimer cfg w message = true ∧
      ¬ ShootClick w message ∧ v.game.gameState ≠ .exit ∧ v.currentByte = w.currentByte := by
  obtain ⟨rand, v, ticked⟩ := timerPart_some reached fighting
  have mouse : ¬ timerBit &&& mouseBit ≠ 0 := by decide
  have kbd : ¬ timerBit &&& kbdBit ≠ 0 := by decide
  have flow : inputParts cfg timerBit { noInputs with rand := rand } w.clear = .next w.clear := by
    rw [inputParts, part_skipped mouse, part_skipped kbd]
  have stepped : gameStep cfg w (timerTick rand) = some v :=
    (gameStep_timer cfg _ w fighting.not_exit).trans ticked
  refine ⟨timerTick rand, v, stepped, ?_, fun click => mouse click.1, ?_, ?_⟩
  · simp only [reachesTimer, timerTick, flow]
    decide
  · have move : TimerMove cfg (fun _ => True) w.clear.game v.game :=
      (timerPart_moves _ w.clear v trivial ticked).1
    have on : w.clear.game.gameState ≠ .exit := fighting.not_exit
    exact timerMove_running on move
  · have taken : w.taken (timerTick rand) = none := by
      simp only [World.taken, timerTick, if_neg mouse]
    have kept := (gameStep_takes (assembly_reachable reached).1 stepped).1
    rw [taken] at kept
    exact congrArg Assembler.currentByte kept

theorem fight_ends {w : World} (reached : (gameLoop cfg).Reachable w) (fighting : Fighting w) :
    ∃ v, (gameLoop cfg).Run (fun _ _ => True) w v ∧ v.game.gameState ≠ .exit ∧ ¬ Fighting v ∧
      v.currentByte = w.currentByte := by
  have ticks : ∀ count : Nat,
      (∃ v, (gameLoop cfg).Run (fun _ _ => True) w v ∧ v.game.gameState ≠ .exit ∧ ¬ Fighting v ∧
        v.currentByte = w.currentByte) ∨
      ∃ v, (gameLoop cfg).Run (fun _ _ => True) w v ∧ Fighting v ∧ v.currentByte = w.currentByte ∧
        ((gameLoop cfg).only (fun w message => ¬ ShootClick w message)).Stay Fighting
          (reachesTimer cfg) w count v := by
    intro count
    induction count with
    | zero => exact .inr ⟨w, .refl, fighting, rfl, .refl w⟩
    | succ count ih =>
        rcases ih with done | ⟨u, run, on, same, stay⟩
        · exact .inl done
        · obtain ⟨message, v, stepped, timer, quiet, running, kept⟩ :=
            tick_led (reachable_led reached run) on
          by_cases still : Fighting v
          · have longer := stay.step message (Machine.only_step.mpr ⟨quiet, stepped⟩) still
            rw [timer] at longer
            exact .inr ⟨v, run.trans (led stepped), still, kept.trans same, longer⟩
          · exact .inl ⟨v, run.trans (led stepped), running, still, kept.trans same⟩
  rcases ticks (2 * (29 * (923 + 2) * max 1 (cfg.hz / 60)) + 1) with done | ⟨v, _, _, _, stay⟩
  · exact done
  · have bound := unarmed_game_ends cfg reached fighting stay
    omega

/-- No state is a dead end: whatever has happened, and wherever the mouse is in a packet, the player
can come to the beginning of a new game. -/
theorem always_restartable (cfg : Config) {w : World} (reached : (gameLoop cfg).Reachable w)
    (running : w.game.gameState ≠ .exit) : NewGame cfg w := by
  have fromMenu : ∀ u, (gameLoop cfg).Run (fun _ _ => True) w u → u.game.gameState ≠ .exit →
      ¬ Fighting u → u.currentByte = 1 → NewGame cfg w := by
    intro u run on idle synced
    have there := reachable_led reached run
    cases state : u.game.gameState with
    | menuDisplay => exact .of_run run (menu_starts there state synced)
    | instructionsDisplay =>
        obtain ⟨m, back, menu, shown, first⟩ := instructions_end there state synced
        exact .of_run (run.trans back) (menu_starts menu shown first)
    | playing => exact absurd (.inl state) idle
    | nextRound => exact absurd (.inr state) idle
    | exit => exact absurd state on
  obtain ⟨u, run, on, synced⟩ := packet_finishes reached running
  by_cases fighting : Fighting u
  · obtain ⟨v, ended, left, idle, same⟩ := fight_ends (reachable_led reached run) fighting
    exact fromMenu v (run.trans ended) left idle (same.trans synced)
  · exact fromMenu u run on fighting synced

/-- In the middle of a packet that clicks `EXIT_BUTTON`. -/
theorem always_restartable_half_clicked : ∃ w, (gameLoop sampleConfig).Reachable w ∧
    w.currentByte = 3 ∧ w.mouseBytes.first = 0x09 ∧
    getButton w.mouse.x w.mouse.y = .exitButton ∧ NewGame sampleConfig w := by
  obtain ⟨w, reached, third, first, button, running⟩ := reachable_of_played
    (packetBytes 0x08 250 100 ++ packetBytes 0x08 150 60 ++ [mouseByte 0x09, mouseByte 0])
    (fun w => w.currentByte = 3 ∧ w.mouseBytes.first = 0x09 ∧
      getButton w.mouse.x w.mouse.y = .exitButton ∧ w.game.gameState ≠ .exit) (by decide +kernel)
  exact ⟨w, reached, third, first, button, always_restartable sampleConfig reached running⟩

end Lcom.Proj
