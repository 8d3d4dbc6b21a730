import Lcom.Lib.Ranking
import Lcom.Proj.Formation
import Lcom.Proj.Waves

/-! Every wave ends: the formation reaches the territory line after a bounded number of ticks unless
something ends the wave before. -/

namespace Lcom.Proj

open Lcom.Lib

def reachesTimer (cfg : Config) (w : World) : Message → Bool
  | .failedReceive | .notFromHardware => false
  | .hardware interrupts inputs =>
      match inputParts cfg interrupts inputs w.clear with
      | .leave _ => false
      | .next _ => interrupts &&& timerBit != 0

/-- The game when the mouse part and the keyboard part of the message are over. -/
def afterInput (cfg : Config) (w : World) : Message → Game
  | .failedReceive | .notFromHardware => w.clear.game
  | .hardware interrupts inputs => (inputParts cfg interrupts inputs w.clear).world.game

theorem gameStep_input {cfg : Config} {w after : World} {message : Message}
    (stepped : gameStep cfg w message = some after) :
    InputMoves cfg (fun _ => True) (StartClick w message) w.clear.game (afterInput cfg w message) ∧
      if reachesTimer cfg w message then
        TimerMove cfg (fun _ => True) (afterInput cfg w message) after.game
      else after.game = afterInput cfg w message := by
  cases message with
  | failedReceive =>
      rw [gameStep_quiet (.inl rfl) stepped]
      exact ⟨.refl _, rfl⟩
  | notFromHardware =>
      rw [gameStep_quiet (.inr rfl) stepped]
      exact ⟨.refl _, rfl⟩
  | hardware interrupts inputs =>
      have parts : Arrived cfg (fun _ => True) (StartClick w (.hardware interrupts inputs))
          w.clear.game (inputParts cfg interrupts inputs w.clear).world :=
        inputParts_arrives Tracks.always interrupts inputs w.clear trivial
      refine ⟨parts.moves, ?_⟩
      rcases gameStep_hardware stepped with flow | ⟨flow, clear⟩ | ⟨v, flow, bit, ticked⟩
      · simp only [reachesTimer, afterInput, flow]
        rfl
      · simp only [reachesTimer, afterInput, flow, clear]
        rfl
      · simp only [reachesTimer, afterInput, flow, bne_iff_ne, ne_eq, bit, not_false_eq_true,
          if_true]
        exact (timerPart_moves inputs v after trivial ticked).1

/-- A message that reaches the timer part makes a timer move, and no other one does. -/
theorem gameStep_ticks {cfg : Config} {w after : World} {message : Message}
    (stepped : gameStep cfg w message = some after) :
    ∃ middle, InputMoves cfg (fun _ => True) (StartClick w message) w.clear.game middle ∧
      if reachesTimer cfg w message then TimerMove cfg (fun _ => True) middle after.game
      else after.game = middle := ⟨_, gameStep_input stepped⟩

def crossing (speed : Int) : Nat := 923 / speed.toNat + 2

def toBorder (rightMov : Bool) (speed : Int) (a : Alien) : Nat :=
  (if rightMov then 944 - a.x else a.x - 20).toNat / speed.toNat

def passesLeft (rightMov : Bool) (speed : Int) (a : Alien) : Nat :=
  (580 - a.y).toNat / 20 * crossing speed + toBorder rightMov speed a

def Approaches (passes : Nat) (g : Game) : Prop :=
  ∀ i, (g.aliens.get i).alive = true → passesLeft g.rightMov g.speed (g.aliens.get i) ≤ passes

/-- A turn costs at least 20 pixels, and no more than a crossing begins after it. -/
theorem passesLeft_lt {a after : Alien} {rightMov turned : Bool} {speed : Int}
    (forward : 1 ≤ speed) (right : rightMov = true → a.x + 60 < xRightBorder)
    (left : rightMov = false → xLeftBorder < a.x)
    (place : after.x = a.x + heading rightMov speed) (above : after.y + 40 < territory)
    (level : after.y = a.y)
    (border : turned = false → if rightMov then after.x + 60 < xRightBorder else xLeftBorder < after.x) :
    passesLeft (if turned then !rightMov else rightMov) speed
        (changeAlienYCoordinates after (descent turned)) < passesLeft rightMov speed a := by
  obtain ⟨pace, rfl⟩ := Int.eq_ofNat_of_zero_le (by omega : 0 ≤ speed)
  have positive : 0 < pace := by omega
  simp only [passesLeft, toBorder, crossing, heading, changeAlienYCoordinates, xRightBorder,
    xLeftBorder, territory, Int.toNat_natCast] at *
  cases turned with
  | false =>
      -- the distance to the border shrinks by the speed
      have closer : ∀ {near far : Int}, 0 < near → far = near + pace →
          near.toNat / pace < far.toNat / pace := by
        intro near far ahead same
        have sum : far.toNat = near.toNat + pace := by omega
        rw [sum, Nat.add_div_right _ positive]
        exact Nat.lt_succ_self _
      have same : after.y + descent false = a.y := by simp [descent, level]
      rw [same]
      apply Nat.add_lt_add_left
      cases rightMov with
      | true => exact closer (by have := border rfl; simp at *; omega) (by simp at *; omega)
      | false => exact closer (by have := border rfl; simp at *; omega) (by simp at *; omega)
  | true =>
      have lower : (580 - (after.y + descent true)).toNat / 20 + 1 = (580 - a.y).toNat / 20 := by
        have sum : (580 - a.y).toNat = (580 - (after.y + descent true)).toNat + 20 := by
          simp only [descent, if_true]
          omega
        rw [sum, Nat.add_div_right _ (by decide)]
      have ahead : ∀ distance : Int, distance ≤ 923 + pace →
          distance.toNat / pace < 923 / pace + 2 := by
        intro distance bound
        calc distance.toNat / pace ≤ (923 + pace) / pace := Nat.div_le_div_right (by omega)
          _ = 923 / pace + 1 := Nat.add_div_right _ positive
          _ < 923 / pace + 2 := Nat.lt_succ_self _
      rw [← lower, Nat.add_mul, Nat.one_mul, Nat.add_assoc]
      apply Nat.add_lt_add_left
      refine Nat.lt_of_lt_of_le (ahead _ ?_) (Nat.le_add_right _ _)
      cases rightMov with
      | true => have := right rfl; simp at *; omega
      | false => have := left rfl; simp at *; omega

theorem marchAliens_approaches (cfg : Config) (g : Game) {passes : Nat}
    (bordered : Bordered g.aliens g.speed g.roundNum g.rightMov) (near : Approaches passes g)
    (playing : (marchAliens cfg g).gameState = .playing)
    (living : ∃ i, ((marchAliens cfg g).aliens.get i).alive = true) :
    ∃ fewer, fewer + 1 ≤ passes ∧ Approaches fewer (marchAliens cfg g) := by
  obtain ⟨⟨speed, positive, sized⟩, bounds⟩ := bordered
  have forward : 1 ≤ g.speed := by
    rw [speed]
    simp only [initialAlienSpeed]
    omega
  have nearer : ∀ i, ((marchAliens cfg g).aliens.get i).alive = true →
      passesLeft (marchAliens cfg g).rightMov g.speed ((marchAliens cfg g).aliens.get i) <
        passes := by
    intro i alive
    obtain ⟨after, marched, place⟩ := marchAliens_get cfg g playing i
    rw [place] at alive ⊢
    obtain ⟨before, moved, above, border⟩ := marched.survivor alive
    have size := (marched.sized (sized i)).1
    rw [AtBorder, size.1] at border
    rw [size.2] at above
    refine Nat.lt_of_lt_of_le (passesLeft_lt forward (bounds i before).2.1 (bounds i before).2.2
      moved above marched.y_eq ?_) (near i before)
    intro straight
    rw [straight] at border
    cases right : g.rightMov with
    | true => simpa [right] using border
    | false => simpa [right] using border
  obtain ⟨i, alive⟩ := living
  have some := nearer i alive
  refine ⟨passes - 1, by omega, fun j survivor => ?_⟩
  have sooner := nearer j survivor
  have same : (marchAliens cfg g).speed = g.speed := (marchPass_playing cfg g playing).1
  rw [same]
  omega

def Config.pace (cfg : Config) : Nat := max 1 (cfg.hz / 60)

def TicksLeft (cfg : Config) (ticks : Nat) (g : Game) : Prop :=
  ∃ passes, Approaches passes g ∧
    passes * cfg.pace + (cfg.pace - 1 - g.timerCounter.toNat) ≤ ticks

structure SameMarch (g after : Game) : Prop where
  playing : after.gameState = .playing
  aliens : after.aliens = g.aliens
  speed : after.speed = g.speed
  roundNum : after.roundNum = g.roundNum
  rightMov : after.rightMov = g.rightMov
  movImg : after.movImg = g.movImg
  timerCounter : after.timerCounter = g.timerCounter

theorem inputMoves_sameMarch {cfg : Config} {seen : Mouse → Prop} {started : Prop} {g after : Game}
    (playing : g.gameState = .playing) (moves : InputMoves cfg seen started g after) :
    after.gameState = .exit ∨ SameMarch g after := by
  refine moves.invariant (fun after => after.gameState = .exit ∨ SameMarch g after) ?_
    (.inr ⟨playing, rfl, rfl, rfl, rfl, rfl, rfl⟩)
  rintro before after (left | same) move
  · left
    cases move with
    | menuCalls made menus => exact left
    | instructions menu => rw [left] at menu; cases menu
    | menu instructions => rw [left] at instructions; cases instructions
    | exit => rfl
    | start menu click => rw [left] at menu; cases menu
    | shoot playing => exact left
    | steer key playing => exact left
  · obtain ⟨still, aliens, speed, roundNum, rightMov, movImg, timerCounter⟩ := same
    cases move with
    | menuCalls made menus =>
        exact .inr ⟨still, aliens, speed, roundNum, rightMov, movImg, timerCounter⟩
    | instructions menu => rw [still] at menu; cases menu
    | menu instructions => rw [still] at instructions; cases instructions
    | exit => exact .inl rfl
    | start menu click => rw [still] at menu; cases menu
    | shoot playing =>
        exact .inr ⟨still, aliens, speed, roundNum, rightMov, movImg, timerCounter⟩
    | steer key playing =>
        exact .inr ⟨still, aliens, speed, roundNum, rightMov, movImg, timerCounter⟩

theorem moveAliens_ticksLeft (cfg : Config) (g : Game) {ticks : Nat}
    (counted : 1 ≤ g.timerCounter) (bordered : Bordered g.aliens g.speed g.roundNum g.rightMov)
    (left : TicksLeft cfg ticks { g with timerCounter := g.timerCounter - 1 })
    (playing : (moveAliens cfg g).gameState = .playing)
    (living : ∃ i, ((moveAliens cfg g).aliens.get i).alive = true) :
    ∃ fewer, fewer + 1 ≤ ticks ∧ TicksLeft cfg fewer (moveAliens cfg g) := by
  obtain ⟨passes, near, bound⟩ := left
  have pace : (cfg.ipf : Int) ≤ cfg.pace := by
    rw [Config.ipf, Config.pace]
    exact_mod_cast Nat.le_max_right _ _
  have positive : 1 ≤ cfg.pace := Nat.le_max_left _ _
  simp only at bound
  rcases moveAliens_cases cfg g with ⟨early, same⟩ | ⟨due, movImg, frameCounter, same⟩
  · rw [same]
    refine ⟨ticks - 1, by omega, passes, near, ?_⟩
    omega
  · rw [same] at playing living ⊢
    obtain ⟨fewer, less, nearer⟩ := marchAliens_approaches cfg
      { g with frameCounter := g.frameCounter + 1 } bordered near playing living
    have rest : (fewer + 1) * cfg.pace ≤ passes * cfg.pace := Nat.mul_le_mul_right _ less
    rw [Nat.add_mul, Nat.one_mul] at rest
    refine ⟨ticks - 1, by omega, fewer, nearer, ?_⟩
    change fewer * cfg.pace + (cfg.pace - 1 - 0) ≤ ticks - 1
    omega

def Below (aliens : Aliens) : Prop := ∀ i, 20 ≤ (aliens.get i).y

theorem initAliens_below (cfg : Config) : Below (initAliens cfg) := by
  intro i
  rw [initAliens_get, (gridAlien_spec cfg _ _).2.2]
  omega

theorem marchAliens_below (cfg : Config) (g : Game) (below : Below g.aliens)
    (playing : (marchAliens cfg g).gameState = .playing) : Below (marchAliens cfg g).aliens := by
  intro i
  obtain ⟨marched, moved, place⟩ := marchAliens_get cfg g playing i
  have high := below i
  rw [place]
  change 20 ≤ marched.y + descent _
  rw [moved.y_eq, descent]
  split <;> omega

theorem below_reachable {cfg : Config} {w : World} (reached : (gameLoop cfg).Reachable w)
    (playing : w.game.gameState = .playing) : Below w.game.aliens :=
  (formation_reachable (Q := fun aliens _ _ _ => Below aliens) (fun _ _ _ => initAliens_below cfg)
    (fun g below after => marchAliens_below cfg g below after) w reached).2 playing

theorem moveAliens_timerCounter (cfg : Config) (g : Game) (counted : 0 ≤ g.timerCounter) :
    0 ≤ (moveAliens cfg g).timerCounter := by
  rcases moveAliens_cases cfg g with ⟨_, same⟩ | ⟨_, movImg, frameCounter, same⟩
  · rw [same]
    exact counted
  · rw [same]

theorem timerMove_timerCounter {cfg : Config} {seen : Mouse → Prop} {before after : Game}
    (counted : 0 ≤ before.timerCounter) (move : TimerMove cfg seen before after) :
    0 ≤ after.timerCounter := by
  have next : 0 ≤ before.timerCounter + 1 := by omega
  cases move with
  | count made menus still => exact next
  | tick _ inputs playing ends =>
      cases ends with
      | fired index idle alive => exact moveAliens_timerCounter cfg _ next
      | lost active dead =>
          obtain ⟨lives, still, calls, same⟩ :=
            moveAlienBullet_eq (drawFrame cfg inputs (timerIntHandler before))
          rw [same]
          exact next
      | flown active left =>
          obtain ⟨lives, still, calls, same⟩ :=
            moveAlienBullet_eq (drawFrame cfg inputs (timerIntHandler before))
          rw [same]
          exact moveAliens_timerCounter cfg _ next
  | nextRound cleared => exact next

theorem timerCounter_reachable {cfg : Config} {w : World} (reached : (gameLoop cfg).Reachable w) :
    0 ≤ w.game.timerCounter :=
  reachable_invariant (fun g => 0 ≤ g.timerCounter) (fun _ => le_refl _) (fun _ holds => holds)
    (fun _ _ _ holds move => by cases move <;> exact holds)
    (fun _ _ holds move => timerMove_timerCounter holds move) w reached

theorem tick_ticksLeft {cfg : Config} {g after : Game} {inputs : Inputs} {ticks : Nat}
    (counted : 0 ≤ g.timerCounter) (bordered : Bordered g.aliens g.speed g.roundNum g.rightMov)
    (left : TicksLeft cfg ticks g)
    (ends : TickEnd cfg (drawFrame cfg inputs (timerIntHandler g)) after)
    (playing : after.gameState = .playing)
    (living : ∃ i, (after.aliens.get i).alive = true) :
    ∃ fewer, fewer + 1 ≤ ticks ∧ TicksLeft cfg fewer after := by
  have next : 1 ≤ g.timerCounter + 1 := by omega
  have before : TicksLeft cfg ticks { g with timerCounter := g.timerCounter + 1 - 1 } := by
    rw [Int.add_sub_cancel]
    exact left
  cases ends with
  | fired index idle alive =>
      exact moveAliens_ticksLeft cfg
        (fireAlienBullet cfg index (drawFrame cfg inputs (timerIntHandler g))) next bordered before
        playing living
  | lost active dead => cases playing
  | flown active left =>
      obtain ⟨lives, still, calls, same⟩ :=
        moveAlienBullet_eq (drawFrame cfg inputs (timerIntHandler g))
      rw [same] at playing living ⊢
      exact moveAliens_ticksLeft cfg _ next bordered before playing living

theorem SameMarch.ticksLeft {cfg : Config} {g after : Game} {ticks : Nat} (same : SameMarch g after)
    (left : TicksLeft cfg ticks g) : TicksLeft cfg ticks after := by
  obtain ⟨passes, near, bound⟩ := left
  refine ⟨passes, fun i alive => ?_, by rw [same.timerCounter]; exact bound⟩
  rw [same.aliens] at alive ⊢
  rw [same.rightMov, same.speed]
  exact near i alive

theorem timerMove_ticksLeft {cfg : Config} {seen : Mouse → Prop} {g after : Game} {ticks : Nat}
    (counted : 0 ≤ g.timerCounter) (bordered : Bordered g.aliens g.speed g.roundNum g.rightMov)
    (playing : g.gameState = .playing) (left : TicksLeft cfg ticks g)
    (move : TimerMove cfg seen g after) (still : after.gameState = .playing)
    (living : ∃ i, (after.aliens.get i).alive = true) :
    ∃ fewer, fewer + 1 ≤ ticks ∧ TicksLeft cfg fewer after := by
  cases move with
  | count made menus idle => exact absurd playing idle.1
  | tick _ inputs _ ends => exact tick_ticksLeft counted bordered left ends still living
  | nextRound cleared => rw [playing] at cleared; cases cleared

theorem timerMove_exit {cfg : Config} {seen : Mouse → Prop} {g after : Game}
    (exit : g.gameState = .exit) (move : TimerMove cfg seen g after) : after.gameState = .exit := by
  cases move with
  | count made menus idle => exact exit
  | tick _ inputs playing ends => rw [exit] at playing; cases playing
  | nextRound cleared => rw [exit] at cleared; cases cleared

theorem moveAliens_running {cfg : Config} {g : Game} (running : g.gameState ≠ .exit) :
    (moveAliens cfg g).gameState ≠ .exit := by
  have settles : ∀ (a : Alien) (m : March), m.gameState ≠ .exit →
      (settleAlien cfg a m).gameState ≠ .exit := by
    intro a m on
    unfold settleAlien
    split
    · nofun
    · split
      · nofun
      · exact on
  rcases moveAliens_cases cfg g with ⟨_, same⟩ | ⟨_, movImg, frameCounter, same⟩
  · rw [same]
    exact running
  · rw [same]
    refine marchPass_rule cfg { g with frameCounter := g.frameCounter + 1 }
      (fun _ _ m => m.gameState ≠ .exit) ?_ running
    rintro done a rest m a' m' on visit
    cases visit with
    | skipped dead => exact on
    | missed heap moved alive place read next misses => exact settles _ _ on
    | killed heap ref moved alive place read next member hit => exact settles _ _ on

theorem timerMove_running {cfg : Config} {seen : Mouse → Prop} {before after : Game}
    (running : before.gameState ≠ .exit) (move : TimerMove cfg seen before after) :
    after.gameState ≠ .exit := by
  cases move with
  | count made menus still => exact running
  | tick _ inputs playing ends =>
      cases ends with
      | fired index idle alive => exact moveAliens_running (g := fireAlienBullet cfg index _) running
      | lost active dead => nofun
      | flown active left =>
          refine moveAliens_running ?_
          obtain ⟨lives, still, calls, same⟩ :=
            moveAlienBullet_eq (drawFrame cfg inputs (timerIntHandler before))
          rw [same]
          exact running
  | nextRound cleared => nofun

theorem WaveInv.living {g : Game} (holds : WaveInv g) (playing : g.gameState = .playing) :
    ∃ i, (g.aliens.get i).alive = true := by
  have tally := holds (.inl playing)
  apply exists_alive_of_deadCount_lt
  have counted := tally.counted
  have few := tally.playing playing
  omega

/-- What the wave is like between two messages, with the ticks it can still take. -/
def InWave (cfg : Config) (ticks : Nat) (w : World) : Prop :=
  (gameLoop cfg).Reachable w ∧ TicksLeft cfg ticks w.game

theorem inWave_step {cfg : Config} {ticks : Nat} {w after : World} {message : Message}
    (wave : InWave cfg ticks w) (playing : w.game.gameState = .playing)
    (stepped : gameStep cfg w message = some after) (still : after.game.gameState = .playing) :
    ∃ fewer, fewer + (reachesTimer cfg w message).toNat ≤ ticks ∧ InWave cfg fewer after := by
  obtain ⟨reached, left⟩ := wave
  have moved : (gameLoop cfg).step w message = some after := stepped
  have later : (gameLoop cfg).Reachable after := Machine.ReachableVia.step reached trivial moved
  have living := (wave_reachable after later).living still
  obtain ⟨middle, moves, ticked⟩ := gameStep_ticks stepped
  have input : middle.gameState = .exit ∨ SameMarch w.clear.game middle :=
    inputMoves_sameMarch playing moves
  cases timer : reachesTimer cfg w message with
  | false =>
      rw [timer, if_neg (by decide)] at ticked
      rcases input with exit | same
      · rw [ticked, exit] at still
        cases still
      · exact ⟨ticks, Nat.le_refl _, later, ticked ▸ same.ticksLeft left⟩
  | true =>
      rw [timer, if_pos rfl] at ticked
      rcases input with exit | same
      · rw [timerMove_exit exit ticked] at still
        cases still
      · have counted : 0 ≤ middle.timerCounter := by
          rw [same.timerCounter]
          exact timerCounter_reachable (w := w) reached
        have bordered : Bordered middle.aliens middle.speed middle.roundNum middle.rightMov := by
          rw [same.aliens, same.speed, same.roundNum, same.rightMov]
          exact bordered_reachable w reached playing
        obtain ⟨fewer, less, nearer⟩ := timerMove_ticksLeft counted bordered same.playing
          (same.ticksLeft left) ticked still living
        exact ⟨fewer, less, later, nearer⟩

theorem inWave_begins {cfg : Config} {w : World} (reached : (gameLoop cfg).Reachable w)
    (playing : w.game.gameState = .playing) :
    InWave cfg (29 * crossing w.game.speed * cfg.pace - 1) w := by
  have below := below_reachable reached playing
  obtain ⟨⟨speed, positive, _⟩, bounds⟩ := bordered_reachable w reached playing
  obtain ⟨pace, same⟩ : ∃ pace : Nat, w.game.speed = pace :=
    Int.eq_ofNat_of_zero_le (by rw [speed]; simp only [initialAlienSpeed]; omega)
  have forward : 0 < pace := by
    simp only [initialAlienSpeed] at speed
    omega
  have near : Approaches (29 * crossing w.game.speed - 1) w.game := by
    intro i alive
    have turns : (580 - (w.game.aliens.get i).y).toNat / 20 ≤ 28 := by
      have high := below i
      omega
    have rest : toBorder w.game.rightMov w.game.speed (w.game.aliens.get i) <
        crossing w.game.speed := by
      have inside := bounds i alive
      simp only [xLeftBorder, xRightBorder] at inside
      rw [toBorder, crossing, same, Int.toNat_natCast]
      calc (if w.game.rightMov then 944 - (w.game.aliens.get i).x
              else (w.game.aliens.get i).x - 20).toNat / pace
          ≤ (923 + pace) / pace := Nat.div_le_div_right (by split <;> omega)
        _ = 923 / pace + 1 := Nat.add_div_right _ forward
        _ < 923 / pace + 2 := Nat.lt_succ_self _
    have rows : (580 - (w.game.aliens.get i).y).toNat / 20 * crossing w.game.speed ≤
        28 * crossing w.game.speed := Nat.mul_le_mul_right _ turns
    rw [passesLeft]
    omega
  have some : 1 ≤ cfg.pace := Nat.le_max_left _ _
  have crossings : 2 ≤ crossing w.game.speed := Nat.le_add_left _ _
  refine ⟨reached, _, near, ?_⟩
  obtain ⟨passes, count⟩ : ∃ passes, 29 * crossing w.game.speed = passes + 1 :=
    ⟨29 * crossing w.game.speed - 1, by omega⟩
  rw [count, Nat.add_sub_cancel, Nat.add_mul, Nat.one_mul]
  omega

/-- Every wave ends: whatever the messages are, the game stays in a wave for less than 29 crossings
of the screen. The more rounds there were, the faster the formation crosses it. -/
theorem wave_ends (cfg : Config) {w v : World} {ticks : Nat} (reached : (gameLoop cfg).Reachable w)
    (playing : w.game.gameState = .playing)
    (stay : (gameLoop cfg).Stay (fun w => w.game.gameState = .playing) (reachesTimer cfg) w ticks v) :
    ticks < 29 * (923 / w.game.speed.toNat + 2) * max 1 (cfg.hz / 60) := by
  obtain ⟨_, later, left, _⟩ := stay.bounded (InWave cfg)
    (fun _ _ _ _ wave playing stepped still => inWave_step wave playing stepped still) playing
    (inWave_begins reached playing)
  have some : 1 ≤ cfg.pace := Nat.le_max_left _ _
  have positive : 0 < 29 * crossing w.game.speed * cfg.pace := by
    have crossings : 2 ≤ crossing w.game.speed := Nat.le_add_left _ _
    positivity
  change ticks < 29 * crossing w.game.speed * cfg.pace
  omega

/-- The first tick of a game. -/
theorem wave_ends_first_tick : ∃ w, (gameLoop sampleConfig).Reachable w ∧
    w.game.gameState = .playing ∧ 1 < 29 * (923 / w.game.speed.toNat + 2) * max 1 (60 / 60) := by
  obtain ⟨w, reached, playing, timer, ticked⟩ := reachable_of_played clickStart
    (fun w => w.game.gameState = .playing ∧ reachesTimer sampleConfig w (timerTick [5]) = true ∧
      (gameStep sampleConfig w (timerTick [5])).any
        (fun v => decide (v.game.gameState = .playing)) = true) (by decide +kernel)
  obtain ⟨v, moved, still⟩ := (Option.any_eq_true _ _).mp ticked
  have stay : (gameLoop sampleConfig).Stay (fun w => w.game.gameState = .playing)
      (reachesTimer sampleConfig) w (0 + (reachesTimer sampleConfig w (timerTick [5])).toNat) v :=
    .step (timerTick [5]) (.refl w) moved (of_decide_eq_true still)
  rw [timer] at stay
  exact ⟨w, reached, playing, wave_ends sampleConfig reached playing stay⟩

end Lcom.Proj
