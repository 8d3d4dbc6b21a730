import Lcom.Proj.FrameBuffer
import Lcom.Proj.Gun

/-! How far a player can come. The formation gets faster with every round. From round 975 on it
leaves the screen at every other pass, and such a wave cannot be cleared. -/

namespace Lcom.Proj

open Lcom.Lib

variable {cfg : Config}

def home (i : Fin sizeOfAliens) : Int := 24 + 80 * column i

def away (passes : Nat) (rightMov : Bool) (speed : Int) : Int :=
  if passes % 2 = 0 then 0 else heading rightMov speed

/-- A wave in which every other pass takes the whole formation off the screen and every pass after
that takes it home, 20 pixels lower. No kill comes before the twelfth pass, and then at most one
in two passes. -/
structure FastWave (passes ticks : Nat) (g : Game) : Prop where
  fast : 976 ≤ g.speed
  early : passes ≤ 53
  sized : ∀ i, Sized (g.aliens.get i)
  height : ∀ i, (g.aliens.get i).y = 20 + 60 * rowOf i + 20 * ((passes + 1) / 2 : Nat)
  place : ∀ i, (g.aliens.get i).alive = true →
    (g.aliens.get i).x + away passes g.rightMov g.speed = home i
  few : g.killCount = 0 ∨ 2 * g.killCount + 10 ≤ passes
  flight : ∀ x y, g.bullets.gun = .flying x y → 630 ≤ y + 28 * ticks

theorem home_bounds (i : Fin sizeOfAliens) : 24 ≤ home i ∧ home i ≤ 584 := by
  have last : i.1 < 24 := i.2
  simp only [home, column]
  omega

theorem rowOf_bounds (i : Fin sizeOfAliens) : 0 ≤ rowOf i ∧ rowOf i ≤ 2 := by
  simp only [rowOf]
  omega

theorem nextRound_fast (cfg : Config) {g : Game} (round : g.roundNum = 975)
    (ready : g.bullets.gun = .ready) : FastWave 0 0 (nextRoundTick cfg (timerIntHandler g)) := by
  have speed : (nextRoundTick cfg (timerIntHandler g)).speed = initialAlienSpeed + g.roundNum := rfl
  refine ⟨?_, by decide, ?_, ?_, ?_, .inl rfl, ?_⟩
  · rw [speed, round]
    decide
  · intro i
    change Sized ((initAliens cfg).get i)
    rw [initAliens_get]
    exact (gridAlien_spec cfg _ _).1
  · intro i
    change ((initAliens cfg).get i).y = _
    rw [initAliens_get, (gridAlien_spec cfg _ _).2.2]
    simp [rowOf]
  · intro i _
    change ((initAliens cfg).get i).x + 0 = _
    rw [initAliens_get, (gridAlien_spec cfg _ _).2.1, add_zero]
    rfl
  · intro x y flying
    rw [show (nextRoundTick cfg (timerIntHandler g)).bullets.gun = .ready from ready] at flying
    cases flying

namespace FastWave

variable {passes ticks : Nat} {g : Game}

theorem congr (wave : FastWave passes ticks g) {later : Nat} {other : Game}
    (speed : other.speed = g.speed) (aliens : other.aliens = g.aliens)
    (rightMov : other.rightMov = g.rightMov) (killCount : other.killCount = g.killCount)
    (flight : ∀ x y, other.bullets.gun = .flying x y → 630 ≤ y + 28 * later) :
    FastWave passes later other := by
  refine ⟨speed ▸ wave.fast, wave.early, aliens ▸ wave.sized, aliens ▸ wave.height, ?_,
    killCount ▸ wave.few, flight⟩
  rw [aliens, rightMov, speed]
  exact wave.place

theorem advanced (wave : FastWave passes ticks g) (i : Fin sizeOfAliens)
    (alive : (g.aliens.get i).alive = true) :
    (g.advanced (g.aliens.get i)).x =
        home i - away passes g.rightMov g.speed + heading g.rightMov g.speed ∧
      (g.advanced (g.aliens.get i)).y = 20 + 60 * rowOf i + 20 * ((passes + 1) / 2 : Nat) ∧
      (g.advanced (g.aliens.get i)).width = 60 ∧ (g.advanced (g.aliens.get i)).height = 40 := by
  have size := (advanceAlien_sized g.rightMov g.movImg g.speed _ (wave.sized i)).1
  refine ⟨?_, wave.height i, size⟩
  have here := wave.place i alive
  change (g.aliens.get i).x + heading g.rightMov g.speed = _
  omega

theorem turns_iff (wave : FastWave passes ticks g) (i : Fin sizeOfAliens)
    (alive : (g.aliens.get i).alive = true) :
    AtBorder g.rightMov (g.advanced (g.aliens.get i)) ↔ passes % 2 = 0 := by
  obtain ⟨x, _, width, _⟩ := wave.advanced i alive
  have inside := home_bounds i
  have fast := wave.fast
  rw [AtBorder, x, width, away, xRightBorder, xLeftBorder]
  by_cases even : passes % 2 = 0
  · -- the whole formation goes past the border
    refine iff_of_true ?_ even
    rw [if_pos even, heading]
    split <;> omega
  · -- home is between the borders
    refine iff_of_false ?_ even
    rw [if_neg even]
    split <;> omega

/-- A hit needs a pass that takes the formation home, and a bullet that has had the time to rise. -/
theorem struck_late (inv : GunInv g) (playing : g.gameState = .playing)
    (wave : FastWave passes (passes + 1) g) (struck : Struck g) :
    passes % 2 = 1 ∧ 11 ≤ passes := by
  obtain ⟨a, member, alive, ref, inside, hit⟩ := struck
  obtain ⟨i, rfl⟩ := (List.Vector.mem_iff_get a g.aliens).mp member
  obtain ⟨x, y, width, height⟩ := wave.advanced i alive
  have below : 20 ≤ (g.advanced (g.aliens.get i)).y := (inv.formation.2 playing).1 i
  have flies := gun_hit inv.shared inside (inv.speed ref inside) below hit
  have risen := wave.flight _ _ flies
  have place := inv.placed ref inside
  have left := place.left
  have right := place.right
  obtain ⟨before, ⟨behind, _⟩, _, above, _⟩ := hit
  have bounds := home_bounds i
  have rows := rowOf_bounds i
  have fast := wave.fast
  rw [x, away, heading] at before behind
  rw [width] at behind
  rw [y, height] at above
  have odd : passes % 2 = 1 := by
    by_contra even
    have zero : passes % 2 = 0 := by omega
    rw [if_pos zero] at before behind
    cases right : g.rightMov with
    | true => simp only [right, if_true] at before; omega
    | false => simp only [right, Bool.false_eq_true, if_false] at behind; omega
  push_cast at above risen
  omega

theorem few_after (inv : GunInv g) (playing : g.gameState = .playing)
    (wave : FastWave passes (passes + 1) g) (still : (marchAliens cfg g).gameState = .playing) :
    (marchAliens cfg g).killCount = 0 ∨
      2 * (marchAliens cfg g).killCount + 10 ≤ (passes + 1 : Nat) := by
  have few := wave.few
  push_cast
  rcases (marchPass_kills cfg inv playing).kills with ⟨count, _⟩ | ⟨count, _, struck⟩
  · have same : (marchAliens cfg g).killCount = g.killCount := count
    omega
  · have more : (marchAliens cfg g).killCount = g.killCount + 1 := count
    obtain ⟨odd, late⟩ := struck_late inv playing wave (struck still)
    omega

theorem not_cleared (inv : GunInv g) (playing : g.gameState = .playing)
    (wave : FastWave passes ticks g) : (marchAliens cfg g).gameState ≠ .nextRound := by
  intro cleared
  have full : (marchAliens cfg g).killCount = 24 :=
    (marchAliens_wave cfg g (inv.wave (.inl playing))).cleared cleared
  have few := wave.few
  have early := wave.early
  rcases (marchPass_kills cfg inv playing).kills with ⟨count, _⟩ | ⟨count, _, _⟩
  · have same : (marchAliens cfg g).killCount = g.killCount := count
    omega
  · have more : (marchAliens cfg g).killCount = g.killCount + 1 := count
    omega

theorem changeDir_eq (inv : GunInv g) (playing : g.gameState = .playing)
    (wave : FastWave passes ticks g) (still : (marchAliens cfg g).gameState = .playing) :
    (marchPass cfg g).2.changeDir = decide (passes % 2 = 0) := by
  apply Bool.eq_iff_iff.mpr
  rw [decide_eq_true_iff]
  constructor
  · intro turned
    obtain ⟨a, member, alive, border⟩ := (marchPass_kills cfg inv playing).turned still turned
    obtain ⟨i, rfl⟩ := (List.Vector.mem_iff_get a g.aliens).mp member
    exact (wave.turns_iff i alive).mp border
  · intro even
    obtain ⟨i, alive⟩ := inv.wave.living playing
    obtain ⟨after, marched, _⟩ := marchAliens_get cfg g still i
    cases marched with
    | dead dead => rw [alive] at dead; cases dead
    | moved _ moved _ place _ _ border =>
        have here : moved = g.advanced (g.aliens.get i) := place
        exact border (here ▸ (wave.turns_iff i alive).mpr even)

theorem pass (inv : GunInv g) (playing : g.gameState = .playing)
    (wave : FastWave passes (passes + 1) g) (still : (marchAliens cfg g).gameState = .playing) :
    FastWave (passes + 1) (passes + 1) (marchAliens cfg g) := by
  obtain ⟨speed, _, _⟩ := marchPass_playing cfg g still
  have turned := changeDir_eq inv playing wave still
  have direction : (marchAliens cfg g).rightMov =
      if passes % 2 = 0 then !g.rightMov else g.rightMov := by
    change (if (marchPass cfg g).2.changeDir then !g.rightMov else g.rightMov) = _
    rw [turned]
    simp
  have same : (marchAliens cfg g).speed = g.speed := speed
  refine ⟨same ▸ wave.fast, ?_, ?_, ?_, ?_, few_after inv playing wave still, ?_⟩
  · -- a living alien was above the territory before it went down
    obtain ⟨i, alive⟩ := inv.wave.living playing
    obtain ⟨after, marched, _⟩ := marchAliens_get cfg g still i
    have rows := rowOf_bounds i
    obtain ⟨_, y, _, height⟩ := wave.advanced i alive
    cases marched with
    | dead dead => rw [alive] at dead; cases dead
    | moved _ moved _ place _ above _ =>
        have here : moved = g.advanced (g.aliens.get i) := place
        rw [here, y, height, territory] at above
        push_cast at above
        omega
  · intro i
    obtain ⟨after, marched, place⟩ := marchAliens_get cfg g still i
    rw [place]
    exact marched.sized (wave.sized i)
  · intro i
    obtain ⟨after, marched, place⟩ := marchAliens_get cfg g still i
    rw [place]
    change after.y + descent _ = _
    rw [marched.y_eq, wave.height i, turned, descent]
    by_cases even : passes % 2 = 0
    · simp only [even, decide_true, if_true]
      push_cast
      omega
    · simp only [even, decide_false, Bool.false_eq_true, if_false]
      push_cast
      omega
  · intro i alive
    obtain ⟨after, marched, place⟩ := marchAliens_get cfg g still i
    rw [place] at alive ⊢
    obtain ⟨before, moved, _⟩ := marched.survivor alive
    have here := wave.place i before
    change after.x + _ = _
    rw [moved, same, direction]
    rw [away] at here ⊢
    by_cases even : passes % 2 = 0
    · rw [if_pos even] at here
      rw [if_neg (by omega), if_pos even]
      cases right : g.rightMov <;> simp [heading] <;> omega
    · rw [if_neg even] at here
      rw [if_pos (by omega)]
      omega
  · intro x y flying
    rcases (marchPass_kills cfg inv playing).gun with kept | ready
    · exact wave.flight x y (kept.symm.trans flying)
    · cases ready.symm.trans flying

theorem moved (inv : GunInv g) (steady : cfg.hz < 120) (counted : 1 ≤ g.timerCounter)
    (playing : g.gameState = .playing) (wave : FastWave passes (passes + 1) g) :
    (moveAliens cfg g).gameState ≠ .nextRound ∧
      ((moveAliens cfg g).gameState = .playing →
        FastWave (passes + 1) (passes + 1) (moveAliens cfg g)) := by
  rcases moveAliens_cases cfg g with ⟨early, _⟩ | ⟨_, movImg, frameCounter, same⟩
  · rw [Config.ipf] at early
    omega
  · have inv' : GunInv { g with frameCounter := g.frameCounter + 1 } :=
      ⟨inv.wave, inv.formation, inv.ship, inv.shared, inv.allocated, inv.placed, inv.cleared⟩
    have wave' : FastWave passes (passes + 1) { g with frameCounter := g.frameCounter + 1 } :=
      wave.congr rfl rfl rfl rfl wave.flight
    rw [same]
    refine ⟨not_cleared inv' playing wave', fun still => ?_⟩
    have later := pass inv' playing wave' still
    exact later.congr rfl rfl rfl rfl later.flight

theorem risen (inv : GunInv g) (playing : g.gameState = .playing) (inputs : Inputs)
    (wave : FastWave passes passes g) :
    FastWave passes (passes + 1) (drawFrame cfg inputs (timerIntHandler g)) := by
  refine wave.congr rfl rfl rfl rfl (fun x y flying => ?_)
  rw [(drawFrame_gun cfg inputs inv playing).2] at flying
  have before := wave.flight
  cases gun : g.bullets.gun with
  | ready => rw [gun] at flying; cases flying
  | jammed => rw [gun] at flying; cases flying
  | flying left top =>
      have low := before left top gun
      rw [gun, Gun.rise] at flying
      split at flying
      · cases flying
        push_cast
        omega
      · cases flying

theorem ticked (inv : GunInv g) (steady : cfg.hz < 120) (counted : 1 ≤ g.timerCounter)
    (playing : g.gameState = .playing) (wave : FastWave passes (passes + 1) g) {after : Game}
    (ends : TickEnd cfg g after) :
    after.gameState ≠ .nextRound ∧
      (after.gameState = .playing → FastWave (passes + 1) (passes + 1) after) := by
  cases ends with
  | fired index idle alive =>
      exact moved (g := fireAlienBullet cfg index g)
        ⟨inv.wave, inv.formation, inv.ship, inv.shared, inv.allocated, inv.placed, inv.cleared⟩
        steady counted playing (wave.congr rfl rfl rfl rfl wave.flight)
  | lost active dead => exact ⟨nofun, nofun⟩
  | flown active left =>
      obtain ⟨lives, still, calls, same⟩ := moveAlienBullet_eq g
      rw [same]
      refine moved ⟨inv.wave, inv.formation, ?_, inv.shared, inv.allocated,
        inv.placed, inv.cleared⟩ steady counted playing (wave.congr rfl rfl rfl rfl wave.flight)
      exact ⟨inv.ship.speed, inv.ship.width, inv.ship.height, inv.ship.left, inv.ship.right,
        inv.ship.row⟩

end FastWave

theorem timerMove_scoreBound {seen : Mouse → Prop} {before after : Game} (inv : GunInv before)
    (score : ScoreBound before) (move : TimerMove cfg seen before after) : ScoreBound after := by
  obtain ⟨base, bound, small, waiting⟩ := score
  have scored := (timerMove_score small move).1
  cases move with
  | count made menus still => exact ⟨base, bound, scored, waiting⟩
  | tick _ inputs playing ends =>
      have values : ∀ a ∈ before.aliens.toList, 0 ≤ a.value ∧ a.value ≤ 30 := by
        intro a member
        obtain ⟨i, rfl⟩ := (List.Vector.mem_iff_get a before.aliens).mp member
        rcases (inv.formation.2 playing).2 i with worth | worth | worth <;> rw [worth] <;> decide
      refine scoreBound_of bound scored ?_
      cases ends with
      | fired index idle alive =>
          exact moveAliens_menuScore cfg
            (fireAlienBullet cfg index (drawFrame cfg inputs (timerIntHandler before))) playing values
      | lost active dead => exact fun _ => ⟨le_refl _, show (0 : Int) ≤ 720 by decide⟩
      | flown active left =>
          obtain ⟨lives, still, calls, same⟩ :=
            moveAlienBullet_eq (drawFrame cfg inputs (timerIntHandler before))
          rw [same]
          exact moveAliens_menuScore cfg _ playing values
  | nextRound cleared => exact ⟨base, bound, scored, nofun⟩

structure RoundsInv (g : Game) : Prop where
  gun : GunInv g
  score : ScoreBound g
  clock : 0 ≤ g.timerCounter
  bound : g.roundNum ≤ 975
  last : g.gameState = .playing → g.roundNum = 975 → ∃ passes, FastWave passes passes g

theorem shoot_fast {passes : Nat} {g : Game} (inv : GunInv g) (wave : FastWave passes passes g) :
    FastWave passes passes (shoot cfg g) := by
  refine wave.congr rfl rfl rfl rfl (fun x y flying => ?_)
  have loaded := createShipBullet_gun inv.shared inv.allocated
    (g.ship.x + (g.ship.img.width / 2 : Nat)) g.ship.y (cfg.loader.load .shipBullet)
    (by rw [inv.ship.row]; decide)
  have shot : (shoot cfg g).bullets.gun = g.bullets.gun.shoot
    (g.ship.x + (g.ship.img.width / 2 : Nat)) g.ship.y := loaded
  rw [shot] at flying
  cases gun : g.bullets.gun with
  | ready =>
      rw [gun, Gun.shoot, inv.ship.row] at flying
      cases flying
      omega
  | jammed => rw [gun] at flying; cases flying
  | flying left top =>
      rw [gun] at flying
      exact wave.flight x y (gun.trans flying)

theorem inputMove_rounds {seen : Mouse → Prop} {started : Prop} {before after : Game}
    (inv : RoundsInv before) (move : InputMove cfg seen started before after) : RoundsInv after := by
  obtain ⟨base, bound, score⟩ := inv.score
  have gun := inputMove_gun inv.gun move
  have scored : ScoreBound after := ⟨base, bound, inputMove_score score move⟩
  cases move with
  | menuCalls made menus =>
      exact ⟨gun, scored, inv.clock, inv.bound, fun playing last =>
        (inv.last playing last).imp (fun _ wave => wave.congr rfl rfl rfl rfl wave.flight)⟩
  | instructions menu => exact ⟨gun, scored, inv.clock, inv.bound, nofun⟩
  | menu instructions => exact ⟨gun, scored, inv.clock, inv.bound, nofun⟩
  | exit => exact ⟨gun, scored, inv.clock, inv.bound, nofun⟩
  | start menu click =>
      refine ⟨gun, scored, inv.clock, inv.bound, fun _ last => ?_⟩
      have first : before.roundNum = 0 := inv.gun.formation.1.2 (.inl menu)
      have same : before.roundNum = 975 := last
      omega
  | shoot playing =>
      exact ⟨gun, scored, inv.clock, inv.bound, fun _ last =>
        (inv.last playing last).imp (fun _ wave => shoot_fast inv.gun wave)⟩
  | steer key playing =>
      exact ⟨gun, scored, inv.clock, inv.bound, fun _ last =>
        (inv.last playing last).imp (fun _ wave => wave.congr rfl rfl rfl rfl wave.flight)⟩

theorem timerMove_rounds (steady : cfg.hz < 120) {seen : Mouse → Prop} {before after : Game}
    (inv : RoundsInv before) (move : TimerMove cfg seen before after) : RoundsInv after := by
  obtain ⟨base, bound, score, _⟩ := inv.score
  have gun := timerMove_gun inv.gun move
  have scored := timerMove_scoreBound inv.gun inv.score move
  obtain ⟨_, same, more⟩ := timerMove_score score move
  have few := inv.bound
  have clock := timerMove_timerCounter inv.clock move
  have tick := move
  cases move with
  | count made menus still =>
      exact ⟨gun, scored, clock, few, fun playing => absurd playing still.1⟩
  | tick _ inputs playing ends =>
      have running : after.gameState ≠ .exit :=
        timerMove_running (by rw [playing]; decide) tick
      have ticked : before.roundNum = 975 → after.gameState ≠ .nextRound ∧
          (after.gameState = .playing → ∃ passes, FastWave passes passes after) := by
        intro last
        obtain ⟨passes, wave⟩ := inv.last playing last
        obtain ⟨framed, _⟩ := drawFrame_gun cfg inputs inv.gun playing
        have risen : FastWave passes (passes + 1) (drawFrame cfg inputs (timerIntHandler before)) :=
          wave.risen inv.gun playing inputs
        have counted : 1 ≤ before.timerCounter + 1 := by
          have clock := inv.clock
          omega
        obtain ⟨uncleared, later⟩ := risen.ticked framed steady counted playing ends
        exact ⟨uncleared, fun still => ⟨_, later still⟩⟩
      refine ⟨gun, scored, clock, ?_, fun still last => ?_⟩
      · cases state : after.gameState with
        | playing => rw [same state]; exact few
        | menuDisplay => rw [gun.formation.1.2 (.inl state)]; decide
        | instructionsDisplay => rw [gun.formation.1.2 (.inr state)]; decide
        | exit => exact absurd state running
        | nextRound =>
            have next := more state
            have early : before.roundNum ≠ 975 := fun last => (ticked last).1 state
            rw [if_pos playing] at next
            omega
      · exact (ticked ((same still).symm.trans last)).2 still
  | nextRound cleared =>
      exact ⟨gun, scored, clock, few, fun _ last =>
        ⟨0, nextRound_fast cfg last (inv.gun.cleared cleared)⟩⟩

theorem rounds_reachable (steady : cfg.hz < 120) {w : World} (reached : (gameLoop cfg).Reachable w) :
    RoundsInv w.game := by
  refine reachable_invariant RoundsInv ?_ ?_ (fun _ _ _ inv move => inputMove_rounds inv move)
    (fun _ _ inv move => timerMove_rounds steady inv move) w reached
  · intro memory
    have begun : (gameLoop cfg).Reachable (start cfg memory) := ⟨_, ⟨memory, rfl⟩, .refl⟩
    exact ⟨gunInv_reachable begun, start_score cfg memory, le_refl _, (by decide : (0 : Int) ≤ 975),
      nofun⟩
  · intro g inv
    obtain ⟨base, bound, score, waiting⟩ := inv.score
    have gun := inv.gun
    refine ⟨⟨gun.wave, gun.formation, gun.ship, gun.shared, gun.allocated, gun.placed, gun.cleared⟩,
      ⟨base, bound, ⟨score.round, score.shared, score.wave, score.worth, score.playing,
        score.cleared⟩, waiting⟩, inv.clock, inv.bound, fun playing last => ?_⟩
    exact (inv.last playing last).imp (fun _ wave => wave.congr rfl rfl rfl rfl wave.flight)

/-- With fewer than 120 ticks a second, as Minix has, nobody gets further than round 975, however
the game is played. So the counters of a game stay small. -/
theorem rounds_bounded (cfg : Config) (steady : cfg.hz < 120) {w : World}
    (reached : (gameLoop cfg).Reachable w) :
    w.game.roundNum ≤ 975 ∧ (w.game.gameState = .playing → w.game.speed ≤ 976) ∧
      (w.game.gameState ≠ .exit → w.game.ship.score ≤ 469200) := by
  have inv := rounds_reachable steady reached
  have few := inv.bound
  refine ⟨few, fun playing => ?_, fun running => ?_⟩
  · have speed := (bordered_reachable w reached playing).1.1
    rw [speed, initialAlienSpeed]
    omega
  · obtain ⟨base, bound, score, waiting⟩ := inv.score
    cases state : w.game.gameState with
    | menuDisplay => rw [waiting (.inl state)]; omega
    | instructionsDisplay => rw [waiting (.inr state)]; omega
    | exit => exact absurd state running
    | nextRound => rw [score.cleared state]; omega
    | playing =>
        have values : ∀ a ∈ w.game.aliens.toList, 0 ≤ a.value := by
          intro a member
          obtain ⟨i, rfl⟩ := (List.Vector.mem_iff_get a w.game.aliens).mp member
          rcases (inv.gun.formation.2 state).2 i with worth | worth | worth <;> rw [worth] <;> decide
        have dead := deadValue_le w.game.aliens.toList values
        have worth := score.worth (.inl state)
        rw [score.playing state]
        omega

/-- After the first kill of a game. -/
theorem rounds_bounded_first_kill : ∃ w, (gameLoop sampleConfig).Reachable w ∧
    w.game.gameState = .playing ∧ w.game.killCount = 1 ∧ w.game.roundNum ≤ 975 ∧
    w.game.speed ≤ 976 ∧ w.game.ship.score ≤ 469200 := by
  obtain ⟨w, reached, playing, kill⟩ := reachable_of_played
    (clickStart ++ clickShoot ++ List.replicate 20 (timerTick [5]))
    (fun w => w.game.gameState = .playing ∧ w.game.killCount = 1) (by decide +kernel)
  obtain ⟨round, speed, score⟩ := rounds_bounded sampleConfig (by decide) reached
  exact ⟨w, reached, playing, kill, round, speed playing, score (by rw [playing]; decide)⟩

end Lcom.Proj
