import Lcom.Proj.Volley

/-! Without a shot a game is over after a bounded number of ticks. -/

namespace Lcom.Proj

open Lcom.Lib

variable {cfg : Config}

def Unarmed (g : Game) : Prop := ∀ x y, g.bullets.gun ≠ .flying x y

theorem Unarmed.rise {gun : Gun} (down : ∀ x y, gun ≠ .flying x y) : gun.rise = gun := by
  cases gun with
  | ready => rfl
  | flying x y => exact absurd rfl (down x y)
  | jammed => rfl

theorem marchPass_unarmed (cfg : Config) {g : Game} (inv : GunInv g)
    (playing : g.gameState = .playing) (unarmed : Unarmed g) :
    (marchPass cfg g).2.gameState ≠ .nextRound := by
  intro cleared
  obtain ⟨_, x, y, flying⟩ := marchPass_cleared_hit cfg inv playing cleared
  exact unarmed x y flying

theorem moveAliens_unarmed (cfg : Config) {g : Game} (inv : GunInv g)
    (playing : g.gameState = .playing) (unarmed : Unarmed g) :
    (moveAliens cfg g).gameState ≠ .nextRound := by
  rcases moveAliens_cases cfg g with ⟨_, same⟩ | ⟨_, movImg, frameCounter, same⟩
  · rw [same, playing]
    decide
  · rw [same]
    exact marchPass_unarmed cfg (g := { g with frameCounter := g.frameCounter + 1 })
      ⟨inv.wave, inv.formation, inv.ship, inv.shared, inv.allocated, inv.placed, inv.cleared⟩
      playing unarmed

theorem tick_unarmed {g after : Game} (inv : GunInv g) (playing : g.gameState = .playing)
    (unarmed : Unarmed g) (ends : TickEnd cfg g after) : after.gameState ≠ .nextRound := by
  cases ends with
  | fired index idle alive =>
      exact moveAliens_unarmed cfg (g := fireAlienBullet cfg index g)
        ⟨inv.wave, inv.formation, inv.ship, inv.shared, inv.allocated, inv.placed, inv.cleared⟩
        playing unarmed
  | lost active dead => nofun
  | flown active left =>
      obtain ⟨lives, still, calls, same⟩ := moveAlienBullet_eq g
      rw [same]
      refine moveAliens_unarmed cfg ⟨inv.wave, inv.formation, ?_, inv.shared, inv.allocated,
        inv.placed, inv.cleared⟩ playing unarmed
      exact ⟨inv.ship.speed, inv.ship.width, inv.ship.height, inv.ship.left, inv.ship.right,
        inv.ship.row⟩

theorem timerMove_unarmed {seen : Mouse → Prop} {before after : Game} (inv : GunInv before)
    (playing : before.gameState = .playing) (unarmed : Unarmed before)
    (move : TimerMove cfg seen before after) : Unarmed after ∧ after.gameState ≠ .nextRound := by
  cases move with
  | count made menus still => exact absurd playing still.1
  | tick _ inputs _ ends =>
      obtain ⟨framed, risen⟩ := drawFrame_gun cfg inputs inv playing
      have same := risen.trans (Unarmed.rise unarmed)
      have down : Unarmed (drawFrame cfg inputs (timerIntHandler before)) := by
        intro x y flying
        exact unarmed x y (same.symm.trans flying)
      refine ⟨fun x y flying => ?_, tick_unarmed framed playing down ends⟩
      rcases (tick_gun framed playing ends).2 with kept | ready
      · exact down x y (kept.symm.trans flying)
      · rw [ready] at flying
        cases flying
  | nextRound cleared => rw [playing] at cleared; cases cleared

theorem timerMove_next {seen : Mouse → Prop} {before after : Game}
    (cleared : before.gameState = .nextRound) (unarmed : Unarmed before)
    (move : TimerMove cfg seen before after) : after.gameState = .playing ∧ Unarmed after := by
  cases move with
  | count made menus idle => exact absurd cleared idle.2
  | tick _ inputs playing ends => cases cleared.symm.trans playing
  | nextRound _ => exact ⟨rfl, unarmed⟩

def Config.longest (cfg : Config) : Nat := 29 * crossing initialAlienSpeed * cfg.pace

theorem longest_pos (cfg : Config) : 1 ≤ cfg.longest := by
  have crossings : 2 ≤ crossing initialAlienSpeed := Nat.le_add_left _ _
  have pace : 1 ≤ cfg.pace := Nat.le_max_left _ _
  have positive : 0 < 29 * crossing initialAlienSpeed * cfg.pace := by positivity
  exact positive

theorem crossing_le {speed : Int} (faster : initialAlienSpeed ≤ speed) :
    crossing speed ≤ crossing initialAlienSpeed := by
  rw [crossing, crossing]
  refine Nat.add_le_add_right (Nat.div_le_div_left ?_ (by decide)) 2
  exact Int.toNat_le_toNat faster

theorem InWave.mono {ticks more : Nat} {w : World} (wave : InWave cfg ticks w)
    (bound : ticks ≤ more) : InWave cfg more w := by
  obtain ⟨reached, passes, near, left⟩ := wave
  exact ⟨reached, passes, near, left.trans bound⟩

theorem inWave_longest {w : World} (reached : (gameLoop cfg).Reachable w)
    (playing : w.game.gameState = .playing) : InWave cfg (cfg.longest - 1) w := by
  obtain ⟨⟨speed, round, _⟩, _⟩ := bordered_reachable w reached playing
  refine (inWave_begins reached playing).mono (Nat.sub_le_sub_right ?_ 1)
  refine Nat.mul_le_mul_right _ (Nat.mul_le_mul_left _ (crossing_le ?_))
  omega

/-- What is left of a game without shots: a wave with a bullet that is still in the air, which may
clear it, and one more wave. -/
inductive Remaining (cfg : Config) (ticks : Nat) (w : World) : Prop where
  | armed (left : Nat) (playing : w.game.gameState = .playing) (wave : InWave cfg left w)
      (bound : left + cfg.longest + 1 ≤ ticks)
  | cleared (reached : (gameLoop cfg).Reachable w) (cleared : w.game.gameState = .nextRound)
      (bound : cfg.longest ≤ ticks)
  | unarmed (playing : w.game.gameState = .playing) (down : Unarmed w.game)
      (wave : InWave cfg ticks w)

theorem inputMoves_cleared {seen : Mouse → Prop} {started : Prop} {g after : Game}
    (cleared : g.gameState = .nextRound) (moves : InputMoves cfg seen started g after) :
    after.gameState = .exit ∨ after.gameState = .nextRound := by
  refine moves.invariant (fun g => g.gameState = .exit ∨ g.gameState = .nextRound) ?_
    (.inr cleared)
  rintro before after state move
  cases move with
  | menuCalls made menus => exact state
  | instructions menu => rcases state with exit | cleared <;> simp_all
  | menu instructions => rcases state with exit | cleared <;> simp_all
  | exit => exact .inl rfl
  | start menu click => rcases state with exit | cleared <;> simp_all
  | shoot playing => exact state
  | steer key playing => exact state

theorem Unarmed.congr {g other : Game} (down : Unarmed g) (same : other.bullets = g.bullets) :
    Unarmed other := by
  intro x y flying
  rw [same] at flying
  exact down x y flying

theorem unarmed_step {w after : World} {message : Message} (reached : (gameLoop cfg).Reachable w)
    (playing : w.game.gameState = .playing) (down : Unarmed w.game)
    (quiet : ¬ ShootClick w message) (stepped : gameStep cfg w message = some after)
    (still : Fighting after) : after.game.gameState = .playing ∧ Unarmed after.game := by
  obtain ⟨moves, ticked⟩ := gameStep_input stepped
  have low : Unarmed (afterInput cfg w message) := down.congr (afterInput_bullets quiet)
  have inv : GunInv w.clear.game := by
    have inv := gunInv_reachable reached
    exact ⟨inv.wave, inv.formation, inv.ship, inv.shared, inv.allocated, inv.placed, inv.cleared⟩
  have input : (afterInput cfg w message).gameState = .exit ∨
      SameMarch w.clear.game (afterInput cfg w message) := inputMoves_sameMarch playing moves
  cases timer : reachesTimer cfg w message with
  | false =>
      rw [timer, if_neg Bool.false_ne_true] at ticked
      rw [← ticked] at input low
      exact ⟨(input.resolve_left still.not_exit).playing, low⟩
  | true =>
      rw [timer, if_pos rfl] at ticked
      rcases input with exit | same
      · exact absurd (timerMove_exit exit ticked) still.not_exit
      · have inv' := moves.invariant GunInv (fun _ _ inv move => inputMove_gun inv move) inv
        obtain ⟨later, uncleared⟩ := timerMove_unarmed inv' same.playing low ticked
        exact ⟨still.resolve_right uncleared, later⟩

theorem cleared_step {w after : World} {message : Message} (reached : (gameLoop cfg).Reachable w)
    (cleared : w.game.gameState = .nextRound) (quiet : ¬ ShootClick w message)
    (stepped : gameStep cfg w message = some after) (still : Fighting after) :
    if reachesTimer cfg w message then after.game.gameState = .playing ∧ Unarmed after.game
    else after.game.gameState = .nextRound := by
  obtain ⟨moves, ticked⟩ := gameStep_input stepped
  have down : Unarmed w.game := by
    intro x y flying
    rw [(gunInv_reachable reached).cleared cleared] at flying
    cases flying
  have low : Unarmed (afterInput cfg w message) := down.congr (afterInput_bullets quiet)
  have input := inputMoves_cleared (g := w.clear.game) cleared moves
  split
  · rename_i timer
    rw [if_pos timer] at ticked
    rcases input with exit | waiting
    · exact absurd (timerMove_exit exit ticked) still.not_exit
    · exact timerMove_next waiting low ticked
  · rename_i timer
    rw [if_neg timer] at ticked
    rw [← ticked] at input
    exact input.resolve_left still.not_exit

theorem remaining_step {ticks : Nat} {w after : World} {message : Message}
    (remaining : Remaining cfg ticks w) (quiet : ¬ ShootClick w message)
    (stepped : gameStep cfg w message = some after) (still : Fighting after) :
    ∃ fewer, fewer + (reachesTimer cfg w message).toNat ≤ ticks ∧ Remaining cfg fewer after := by
  have moved : (gameLoop cfg).step w message = some after := stepped
  have once : (reachesTimer cfg w message).toNat ≤ 1 := Bool.toNat_le _
  have some := longest_pos cfg
  cases remaining with
  | armed left playing wave bound =>
      rcases still with on | cleared
      · obtain ⟨fewer, less, later⟩ := inWave_step wave playing stepped on
        exact ⟨fewer + cfg.longest + 1, by omega, .armed fewer on later (Nat.le_refl _)⟩
      · exact ⟨cfg.longest, by omega, .cleared (wave.1.step trivial moved) cleared (Nat.le_refl _)⟩
  | cleared reached cleared bound =>
      have later := reached.step trivial moved
      have next := cleared_step reached cleared quiet stepped still
      split at next
      · exact ⟨cfg.longest - 1, by omega, .unarmed next.1 next.2 (inWave_longest later next.1)⟩
      · rename_i timer
        rw [Bool.eq_false_of_not_eq_true timer]
        exact ⟨ticks, Nat.le_refl _, .cleared later next bound⟩
  | unarmed playing down wave =>
      obtain ⟨on, low⟩ := unarmed_step wave.1 playing down quiet stepped still
      obtain ⟨fewer, less, later⟩ := inWave_step wave playing stepped on
      exact ⟨fewer, less, .unarmed on low later⟩

/-- A player who does not shoot loses: whatever else arrives, no game goes on for more than twice 29
crossings of the screen without a shot, since a bullet that is still in the air clears at most the
wave it is in. -/
theorem unarmed_game_ends (cfg : Config) {w v : World} {ticks : Nat}
    (reached : (gameLoop cfg).Reachable w) (fighting : Fighting w)
    (stay : ((gameLoop cfg).only (fun w message => ¬ ShootClick w message)).Stay Fighting
      (reachesTimer cfg) w ticks v) :
    ticks ≤ 2 * (29 * (923 + 2) * max 1 (cfg.hz / 60)) := by
  have some := longest_pos cfg
  have begins : Remaining cfg (2 * cfg.longest) w := by
    rcases fighting with playing | cleared
    · exact .armed (cfg.longest - 1) playing (inWave_longest reached playing) (by omega)
    · exact .cleared reached cleared (by omega)
  obtain ⟨_, later, left, _⟩ := stay.bounded (Remaining cfg)
    (fun _ _ _ _ remaining _ stepped still =>
      remaining_step remaining (Machine.only_step.mp stepped).1 (Machine.only_step.mp stepped).2 still)
    fighting begins
  exact (Nat.le_add_left _ _).trans left

/-- A tick while the first bullet is in the air. -/
theorem unarmed_game_ends_flying : ∃ w, (gameLoop sampleConfig).Reachable w ∧
    w.game.bullets.gun = .flying 549 630 ∧ 1 ≤ 2 * (29 * (923 + 2) * max 1 (60 / 60)) := by
  obtain ⟨w, reached, playing, flying, timer, quiet, ticked⟩ := reachable_of_played
    (clickStart ++ clickShoot)
    (fun w => w.game.gameState = .playing ∧ w.game.bullets.gun = .flying 549 630 ∧
      reachesTimer sampleConfig w (timerTick [5]) = true ∧ ¬ ShootClick w (timerTick [5]) ∧
      (gameStep sampleConfig w (timerTick [5])).any
        (fun v => decide (v.game.gameState = .playing)) = true) (by decide +kernel)
  obtain ⟨v, moved, still⟩ := (Option.any_eq_true _ _).mp ticked
  have stay : ((gameLoop sampleConfig).only (fun w message => ¬ ShootClick w message)).Stay Fighting
      (reachesTimer sampleConfig) w (0 + (reachesTimer sampleConfig w (timerTick [5])).toNat) v :=
    .step (timerTick [5]) (.refl w) (Machine.only_step.mpr ⟨quiet, moved⟩)
      (.inl (of_decide_eq_true still))
  rw [timer] at stay
  exact ⟨w, reached, flying, unarmed_game_ends sampleConfig reached (.inl playing) stay⟩

end Lcom.Proj
