import Lcom.Proj.Formation
import Lcom.Proj.Slots
import Lcom.Proj.Waves

/-! The score of a game: points, dead aliens and cleared waves. -/

namespace Lcom.Proj

open Lcom.Lib

def deadValue (aliens : List Alien) : Int :=
  ((aliens.filter (fun a => !a.alive)).map Alien.value).sum

def waveValue (aliens : List Alien) : Int := (aliens.map Alien.value).sum

theorem deadValue_append (front back : List Alien) :
    deadValue (front ++ back) = deadValue front + deadValue back := by
  simp [deadValue]

theorem waveValue_append (front back : List Alien) :
    waveValue (front ++ back) = waveValue front + waveValue back := by
  simp [waveValue]

theorem deadValue_cons_alive (a : Alien) (rest : List Alien) (alive : a.alive = true) :
    deadValue (a :: rest) = deadValue rest := by
  simp [deadValue, alive]

theorem deadValue_cons_dead (a : Alien) (rest : List Alien) (dead : a.alive = false) :
    deadValue (a :: rest) = a.value + deadValue rest := by
  simp [deadValue, dead]

theorem waveValue_cons (a : Alien) (rest : List Alien) :
    waveValue (a :: rest) = a.value + waveValue rest := by
  simp [waveValue]

theorem waveValue_visited (done rest : List Alien) {a b : Alien} (value : b.value = a.value) :
    waveValue (done ++ [b] ++ rest) = waveValue (done ++ a :: rest) := by
  rw [List.append_assoc, List.singleton_append, waveValue_append, waveValue_append,
    waveValue_cons, waveValue_cons, value]

theorem deadValue_survives (done rest : List Alien) {a b : Alien} (alive : a.alive = true)
    (lives : b.alive = true) :
    deadValue (done ++ [b] ++ rest) = deadValue (done ++ a :: rest) := by
  rw [List.append_assoc, List.singleton_append, deadValue_append, deadValue_append,
    deadValue_cons_alive _ _ alive, deadValue_cons_alive _ _ lives]

theorem deadValue_dies (done rest : List Alien) {a b : Alien} (alive : a.alive = true)
    (dead : b.alive = false) :
    deadValue (done ++ [b] ++ rest) = deadValue (done ++ a :: rest) + b.value := by
  rw [List.append_assoc, List.singleton_append, deadValue_append, deadValue_append,
    deadValue_cons_alive _ _ alive, deadValue_cons_dead _ _ dead]
  ring

theorem deadValue_eq_waveValue (aliens : List Alien) (dead : ∀ a ∈ aliens, a.alive = false) :
    deadValue aliens = waveValue aliens := by
  have all : aliens.filter (fun a => !a.alive) = aliens := by
    apply List.filter_eq_self.mpr
    intro a member
    simp [dead a member]
  rw [deadValue, all]
  rfl

theorem deadValue_map_y (aliens : List Alien) (yf : Int) :
    deadValue (aliens.map (fun a => changeAlienYCoordinates a yf)) = deadValue aliens := by
  simp only [deadValue, List.filter_map, List.map_map]
  rfl

theorem waveValue_map_y (aliens : List Alien) (yf : Int) :
    waveValue (aliens.map (fun a => changeAlienYCoordinates a yf)) = waveValue aliens := by
  simp only [waveValue, List.map_map]
  rfl

theorem initAliens_deadValue (cfg : Config) : deadValue (initAliens cfg).toList = 0 := by
  have none : (initAliens cfg).toList.filter (fun a => !a.alive) = [] := by
    apply List.filter_eq_nil_iff.mpr
    intro a member
    simp [initAliens_alive cfg a member]
  rw [deadValue, none]
  rfl

theorem initAliens_waveValue (cfg : Config) : waveValue (initAliens cfg).toList = 480 := rfl

theorem Shared.spent {bullets : ShipBullets} (shared : bullets.Shared) {ref : Ref}
    {heap : Heap ShipBullet} (member : some ref ∈ bullets.slots.toList)
    (read : heap.read = Function.update bullets.heap.read ref
      { bullets.heap.read ref with hitAlien := true }) :
    ShipBullets.All (fun bullet => bullet.hitAlien = true) { bullets with heap := heap } := by
  obtain ⟨slot, same⟩ := shared
  intro other inside
  have first : some ref = slot := by
    rw [same] at member
    exact List.eq_of_mem_replicate member
  have second : some other = slot := by
    change some other ∈ bullets.slots.toList at inside
    rw [same] at inside
    exact List.eq_of_mem_replicate inside
  have equal : other = ref := Option.some.inj (second.trans first.symm)
  change (heap.read other).hitAlien = true
  rw [read, equal, Function.update_self]

/-- The score during a pass over a wave that began with the score `first` in round `roundNum`.
A pass that has given up cannot count a last kill. -/
structure PassScore (first roundNum : Int) (done todo : List Alien) (m : March) : Prop where
  fits : (done ++ todo).length = sizeOfAliens
  shared : m.bullets.Shared
  tally : Tally m.gameState m.killCount (done ++ todo)
  worth : waveValue (done ++ todo) = 480
  state : m.gameState = .playing ∨ m.gameState = .nextRound ∨ m.gameState = .menuDisplay
  playing : m.gameState = .playing →
    m.roundNum = roundNum ∧ m.ship.score = first + deadValue (done ++ todo)
  cleared : m.gameState = .nextRound → m.roundNum = roundNum + 1 ∧ m.ship.score = first + 480
  lost : m.gameState = .menuDisplay →
    (∃ a ∈ done, a.alive = true) ∨ m.bullets.All (fun bullet => bullet.hitAlien = true)

section Visit

variable {cfg : Config} {first roundNum : Int} {rightMov movImg : Bool} {done rest : List Alien}
  {a moved : Alien} {m : March} {heap : Heap ShipBullet}

theorem PassScore.skipped (holds : PassScore first roundNum done (a :: rest) m) :
    PassScore first roundNum (done ++ [a]) rest m := by
  have same : done ++ [a] ++ rest = done ++ a :: rest := by simp
  constructor
  · rw [same]
    exact holds.fits
  · exact holds.shared
  · rw [same]
    exact holds.tally
  · rw [same]
    exact holds.worth
  · exact holds.state
  · rw [same]
    exact holds.playing
  · exact holds.cleared
  · intro menu
    rcases holds.lost menu with ⟨b, member, alive⟩ | spent
    · exact .inl ⟨b, List.mem_append_left _ member, alive⟩
    · exact .inr spent

theorem PassScore.missed (holds : PassScore first roundNum done (a :: rest) m)
    (alive : a.alive = true) (place : moved = advanceAlien rightMov movImg m.speed a)
    (tally : Tally
      (settleAlien cfg moved ((m.drawn rightMov movImg moved).checked heap)).gameState
      (settleAlien cfg moved ((m.drawn rightMov movImg moved).checked heap)).killCount
      (done ++ [moved] ++ rest)) :
    PassScore first roundNum (done ++ [moved]) rest
      (settleAlien cfg moved ((m.drawn rightMov movImg moved).checked heap)) := by
  have lives : moved.alive = true := by
    rw [place]
    exact alive
  have value : moved.value = a.value := by rw [place]; rfl
  have fits : (done ++ [moved] ++ rest).length = sizeOfAliens := by
    simpa using holds.fits
  have worth : waveValue (done ++ [moved] ++ rest) = 480 :=
    (waveValue_visited done rest value).trans holds.worth
  have dead : deadValue (done ++ [moved] ++ rest) = deadValue (done ++ a :: rest) :=
    deadValue_survives done rest alive lives
  have unfinished : (settleAlien cfg moved ((m.drawn rightMov movImg moved).checked heap)).gameState
      ≠ .nextRound := by
    rw [List.append_assoc, List.singleton_append] at tally fits
    exact tally.not_cleared lives fits
  unfold settleAlien at tally unfinished ⊢
  split
  · rename_i low
    rw [if_pos low] at tally
    exact ⟨fits, holds.shared, tally, worth, .inr (.inr rfl), by simp, by simp,
      fun _ => .inl ⟨moved, by simp, lives⟩⟩
  · rename_i high
    rw [if_neg high] at tally unfinished
    split
    · rename_i full
      rw [if_pos full] at unfinished
      exact absurd rfl unfinished
    · rename_i few
      rw [if_neg few] at tally unfinished
      refine ⟨fits, holds.shared, tally, worth, holds.state, ?_, fun cleared =>
        absurd cleared unfinished, fun _ => .inl ⟨moved, by simp, lives⟩⟩
      rw [dead]
      exact holds.playing

/-- A bullet that still hits is not spent, so a lost pass has left an alien alive. -/
theorem PassScore.survivor {ref : Ref} {todo : List Alien}
    (holds : PassScore first roundNum done todo m) (member : some ref ∈ m.bullets.slots.toList)
    (hit : AlienHit moved (m.bullets.heap.read ref)) (menu : m.gameState = .menuDisplay) :
    ∃ b ∈ done, b.alive = true := by
  rcases holds.lost menu with found | used
  · exact found
  · have fresh : (m.bullets.heap.read ref).hitAlien = false := hit.2.2.2.2
    rw [used ref member] at fresh
    cases fresh

theorem PassScore.killed {ref : Ref} (holds : PassScore first roundNum done (a :: rest) m)
    (alive : a.alive = true) (place : moved = advanceAlien rightMov movImg m.speed a)
    (read : heap.read = Function.update m.bullets.heap.read ref
      { m.bullets.heap.read ref with hitAlien := true })
    (member : some ref ∈ m.bullets.slots.toList) (hit : AlienHit moved (m.bullets.heap.read ref))
    (tally : Tally
      (settleAlien cfg moved.kill ((m.drawn rightMov movImg moved).scored moved heap)).gameState
      (settleAlien cfg moved.kill ((m.drawn rightMov movImg moved).scored moved heap)).killCount
      (done ++ [moved.kill] ++ rest)) :
    PassScore first roundNum (done ++ [moved.kill]) rest
      (settleAlien cfg moved.kill ((m.drawn rightMov movImg moved).scored moved heap)) := by
  have value : moved.kill.value = a.value := by rw [place]; rfl
  have fits : (done ++ [moved.kill] ++ rest).length = sizeOfAliens := by
    simpa using holds.fits
  have worth : waveValue (done ++ [moved.kill] ++ rest) = 480 :=
    (waveValue_visited done rest value).trans holds.worth
  have dead : deadValue (done ++ [moved.kill] ++ rest) =
      deadValue (done ++ a :: rest) + moved.value := deadValue_dies done rest alive rfl
  have spent : ShipBullets.All (fun bullet => bullet.hitAlien = true)
      { m.bullets with heap := heap } := Shared.spent holds.shared member read
  have survivor : m.gameState = .menuDisplay → ∃ b ∈ done ++ [moved.kill], b.alive = true := by
    intro menu
    obtain ⟨b, inside, lives⟩ := holds.survivor member hit menu
    exact ⟨b, List.mem_append_left _ inside, lives⟩
  have begun : m.gameState ≠ .nextRound := holds.tally.not_cleared alive holds.fits
  unfold settleAlien at tally ⊢
  split
  · rename_i low
    rw [if_pos low] at tally
    exact ⟨fits, holds.shared, tally, worth, .inr (.inr rfl), by simp, by simp, fun _ => .inr spent⟩
  · rename_i high
    rw [if_neg high] at tally
    split
    · rename_i full
      rw [if_pos full] at tally
      have count : deadCount (done ++ [moved.kill] ++ rest) = sizeOfAliens := by
        have counted := tally.counted
        have cleared := tally.cleared rfl
        omega
      have allDead : ∀ b ∈ done ++ [moved.kill] ++ rest, b.alive = false :=
        deadCount_eq_length _ (count.trans fits.symm)
      have playing : m.gameState = .playing := by
        rcases holds.state with playing | cleared | menu
        · exact playing
        · exact absurd cleared begun
        · obtain ⟨b, inside, lives⟩ := survivor menu
          have dies := allDead b (List.mem_append_left _ inside)
          rw [lives] at dies
          cases dies
      obtain ⟨round, score⟩ := holds.playing playing
      refine ⟨fits, holds.shared, tally, worth, .inr (.inl rfl), by simp, fun _ => ⟨?_, ?_⟩, by simp⟩
      · exact congrArg (· + 1) round
      · have total : deadValue (done ++ [moved.kill] ++ rest) = 480 :=
          (deadValue_eq_waveValue _ allDead).trans worth
        change m.ship.score + moved.value = first + 480
        rw [score, ← total, dead]
        ring
    · rename_i few
      rw [if_neg few] at tally
      refine ⟨fits, holds.shared, tally, worth, holds.state, ?_, fun cleared =>
        absurd cleared begun, fun menu => .inl (survivor menu)⟩
      intro playing
      obtain ⟨round, score⟩ := holds.playing playing
      refine ⟨round, ?_⟩
      change m.ship.score + moved.value = _
      rw [score, dead]
      ring

end Visit

theorem marchPass_score (cfg : Config) (g : Game) (first roundNum : Int)
    (holds : PassScore first roundNum [] g.aliens.toList g.march) :
    PassScore first roundNum (marchPass cfg g).1 [] (marchPass cfg g).2 := by
  apply marchPass_rule cfg g (PassScore first roundNum) _ holds
  intro done a rest m a' m' holds visit
  have tally := holds.tally.visit holds.fits visit
  cases visit with
  | skipped dead => exact holds.skipped
  | missed heap _ alive place read next misses => exact holds.missed alive place tally
  | killed heap ref moved alive place read next member hit =>
      exact holds.killed alive place read member hit tally

structure ScoreInv (base : Int) (g : Game) : Prop where
  round : RoundInv g
  shared : g.bullets.Shared
  wave : WaveInv g
  worth : g.gameState = .playing ∨ g.gameState = .nextRound → waveValue g.aliens.toList = 480
  playing : g.gameState = .playing →
    g.ship.score = base + 480 * g.roundNum + deadValue g.aliens.toList
  cleared : g.gameState = .nextRound → g.ship.score = base + 480 * g.roundNum

def RoundStep (before after : Game) : Prop :=
  (after.gameState = .playing → after.roundNum = before.roundNum) ∧
    (after.gameState = .nextRound → after.roundNum =
      before.roundNum + if before.gameState = .playing then 1 else 0)

theorem marchAliens_score (cfg : Config) {base : Int} {g : Game} (holds : ScoreInv base g)
    (playing : g.gameState = .playing) :
    ScoreInv base (marchAliens cfg g) ∧ RoundStep g (marchAliens cfg g) := by
  have start : PassScore (base + 480 * g.roundNum) g.roundNum [] g.aliens.toList g.march :=
    ⟨g.aliens.2, holds.shared, holds.wave (.inl playing), holds.worth (.inl playing),
      .inl playing, fun _ => ⟨rfl, holds.playing playing⟩,
      fun cleared => absurd (playing.symm.trans cleared) (by decide),
      fun menu => absurd (playing.symm.trans menu) (by decide)⟩
  have pass := marchPass_score cfg g _ _ start
  have all := List.append_nil (marchPass cfg g).1
  refine ⟨⟨marchAliens_round cfg g holds.round.1 playing, pass.shared, ?_, ?_, ?_, ?_⟩, ?_, ?_⟩
  · exact fun _ => marchAliens_wave cfg g (holds.wave (.inl playing))
  · intro _
    rw [marchAliens_toList, waveValue_map_y, ← all]
    exact pass.worth
  · intro after
    obtain ⟨round, score⟩ := pass.playing after
    rw [marchAliens_toList, deadValue_map_y]
    change (marchPass cfg g).2.ship.score = base + 480 * (marchPass cfg g).2.roundNum + _
    rw [score, round, all]
  · intro after
    obtain ⟨round, score⟩ := pass.cleared after
    change (marchPass cfg g).2.ship.score = base + 480 * (marchPass cfg g).2.roundNum
    rw [score, round]
    ring
  · exact fun after => (pass.playing after).1
  · intro after
    rw [if_pos playing]
    exact (pass.cleared after).1

theorem moveAliens_score (cfg : Config) {base : Int} {g : Game} (holds : ScoreInv base g)
    (playing : g.gameState = .playing) :
    ScoreInv base (moveAliens cfg g) ∧ RoundStep g (moveAliens cfg g) := by
  rcases moveAliens_cases cfg g with ⟨_, same⟩ | ⟨_, movImg, frameCounter, same⟩
  · rw [same]
    exact ⟨holds, fun _ => rfl, fun cleared => absurd (playing.symm.trans cleared) (by decide)⟩
  · have pass := marchAliens_score cfg (g := { g with frameCounter := g.frameCounter + 1 })
      ⟨holds.round, holds.shared, holds.wave, holds.worth, holds.playing, holds.cleared⟩ playing
    rw [same]
    exact ⟨⟨pass.1.round, pass.1.shared, pass.1.wave, pass.1.worth, pass.1.playing,
      pass.1.cleared⟩, pass.2⟩

theorem tick_score {cfg : Config} {base : Int} {g after : Game} (holds : ScoreInv base g)
    (playing : g.gameState = .playing) (ends : TickEnd cfg g after) :
    ScoreInv base after ∧ RoundStep g after := by
  have round := tick_round holds.round.1 playing ends
  have wave := tick_wave (holds.wave (.inl playing)) ends
  cases ends with
  | fired index idle alive =>
      exact moveAliens_score cfg (g := fireAlienBullet cfg index g)
        ⟨holds.round, holds.shared, holds.wave, holds.worth, holds.playing, holds.cleared⟩ playing
  | lost active dead =>
      obtain ⟨lives, still, calls, same⟩ := moveAlienBullet_eq g
      rw [same] at round wave ⊢
      refine ⟨⟨round, holds.shared, wave, ?_, ?_, ?_⟩, ?_, ?_⟩
      · rintro (playing | cleared) <;> contradiction
      all_goals
        intro later
        cases later
  | flown active left =>
      obtain ⟨lives, still, calls, same⟩ := moveAlienBullet_eq g
      rw [same]
      exact moveAliens_score cfg
        ⟨holds.round, holds.shared, holds.wave, holds.worth, holds.playing, holds.cleared⟩ playing

theorem initGame_score {cfg : Config} {base : Int} {g : Game} (shared : g.bullets.Shared)
    (score : g.ship.score = base + 480 * g.roundNum) (round : RoundInv (initGame cfg g)) :
    ScoreInv base (initGame cfg g) := by
  refine ⟨round, shared, fun _ => initGame_tally cfg _ rfl, fun _ => initAliens_waveValue cfg,
    ?_, by intro cleared; cases cleared⟩
  intro _
  change g.ship.score = base + 480 * g.roundNum + deadValue (initAliens cfg).toList
  rw [initAliens_deadValue, add_zero]
  exact score

theorem timerMove_score {cfg : Config} {seen : Mouse → Prop} {base : Int} {before after : Game}
    (holds : ScoreInv base before) (move : TimerMove cfg seen before after) :
    ScoreInv base after ∧ RoundStep before after := by
  have round := timerMove_round holds.round move
  cases move with
  | count made menus still =>
      exact ⟨⟨holds.round, holds.shared, holds.wave, holds.worth, holds.playing, holds.cleared⟩,
        fun playing => absurd playing still.1, fun cleared => absurd cleared still.2⟩
  | tick _ inputs playing ends =>
      exact tick_score (g := drawFrame cfg inputs (timerIntHandler before))
        ⟨holds.round, holds.shared, holds.wave, holds.worth, holds.playing, holds.cleared⟩
        playing ends
  | nextRound cleared =>
      have fresh : ScoreInv base (initGame cfg (timerIntHandler before)) :=
        initGame_score holds.shared (holds.cleared cleared) round
      exact ⟨⟨round, fresh.shared, fresh.wave, fresh.worth, fresh.playing, fresh.cleared⟩,
        fun _ => rfl, by intro later; cases later⟩

@[simp] theorem updateShipPosition_score (ship : Ship) (key : KeyActivity) :
    (updateShipPosition ship key).score = ship.score := by
  cases key <;> rfl

/-- While a message is read the score may also be that of a game about to begin. -/
def InputScore (base : Int) (g : Game) : Prop :=
  ScoreInv base g ∧
    (g.gameState = .menuDisplay ∨ g.gameState = .instructionsDisplay → g.ship.score = base)

theorem inputMove_score {cfg : Config} {seen : Mouse → Prop} {started : Prop} {base : Int}
    {before after : Game} (holds : InputScore base before)
    (move : InputMove cfg seen started before after) : InputScore base after := by
  obtain ⟨inv, waiting⟩ := holds
  have round := inputMove_round inv.round move
  have wave := inputMove_wave inv.wave move
  cases move with
  | menuCalls made menus =>
      exact ⟨⟨round, inv.shared, wave, inv.worth, inv.playing, inv.cleared⟩, waiting⟩
  | instructions menu =>
      exact ⟨⟨round, inv.shared, wave, by simp, by simp, by simp⟩, fun _ => waiting (.inl menu)⟩
  | menu instructions =>
      exact ⟨⟨round, inv.shared, wave, by simp, by simp, by simp⟩,
        fun _ => waiting (.inr instructions)⟩
  | exit => exact ⟨⟨round, inv.shared, wave, by simp, by simp, by simp⟩, by simp⟩
  | start menu click =>
      have score : before.ship.score = base + 480 * before.roundNum := by
        rw [waiting (.inl menu), inv.round.2 (.inl menu)]
        ring
      exact ⟨initGame_score inv.shared score round, by simp [initGame]⟩
  | shoot playing =>
      exact ⟨⟨round, createShipBullet_shared _ _ _ _ inv.shared, wave, inv.worth, inv.playing,
        inv.cleared⟩, waiting⟩
  | steer key playing =>
      have same : (steer key before).ship.score = before.ship.score :=
        updateShipPosition_score before.ship key
      refine ⟨⟨round, inv.shared, wave, inv.worth, ?_, ?_⟩, ?_⟩
      · rw [same]
        exact inv.playing
      · rw [same]
        exact inv.cleared
      · rw [same]
        exact waiting

theorem inputMove_roundNum {cfg : Config} {seen : Mouse → Prop} {started : Prop}
    {before after : Game} (move : InputMove cfg seen started before after) :
    after.roundNum = before.roundNum := by
  cases move <;> rfl

theorem timerMove_exited {cfg : Config} {seen : Mouse → Prop} {before after : Game}
    (exited : before.gameState = .exit) (move : TimerMove cfg seen before after) :
    after.gameState = .exit := by
  cases move with
  | count made menus still => exact exited
  | tick _ inputs playing ends => exact absurd (exited.symm.trans playing) (by decide)
  | nextRound cleared => exact absurd (exited.symm.trans cleared) (by decide)

theorem gameStep_score {cfg : Config} {base : Int} {w after : World} {message : Message}
    (holds : InputScore base w.game) (stepped : gameStep cfg w message = some after) :
    ScoreInv base after.game := by
  have moves := (gameStep_moves Tracks.always w after message trivial stepped).1
  have clear : InputScore base w.clear.game :=
    ⟨⟨holds.1.round, holds.1.shared, holds.1.wave, holds.1.worth, holds.1.playing,
      holds.1.cleared⟩, holds.2⟩
  cases moves with
  | input moves =>
      exact (moves.invariant (InputScore base) (fun _ _ holds move => inputMove_score holds move)
        clear).1
  | timer middle moves ticked =>
      have inv := moves.invariant (InputScore base)
        (fun _ _ holds move => inputMove_score holds move) clear
      exact (timerMove_score inv.1 ticked).1

theorem gameStep_round {cfg : Config} {base : Int} {w after : World} {message : Message}
    (holds : ScoreInv base w.game)
    (under : w.game.gameState = .playing ∨ w.game.gameState = .nextRound)
    (stepped : gameStep cfg w message = some after) : RoundStep w.game after.game := by
  have idle : ∀ g : Game, (g.gameState = w.game.gameState ∨ g.gameState = .exit) →
      g.gameState ≠ .menuDisplay ∧ g.gameState ≠ .instructionsDisplay := by
    rintro g (same | exited)
    · rw [same]
      rcases under with playing | cleared
      · simp [playing]
      · simp [cleared]
    · simp [exited]
  have input : ∀ middle, InputMoves cfg (fun _ => True) (StartClick w message) w.clear.game middle →
      ScoreInv base middle ∧ middle.roundNum = w.game.roundNum ∧
        (middle.gameState = w.game.gameState ∨ middle.gameState = .exit) := by
    intro middle moves
    apply moves.invariant (fun g => ScoreInv base g ∧ g.roundNum = w.game.roundNum ∧
      (g.gameState = w.game.gameState ∨ g.gameState = .exit))
    · rintro before next ⟨inv, round, state⟩ move
      have waiting : InputScore base before :=
        ⟨inv, by rintro (menu | instructions)
                 · exact absurd menu (idle before state).1
                 · exact absurd instructions (idle before state).2⟩
      refine ⟨(inputMove_score waiting move).1, (inputMove_roundNum move).trans round, ?_⟩
      rcases inputMove_state (idle before state) move with same | exited
      · rw [same]
        exact state
      · exact .inr exited
    · exact ⟨⟨holds.round, holds.shared, holds.wave, holds.worth, holds.playing, holds.cleared⟩,
        rfl, .inl rfl⟩
  cases (gameStep_moves Tracks.always w after message trivial stepped).1 with
  | input moves =>
      obtain ⟨_, round, state⟩ := input _ moves
      refine ⟨fun _ => round, fun cleared => ?_⟩
      have before : w.game.gameState = .nextRound := by
        rcases state with same | exited
        · exact same.symm.trans cleared
        · exact absurd (exited.symm.trans cleared) (by decide)
      rw [before, round]
      simp
  | timer middle moves ticked =>
      obtain ⟨inv, round, state⟩ := input _ moves
      have step := (timerMove_score inv ticked).2
      rcases state with same | exited
      · rw [RoundStep, ← round, ← same]
        exact step
      · have ended := timerMove_exited exited ticked
        exact ⟨fun playing => absurd (ended.symm.trans playing) (by decide),
          fun cleared => absurd (ended.symm.trans cleared) (by decide)⟩

/-- In a game that a click of `START_BUTTON` begins with the score `s0`, the score is `s0`, 480
points for each cleared wave and the points of the dead aliens of this wave. The round counter
grows by one with each cleared wave. -/
theorem score_conservation (cfg : Config) (clicked begun w : World) (message : Message)
    (reached : (gameLoop cfg).Reachable clicked) (click : StartClick clicked message)
    (stepped : gameStep cfg clicked message = some begun)
    (run : (gameLoop cfg).Run (fun before _ => before.game.gameState = .playing ∨
      before.game.gameState = .nextRound) begun w) :
    (w.game.gameState = .playing → w.game.ship.score =
      clicked.game.ship.score + 480 * w.game.roundNum + deadValue w.game.aliens.toList) ∧
    (w.game.gameState = .nextRound → w.game.ship.score =
      clicked.game.ship.score + 480 * w.game.roundNum) ∧
    (w.game.gameState = .playing ∨ w.game.gameState = .nextRound →
      ∀ next after, gameStep cfg w next = some after → RoundStep w.game after.game) := by
  have menu := startClick_menu click
  have waiting : InputScore clicked.game.ship.score clicked.game := by
    refine ⟨⟨round_reachable _ reached, shared_reachable _ reached, wave_reachable _ reached, ?_, ?_,
      ?_⟩, fun _ => rfl⟩
    all_goals
      rw [menu]
      simp
  have inv : ScoreInv clicked.game.ship.score w.game := by
    apply run.invariant (fun w => ScoreInv clicked.game.ship.score w.game)
    · exact gameStep_score waiting stepped
    · intro before next after holds under moved
      apply gameStep_score _ moved
      refine ⟨holds, ?_⟩
      rcases under with playing | cleared
      · simp [playing]
      · simp [cleared]
  exact ⟨inv.playing, inv.cleared, fun under next after moved => gameStep_round inv under moved⟩

/-- After the first kill of a game. -/
theorem score_conservation_first_game : ∃ clicked w : World, (gameLoop sampleConfig).Reachable clicked ∧
    StartClick clicked (mouseByte 180) ∧ w.game.gameState = .playing ∧ w.game.killCount = 1 ∧
    w.game.ship.score =
      clicked.game.ship.score + 480 * w.game.roundNum + deadValue w.game.aliens.toList := by
  obtain ⟨clicked, reached, click, begins⟩ := reachable_of_played clickStart.dropLast
    (fun w => StartClick w (mouseByte 180) ∧ (gameStep sampleConfig w (mouseByte 180)).any
      (fun begun => ((gameLoop sampleConfig).runList (fun before _ => before.game.gameState = .playing ∨
        before.game.gameState = .nextRound) begun
          (clickShoot ++ List.replicate 20 (timerTick [5]))).any
            (fun w => decide (w.game.gameState = .playing ∧ w.game.killCount = 1))) = true)
    (by decide +kernel)
  obtain ⟨begun, stepped, fought⟩ := (Option.any_eq_true _ _).mp begins
  obtain ⟨w, played, ends⟩ := (Option.any_eq_true _ _).mp fought
  obtain ⟨playing, kill⟩ := of_decide_eq_true ends
  have score := score_conservation sampleConfig clicked begun w (mouseByte 180) reached click stepped
    (Machine.run_of_runList _ played)
  exact ⟨clicked, w, reached, click, playing, kill, score.1 playing⟩

end Lcom.Proj
