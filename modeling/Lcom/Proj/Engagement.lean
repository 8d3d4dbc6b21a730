import Lcom.Proj.Battle
import Lcom.Proj.Placement
import Lcom.Proj.Sweep

/-! The game loop fights every battle: each tick of a `Battle` is matched by a run of
`game_loop`. -/

namespace Lcom.Proj

open Lcom.Lib

structure Formed (g : Game) (s : Battle) : Prop where
  alive : ∀ i : Fin sizeOfAliens, (g.aliens.get i).alive = s.living.testBit i.1
  column : ∀ i : Fin sizeOfAliens, (g.aliens.get i).alive = true →
    (g.aliens.get i).x + 1000 = s.x + 80 * (i.1 / 3 : Nat)
  row : ∀ i : Fin sizeOfAliens, (g.aliens.get i).y = s.y + 60 * (i.1 % 3 : Nat)

/-- The slots refer to a bullet at the given point, or only to bullets that have hit. -/
def Loaded (bullets : ShipBullets) : Option (Nat × Nat) → Prop
  | none => bullets.All (fun bullet => bullet.hitAlien = true)
  | some shot => (∃ ref, some ref ∈ bullets.slots.toList) ∧
      bullets.All (fun bullet => (bullet.x + 1000 = shot.1 ∧ bullet.y = shot.2) ∧
        bullet.speed = shipBulletSpeed ∧ bullet.hitAlien = false)

structure Depicts (g : Game) (s : Battle) : Prop where
  state : g.gameState = if s.living = 0 then .nextRound else .playing
  size : s.living < 2 ^ 24
  right : g.rightMov = s.right
  round : g.roundNum = s.round
  formed : s.living ≠ 0 → Formed g s
  loaded : Loaded g.bullets s.shot

structure Poised (g : Game) (s : Battle) (shot : Option (Nat × Nat)) : Prop where
  playing : g.gameState = .playing
  right : g.rightMov = s.right
  round : g.roundNum = s.round
  formed : Formed g s
  loaded : Loaded g.bullets shot
  size : s.living < 2 ^ 24
  speed : g.speed = initialAlienSpeed + g.roundNum
  sized : ∀ i, Sized (g.aliens.get i)
  shared : g.bullets.Shared
  tally : Tally g.gameState g.killCount g.aliens.toList
  room : s.round < s.x

section Pass

variable {g : Game} {s : Battle} {shot : Option (Nat × Nat)}

theorem Poised.ahead_eq (poised : Poised g s shot) :
    (s.ahead : Int) = s.x + heading g.rightMov g.speed := by
  have room := poised.room
  rw [poised.speed, poised.round, poised.right, Battle.ahead, heading]
  simp only [initialAlienSpeed]
  cases s.right with
  | false =>
      simp only [cond_false, Bool.false_eq_true, if_false]
      omega
  | true =>
      simp only [cond_true, if_true]
      omega

theorem Poised.moved (poised : Poised g s shot) (i : Fin sizeOfAliens)
    (alive : (g.aliens.get i).alive = true) :
    (g.moved (g.aliens.get i)).x + 1000 = s.ahead + 80 * (i.1 / 3 : Nat) ∧
      (g.moved (g.aliens.get i)).y = s.y + 60 * (i.1 % 3 : Nat) ∧
      (g.moved (g.aliens.get i)).width = 60 ∧ (g.moved (g.aliens.get i)).height = 40 := by
  have sized := advanceAlien_sized g.rightMov g.movImg g.speed _ (poised.sized i)
  refine ⟨?_, poised.formed.row i, sized.1.1, sized.1.2⟩
  have place : (g.moved (g.aliens.get i)).x =
      (g.aliens.get i).x + heading g.rightMov g.speed := rfl
  have column := poised.formed.column i alive
  rw [place, poised.ahead_eq]
  omega

theorem Poised.strikes_iff (poised : Poised g s shot) (i : Fin sizeOfAliens) :
    g.Strikes (g.aliens.get i) ↔ Battle.struck s.ahead s.y s.living shot = some i.1 := by
  have loaded := poised.loaded
  cases shot with
  | none =>
      constructor
      · rintro ⟨_, ref, member, hit⟩
        exact absurd (hit.2.2.2.2.symm.trans (loaded ref member)) (by decide)
      · intro none
        cases none
  | some point =>
      obtain ⟨a, b⟩ := point
      obtain ⟨⟨ref, member⟩, all⟩ := loaded
      rw [Battle.struck_iff, ← poised.formed.alive i]
      constructor
      · rintro ⟨alive, other, inside, hit⟩
        obtain ⟨x, y, width, height⟩ := poised.moved i alive
        obtain ⟨⟨bulletX, bulletY⟩, _⟩ := all other inside
        obtain ⟨left, ⟨right, _⟩, top, bottom, _⟩ := hit
        refine ⟨alive, i.2, ⟨?_, ?_⟩, ?_, ?_⟩ <;> omega
      · rintro ⟨alive, _, ⟨left, right⟩, top, bottom⟩
        obtain ⟨x, y, width, height⟩ := poised.moved i alive
        obtain ⟨⟨bulletX, bulletY⟩, _, fresh⟩ := all ref member
        dsimp only at bulletX bulletY
        refine ⟨alive, ref, member, ?_, ⟨?_, alive⟩, ?_, ?_, fresh⟩ <;> omega

theorem Poised.sweepable (poised : Poised g s shot) (safe : s.overrun = false) : Sweepable g := by
  constructor
  · intro a member alive
    obtain ⟨i, rfl⟩ := (List.Vector.mem_iff_get a g.aliens).mp member
    obtain ⟨_, y, _, height⟩ := poised.moved i alive
    have high : ¬ 600 ≤ s.y + 60 * (i.1 % 3) + 40 := by
      intro low
      have bit : s.living.testBit i.1 = true := by rw [← poised.formed.alive i, alive]
      have lost := (Battle.overrun_iff s).mpr ⟨i.1, bit, i.2, low⟩
      exact absurd (safe.symm.trans lost) (by decide)
    simp only [territory]
    omega
  · exact poised.shared
  · rw [List.pairwise_iff_getElem]
    rintro i j first second before ⟨struckFirst, struckSecond⟩
    have boundFirst : i < sizeOfAliens := by
      rw [List.Vector.toList_length] at first
      exact first
    have boundSecond : j < sizeOfAliens := by
      rw [List.Vector.toList_length] at second
      exact second
    have one := (poised.strikes_iff ⟨i, boundFirst⟩).mp struckFirst
    have other := (poised.strikes_iff ⟨j, boundSecond⟩).mp struckSecond
    have same : i = j := Option.some.inj (one.symm.trans other)
    omega

theorem Poised.turns_iff (poised : Poised g s shot) :
    Battle.turns s.right s.ahead s.living = true ↔
      ∃ a ∈ g.aliens.toList, a.alive = true ∧ AtBorder g.rightMov (g.moved a) := by
  have index : ∀ i, s.living.testBit i = true → i < sizeOfAliens := fun i bit =>
    testBit_bound poised.size bit
  have living : ∀ i : Fin sizeOfAliens, s.living.testBit i.1 = true ↔
      (g.aliens.get i).alive = true := by
    intro i
    rw [poised.formed.alive i]
  have right := poised.right
  cases direction : s.right with
  | false =>
      rw [direction] at right
      rw [Battle.turns_left]
      constructor
      · rintro ⟨i, bit, near⟩
        have alive := (living ⟨i, index i bit⟩).mp bit
        obtain ⟨x, _⟩ := poised.moved ⟨i, index i bit⟩ alive
        refine ⟨_, List.Vector.get_mem ⟨i, index i bit⟩ g.aliens, alive, ?_⟩
        simp only [AtBorder, right, xLeftBorder, Bool.false_eq_true, if_false]
        dsimp only at x
        omega
      · rintro ⟨a, member, alive, border⟩
        obtain ⟨i, rfl⟩ := (List.Vector.mem_iff_get a g.aliens).mp member
        obtain ⟨x, _⟩ := poised.moved i alive
        simp only [AtBorder, right, xLeftBorder, Bool.false_eq_true, if_false] at border
        exact ⟨i.1, (living i).mpr alive, by omega⟩
  | true =>
      rw [direction] at right
      rw [Battle.turns_right]
      constructor
      · rintro ⟨i, bit, near⟩
        have alive := (living ⟨i, index i bit⟩).mp bit
        obtain ⟨x, _, width, _⟩ := poised.moved ⟨i, index i bit⟩ alive
        refine ⟨_, List.Vector.get_mem ⟨i, index i bit⟩ g.aliens, alive, ?_⟩
        simp only [AtBorder, right, xRightBorder, if_true]
        dsimp only at x
        omega
      · rintro ⟨a, member, alive, border⟩
        obtain ⟨i, rfl⟩ := (List.Vector.mem_iff_get a g.aliens).mp member
        obtain ⟨x, _, width, _⟩ := poised.moved i alive
        simp only [AtBorder, right, xRightBorder, if_true] at border
        exact ⟨i.1, (living i).mpr alive, by omega⟩

theorem Poised.survivors (poised : Poised g s shot) (bomb : Option (Nat × Nat))
    (i : Fin sizeOfAliens) {after : Alien} (swept : Swept g (g.aliens.get i) after) :
    after.alive = (s.pass shot bomb).living.testBit i.1 := by
  have strikes := poised.strikes_iff i
  have old := poised.formed.alive i
  have bits : (s.pass shot bomb).living.testBit i.1 = (s.living.testBit i.1 &&
      decide (Battle.struck s.ahead s.y s.living shot ≠ some i.1)) := by
    change (s.living ^^^ (Battle.struck s.ahead s.y s.living shot).elim 0 (2 ^ ·)).testBit i.1 = _
    cases hit : Battle.struck s.ahead s.y s.living shot with
    | none => simp
    | some j =>
        have living : s.living.testBit j = true := by
          cases shot with
          | none => cases hit
          | some point => exact ((Battle.struck_iff _ _ _ _ _ _).mp hit).1
        simp only [Option.elim_some]
        rw [testBit_xor_two_pow living]
        simp
  rw [bits, ← old]
  cases swept with
  | dead dead => rw [dead, Bool.false_and]
  | spared alive spared =>
      have other : Battle.struck s.ahead s.y s.living shot ≠ some i.1 :=
        fun hit => spared (strikes.mpr hit)
      rw [alive, Bool.true_and, decide_eq_true other]
      exact alive
  | killed struck =>
      have hit := strikes.mp struck
      rw [hit]
      simp [Alien.kill]

theorem pass_size (size : s.living < 2 ^ 24) (shot bomb : Option (Nat × Nat)) :
    (s.pass shot bomb).living < 2 ^ 24 := by
  change s.living ^^^ (Battle.struck s.ahead s.y s.living shot).elim 0 (2 ^ ·) < 2 ^ 24
  apply Nat.xor_lt_two_pow size
  cases hit : Battle.struck s.ahead s.y s.living shot with
  | none => decide
  | some j =>
      cases shot with
      | none => cases hit
      | some point =>
          have bound := ((Battle.struck_iff _ _ _ _ _ _).mp hit).2.1
          exact Nat.pow_lt_pow_right (by decide) bound

theorem living_zero_iff {living : Nat} (size : living < 2 ^ 24) (aliens : Aliens)
    (alive : ∀ i : Fin sizeOfAliens, (aliens.get i).alive = living.testBit i.1) :
    living = 0 ↔ ∀ a ∈ aliens.toList, a.alive = false := by
  constructor
  · intro zero a member
    obtain ⟨i, rfl⟩ := (List.Vector.mem_iff_get a aliens).mp member
    rw [alive i, zero, Nat.zero_testBit]
  · intro dead
    apply Nat.eq_of_testBit_eq
    intro i
    rw [Nat.zero_testBit]
    by_cases bound : i < sizeOfAliens
    · rw [← alive ⟨i, bound⟩]
      exact dead _ (List.Vector.get_mem _ aliens)
    · rw [Bool.eq_false_iff]
      exact fun bit => bound (testBit_bound size bit)

theorem Poised.reloaded (poised : Poised g s shot) {bullets : ShipBullets}
    (slots : bullets.slots = g.bullets.slots) (checked : Checked g g.aliens.toList bullets)
    (bomb : Option (Nat × Nat)) : Loaded bullets (s.pass shot bomb).shot := by
  have loaded := poised.loaded
  change Loaded bullets (bif (Battle.struck s.ahead s.y s.living shot).isSome then none else shot)
  rcases checked with ⟨same, spared⟩ | ⟨spent, a, member, struck⟩
  · have missed : Battle.struck s.ahead s.y s.living shot = none := by
      by_contra some
      obtain ⟨i, hit⟩ := Option.ne_none_iff_exists'.mp some
      have bound : i < sizeOfAliens := by
        cases shot with
        | none => cases hit
        | some point => exact ((Battle.struck_iff _ _ _ _ _ _).mp hit).2.1
      exact spared _ (List.Vector.get_mem ⟨i, bound⟩ g.aliens)
        ((poised.strikes_iff ⟨i, bound⟩).mpr hit)
    rw [missed]
    have kept : ∀ P, g.bullets.All P → bullets.All P := by
      intro P holds ref inside
      rw [slots] at inside
      rw [same ref inside]
      exact holds ref inside
    cases shot with
    | none => exact kept (fun bullet => bullet.hitAlien = true) loaded
    | some point =>
        refine ⟨?_, kept _ loaded.2⟩
        rw [slots]
        exact loaded.1
  · obtain ⟨i, rfl⟩ := (List.Vector.mem_iff_get a g.aliens).mp member
    rw [(poised.strikes_iff i).mp struck]
    exact spent

theorem Poised.outcome (cfg : Config) (poised : Poised g s shot) (safe : s.overrun = false)
    (bomb : Option (Nat × Nat)) (alive : ∀ i : Fin sizeOfAliens,
      ((marchAliens cfg g).aliens.get i).alive = (s.pass shot bomb).living.testBit i.1) :
    ((marchAliens cfg g).gameState = if (s.pass shot bomb).living = 0 then .nextRound else .playing) ∧
      (marchAliens cfg g).roundNum = (s.pass shot bomb).round := by
  have sweep := marchPass_sweep cfg (poised.sweepable safe) poised.playing poised.tally
  have cleared := living_zero_iff (pass_size poised.size shot bomb) (marchAliens cfg g).aliens alive
  have tally := marchAliens_wave cfg g poised.tally
  have counted := tally.counted
  have round : (s.pass shot bomb).round =
      s.round + bif Nat.beq (s.pass shot bomb).living 0 then 1 else 0 := rfl
  rcases sweep.state with ⟨playing, same⟩ | ⟨finished, next⟩
  · have few := tally.playing playing
    obtain ⟨i, living⟩ := exists_alive_of_deadCount_lt (marchAliens cfg g).aliens (by omega)
    have left : (s.pass shot bomb).living ≠ 0 := by
      intro zero
      have dead := cleared.mp zero _ (List.Vector.get_mem i _)
      exact absurd (dead.symm.trans living) (by decide)
    have unfinished : Nat.beq (s.pass shot bomb).living 0 = false := by
      rw [Bool.eq_false_iff]
      exact fun same => left (Nat.eq_of_beq_eq_true same)
    rw [if_neg left, round, unfinished]
    exact ⟨playing, same.trans poised.round⟩
  · have full := tally.cleared finished
    have dead := deadCount_eq_length (marchAliens cfg g).aliens.toList
      (by rw [List.Vector.toList_length]; omega)
    have zero := cleared.mpr dead
    rw [if_pos zero, round, zero]
    refine ⟨finished, ?_⟩
    change (marchPass cfg g).2.roundNum = ((s.round + 1 : Nat) : Int)
    rw [next, poised.round]
    rfl

theorem marchAliens_depicts (cfg : Config) (poised : Poised g s shot) (safe : s.overrun = false)
    (bomb : Option (Nat × Nat)) : Depicts (marchAliens cfg g) (s.pass shot bomb) := by
  have sweep := marchPass_sweep cfg (poised.sweepable safe) poised.playing poised.tally
  obtain ⟨front, all, related, border, checked⟩ := sweep.swept
  rw [List.append_nil] at all
  subst all
  have turned : (marchPass cfg g).2.changeDir = Battle.turns s.right s.ahead s.living := by
    rw [Bool.eq_iff_iff, border, poised.turns_iff]
  have alive : ∀ i : Fin sizeOfAliens, ((marchAliens cfg g).aliens.get i).alive =
      (s.pass shot bomb).living.testBit i.1 := by
    intro i
    obtain ⟨after, swept, place⟩ := marchAliens_related cfg g related i
    have survivor := poised.survivors bomb i swept
    rw [place]
    exact survivor
  have outcome := poised.outcome cfg safe bomb alive
  constructor
  · exact outcome.1
  · exact pass_size poised.size shot bomb
  · change (if (marchPass cfg g).2.changeDir then !g.rightMov else g.rightMov) =
      (s.right ^^ Battle.turns s.right s.ahead s.living)
    rw [turned, poised.right]
    cases Battle.turns s.right s.ahead s.living <;> simp
  · exact outcome.2
  · intro _
    have lower : ((s.pass shot bomb).y : Int) = s.y + descent (marchPass cfg g).2.changeDir := by
      change ((s.y + bif Battle.turns s.right s.ahead s.living then 20 else 0 : Nat) : Int) = _
      rw [turned]
      cases Battle.turns s.right s.ahead s.living <;> rfl
    refine ⟨alive, ?_, ?_⟩
    · intro i living
      obtain ⟨after, swept, place⟩ := marchAliens_related cfg g related i
      rw [place] at living ⊢
      cases swept with
      | dead dead => exact absurd (dead.symm.trans living) (by decide)
      | spared before spared => exact (poised.moved i before).1
      | killed struck => cases living
    · intro i
      obtain ⟨after, swept, place⟩ := marchAliens_related cfg g related i
      have row : after.y = (g.aliens.get i).y := by
        cases swept with
        | dead dead => rfl
        | spared before spared => rfl
        | killed struck => rfl
      rw [place, lower]
      change after.y + descent (marchPass cfg g).2.changeDir = _
      rw [row, poised.formed.row i]
      ring
  · exact poised.reloaded sweep.slots checked bomb

/-- The pass of a lost wave up to the aliens in `front`, with no bullet in the air. -/
structure Losing (g : Game) (todo : List Alien) (m : March) : Prop where
  spent : m.bullets.All (fun bullet => bullet.hitAlien = true)
  kills : m.killCount = g.killCount
  state : m.gameState = .menuDisplay ∨ m.gameState = .playing ∧
    ∃ front, g.aliens.toList = front ++ todo ∧ ∀ a ∈ front, a.alive = true → a.y + 40 < territory

theorem Losing.visit {cfg : Config} {a a' : Alien} {rest : List Alien} {m m' : March}
    (losing : Losing g (a :: rest) m) (sized : Sized a) (few : g.killCount < sizeOfAliens)
    (visit : Visit cfg g.rightMov g.movImg a m a' m') : Losing g rest m' := by
  have kills := losing.kills
  cases visit with
  | skipped dead =>
      refine ⟨losing.spent, kills, ?_⟩
      rcases losing.state with menu | ⟨playing, front, all, high⟩
      · exact .inl menu
      · refine .inr ⟨playing, front ++ [a], by rw [all, List.append_assoc]; rfl, ?_⟩
        intro b member alive
        rcases List.mem_append.mp member with before | here
        · exact high b before alive
        · rw [List.mem_singleton.mp here] at alive
          exact absurd (dead.symm.trans alive) (by decide)
  | missed heap _ alive place read next misses =>
      have row : a'.y = a.y := by rw [place]; rfl
      have height : a'.height = 40 := by
        rw [place]
        exact (advanceAlien_sized g.rightMov g.movImg m.speed a sized).1.2
      have spent : (settleAlien cfg a' ((m.drawn g.rightMov g.movImg a').checked heap)).bullets.All
          (fun bullet => bullet.hitAlien = true) := by
        rw [settleAlien_bullets]
        intro ref member
        change (heap.read ref).hitAlien = true
        rw [read]
        exact losing.spent ref member
      by_cases low : a'.y + a'.height ≥ territory
      · refine ⟨spent, ?_, .inl ?_⟩
        · rw [settleAlien, if_pos low]
          exact kills
        · rw [settleAlien, if_pos low]
      · have unfinished : ¬ ((m.drawn g.rightMov g.movImg a').checked heap).killCount =
            sizeOfAliens := by
          change ¬ m.killCount = sizeOfAliens
          omega
        refine ⟨spent, ?_, ?_⟩
        · rw [settleAlien, if_neg low, if_neg unfinished]
          exact kills
        · rw [settleAlien, if_neg low, if_neg unfinished]
          rcases losing.state with menu | ⟨playing, front, all, high⟩
          · exact .inl menu
          · refine .inr ⟨playing, front ++ [a], by rw [all, List.append_assoc]; rfl, ?_⟩
            intro b member living
            rcases List.mem_append.mp member with before | here
            · exact high b before living
            · rw [List.mem_singleton.mp here]
              omega
  | killed heap ref moved alive place read next member hit =>
      exact absurd (hit.2.2.2.2.symm.trans (losing.spent ref member)) (by decide)

theorem marchAliens_overrun (cfg : Config) (poised : Poised g s none) (lost : s.overrun = true) :
    (marchAliens cfg g).gameState = .menuDisplay := by
  have few := poised.tally.playing poised.playing
  have result := marchPass_rule cfg g
    (fun _ todo m => (∀ a ∈ todo, Sized a) ∧ Losing g todo m) ?_ ⟨?_, ?_⟩
  · rcases result.2.state with menu | ⟨_, front, all, high⟩
    · exact menu
    · obtain ⟨i, bit, bound, low⟩ := (Battle.overrun_iff s).mp lost
      have alive : (g.aliens.get ⟨i, bound⟩).alive = true := by
        rw [poised.formed.alive]
        exact bit
      have row := poised.formed.row ⟨i, bound⟩
      rw [List.append_nil] at all
      have above := high _ (by rw [← all]; exact List.Vector.get_mem ⟨i, bound⟩ g.aliens) alive
      simp only [territory] at above
      dsimp only at row
      omega
  · rintro done a rest m a' m' ⟨sized, losing⟩ visit
    exact ⟨fun b member => sized b (List.mem_cons_of_mem _ member),
      losing.visit (sized a List.mem_cons_self) few visit⟩
  · intro a member
    obtain ⟨i, rfl⟩ := (List.Vector.mem_iff_get a g.aliens).mp member
    exact poised.sized i
  · exact ⟨poised.loaded, rfl, .inr ⟨poised.playing, [], rfl, by simp⟩⟩

theorem Poised.frame (poised : Poised g s shot) (ship : Ship) (alienBullet : AlienBullet)
    (calls : List Call) (frameCounter : Int) : Poised { g with
      ship := ship, alienBullet := alienBullet, calls := calls, frameCounter := frameCounter }
      s shot :=
  ⟨poised.playing, poised.right, poised.round,
    ⟨poised.formed.alive, poised.formed.column, poised.formed.row⟩, poised.loaded, poised.size,
    poised.speed, poised.sized, poised.shared, poised.tally, poised.room⟩

theorem moveAliens_depicts {cfg : Config} (poised : Poised g s shot) (safe : s.overrun = false)
    (due : cfg.ipf ≤ g.timerCounter) (bomb : Option (Nat × Nat)) :
    Depicts (moveAliens cfg g) (s.pass shot bomb) ∧ (moveAliens cfg g).timerCounter = 0 := by
  have passed := marchAliens_depicts cfg
    (poised.frame g.ship g.alienBullet g.calls (g.frameCounter + 1)) safe bomb
  rcases moveAliens_cases cfg g with ⟨early, _⟩ | ⟨_, movImg, frameCounter, same⟩
  · exact absurd due (not_le.mpr early)
  rw [same]
  refine ⟨⟨passed.state, passed.size, passed.right, passed.round, ?_, passed.loaded⟩, rfl⟩
  intro wave
  have formed := passed.formed wave
  exact ⟨formed.alive, formed.column, formed.row⟩

theorem moveAliens_overrun {cfg : Config} (poised : Poised g s none) (lost : s.overrun = true)
    (due : cfg.ipf ≤ g.timerCounter) : (moveAliens cfg g).gameState = .menuDisplay := by
  have passed := marchAliens_overrun cfg
    (poised.frame g.ship g.alienBullet g.calls (g.frameCounter + 1)) lost
  rcases moveAliens_cases cfg g with ⟨early, _⟩ | ⟨_, movImg, frameCounter, same⟩
  · exact absurd due (not_le.mpr early)
  · rw [same]
    exact passed

end Pass

theorem updateShipBulletPosition_loaded {bullets : ShipBullets} {shot : Option (Nat × Nat)}
    (shared : bullets.Shared) (loaded : Loaded bullets shot)
    (room : Battle.misses shot = false) :
    Loaded (updateShipBulletPosition bullets) (Battle.rise shot) := by
  cases shot with
  | none =>
      have kept : ∀ bullet : ShipBullet, bullet.hitAlien = true →
          (moveBullet bullet).hitAlien = true := by
        intro bullet spent
        rw [moveBullet, if_pos spent]
        exact spent
      exact updateShipBulletPosition_all kept loaded
  | some point =>
      obtain ⟨a, b⟩ := point
      obtain ⟨⟨first, inside⟩, all⟩ := loaded
      have high : ¬ b < 28 := by
        intro low
        have missed : Battle.misses (some (a, b)) = true := Nat.blt_eq.mpr low
        exact absurd (room.symm.trans missed) (by decide)
      refine ⟨⟨first, inside⟩, ?_⟩
      intro ref member
      obtain ⟨slot, slots⟩ := shared
      have same : some ref = slot := List.eq_of_mem_replicate (by rw [← slots]; exact member)
      obtain ⟨⟨x, y⟩, speed, fresh⟩ := all ref member
      simp only [shipBulletSpeed] at speed
      dsimp only at x y
      have moved : (updateShipBulletPosition bullets).heap.read ref =
          moveBullet^[7] (bullets.heap.read ref) := by
        change (bullets.slots.toList.foldl moveSlot bullets.heap).read ref = _
        rw [foldl_moveSlot_count, slots, ← same, List.count_replicate_self]
      rw [moved, moveBullet_iterate 7 _ fresh (by omega) (by rw [speed]; push_cast; omega)]
      refine ⟨⟨x, ?_⟩, speed, fresh⟩
      dsimp only
      rw [speed]
      push_cast
      omega

theorem drawShipBullets_loaded {bullets : ShipBullets} {shot : Option (Nat × Nat)}
    (loaded : Loaded bullets shot) : Loaded (drawShipBullets bullets) shot := by
  cases shot with
  | none => exact drawShipBullets_all (P := fun bullet => bullet.hitAlien = true) loaded
  | some point => exact ⟨loaded.1, drawShipBullets_all loaded.2⟩

end Lcom.Proj
