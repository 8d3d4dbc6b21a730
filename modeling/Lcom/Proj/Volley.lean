import Lcom.Lib.Refinement
import Lcom.Proj.Coalescing
import Lcom.Proj.Gun

/-! What a message does to the gun and to the score: a click loads it, a tick of a game takes its
bullet up and may count the points of one alien. -/

namespace Lcom.Proj

open Lcom.Lib

namespace Gun

/-- A bullet hits at most one alien, and is spent; with the kills and the points. -/
inductive Hits : Gun → Gun → Int → Int → Prop where
  | none (gun : Gun) : Hits gun gun 0 0
  | one (x y points : Int) (worth : Worth points) : Hits (flying x y) ready 1 points

theorem Hits.once {gun after : Gun} {kills points : Int} (hits : Hits gun after kills points) :
    kills = 0 ∨ kills = 1 := by
  cases hits with
  | none => exact .inl rfl
  | one => exact .inr rfl

def loaded : Option Int → Gun → Gun
  | none, gun => gun
  | some x, gun => gun.shoot x 630

/-- What a message is for the gun: the place of a shot, if there is one, and whether a tick of a
game follows, perhaps its last one. -/
inductive Label where
  | input (shot : Option Int)
  | tick (shot : Option Int) (last : Bool)
  deriving DecidableEq, Repr

/-- The moves of the gun and of the score. The score is lost only with the game; points that come
after the loss, in the same pass, stay. -/
inductive Moves : Label → Gun × Int → Gun × Int → Prop where
  | input (shot : Option Int) (gun : Gun) (score : Int) :
      Moves (.input shot) (gun, score) (gun.loaded shot, score)
  | tick (shot : Option Int) (gun after : Gun) (score kills points : Int)
      (hits : Hits (gun.loaded shot).rise after kills points) :
      Moves (.tick shot false) (gun, score) (after, score + points)
  | lost (shot : Option Int) (gun after : Gun) (score left kills points : Int)
      (hits : Hits (gun.loaded shot).rise after kills points)
      (counted : left = 0 ∨ left = points) :
      Moves (.tick shot true) (gun, score) (after, left)

theorem loaded_jammed (shot : Option Int) : jammed.loaded shot = jammed := by
  cases shot <;> rfl

/-- Nothing repairs the gun, and without it there are no points. -/
theorem jammed_moves {score : Int} {labels : List Label} {after : Gun × Int}
    (path : Path Moves (jammed, score) labels after) :
    after.1 = jammed ∧ (after.2 = score ∨ after.2 = 0) := by
  refine path.invariant (fun view => view.1 = jammed ∧ (view.2 = score ∨ view.2 = 0)) ?_
    ⟨rfl, .inl rfl⟩
  rintro label before after ⟨stuck, points⟩ move
  have missed : ∀ {shot : Option Int} {gun after : Gun} {kills points : Int}, gun = jammed →
      Hits (gun.loaded shot).rise after kills points → after = jammed ∧ points = 0 := by
    intro shot gun after kills points stuck hits
    rw [stuck, loaded_jammed] at hits
    cases hits
    exact ⟨rfl, rfl⟩
  cases move with
  | input shot gun score =>
      refine ⟨?_, points⟩
      rw [show gun = jammed from stuck]
      exact loaded_jammed shot
  | tick shot gun after first kills won hits =>
      obtain ⟨same, none⟩ := missed stuck hits
      refine ⟨same, ?_⟩
      rw [none, Int.add_zero]
      exact points
  | lost shot gun after first left kills won hits counted =>
      obtain ⟨same, none⟩ := missed stuck hits
      refine ⟨same, .inr ?_⟩
      rcases counted with zero | won
      · exact zero
      · exact won.trans none

end Gun

/-- How a wave stands that began with this score, these lives and this round, after `points`. -/
inductive Stands (score lives round points : Int) : GameState → Ship → Int → Prop where
  | on (ship : Ship) (counted : ship.score = score + points) (same : ship.lives = lives) :
      Stands score lives round points .playing ship round
  | cleared (ship : Ship) (counted : ship.score = score + points) (same : ship.lives = lives) :
      Stands score lives round points .nextRound ship (round + 1)
  | lost (ship : Ship) (next : Int) (counted : ship.score = 0 ∨ ship.score = points) :
      Stands score lives round points .menuDisplay ship next

def March.Stands (g : Game) (points : Int) (m : March) : Prop :=
  Proj.Stands g.ship.score g.ship.lives g.roundNum points m.gameState m.ship m.roundNum

theorem deadCount_lt_of_alive {aliens : List Alien} {a : Alien} (member : a ∈ aliens)
    (alive : a.alive = true) : deadCount aliens < aliens.length := by
  refine Nat.lt_of_le_of_ne (deadCount_le aliens) (fun full => ?_)
  have dead := deadCount_eq_length aliens full a member
  rw [alive] at dead
  cases dead

theorem settleAlien_stands (cfg : Config) (a : Alien) {g : Game} {points : Int} {m : March}
    (stands : m.Stands g points) (uncleared : m.gameState ≠ .nextRound)
    (full : m.killCount = sizeOfAliens → m.gameState = .playing) :
    (settleAlien cfg a m).Stands g points := by
  unfold settleAlien
  split
  · exact .lost _ _ (.inl rfl)
  · by_cases last : m.killCount = sizeOfAliens
    · rw [if_pos last]
      have playing := full last
      obtain ⟨bullets, killCount, ship, speed, roundNum, gameState, changeDir, calls⟩ := m
      cases stands with
      | on _ counted same => exact .cleared _ counted same
      | cleared _ counted same => exact absurd rfl uncleared
      | lost _ _ counted => cases playing
    · rw [if_neg last]
      exact stands

/-- A part of the loop over the aliens that began in `g`. In a game that is lost some alien is left,
or the bullet is spent. -/
structure Pass (g : Game) (kills points : Int) (done todo : List Alien) (m : March) : Prop where
  fits : (done ++ todo).length = sizeOfAliens
  tally : Tally m.gameState m.killCount (done ++ todo)
  slots : m.bullets.slots = g.bullets.slots
  speeds : m.bullets.All (fun bullet => bullet.speed = shipBulletSpeed)
  targets : ∀ a ∈ todo, 20 ≤ a.y ∧ Gun.Worth a.value
  survivor : m.gameState = .menuDisplay → m.bullets.gun = .ready ∨ ∃ a ∈ done, a.alive = true
  hits : Gun.Hits g.bullets.gun m.bullets.gun kills points
  count : m.killCount = g.killCount + kills
  stands : m.Stands g points

variable {cfg : Config} {g : Game} {kills points : Int} {done rest : List Alien} {a a' : Alien}
  {m m' : March}

theorem Pass.uncleared (pass : Pass g kills points done (a :: rest) m) (alive : a.alive = true) :
    m.gameState ≠ .nextRound :=
  fun cleared => pass.tally.not_cleared alive pass.fits cleared

theorem Pass.kill_few (pass : Pass g kills points done (a :: rest) m)
    (menu : m.gameState = .menuDisplay) (flying : m.bullets.gun ≠ .ready)
    (alive : a.alive = true) : m.killCount + 1 ≠ sizeOfAliens := by
  rcases pass.survivor menu with ready | ⟨b, member, living⟩
  · exact absurd ready flying
  · have few := deadCount_lt_of_alive member living
    have others := deadCount_le rest
    have fits := pass.fits
    have counted := pass.tally.counted
    rw [deadCount_append, deadCount_cons_alive a rest alive] at counted
    rw [List.length_append, List.length_cons] at fits
    omega

theorem Pass.unspent {todo : List Alien} {x y : Int} (pass : Pass g kills points done todo m)
    (flies : m.bullets.gun = .flying x y) :
    g.bullets.gun = .flying x y ∧ kills = 0 ∧ points = 0 := by
  have hits := pass.hits
  rw [flies] at hits
  generalize g.bullets.gun = gun at hits ⊢
  cases hits with
  | none => exact ⟨rfl, rfl, rfl⟩

theorem Stands.state {score lives round points : Int} {gameState : GameState} {ship : Ship}
    {next : Int} (stands : Stands score lives round points gameState ship next)
    (uncleared : gameState ≠ .nextRound) : gameState = .playing ∨ gameState = .menuDisplay := by
  cases stands with
  | on => exact .inl rfl
  | cleared => exact absurd rfl uncleared
  | lost => exact .inr rfl

theorem Pass.visit (shared : g.bullets.Shared) (pass : Pass g kills points done (a :: rest) m)
    (visit : Visit cfg g.rightMov g.movImg a m a' m') :
    ∃ kills points, Pass g kills points (done ++ [a']) rest m' := by
  have fits : (done ++ [a'] ++ rest).length = sizeOfAliens := by simpa using pass.fits
  have tally := pass.tally.visit pass.fits visit
  obtain ⟨⟨high, worth⟩, targets⟩ := List.forall_mem_cons.mp pass.targets
  cases visit with
  | skipped dead =>
      refine ⟨kills, points, fits, tally, pass.slots, pass.speeds, targets, fun menu => ?_,
        pass.hits, pass.count, pass.stands⟩
      exact (pass.survivor menu).imp_right (fun ⟨b, member, alive⟩ =>
        ⟨b, List.mem_append_left _ member, alive⟩)
  | missed heap _ alive place read grown misses =>
      have few : m.killCount ≠ sizeOfAliens := by
        have member : a ∈ done ++ a :: rest := List.mem_append_right done List.mem_cons_self
        have count := deadCount_lt_of_alive member alive
        have counted := pass.tally.counted
        rw [pass.fits] at count
        omega
      have same : ({ m.bullets with heap := heap } : ShipBullets).gun = m.bullets.gun :=
        gun_congr rfl read
      refine ⟨kills, points, fits, tally, ?_, ?_, targets, fun _ => .inr ⟨a', ?_, ?_⟩, ?_, ?_, ?_⟩
      · rw [settleAlien_bullets]
        exact pass.slots
      · rw [settleAlien_bullets]
        intro ref member
        change (heap.read ref).speed = _
        rw [read]
        exact pass.speeds ref member
      · exact List.mem_append_right _ (List.mem_singleton_self a')
      · rw [place]
        exact alive
      · rw [settleAlien_bullets]
        change Gun.Hits _ ({ m.bullets with heap := heap } : ShipBullets).gun _ _
        rw [same]
        exact pass.hits
      · rw [settleAlien_killCount]
        exact pass.count
      · exact settleAlien_stands cfg a' (m := (m.drawn g.rightMov g.movImg a').checked heap)
          pass.stands (pass.uncleared alive) (fun full => absurd full few)
  | killed heap ref moved alive place read grown member hit =>
      have shared' : m.bullets.Shared := shared.congr pass.slots
      have flies := gun_hit shared' member (pass.speeds ref member) (place ▸ high) hit
      obtain ⟨flew, none, nothing⟩ := pass.unspent flies
      have spent := killed_gun shared' member read
      have count := pass.count
      have stands := pass.stands
      rw [nothing] at stands
      have scored :
          ((m.drawn g.rightMov g.movImg moved).scored moved heap).Stands g moved.value := by
        obtain ⟨bullets, killCount, ship, speed, roundNum, gameState, changeDir, calls⟩ := m
        cases stands with
        | on _ counted same =>
            refine .on _ ?_ same
            rw [Int.add_zero] at counted
            change ship.score + moved.value = _
            rw [← counted]
        | cleared _ counted same => exact absurd rfl (pass.uncleared alive)
        | lost _ _ counted =>
            refine .lost _ _ (.inr ?_)
            change ship.score + moved.value = _
            rw [show ship.score = 0 from counted.elim id id, Int.zero_add]
      refine ⟨1, moved.value, fits, tally, ?_, ?_, targets, fun _ => .inl ?_, ?_, ?_, ?_⟩
      · rw [settleAlien_bullets]
        exact pass.slots
      · rw [settleAlien_bullets]
        exact killed_speeds pass.speeds member read
      · rw [settleAlien_bullets]
        exact spent
      · rw [settleAlien_bullets, flew]
        change Gun.Hits _ ({ m.bullets with heap := heap } : ShipBullets).gun _ _
        rw [spent]
        exact .one _ _ _ (place ▸ worth)
      · rw [settleAlien_killCount]
        change m.killCount + 1 = g.killCount + 1
        omega
      · refine settleAlien_stands cfg moved.kill scored (pass.uncleared alive) (fun full => ?_)
        refine (pass.stands.state (pass.uncleared alive)).resolve_right (fun menu => ?_)
        exact pass.kill_few menu (by rw [flies]; simp) alive full

theorem marchPass_pass (cfg : Config) {g : Game} (inv : GunInv g)
    (playing : g.gameState = .playing) :
    ∃ kills points, Gun.Hits g.bullets.gun (marchPass cfg g).2.bullets.gun kills points ∧
      (marchPass cfg g).2.killCount = g.killCount + kills ∧
      (marchPass cfg g).2.Stands g points := by
  have begins : ∃ kills points, Pass g kills points [] g.aliens.toList g.march := by
    refine ⟨0, 0, g.aliens.2, inv.wave (.inl playing), rfl, inv.speed, fun a member => ?_,
      fun menu => ?_, .none _, (Int.add_zero _).symm, ?_⟩
    · obtain ⟨i, rfl⟩ := (List.Vector.mem_iff_get a g.aliens).mp member
      exact ⟨(inv.formation.2 playing).1 i, (inv.formation.2 playing).2 i⟩
    · exact absurd (playing.symm.trans menu) (by decide)
    · have stands : Stands g.ship.score g.ship.lives g.roundNum 0 .playing g.ship g.roundNum :=
        .on _ (Int.add_zero _).symm rfl
      rwa [← playing] at stands
  obtain ⟨kills, points, pass⟩ := marchPass_rule cfg g
    (fun done todo m => ∃ kills points, Pass g kills points done todo m)
    (fun _ _ _ _ _ _ ⟨_, _, pass⟩ visit => pass.visit inv.shared visit) begins
  exact ⟨kills, points, pass.hits, pass.count, pass.stands⟩

/-- What a tick does to a wave in which the gun is `gun`. Before the pass the ship may lose a life
that is not its last one. -/
structure Ticked (g : Game) (gun : Gun) (kills points : Int) (after : Game) : Prop where
  hits : Gun.Hits gun after.bullets.gun kills points
  count : after.killCount = g.killCount + kills
  stands : ∃ lives, (lives = g.ship.lives ∨ lives = g.ship.lives - 1 ∧ lives ≠ 0) ∧
    Stands g.ship.score lives g.roundNum points after.gameState after.ship after.roundNum

theorem moveAliens_ticked (cfg : Config) {g : Game} (inv : GunInv g)
    (playing : g.gameState = .playing) :
    ∃ kills points, Gun.Hits g.bullets.gun (moveAliens cfg g).bullets.gun kills points ∧
      (moveAliens cfg g).killCount = g.killCount + kills ∧
      Stands g.ship.score g.ship.lives g.roundNum points (moveAliens cfg g).gameState
        (moveAliens cfg g).ship (moveAliens cfg g).roundNum := by
  rcases moveAliens_cases cfg g with ⟨_, same⟩ | ⟨_, movImg, frameCounter, same⟩
  · rw [same, playing]
    exact ⟨0, 0, .none _, (Int.add_zero _).symm, .on _ (Int.add_zero _).symm rfl⟩
  · rw [same]
    exact marchPass_pass cfg (g := { g with frameCounter := g.frameCounter + 1 })
      ⟨inv.wave, inv.formation, inv.ship, inv.shared, inv.allocated, inv.placed, inv.cleared⟩
      playing

theorem tick_ticked {g after : Game} (inv : GunInv g) (playing : g.gameState = .playing)
    (ends : TickEnd cfg g after) : ∃ kills points, Ticked g g.bullets.gun kills points after := by
  cases ends with
  | fired index idle alive =>
      obtain ⟨kills, points, hits, count, stands⟩ :=
        moveAliens_ticked cfg (g := fireAlienBullet cfg index g)
          ⟨inv.wave, inv.formation, inv.ship, inv.shared, inv.allocated, inv.placed, inv.cleared⟩
          playing
      exact ⟨kills, points, hits, count, _, .inl rfl, stands⟩
  | lost active dead =>
      obtain ⟨lives, still, calls, same⟩ := moveAlienBullet_eq g
      rw [same]
      exact ⟨0, 0, .none _, (Int.add_zero _).symm, _, .inl rfl, .lost _ _ (.inl rfl)⟩
  | flown active left =>
      have inv' : GunInv (moveAlienBullet g) := by
        obtain ⟨lives, still, calls, same⟩ := moveAlienBullet_eq g
        rw [same]
        exact ⟨inv.wave, inv.formation, ⟨inv.ship.speed, inv.ship.width, inv.ship.height,
          inv.ship.left, inv.ship.right, inv.ship.row⟩, inv.shared, inv.allocated, inv.placed,
          inv.cleared⟩
      have on : (moveAlienBullet g).gameState = .playing := by
        obtain ⟨lives, still, calls, same⟩ := moveAlienBullet_eq g
        rw [same]
        exact playing
      obtain ⟨kills, points, hits, count, stands⟩ := moveAliens_ticked cfg inv' on
      rcases moveAlienBullet_cases g with ⟨_, same⟩ | ⟨_, same⟩
      · rw [same] at left hits count stands ⊢
        exact ⟨kills, points, hits, count, _, .inr ⟨rfl, left⟩, stands⟩
      · rw [same] at hits count stands ⊢
        exact ⟨kills, points, hits, count, _, .inl rfl, stands⟩

theorem timerMove_ticked {seen : Mouse → Prop} {before after : Game} (inv : GunInv before)
    (playing : before.gameState = .playing) (move : TimerMove cfg seen before after) :
    ∃ kills points, Ticked before before.bullets.gun.rise kills points after := by
  cases move with
  | count made menus still => exact absurd playing still.1
  | tick _ inputs _ ends =>
      obtain ⟨framed, risen⟩ := drawFrame_gun cfg inputs inv playing
      obtain ⟨kills, points, hits, count, stands⟩ := tick_ticked framed playing ends
      rw [risen] at hits
      exact ⟨kills, points, hits, count, stands⟩
  | nextRound cleared => rw [playing] at cleared; cases cleared

theorem timerMove_idle {seen : Mouse → Prop} {before after : Game}
    (idle : before.gameState ≠ .playing) (move : TimerMove cfg seen before after) :
    after.bullets = before.bullets ∧ after.ship = before.ship := by
  cases move with
  | count made menus still => exact ⟨rfl, rfl⟩
  | tick _ inputs playing ends => exact absurd playing idle
  | nextRound cleared => exact ⟨rfl, rfl⟩

theorem menuPacket_bullets (w : World) : (menuPacket cfg w).game.bullets = w.game.bullets := by
  unfold menuPacket
  dsimp only
  split
  · split <;> rfl
  · rfl

theorem instructionsPacket_bullets (w : World) :
    (instructionsPacket cfg w).game.bullets = w.game.bullets := by
  unfold instructionsPacket
  dsimp only
  split <;> rfl

theorem handlePacket_bullets {w : World}
    (quiet : w.game.gameState = .playing → w.mouse.lbPressed = false) :
    (handlePacket cfg w).game.bullets = w.game.bullets := by
  unfold handlePacket
  split
  · exact menuPacket_bullets w
  · exact instructionsPacket_bullets w
  · rename_i playing
    rw [playingPacket, quiet playing, if_neg Bool.false_ne_true]
  · rfl
  · rfl

theorem keyboardPart_bullets (inputs : Inputs) (w : World) :
    (keyboardPart inputs w).world.game.bullets = w.game.bullets := by
  unfold keyboardPart
  dsimp only
  split
  · rfl
  · split
    · rfl
    · split <;> rfl

theorem mousePart_bullets {interrupts : BitVec 64} {inputs : Inputs} {w : World}
    (bit : interrupts &&& mouseBit ≠ 0) (quiet : ¬ ShootClick w (.hardware interrupts inputs)) :
    (mousePart cfg inputs w).world.game.bullets = w.game.bullets := by
  unfold mousePart
  dsimp only
  split
  · rfl
  · rename_i fine
    split
    · split <;> rfl
    · split
      · rfl
      · split
        · rename_i third
          refine handlePacket_bullets (w := decodePacket _ (readMouse inputs w)) ?_
          intro playing
          by_contra pressed
          exact quiet ⟨bit, Bool.eq_false_of_not_eq_true fine, third, playing,
            Bool.eq_true_of_not_eq_false pressed⟩
        · rfl

theorem afterInput_bullets {w : World} {message : Message} (quiet : ¬ ShootClick w message) :
    (afterInput cfg w message).bullets = w.game.bullets := by
  cases message with
  | failedReceive => rfl
  | notFromHardware => rfl
  | hardware interrupts inputs =>
      have mouse : ((Flow.next w.clear).part interrupts mouseBit
          (mousePart cfg inputs)).world.game.bullets = w.game.bullets := by
        unfold Flow.part
        dsimp only
        split
        · rename_i bit
          exact mousePart_bullets (w := w.clear) bit quiet
        · rfl
      change (inputParts cfg interrupts inputs w.clear).world.game.bullets = _
      unfold inputParts
      cases flow : (Flow.next w.clear).part interrupts mouseBit (mousePart cfg inputs) with
      | leave v =>
          rw [flow] at mouse
          exact mouse
      | next v =>
          rw [flow] at mouse
          unfold Flow.part
          dsimp only
          split
          · exact (keyboardPart_bullets inputs v).trans mouse
          · exact mouse

theorem handlePacket_shot {w : World} (playing : w.game.gameState = .playing)
    (pressed : w.mouse.lbPressed = true) :
    (handlePacket cfg w).game.bullets = (shoot cfg w.game).bullets := by
  unfold handlePacket
  rw [playing]
  dsimp only
  rw [playingPacket, if_pos pressed]

/-- A click that shoots calls `createShipBullet` once, with the ship where it is. -/
theorem afterInput_shot {w : World} {message : Message} (click : ShootClick w message) :
    (afterInput cfg w message).bullets = (shoot cfg w.game).bullets := by
  cases message with
  | failedReceive => cases click
  | notFromHardware => cases click
  | hardware interrupts inputs =>
      obtain ⟨bit, fine, third, playing, pressed⟩ := click
      have clean : ¬ (mouseIh inputs.mouse w.clear.mouseGlobals).ihError = true := by
        change ¬ (readMouse inputs w).mouseGlobals.ihError = true
        rw [fine]
        decide
      have mouse : (Flow.next w.clear).part interrupts mouseBit (mousePart cfg inputs) =
          .next (handlePacket cfg (decodePacket
            (mouseIh inputs.mouse w.clear.mouseGlobals).scancode (readMouse inputs w.clear))) := by
        unfold Flow.part
        exact (if_pos bit).trans (mousePart_third cfg inputs w.clear clean third)
      have shot : (handlePacket cfg (decodePacket
          (mouseIh inputs.mouse w.clear.mouseGlobals).scancode
            (readMouse inputs w.clear))).game.bullets = (shoot cfg w.game).bullets :=
        handlePacket_shot playing pressed
      change (inputParts cfg interrupts inputs w.clear).world.game.bullets = _
      unfold inputParts
      rw [mouse]
      unfold Flow.part
      dsimp only
      split
      · exact (keyboardPart_bullets inputs _).trans shot
      · exact shot

def World.shot (w : World) (message : Message) : Option Int :=
  if ShootClick w message then some (w.game.ship.x + (w.game.ship.img.width / 2 : Nat)) else none

def gunLabel (cfg : Config) (w : World) (message : Message) (v : World) : Gun.Label :=
  if reachesTimer cfg w message = true ∧ (afterInput cfg w message).gameState = .playing then
    .tick (w.shot message) (decide (v.game.gameState = .menuDisplay))
  else .input (w.shot message)

def Game.gun (g : Game) : Gun × Int := (g.bullets.gun, g.ship.score)

theorem afterInput_gun {w after : World} {message : Message} (inv : GunInv w.game)
    (stepped : gameStep cfg w message = some after) :
    GunInv (afterInput cfg w message) ∧
      (afterInput cfg w message).bullets.gun = w.game.bullets.gun.loaded (w.shot message) ∧
      (afterInput cfg w message).ship.score = w.game.ship.score := by
  have moves := (gameStep_input stepped).1
  have cleared : GunInv w.clear.game :=
    ⟨inv.wave, inv.formation, inv.ship, inv.shared, inv.allocated, inv.placed, inv.cleared⟩
  refine ⟨moves.invariant GunInv (fun _ _ inv move => inputMove_gun inv move) cleared, ?_, ?_⟩
  · unfold World.shot
    split
    · rename_i click
      have row := inv.ship.row
      rw [afterInput_shot click]
      change (createShipBullet _ w.game.ship.y shipBulletSpeed _ w.game.bullets).gun = _
      rw [createShipBullet_gun inv.shared inv.allocated _ _ _ (by rw [row]; decide), row]
      rfl
    · rename_i quiet
      rw [afterInput_bullets quiet]
      rfl
  · refine moves.invariant (fun g => g.ship.score = w.game.ship.score) ?_ rfl
    intro before after same move
    cases move with
    | steer key playing => exact (updateShipPosition_score before.ship key).trans same
    | _ => exact same

theorem Ticked.moves {g after : Game} {gun : Gun} {kills points : Int} {shot : Option Int}
    (ticked : Ticked g (gun.loaded shot).rise kills points after) :
    Gun.Moves (.tick shot (decide (after.gameState = .menuDisplay))) (gun, g.ship.score)
      after.gun := by
  obtain ⟨lives, _, stands⟩ := ticked.stands
  rw [Game.gun]
  generalize after.gameState = gameState, after.ship = ship, after.roundNum = next at stands ⊢
  cases stands with
  | on ship counted =>
      rw [counted]
      exact .tick shot gun _ _ kills points ticked.hits
  | cleared ship counted =>
      rw [counted]
      exact .tick shot gun _ _ kills points ticked.hits
  | lost ship next counted => exact .lost shot gun _ _ _ kills points ticked.hits counted

theorem gameLoop_refines (cfg : Config) :
    (gameLoop cfg).Refines (fun w => GunInv w.game) (fun w => w.game.gun) (gunLabel cfg)
      Gun.Moves := by
  intro w message after inv stepped
  obtain ⟨entered, loaded, same⟩ := afterInput_gun inv stepped
  have ticks := (gameStep_input stepped).2
  have idle : after.game.bullets = (afterInput cfg w message).bullets →
      after.game.ship.score = (afterInput cfg w message).ship.score →
      Gun.Moves (.input (w.shot message)) w.game.gun after.game.gun := by
    intro bullets score
    rw [Game.gun, Game.gun, bullets, score, loaded, same]
    exact .input _ _ _
  unfold gunLabel
  cases timer : reachesTimer cfg w message with
  | false =>
      rw [timer, if_neg Bool.false_ne_true] at ticks
      rw [if_neg (fun ⟨ticked, _⟩ => Bool.false_ne_true ticked)]
      have kept : GunInv after.game := by
        rw [ticks]
        exact entered
      exact ⟨kept, idle (by rw [ticks]) (by rw [ticks])⟩
  | true =>
      rw [timer, if_pos rfl] at ticks
      refine ⟨timerMove_gun entered ticks, ?_⟩
      by_cases playing : (afterInput cfg w message).gameState = .playing
      · rw [if_pos ⟨rfl, playing⟩]
        obtain ⟨kills, points, ticked⟩ := timerMove_ticked entered playing ticks
        rw [loaded] at ticked
        have move := ticked.moves
        rwa [same] at move
      · rw [if_neg (fun ⟨_, on⟩ => playing on)]
        obtain ⟨bullets, ship⟩ := timerMove_idle playing ticks
        exact idle bullets (by rw [ship])

/-- A missed shot is the last one, as `malloc` never hands out the block of a bullet that was freed:
from then on no shot is kept, no wave is cleared and the score does not grow, in this game and in
all games after it. -/
theorem missed_shot_is_last (cfg : Config) {w v : World} (reached : (gameLoop cfg).Reachable w)
    (jammed : w.game.bullets.gun = .jammed) (run : (gameLoop cfg).Run (fun _ _ => True) w v) :
    v.game.bullets.gun = .jammed ∧ v.game.gameState ≠ .nextRound ∧
      (v.game.ship.score = w.game.ship.score ∨ v.game.ship.score = 0) := by
  obtain ⟨labels, path⟩ := run.labelled (gunLabel cfg)
  obtain ⟨inv, moves⟩ := (gameLoop_refines cfg).run (gunInv_reachable reached) path
  rw [Game.gun, jammed] at moves
  obtain ⟨stuck, points⟩ := Gun.jammed_moves moves
  refine ⟨stuck, fun cleared => ?_, points⟩
  have ready := inv.cleared cleared
  rw [show v.game.bullets.gun = .jammed from stuck] at ready
  cases ready

/-- A shot from the right border misses the first wave. -/
theorem missed_shot_is_last_first_game : ∃ w v, (gameLoop sampleConfig).Reachable w ∧
    gameStep sampleConfig w (timerTick [3]) = some v ∧ v.game.bullets.gun = .jammed ∧
    v.game.gameState ≠ .nextRound := by
  obtain ⟨w, reached, jammed, ticked⟩ := reachable_of_played
    (clickStart ++ List.replicate 28 (keyByte 0x20) ++ clickShoot ++
      List.replicate 23 (timerTick [3]))
    (fun w => w.game.bullets.gun = .jammed ∧
      (gameStep sampleConfig w (timerTick [3])).isSome = true)
    (by decide +kernel)
  obtain ⟨v, moved⟩ := Option.isSome_iff_exists.mp ticked
  have later := missed_shot_is_last sampleConfig reached jammed
    (.single ⟨timerTick [3], trivial, moved⟩)
  exact ⟨w, v, reached, moved, later.1, later.2.1⟩

end Lcom.Proj
