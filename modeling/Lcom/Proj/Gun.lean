import Lcom.Proj.Deadline
import Lcom.Proj.Placement
import Lcom.Proj.Slots

/-! The gun of the ship. The seven slots of `shipBullets` always refer to the same bullet, so there
is one bullet at a time, and one that has left at the top is never replaced. -/

namespace Lcom.Proj

open Lcom.Lib

inductive Gun where
  | ready
  | flying (x y : Int)
  | jammed
  deriving DecidableEq, Repr

namespace Gun

def shoot (x y : Int) : Gun → Gun
  | ready => flying x y
  | gun => gun

def rise : Gun → Gun
  | flying x y => if 32 ≤ y then flying x (y - 28) else jammed
  | gun => gun

def Worth (points : Int) : Prop := points = 10 ∨ points = 20 ∨ points = 30

end Gun

/-- A bullet in all slots. One that cannot rise any more is out of reach of the aliens. -/
def ShipBullet.gun (bullet : ShipBullet) : Gun :=
  if bullet.hitAlien then .ready
  else if bullet.y < bullet.speed then .jammed
  else .flying bullet.x bullet.y

def ShipBullets.gun (bullets : ShipBullets) : Gun :=
  match bullets.slots.get 0 with
  | none => .ready
  | some ref => (bullets.heap.read ref).gun

section Operations

variable {bullets : ShipBullets}

theorem ShipBullets.Shared.congr {other : ShipBullets} (shared : bullets.Shared)
    (slots : other.slots = bullets.slots) : other.Shared := by
  obtain ⟨slot, same⟩ := shared
  exact ⟨slot, by rw [slots, same]⟩

theorem ShipBullets.Shared.get (shared : bullets.Shared) {ref : Ref}
    (member : some ref ∈ bullets.slots.toList) :
    bullets.slots.toList = List.replicate maxShipBullets (some ref) ∧
      bullets.slots.get 0 = some ref := by
  obtain ⟨slot, same⟩ := shared
  have first : bullets.slots.get 0 ∈ bullets.slots.toList := List.Vector.get_mem 0 bullets.slots
  rw [same] at member first ⊢
  rw [List.eq_of_mem_replicate member, List.eq_of_mem_replicate first]
  exact ⟨rfl, rfl⟩

theorem gun_of_mem (shared : bullets.Shared) {ref : Ref}
    (member : some ref ∈ bullets.slots.toList) :
    bullets.gun = (bullets.heap.read ref).gun := by
  rw [ShipBullets.gun, (shared.get member).2]

theorem gun_cases (bullets : ShipBullets) :
    (bullets.slots.get 0 = none ∧ bullets.gun = .ready) ∨
      ∃ ref, some ref ∈ bullets.slots.toList ∧ bullets.gun = (bullets.heap.read ref).gun := by
  have first : bullets.slots.get 0 ∈ bullets.slots.toList := List.Vector.get_mem 0 bullets.slots
  rw [ShipBullets.gun]
  cases slot : bullets.slots.get 0 with
  | none => exact .inl ⟨rfl, rfl⟩
  | some ref => exact .inr ⟨ref, slot ▸ first, rfl⟩

theorem gun_congr {other : ShipBullets} (slots : other.slots = bullets.slots)
    (read : other.heap.read = bullets.heap.read) : other.gun = bullets.gun := by
  rw [ShipBullets.gun, ShipBullets.gun, slots, read]

theorem createShipBullet_gun (shared : bullets.Shared) (allocated : bullets.Allocated) (x y : Int)
    (img : XpmImage) (low : shipBulletSpeed ≤ y) :
    (createShipBullet x y shipBulletSpeed img bullets).gun = bullets.gun.shoot x y := by
  have slots := createShipBullet_slots x y shipBulletSpeed img bullets
  have after := createShipBullet_shared x y shipBulletSpeed img shared
  have loaded (found : some bullets.heap.next ∈
      (createShipBullet x y shipBulletSpeed img bullets).slots.toList) :
      (createShipBullet x y shipBulletSpeed img bullets).gun = .flying x y := by
    rw [gun_of_mem after found, createShipBullet_read, Function.update_self, ShipBullet.gun,
      if_neg Bool.false_ne_true, if_neg (not_lt.mpr low)]
  rcases gun_cases bullets with ⟨empty, ready⟩ | ⟨ref, member, same⟩
  · rw [ready]
    refine loaded ((createShipBullet_stored shared allocated x y _ img).mpr ?_)
    intro ref member
    rw [(shared.get member).2] at empty
    cases empty
  · have old : ref ≠ bullets.heap.next := (allocated ref member).ne
    cases spent : (bullets.heap.read ref).hitAlien with
    | true =>
        rw [same, ShipBullet.gun, if_pos spent]
        refine loaded ((createShipBullet_stored shared allocated x y _ img).mpr ?_)
        intro other also
        have equal := (shared.get also).2.symm.trans (shared.get member).2
        rwa [Option.some.inj equal]
    | false =>
        have kept : some ref ∈ (createShipBullet x y shipBulletSpeed img bullets).slots.toList := by
          rw [slots]
          refine List.mem_map.mpr ⟨_, member, ?_⟩
          rw [reuseSlot, Function.update_of_ne old, if_neg (by rw [spent]; decide)]
        have busy : ∀ bullet : ShipBullet, bullet.hitAlien = false →
            bullet.gun.shoot x y = bullet.gun := by
          intro bullet flying
          rw [ShipBullet.gun, if_neg (by rw [flying]; decide)]
          split <;> rfl
        rw [gun_of_mem after kept, createShipBullet_read, Function.update_of_ne old, same,
          busy _ spent]

theorem moveBullet_stuck (moves : Nat) (bullet : ShipBullet) (fresh : bullet.hitAlien = false)
    (speed : bullet.speed = shipBulletSpeed) (short : bullet.y < 4 * (moves + 1)) :
    (moveBullet^[moves] bullet).gun = .jammed := by
  simp only [shipBulletSpeed] at speed
  have unspent : ¬ bullet.hitAlien = true := by
    rw [fresh]
    decide
  induction moves generalizing bullet with
  | zero => rw [Function.iterate_zero_apply, ShipBullet.gun, if_neg unspent, if_pos (by omega)]
  | succ moves ih =>
      rw [Function.iterate_succ_apply, moveBullet, if_neg unspent]
      push_cast at short
      split
      · exact ih _ fresh speed (by dsimp only; omega) unspent
      · exact ih _ fresh speed (by omega) unspent

theorem moveBullet_seven (bullet : ShipBullet) (speed : bullet.speed = shipBulletSpeed) :
    (moveBullet^[7] bullet).gun = bullet.gun.rise := by
  cases spent : bullet.hitAlien with
  | true =>
      have still : moveBullet bullet = bullet := if_pos spent
      rw [Function.iterate_fixed still, ShipBullet.gun, if_pos spent]
      rfl
  | false =>
      have unspent : ¬ bullet.hitAlien = true := by
        rw [spent]
        decide
      by_cases short : bullet.y < 32
      · rw [moveBullet_stuck 7 bullet spent speed (by push_cast; omega), ShipBullet.gun,
          if_neg unspent]
        split
        · rfl
        · rw [Gun.rise, if_neg (not_le.mpr short)]
      · simp only [shipBulletSpeed] at speed
        rw [moveBullet_iterate 7 bullet spent (by omega) (by rw [speed]; push_cast; omega)]
        simp only [ShipBullet.gun, speed]
        push_cast
        rw [if_neg unspent, if_neg unspent, if_neg (by omega), if_neg (by omega), Gun.rise,
          if_pos (by omega)]

theorem updateShipBulletPosition_gun (shared : bullets.Shared)
    (speed : bullets.All (fun bullet => bullet.speed = shipBulletSpeed)) :
    (updateShipBulletPosition bullets).gun = bullets.gun.rise := by
  have slots : (updateShipBulletPosition bullets).slots = bullets.slots := rfl
  rcases gun_cases bullets with ⟨empty, ready⟩ | ⟨ref, member, same⟩
  · rw [ready, ShipBullets.gun, slots, empty]
    rfl
  · have moved : (updateShipBulletPosition bullets).heap.read ref =
        moveBullet^[7] (bullets.heap.read ref) := by
      change (bullets.slots.toList.foldl moveSlot bullets.heap).read ref = _
      rw [foldl_moveSlot_count, (shared.get member).1, List.count_replicate_self]
    have after : (updateShipBulletPosition bullets).gun =
        ((updateShipBulletPosition bullets).heap.read ref).gun :=
      gun_of_mem (shared.congr slots) member
    rw [after, moved, same]
    exact moveBullet_seven _ (speed ref member)

theorem gun_hit (shared : bullets.Shared) {ref : Ref} (member : some ref ∈ bullets.slots.toList)
    (speed : (bullets.heap.read ref).speed = shipBulletSpeed) {a : Alien} (below : 20 ≤ a.y)
    (hit : AlienHit a (bullets.heap.read ref)) :
    bullets.gun = .flying (bullets.heap.read ref).x (bullets.heap.read ref).y := by
  obtain ⟨_, _, high, _, fresh⟩ := hit
  simp only [shipBulletSpeed] at speed
  rw [gun_of_mem shared member, ShipBullet.gun, if_neg (by rw [fresh]; decide),
    if_neg (by omega)]

end Operations

def Targets (aliens : Aliens) : Prop := Below aliens ∧ ∀ i, Gun.Worth (aliens.get i).value

theorem initAliens_targets (cfg : Config) : Targets (initAliens cfg) := by
  refine ⟨initAliens_below cfg, fun i => ?_⟩
  rw [initAliens_get, gridAlien]
  split
  · exact .inr (.inr rfl)
  · split
    · exact .inr (.inl rfl)
    · exact .inl rfl

theorem marchAliens_targets (cfg : Config) (g : Game) (targets : Targets g.aliens)
    (playing : (marchAliens cfg g).gameState = .playing) : Targets (marchAliens cfg g).aliens := by
  refine ⟨marchAliens_below cfg g targets.1 playing, fun i => ?_⟩
  obtain ⟨after, marched, place⟩ := marchAliens_get cfg g playing i
  rw [place]
  change Gun.Worth after.value
  rw [marched.value_eq]
  exact targets.2 i

structure GunInv (g : Game) : Prop where
  wave : WaveInv g
  formation : FormationInv (fun aliens _ _ _ => Targets aliens) g
  ship : ShipPlace g.ship
  shared : g.bullets.Shared
  allocated : g.bullets.Allocated
  placed : g.bullets.All ShipBulletPlace
  cleared : g.gameState = .nextRound → g.bullets.gun = .ready

theorem GunInv.speed {g : Game} (inv : GunInv g) :
    g.bullets.All (fun bullet => bullet.speed = shipBulletSpeed) :=
  fun ref member => (inv.placed ref member).speed

theorem killed_gun {bullets : ShipBullets} (shared : bullets.Shared) {heap : Heap ShipBullet}
    {ref : Ref} (member : some ref ∈ bullets.slots.toList)
    (read : heap.read = Function.update bullets.heap.read ref
      { bullets.heap.read ref with hitAlien := true }) :
    ({ bullets with heap := heap } : ShipBullets).gun = .ready := by
  have still : ({ bullets with heap := heap } : ShipBullets).Shared := shared.congr rfl
  have after : ({ bullets with heap := heap } : ShipBullets).gun = (heap.read ref).gun :=
    gun_of_mem still member
  rw [after, read, Function.update_self, ShipBullet.gun, if_pos rfl]

theorem killed_speeds {bullets : ShipBullets} {heap : Heap ShipBullet} {ref : Ref}
    (speeds : bullets.All (fun bullet => bullet.speed = shipBulletSpeed))
    (member : some ref ∈ bullets.slots.toList)
    (read : heap.read = Function.update bullets.heap.read ref
      { bullets.heap.read ref with hitAlien := true }) :
    ({ bullets with heap := heap } : ShipBullets).All
      (fun bullet => bullet.speed = shipBulletSpeed) := by
  intro other also
  change (heap.read other).speed = _
  rw [read]
  by_cases equal : other = ref
  · subst other
    rw [Function.update_self]
    exact speeds ref member
  · rw [Function.update_of_ne equal]
    exact speeds other also

/-- The alien where a pass draws it and checks it for a hit, as long as the game goes on. -/
def Game.advanced (g : Game) (a : Alien) : Alien := advanceAlien g.rightMov g.movImg g.speed a

def Struck (g : Game) : Prop :=
  ∃ a ∈ g.aliens.toList, a.alive = true ∧ ∃ ref, some ref ∈ g.bullets.slots.toList ∧
    AlienHit (g.advanced a) (g.bullets.heap.read ref)

def Turning (g : Game) : Prop :=
  ∃ a ∈ g.aliens.toList, a.alive = true ∧ AtBorder g.rightMov (g.advanced a)

/-- A part of the loop over the aliens: the bullet of the gun is spent at the first hit. -/
structure PassKills (g : Game) (todo : List Alien) (m : March) : Prop where
  slots : m.bullets.slots = g.bullets.slots
  next : m.bullets.heap.next = g.bullets.heap.next
  aliens : ∀ a ∈ todo, a ∈ g.aliens.toList ∧ 20 ≤ a.y
  speeds : m.bullets.All (fun bullet => bullet.speed = shipBulletSpeed)
  speed : m.gameState = .playing → m.speed = g.speed
  turned : m.gameState = .playing → m.changeDir = true → Turning g
  kills : (m.killCount = g.killCount ∧ m.bullets.heap.read = g.bullets.heap.read) ∨
    m.killCount = g.killCount + 1 ∧ (m.bullets.gun = .ready ∧ ∃ x y, g.bullets.gun = .flying x y) ∧
      (m.gameState = .playing → Struck g)

@[simp] theorem settleAlien_killCount (cfg : Config) (a : Alien) (m : March) :
    (settleAlien cfg a m).killCount = m.killCount := by
  unfold settleAlien
  split
  · rfl
  · split <;> rfl

theorem PassKills.visit {g : Game} {a a' : Alien} {rest : List Alien} {m m' : March}
    (shared : g.bullets.Shared) (pass : PassKills g (a :: rest) m)
    (visit : Visit cfg g.rightMov g.movImg a m a' m') : PassKills g rest m' := by
  obtain ⟨slots, next, aliens, speeds, speed, turned, kills⟩ := pass
  obtain ⟨⟨inside, below⟩, left⟩ := List.forall_mem_cons.mp aliens
  -- the direction while the game goes on
  have turn : ∀ {moved : Alien}, a.alive = true →
      moved = advanceAlien g.rightMov g.movImg m.speed a → m.gameState = .playing →
      (m.changeDir || decide (AtBorder g.rightMov moved)) = true → Turning g := by
    intro moved alive place playing changed
    rcases Bool.or_eq_true_iff.mp changed with before | here
    · exact turned playing before
    · rw [place, speed playing] at here
      exact ⟨a, inside, alive, of_decide_eq_true here⟩
  cases visit with
  | skipped dead => exact ⟨slots, next, left, speeds, speed, turned, kills⟩
  | missed heap _ alive place read grown misses =>
      have same : ({ m.bullets with heap := heap } : ShipBullets).gun = m.bullets.gun :=
        gun_congr rfl read
      refine ⟨?_, ?_, left, ?_, ?_, ?_, ?_⟩
      · rw [settleAlien_bullets]
        exact slots
      · rw [settleAlien_bullets]
        exact grown.trans next
      · rw [settleAlien_bullets]
        intro ref member
        change (heap.read ref).speed = _
        rw [read]
        exact speeds ref member
      · intro playing
        obtain ⟨settled, _⟩ := settleAlien_playing cfg _ _ playing
        rw [settled] at playing ⊢
        exact speed playing
      · intro playing
        obtain ⟨settled, _⟩ := settleAlien_playing cfg _ _ playing
        rw [settled] at playing ⊢
        exact turn alive place playing
      · rw [settleAlien_bullets, settleAlien_killCount]
        refine kills.imp (fun ⟨count, still⟩ => ⟨count, read.trans still⟩) ?_
        rintro ⟨count, ⟨ready, flown⟩, struck⟩
        refine ⟨count, ⟨same.trans ready, flown⟩, fun playing => ?_⟩
        obtain ⟨settled, _⟩ := settleAlien_playing cfg _ _ playing
        rw [settled] at playing
        exact struck playing
  | killed heap ref moved alive place read grown member hit =>
      have sharing : m.bullets.Shared := shared.congr slots
      have spent := killed_gun sharing member read
      have flies := gun_hit sharing member (speeds ref member) (by rw [place]; exact below) hit
      -- the bullet was not spent before
      obtain ⟨count, still⟩ : m.killCount = g.killCount ∧
          m.bullets.heap.read = g.bullets.heap.read := by
        refine kills.resolve_right (fun ⟨_, ready, _⟩ => ?_)
        cases ready.1.symm.trans flies
      refine ⟨?_, ?_, left, ?_, ?_, ?_, .inr ⟨?_, ?_, ?_⟩⟩
      · rw [settleAlien_bullets]
        exact slots
      · rw [settleAlien_bullets]
        exact grown.trans next
      · rw [settleAlien_bullets]
        exact killed_speeds speeds member read
      · intro playing
        obtain ⟨settled, _⟩ := settleAlien_playing cfg _ _ playing
        rw [settled] at playing ⊢
        exact speed playing
      · intro playing
        obtain ⟨settled, _⟩ := settleAlien_playing cfg _ _ playing
        rw [settled] at playing ⊢
        exact turn alive place playing
      · rw [settleAlien_killCount, ← count]
        rfl
      · rw [settleAlien_bullets]
        exact ⟨spent, _, _, (gun_congr slots still).symm.trans flies⟩
      · intro playing
        obtain ⟨settled, _⟩ := settleAlien_playing cfg _ _ playing
        rw [settled] at playing
        rw [place, speed playing, still] at hit
        exact ⟨a, inside, alive, ref, slots ▸ member, hit⟩

theorem marchPass_kills (cfg : Config) {g : Game} (inv : GunInv g)
    (playing : g.gameState = .playing) : PassKills g [] (marchPass cfg g).2 := by
  refine marchPass_rule cfg g (fun _ todo m => PassKills g todo m)
    (fun _ _ _ _ _ _ pass visit => pass.visit inv.shared visit) ?_
  refine ⟨rfl, rfl, ?_, inv.speed, fun _ => rfl, nofun, .inl ⟨rfl, rfl⟩⟩
  intro a member
  obtain ⟨i, rfl⟩ := (List.Vector.mem_iff_get a g.aliens).mp member
  exact ⟨member, (inv.formation.2 playing).1 i⟩

theorem PassKills.gun {g : Game} {todo : List Alien} {m : March} (pass : PassKills g todo m) :
    m.bullets.gun = g.bullets.gun ∨ m.bullets.gun = .ready :=
  pass.kills.imp (fun same => gun_congr pass.slots same.2) (fun killed => killed.2.1.1)

theorem marchPass_cleared_hit (cfg : Config) {g : Game} (inv : GunInv g)
    (playing : g.gameState = .playing) (cleared : (marchPass cfg g).2.gameState = .nextRound) :
    (marchPass cfg g).2.bullets.gun = .ready ∧ ∃ x y, g.bullets.gun = .flying x y := by
  have tally := inv.wave (.inl playing)
  have few := tally.playing playing
  have full := (marchPass_tally cfg g tally).cleared cleared
  rcases (marchPass_kills cfg inv playing).kills with ⟨count, _⟩ | ⟨_, hit, _⟩
  · omega
  · exact hit

theorem moveAliens_gun (cfg : Config) (g : Game) (inv : GunInv g) (playing : g.gameState = .playing) :
    GunInv (moveAliens cfg g) ∧
      ((moveAliens cfg g).bullets.gun = g.bullets.gun ∨
        (moveAliens cfg g).bullets.gun = .ready) := by
  have wave : WaveInv (moveAliens cfg g) := fun _ =>
    moveAliens_keeps cfg g (fun g => Tally g.gameState g.killCount g.aliens.toList)
      (fun _ _ _ _ _ tally => tally) (marchAliens_wave cfg) (inv.wave (.inl playing))
  have formation : FormationInv (fun aliens _ _ _ => Targets aliens) (moveAliens cfg g) :=
    moveAliens_formation (fun g targets after => marchAliens_targets cfg g targets after) g
      inv.formation.1.1 playing (inv.formation.2 playing)
  have ship := moveAliens_shipPlace cfg g inv.ship
  have placed := moveAliens_bulletPlace cfg g inv.placed
  rcases moveAliens_cases cfg g with ⟨_, same⟩ | ⟨_, movImg, frameCounter, same⟩
  · rw [same]
    exact ⟨inv, .inl rfl⟩
  · rw [same] at wave formation ship placed ⊢
    have inv' : GunInv { g with frameCounter := g.frameCounter + 1 } :=
      ⟨inv.wave, inv.formation, inv.ship, inv.shared, inv.allocated, inv.placed, inv.cleared⟩
    have pass := marchPass_kills cfg inv' playing
    refine ⟨⟨wave, formation, ship, inv.shared.congr pass.slots, ?_, placed, ?_⟩, pass.gun⟩
    · intro ref member
      change some ref ∈
        (marchPass cfg { g with frameCounter := g.frameCounter + 1 }).2.bullets.slots.toList at member
      rw [pass.slots] at member
      exact Nat.lt_of_lt_of_eq (inv.allocated ref member) pass.next.symm
    · exact fun cleared => (marchPass_cleared_hit cfg inv' playing cleared).1

theorem inputMove_gun {cfg : Config} {seen : Mouse → Prop} {started : Prop} {before after : Game}
    (inv : GunInv before) (move : InputMove cfg seen started before after) : GunInv after := by
  have wave := inputMove_wave inv.wave move
  have formation := inputMove_formation (fun _ _ _ => initAliens_targets cfg) inv.formation move
  cases move with
  | shoot playing =>
      exact ⟨wave, formation, inv.ship, createShipBullet_shared _ _ _ _ inv.shared,
        createShipBullet_allocated _ _ _ _ inv.allocated,
        createShipBullet_all _ _ _ _ inv.placed (shot_place cfg inv.ship),
        fun cleared => absurd (playing.symm.trans cleared) (by decide)⟩
  | steer key playing =>
      exact ⟨wave, formation, updateShipPosition_place inv.ship key, inv.shared, inv.allocated,
        inv.placed, inv.cleared⟩
  | menuCalls made menus =>
      exact ⟨wave, formation, inv.ship, inv.shared, inv.allocated, inv.placed, inv.cleared⟩
  | instructions menu =>
      exact ⟨wave, formation, inv.ship, inv.shared, inv.allocated, inv.placed, by simp⟩
  | menu instructions =>
      exact ⟨wave, formation, inv.ship, inv.shared, inv.allocated, inv.placed, by simp⟩
  | exit => exact ⟨wave, formation, inv.ship, inv.shared, inv.allocated, inv.placed, by simp⟩
  | start menu click =>
      exact ⟨wave, formation, inv.ship, inv.shared, inv.allocated, inv.placed, by simp [initGame]⟩

theorem drawFrame_gun (cfg : Config) (inputs : Inputs) {g : Game} (inv : GunInv g)
    (playing : g.gameState = .playing) :
    GunInv (drawFrame cfg inputs (timerIntHandler g)) ∧
      (drawFrame cfg inputs (timerIntHandler g)).bullets.gun = g.bullets.gun.rise := by
  have risen := updateShipBulletPosition_gun inv.shared inv.speed
  have drawn : (drawShipBullets (updateShipBulletPosition g.bullets)).gun =
      (updateShipBulletPosition g.bullets).gun := gun_congr rfl drawShipBullets_read
  refine ⟨⟨inv.wave, inv.formation, inv.ship, inv.shared, ?_, ?_, ?_⟩, drawn.trans risen⟩
  · exact drawShipBullets_allocated (updateShipBulletPosition_allocated inv.allocated)
  · exact drawShipBullets_all (updateShipBulletPosition_all (fun _ place => moveBullet_place place)
      inv.placed)
  · intro cleared
    exact absurd (playing.symm.trans cleared) (by decide)

theorem tick_gun {cfg : Config} {g after : Game} (inv : GunInv g) (playing : g.gameState = .playing)
    (ends : TickEnd cfg g after) :
    GunInv after ∧ (after.bullets.gun = g.bullets.gun ∨ after.bullets.gun = .ready) := by
  cases ends with
  | fired index idle alive =>
      have inv' : GunInv (fireAlienBullet cfg index g) :=
        ⟨inv.wave, inv.formation, inv.ship, inv.shared, inv.allocated, inv.placed, inv.cleared⟩
      exact moveAliens_gun cfg _ inv' playing
  | lost active dead =>
      obtain ⟨lives, still, calls, same⟩ := moveAlienBullet_eq g
      rw [same]
      refine ⟨⟨?_, ⟨⟨le_refl _, fun _ => rfl⟩, ?_⟩, newShip_place cfg, inv.shared, inv.allocated,
        inv.placed, ?_⟩, .inl rfl⟩
      · rintro (playing | cleared) <;> contradiction
      · intro playing
        cases playing
      · intro cleared
        cases cleared
  | flown active left =>
      obtain ⟨lives, still, calls, same⟩ := moveAlienBullet_eq g
      rw [same]
      refine moveAliens_gun cfg _ ⟨inv.wave, inv.formation, ?_, inv.shared, inv.allocated,
        inv.placed, inv.cleared⟩ playing
      exact ⟨inv.ship.speed, inv.ship.width, inv.ship.height, inv.ship.left, inv.ship.right,
        inv.ship.row⟩

theorem timerMove_gun {cfg : Config} {seen : Mouse → Prop} {before after : Game}
    (inv : GunInv before) (move : TimerMove cfg seen before after) : GunInv after := by
  cases move with
  | count made menus still =>
      exact ⟨inv.wave, inv.formation, inv.ship, inv.shared, inv.allocated, inv.placed, inv.cleared⟩
  | tick _ inputs playing ends =>
      exact (tick_gun (drawFrame_gun cfg inputs inv playing).1 playing ends).1
  | nextRound cleared =>
      refine ⟨fun _ => initGame_tally cfg _ rfl, ⟨⟨inv.formation.1.1, ?_⟩, fun _ =>
        initAliens_targets cfg⟩, inv.ship, inv.shared, inv.allocated, inv.placed, ?_⟩
      · rintro (menu | instructions) <;> contradiction
      · intro cleared
        cases cleared

theorem timerMove_rises {cfg : Config} {seen : Mouse → Prop} {before after : Game}
    (inv : GunInv before) (playing : before.gameState = .playing)
    (move : TimerMove cfg seen before after) {x y : Int} (flying : after.bullets.gun = .flying x y) :
    Gun.flying x y = before.bullets.gun.rise := by
  cases move with
  | count made menus still => exact absurd playing still.1
  | tick _ inputs _ ends =>
      obtain ⟨framed, risen⟩ := drawFrame_gun cfg inputs inv playing
      rcases (tick_gun framed playing ends).2 with same | ready
      · rw [← flying, same, risen]
      · rw [ready] at flying
        cases flying
  | nextRound cleared => rw [playing] at cleared; cases cleared

theorem gunInv_reachable {cfg : Config} {w : World} (reached : (gameLoop cfg).Reachable w) :
    GunInv w.game := by
  refine reachable_invariant GunInv ?_ (fun g inv => ⟨inv.wave, inv.formation, inv.ship, inv.shared,
    inv.allocated, inv.placed, inv.cleared⟩) (fun _ _ _ inv move => inputMove_gun inv move)
    (fun _ _ inv move => timerMove_gun inv move) w reached
  intro memory
  have empty : ∀ ref, some ref ∉ initShipBullets.slots.toList := initShipBullets_empty
  refine ⟨?_, ⟨⟨le_refl _, fun _ => rfl⟩, ?_⟩, newShip_place cfg, ⟨none, rfl⟩, ?_, ?_, ?_⟩
  · rintro (playing | cleared) <;> contradiction
  · intro playing
    cases playing
  · exact fun ref member => absurd member (empty ref)
  · exact fun ref member => absurd member (empty ref)
  · intro cleared
    cases cleared

theorem inputMoves_flying {cfg : Config} {seen : Mouse → Prop} {started : Prop} {g after : Game}
    (inv : GunInv g) {x y : Int} (flying : g.bullets.gun = .flying x y)
    (moves : InputMoves cfg seen started g after) :
    GunInv after ∧ after.bullets.gun = .flying x y := by
  refine moves.invariant (fun g => GunInv g ∧ g.bullets.gun = .flying x y) ?_ ⟨inv, flying⟩
  rintro before after ⟨inv, flying⟩ move
  refine ⟨inputMove_gun inv move, ?_⟩
  cases move with
  | shoot playing =>
      have loaded := createShipBullet_gun inv.shared inv.allocated
        (before.ship.x + (before.ship.img.width / 2 : Nat)) before.ship.y
        (cfg.loader.load .shipBullet) (by rw [inv.ship.row]; decide)
      rw [flying] at loaded
      exact loaded
  | _ => exact flying

def Flight (cfg : Config) (ticks : Nat) (w : World) : Prop :=
  (gameLoop cfg).Reachable w ∧ ∃ x y, w.game.bullets.gun = .flying x y ∧ y < 28 * (ticks + 1) + 4

theorem flight_step {cfg : Config} {ticks : Nat} {w after : World} {message : Message}
    (flight : Flight cfg ticks w) (playing : w.game.gameState = .playing)
    (stepped : gameStep cfg w message = some after) (still : after.game.gameState = .playing)
    (flies : ∃ x y, after.game.bullets.gun = .flying x y) :
    ∃ fewer, fewer + (reachesTimer cfg w message).toNat ≤ ticks ∧ Flight cfg fewer after := by
  obtain ⟨reached, x, y, flying, room⟩ := flight
  have moved : (gameLoop cfg).step w message = some after := stepped
  have later : (gameLoop cfg).Reachable after := Machine.ReachableVia.step reached trivial moved
  obtain ⟨middle, moves, ticked⟩ := gameStep_ticks stepped
  have inv : GunInv w.clear.game := by
    have inv := gunInv_reachable reached
    exact ⟨inv.wave, inv.formation, inv.ship, inv.shared, inv.allocated, inv.placed, inv.cleared⟩
  obtain ⟨inv', flying'⟩ := inputMoves_flying inv flying moves
  cases timer : reachesTimer cfg w message with
  | false =>
      rw [timer, if_neg (by decide)] at ticked
      exact ⟨ticks, Nat.le_refl _, later, x, y, ticked ▸ flying', room⟩
  | true =>
      rw [timer, if_pos rfl] at ticked
      have input : middle.gameState = .exit ∨ SameMarch w.clear.game middle :=
        inputMoves_sameMarch playing moves
      rcases input with exit | same
      · rw [timerMove_exit exit ticked] at still
        cases still
      · obtain ⟨up, top, risen⟩ := flies
        have rises : Gun.flying up top = (Gun.flying x y).rise := by
          rw [← flying']
          exact timerMove_rises inv' same.playing ticked risen
        rw [Gun.rise] at rises
        split at rises
        · cases rises
          exact ⟨ticks - 1, by simp only [Bool.toNat_true]; omega, later, _, _, risen, by omega⟩
        · cases rises

/-- No shot stays in the air for more than 22 ticks of a game. -/
theorem shot_resolves (cfg : Config) {w v : World} {ticks : Nat}
    (reached : (gameLoop cfg).Reachable w)
    (begins : w.game.gameState = .playing ∧ ∃ x y, w.game.bullets.gun = .flying x y)
    (stay : (gameLoop cfg).Stay (fun w => w.game.gameState = .playing ∧
      ∃ x y, w.game.bullets.gun = .flying x y) (reachesTimer cfg) w ticks v) : ticks ≤ 22 := by
  have flight : Flight cfg 22 w := by
    obtain ⟨x, y, flying⟩ := begins.2
    refine ⟨reached, x, y, flying, ?_⟩
    rcases gun_cases w.game.bullets with ⟨_, ready⟩ | ⟨ref, member, same⟩
    · rw [ready] at flying
      cases flying
    · have low := ((gunInv_reachable reached).placed ref member).bottom
      rw [same, ShipBullet.gun] at flying
      split at flying
      · cases flying
      · split at flying
        · cases flying
        · cases flying
          omega
  obtain ⟨_, later, left, _⟩ := stay.bounded (Flight cfg)
    (fun _ _ _ _ flight before stepped after =>
      flight_step flight before.1 stepped after.1 after.2) begins flight
  omega

/-- The first tick of the first shot. -/
theorem shot_resolves_first_tick : ∃ w, (gameLoop sampleConfig).Reachable w ∧
    w.game.bullets.gun = .flying 549 630 ∧ 1 ≤ 22 := by
  obtain ⟨w, reached, playing, flying, timer, ticked⟩ := reachable_of_played
    (clickStart ++ clickShoot)
    (fun w => w.game.gameState = .playing ∧ w.game.bullets.gun = .flying 549 630 ∧
      reachesTimer sampleConfig w (timerTick [5]) = true ∧
      (gameStep sampleConfig w (timerTick [5])).any (fun v => decide
        (v.game.gameState = .playing ∧ v.game.bullets.gun = .flying 549 602)) = true)
    (by decide +kernel)
  obtain ⟨v, moved, still⟩ := (Option.any_eq_true _ _).mp ticked
  obtain ⟨on, risen⟩ := of_decide_eq_true still
  have stay : (gameLoop sampleConfig).Stay (fun w => w.game.gameState = .playing ∧
      ∃ x y, w.game.bullets.gun = .flying x y) (reachesTimer sampleConfig) w
      (0 + (reachesTimer sampleConfig w (timerTick [5])).toNat) v :=
    .step (timerTick [5]) (.refl w) moved ⟨on, 549, 602, risen⟩
  rw [timer] at stay
  exact ⟨w, reached, flying,
    shot_resolves sampleConfig reached ⟨playing, 549, 630, flying⟩ stay⟩

end Lcom.Proj
