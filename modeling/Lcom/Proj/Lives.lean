import Lcom.Proj.March
import Lcom.Proj.Play

/-! Lives: what an alien bullet can cost, and the account of shots and lost lives. -/

namespace Lcom.Proj

open Lcom.Lib

structure ShipInv (ship : Ship) : Prop where
  lives : ship.lives = 1 ∨ ship.lives = 2 ∨ ship.lives = 3
  row : ship.y = shipYpos
  height : ship.img.height = 80

/-- The bullet that `createAlienBullet` makes keeps its speed and its image. -/
structure BulletInv (bullet : AlienBullet) : Prop where
  speed : bullet.speed = alienBulletSpeed
  height : bullet.img.height = 20

def LivesInv (g : Game) : Prop :=
  ShipInv g.ship ∧ (g.alienBullet.active = true → BulletInv g.alienBullet)

theorem newShip_inv (cfg : Config) : ShipInv (newShip cfg) :=
  ⟨.inr (.inr rfl), rfl, cfg.loader.height_eq .shipImage⟩

theorem updateShipPosition_inv {ship : Ship} (inv : ShipInv ship) (key : KeyActivity) :
    ShipInv (updateShipPosition ship key) := by
  cases key <;> exact ⟨inv.lives, inv.row, inv.height⟩

theorem createAlienBullet_inv (cfg : Config) (x y : Int) :
    BulletInv (createAlienBullet x y alienBulletSpeed (cfg.loader.load .alienBullet)) :=
  ⟨rfl, cfg.loader.height_eq .alienBullet⟩

theorem updateAlienBulletPosition_inv {bullet : AlienBullet} (inv : BulletInv bullet) :
    BulletInv (updateAlienBulletPosition bullet) := by
  unfold updateAlienBulletPosition
  split
  · exact ⟨inv.speed, inv.height⟩
  · exact ⟨inv.speed, inv.height⟩

theorem deactivated_misses {ship : Ship} {bullet : AlienBullet} (place : ShipInv ship)
    (inv : BulletInv bullet) (active : bullet.active = true)
    (gone : (updateAlienBulletPosition bullet).active = false) :
    ¬ ShipHit ship (updateAlienBulletPosition bullet) := by
  unfold updateAlienBulletPosition at gone ⊢
  split
  · rename_i low
    rintro ⟨_, _, inside⟩
    dsimp only at inside
    rw [inv.speed, inv.height] at low
    rw [place.row, place.height, inv.height] at inside
    simp only [shipYpos, alienBulletSpeed] at low inside
    omega
  · rename_i high
    rw [if_neg high] at gone
    exact absurd (active.symm.trans gone) (by decide)

theorem moveAliens_lives (cfg : Config) (g : Game) (inv : LivesInv g) :
    LivesInv (moveAliens cfg g) := by
  constructor
  · exact moveAliens_ship (newShip_inv cfg) (fun _ _ ship => ⟨ship.lives, ship.row, ship.height⟩) g
      inv.1
  · rw [moveAliens_alienBullet]
    exact inv.2

theorem moveAlienBullet_bulletInv {g : Game} (inv : BulletInv g.alienBullet) :
    BulletInv (moveAlienBullet g).alienBullet := by
  have moved := updateAlienBulletPosition_inv inv
  rcases moveAlienBullet_cases g with ⟨_, same⟩ | ⟨_, same⟩
  · rw [same]
    exact ⟨moved.speed, moved.height⟩
  · rw [same]
    exact moved

theorem moveAlienBullet_shipInv {g : Game} (inv : ShipInv g.ship)
    (left : (moveAlienBullet g).ship.lives ≠ 0) : ShipInv (moveAlienBullet g).ship := by
  rcases moveAlienBullet_cases g with ⟨_, same⟩ | ⟨_, same⟩
  · rw [same] at left ⊢
    have before := inv.lives
    have lives : g.ship.lives - 1 ≠ 0 := left
    refine ⟨?_, inv.row, inv.height⟩
    change g.ship.lives - 1 = 1 ∨ g.ship.lives - 1 = 2 ∨ g.ship.lives - 1 = 3
    omega
  · rw [same]
    exact inv

theorem tick_lives {cfg : Config} {g after : Game} (inv : LivesInv g)
    (ends : TickEnd cfg g after) : LivesInv after := by
  cases ends with
  | fired index idle alive =>
      exact moveAliens_lives cfg _ ⟨inv.1, fun _ => createAlienBullet_inv cfg _ _⟩
  | lost active dead =>
      exact ⟨newShip_inv cfg, fun _ => moveAlienBullet_bulletInv (inv.2 active)⟩
  | flown active left =>
      exact moveAliens_lives cfg _ ⟨moveAlienBullet_shipInv inv.1 left,
        fun _ => moveAlienBullet_bulletInv (inv.2 active)⟩

theorem inputMove_lives {cfg : Config} {seen : Mouse → Prop} {started : Prop} {before after : Game}
    (inv : LivesInv before) (move : InputMove cfg seen started before after) : LivesInv after := by
  cases move with
  | steer key playing => exact ⟨updateShipPosition_inv inv.1 key, inv.2⟩
  | _ => exact inv

theorem timerMove_lives {cfg : Config} {seen : Mouse → Prop} {before after : Game}
    (inv : LivesInv before) (move : TimerMove cfg seen before after) : LivesInv after := by
  cases move with
  | count made menus still => exact inv
  | tick _ inputs playing ends =>
      exact tick_lives (g := drawFrame cfg inputs (timerIntHandler before)) inv ends
  | nextRound cleared => exact inv

theorem lives_reachable {cfg : Config} (w : World) (reached : (gameLoop cfg).Reachable w) :
    LivesInv w.game :=
  reachable_invariant LivesInv (fun _ => ⟨newShip_inv cfg, by intro active; cases active⟩)
    (fun _ inv => inv) (fun _ _ _ inv move => inputMove_lives inv move)
    (fun _ _ inv move => timerMove_lives inv move) w reached

def LivesDrawn (calls : List Call) : Prop :=
  ∀ lives, .drawLives lives ∈ calls → lives = 1 ∨ lives = 2 ∨ lives = 3

theorem LivesDrawn.append {calls made : List Call} (old : LivesDrawn calls)
    (new : LivesDrawn made) : LivesDrawn (calls ++ made) := by
  intro lives member
  rcases List.mem_append.mp member with before | after
  · exact old lives before
  · exact new lives after

theorem Drawings.livesDrawn {made : List Call} (drawings : Drawings made) : LivesDrawn made := by
  intro lives member
  obtain ⟨x, y, img, same⟩ := drawings _ member
  cases same

theorem frameCalls_livesDrawn (cfg : Config) (inputs : Inputs) (g : Game) (inv : ShipInv g.ship) :
    LivesDrawn (frameCalls cfg inputs g) := by
  have drawn : ∀ call ∈ frameCalls cfg inputs g, ∀ lives, call = .drawLives lives →
      lives = 1 ∨ lives = 2 ∨ lives = 3 := by
    have other : ∀ x y img lives, Call.drawXpm x y img = .drawLives lives →
        lives = 1 ∨ lives = 2 ∨ lives = 3 := by
      intro x y img lives same
      cases same
    refine forall_frameCalls ?_ (other _ _ _) (fun _ _ => other _ _ _) (fun _ => other _ _ _) ?_
      (other _ _ _) (fun _ _ => other _ _ _)
    · intro lives same
      cases same
    · intro lives same
      cases same
      exact inv.lives
  exact fun lives member => drawn _ member lives rfl

theorem moveAliens_livesDrawn (cfg : Config) {g : Game} (old : LivesDrawn g.calls) :
    LivesDrawn (moveAliens cfg g).calls := by
  obtain ⟨made, calls, drawings⟩ := moveAliens_calls cfg g
  rw [calls]
  exact old.append drawings.livesDrawn

theorem moveAlienBullet_livesDrawn {g : Game} (old : LivesDrawn g.calls) :
    LivesDrawn (moveAlienBullet g).calls := by
  rcases moveAlienBullet_cases g with ⟨_, same⟩ | ⟨_, same⟩
  · rw [same]
    exact old.append (by intro lives member; simp at member)
  · rw [same]
    exact old

theorem inputMove_livesDrawn {cfg : Config} {seen : Mouse → Prop} {started : Prop}
    {before after : Game} (old : LivesDrawn before.calls)
    (move : InputMove cfg seen started before after) : LivesDrawn after.calls := by
  cases move with
  | menuCalls made menus =>
      exact old.append (fun lives member => absurd (menus _ member) (by simp [Call.FromMenus]))
  | start menu click => exact old.append (by intro lives member; simp at member)
  | _ => exact old

theorem timerMove_livesDrawn {cfg : Config} {seen : Mouse → Prop} {before after : Game}
    (inv : LivesInv before) (old : LivesDrawn before.calls)
    (move : TimerMove cfg seen before after) : LivesDrawn after.calls := by
  cases move with
  | count made menus still =>
      exact old.append (fun lives member => absurd (menus _ member) (by simp [Call.FromMenus]))
  | nextRound cleared => exact old.append (by intro lives member; simp at member)
  | tick _ inputs playing ends =>
      have frame : LivesDrawn (drawFrame cfg inputs (timerIntHandler before)).calls :=
        old.append (frameCalls_livesDrawn cfg inputs _ inv.1)
      cases ends with
      | fired index idle alive =>
          apply moveAliens_livesDrawn
          exact frame.append (by intro lives member; simp at member)
      | lost active dead => exact moveAlienBullet_livesDrawn frame
      | flown active left => exact moveAliens_livesDrawn cfg (moveAlienBullet_livesDrawn frame)

theorem gameStep_livesDrawn {cfg : Config} {w after : World} {message : Message}
    (inv : LivesInv w.game) (stepped : gameStep cfg w message = some after) :
    LivesDrawn after.game.calls := by
  have moves := (gameStep_moves Tracks.always w after message trivial stepped).1
  apply (moves.invariant (fun g => LivesInv g ∧ LivesDrawn g.calls) _ _ ⟨inv, _⟩).2
  · rintro before next ⟨inv, drawn⟩ move
    exact ⟨inputMove_lives inv move, inputMove_livesDrawn drawn move⟩
  · rintro before next ⟨inv, drawn⟩ move
    exact ⟨timerMove_lives inv move, timerMove_livesDrawn inv drawn move⟩
  · intro lives member
    cases member

/-- A life is lost on a tick whose alien bullet was active, is still on the screen after its
movement and hits the ship. -/
def HitTick (cfg : Config) (w : World) (message : Message) (after : World) : Prop :=
  ∃ interrupts inputs v, message = .hardware interrupts inputs ∧
    inputParts cfg interrupts inputs w.clear = .next v ∧ interrupts &&& timerBit ≠ 0 ∧
    v.game.gameState = .playing ∧ v.game.alienBullet.active = true ∧
    (updateAlienBulletPosition v.game.alienBullet).active = true ∧
    ShipHit v.game.ship (updateAlienBulletPosition v.game.alienBullet) ∧
    after.game.alienBullet.active = false

theorem moveAlienBullet_hit {g : Game} (hit : .loseLife ∈ (moveAlienBullet g).bulletCalls)
    (none : g.bulletCalls = []) : ShipHit g.ship (updateAlienBulletPosition g.alienBullet) ∧
      (moveAlienBullet g).alienBullet.active = false := by
  rw [moveAlienBullet_bulletCalls, none] at hit
  split at hit
  · rename_i struck
    refine ⟨struck, ?_⟩
    rw [moveAlienBullet, verifyShipAndBulletCollision, if_pos struck]
    rfl
  · cases hit

theorem timerMove_hit {cfg : Config} {seen : Mouse → Prop} {g after : Game}
    (move : TimerMove cfg seen g after) (none : g.bulletCalls = [])
    (lost : .loseLife ∈ after.bulletCalls) :
    g.gameState = .playing ∧ g.alienBullet.active = true ∧
      ShipHit g.ship (updateAlienBulletPosition g.alienBullet) ∧
      after.alienBullet.active = false := by
  rcases timerMove_bulletCalls move with ⟨same, _⟩ | ⟨inputs, playing, ends⟩
  · rw [same, none] at lost
    cases lost
  · have frame : (drawFrame cfg inputs (timerIntHandler g)).bulletCalls = [] :=
      (drawFrame_bulletCalls cfg inputs _).trans none
    cases ends with
    | fired index idle alive =>
        rw [moveAliens_bulletCalls, fireAlienBullet_bulletCalls, frame] at lost
        simp at lost
    | lost active dead => exact ⟨playing, active, moveAlienBullet_hit lost frame⟩
    | flown active left =>
        rw [moveAliens_bulletCalls] at lost
        rw [moveAliens_alienBullet]
        exact ⟨playing, active, moveAlienBullet_hit lost frame⟩

theorem inputParts_lives {cfg : Config} {w v : World} {interrupts : BitVec 64} {inputs : Inputs}
    (inv : LivesInv w.game) (flow : inputParts cfg interrupts inputs w.clear = .next v) :
    LivesInv v.game := by
  have arrived : Arrived cfg (fun _ => True) (StartClick w.clear (.hardware interrupts inputs))
      w.clear.game (inputParts cfg interrupts inputs w.clear).world :=
    inputParts_arrives Tracks.always interrupts inputs w.clear trivial
  rw [flow] at arrived
  exact arrived.moves.invariant LivesInv (fun _ _ inv move => inputMove_lives inv move) inv

theorem loseLife_hitTick {cfg : Config} {w after : World} {message : Message}
    (inv : LivesInv w.game) (stepped : gameStep cfg w message = some after)
    (lost : .loseLife ∈ after.game.calls) : HitTick cfg w message after := by
  obtain ⟨interrupts, inputs, v, same, _, flow, bit, ticked, none⟩ :=
    bulletCall_timer stepped lost rfl
  have move : TimerMove cfg (fun _ => True) v.game after.game :=
    (timerPart_moves inputs v after trivial ticked).1
  obtain ⟨playing, active, hit, spent⟩ := timerMove_hit move none (List.mem_filter.mpr ⟨lost, rfl⟩)
  have before := inputParts_lives inv flow
  have onScreen : (updateAlienBulletPosition v.game.alienBullet).active = true := by
    by_contra gone
    exact deactivated_misses before.1 (before.2 active) active (by simpa using gone) hit
  exact ⟨interrupts, inputs, v, same, flow, bit, playing, active, onScreen, hit, spent⟩

theorem updateShipPosition_lives (ship : Ship) (key : KeyActivity) :
    (updateShipPosition ship key).lives = ship.lives := by
  cases key <;> rfl

def Fewer (lives : Int) (g : Game) : Prop := lives ≤ g.ship.lives ∨ .loseLife ∈ g.calls

theorem moveAliens_fewer (cfg : Config) (g : Game) (lives : Int) (most : lives ≤ 3)
    (holds : Fewer lives g) : Fewer lives (moveAliens cfg g) := by
  rcases holds with enough | lost
  · left
    exact moveAliens_ship (P := fun ship => lives ≤ ship.lives) most (fun _ _ enough => enough) g
      enough
  · right
    obtain ⟨made, calls, _⟩ := moveAliens_calls cfg g
    rw [calls]
    exact List.mem_append_left _ lost

theorem moveAlienBullet_fewer {g : Game} {lives : Int} (holds : Fewer lives g) :
    Fewer lives (moveAlienBullet g) := by
  rcases moveAlienBullet_cases g with ⟨_, same⟩ | ⟨_, same⟩
  · rw [same]
    exact .inr (List.mem_append_right _ (List.mem_singleton_self _))
  · rw [same]
    exact holds

theorem Fewer.frame {lives : Int} {g after : Game} {made : List Call} (holds : Fewer lives g)
    (same : after.ship.lives = g.ship.lives) (calls : after.calls = g.calls ++ made) :
    Fewer lives after := by
  rcases holds with enough | lost
  · exact .inl (by rw [same]; exact enough)
  · exact .inr (by rw [calls]; exact List.mem_append_left _ lost)

theorem gameStep_fewer {cfg : Config} {w after : World} {message : Message}
    (inv : LivesInv w.game) (stepped : gameStep cfg w message = some after) :
    Fewer w.game.ship.lives after.game := by
  have most : w.game.ship.lives ≤ 3 := by
    have lives := inv.1.lives
    omega
  have moves := (gameStep_moves Tracks.always w after message trivial stepped).1
  apply moves.invariant (Fewer w.game.ship.lives) _ _ (.inl le_rfl)
  · intro before next holds move
    cases move with
    | menuCalls made menus => exact holds.frame rfl rfl
    | start menu click => exact holds.frame rfl rfl
    | steer key playing =>
        exact holds.frame (updateShipPosition_lives _ key) (List.append_nil _).symm
    | _ => exact holds
  · intro before next holds move
    cases move with
    | count made menus still => exact holds.frame rfl rfl
    | nextRound cleared => exact holds.frame rfl rfl
    | tick _ inputs playing ends =>
        have frame : Fewer w.game.ship.lives (drawFrame cfg inputs (timerIntHandler before)) :=
          holds.frame rfl rfl
        cases ends with
        | fired index idle alive =>
            apply moveAliens_fewer cfg _ _ most
            exact frame.frame rfl rfl
        | lost active dead => exact .inl most
        | flown active left => exact moveAliens_fewer cfg _ _ most (moveAlienBullet_fewer frame)

def Call.isLoss : Call → Bool
  | .loseLife => true
  | _ => false

def Call.isShot : Call → Bool
  | .createAlienBullet _ => true
  | _ => false

/-- The state between two messages with the lives lost and the alien bullets created so far. -/
structure Ledger where
  world : World
  lost : Nat
  created : Nat

def Ledger.step (cfg : Config) (ledger : Ledger) (message : Message) : Option Ledger :=
  (gameStep cfg ledger.world message).map (fun after =>
    ⟨after, ledger.lost + after.game.calls.countP Call.isLoss,
      ledger.created + after.game.calls.countP Call.isShot⟩)

def ledgerLoop (cfg : Config) : Machine Ledger Message where
  init ledger := (gameLoop cfg).init ledger.world ∧ ledger.lost = 0 ∧ ledger.created = 0
  step := Ledger.step cfg

theorem ledgerLoop_world {cfg : Config} {ledger : Ledger}
    (reached : (ledgerLoop cfg).Reachable ledger) : (gameLoop cfg).Reachable ledger.world := by
  apply reached.invariant (fun ledger => (gameLoop cfg).Reachable ledger.world)
  · exact fun start initial => ⟨start.world, initial.1, .refl⟩
  · intro before message after holds _ stepped
    obtain ⟨world, moved, rfl⟩ := Option.map_eq_some_iff.mp stepped
    exact holds.step trivial moved

theorem ledgerLoop_covers {cfg : Config} {w : World} (reached : (gameLoop cfg).Reachable w) :
    ∃ lost created, (ledgerLoop cfg).Reachable ⟨w, lost, created⟩ := by
  apply reached.invariant (fun w => ∃ lost created, (ledgerLoop cfg).Reachable ⟨w, lost, created⟩)
  · exact fun start initial => ⟨0, 0, ⟨start, 0, 0⟩, ⟨initial, rfl, rfl⟩, .refl⟩
  · rintro before message after ⟨lost, created, holds⟩ _ stepped
    have moved : gameStep cfg before message = some after := stepped
    have entry : (ledgerLoop cfg).step ⟨before, lost, created⟩ message =
        some ⟨after, lost + after.game.calls.countP Call.isLoss,
          created + after.game.calls.countP Call.isShot⟩ := by
      simp only [ledgerLoop, Ledger.step, moved, Option.map_some]
    exact ⟨_, _, holds.step trivial entry⟩

theorem countP_bulletCalls (g : Game) (p : Call → Bool)
    (bullet : ∀ call, p call = true → call.isBullet = true) :
    g.calls.countP p = g.bulletCalls.countP p := by
  rw [Game.bulletCalls, List.countP_filter]
  congr 1
  funext call
  cases found : p call with
  | false => rfl
  | true => simp [bullet call found]

def AlienBullet.count (bullet : AlienBullet) : Nat := if bullet.active then 1 else 0

def Balanced (before : Nat) (calls : List Call) (bullet : AlienBullet) : Prop :=
  calls.countP Call.isLoss + bullet.count ≤ calls.countP Call.isShot + before

theorem moveAlienBullet_balanced {before : Nat} {g : Game} (active : g.alienBullet.active = true)
    (holds : Balanced before g.bulletCalls g.alienBullet) :
    Balanced before (moveAlienBullet g).bulletCalls (moveAlienBullet g).alienBullet := by
  have flying : g.alienBullet.count = 1 := by rw [AlienBullet.count, if_pos active]
  rw [Balanced, flying] at holds
  rw [Balanced, moveAlienBullet_bulletCalls]
  split
  · rename_i hit
    have spent : (moveAlienBullet g).alienBullet.count = 0 := by
      rw [moveAlienBullet, verifyShipAndBulletCollision, if_pos hit]
      rfl
    rw [spent, List.countP_append, List.countP_append]
    simpa [Call.isLoss, Call.isShot] using holds
  · have most : (moveAlienBullet g).alienBullet.count ≤ 1 := by
      unfold AlienBullet.count
      split <;> omega
    rw [List.append_nil]
    omega

theorem timerMove_balanced {cfg : Config} {seen : Mouse → Prop} {before : Nat} {g after : Game}
    (move : TimerMove cfg seen g after) (holds : Balanced before g.bulletCalls g.alienBullet) :
    Balanced before after.bulletCalls after.alienBullet := by
  rcases timerMove_bulletCalls move with ⟨calls, bullet⟩ | ⟨inputs, playing, ends⟩
  · rw [calls, bullet]
    exact holds
  · have frame : Balanced before (drawFrame cfg inputs (timerIntHandler g)).bulletCalls
        (drawFrame cfg inputs (timerIntHandler g)).alienBullet := by
      rw [drawFrame_bulletCalls]
      exact holds
    cases ends with
    | fired index idle alive =>
        rw [moveAliens_bulletCalls, moveAliens_alienBullet, fireAlienBullet_bulletCalls]
        have silent : (drawFrame cfg inputs (timerIntHandler g)).alienBullet.count = 0 := by
          rw [AlienBullet.count, idle]
          rfl
        rw [Balanced, silent] at frame
        rw [Balanced, List.countP_append, List.countP_append]
        have armed : (fireAlienBullet cfg index
            (drawFrame cfg inputs (timerIntHandler g))).alienBullet.count = 1 := rfl
        rw [armed]
        simp only [List.countP_singleton, Call.isLoss, Call.isShot]
        simp
        omega
    | lost active dead => exact moveAlienBullet_balanced active frame
    | flown active left =>
        rw [moveAliens_bulletCalls, moveAliens_alienBullet]
        exact moveAlienBullet_balanced active frame

theorem gameStep_balanced {cfg : Config} {w after : World} {message : Message}
    (stepped : gameStep cfg w message = some after) :
    Balanced w.game.alienBullet.count after.game.calls after.game.alienBullet := by
  have moves := (gameStep_moves Tracks.always w after message trivial stepped).1
  have result := moves.invariant
    (fun g => Balanced w.game.alienBullet.count g.bulletCalls g.alienBullet) ?_ ?_ ?_
  · rw [Balanced, countP_bulletCalls _ Call.isLoss, countP_bulletCalls _ Call.isShot]
    · exact result
    · intro call found
      cases call <;> first | rfl | cases found
    · intro call found
      cases call <;> first | rfl | cases found
  · intro before next holds move
    rw [inputMove_bulletCalls move]
    cases move with
    | _ => exact holds
  · exact fun _ _ holds move => timerMove_balanced move holds
  · simp [Balanced, Game.bulletCalls, World.clear]

/-- The lives stay drawable, each lost life is a hit by an active bullet that is on the screen, a
bullet that has just left the screen costs none, and the lives lost and the bullet in flight
were all created. -/
theorem lives_accounting (cfg : Config) (ledger : Ledger)
    (reached : (ledgerLoop cfg).Reachable ledger) :
    (ledger.world.game.ship.lives = 1 ∨ ledger.world.game.ship.lives = 2 ∨
      ledger.world.game.ship.lives = 3) ∧
    (∀ message after, gameStep cfg ledger.world message = some after →
      (∀ lives, .drawLives lives ∈ after.game.calls → lives = 1 ∨ lives = 2 ∨ lives = 3) ∧
      (after.game.ship.lives < ledger.world.game.ship.lives → .loseLife ∈ after.game.calls) ∧
      (.loseLife ∈ after.game.calls → HitTick cfg ledger.world message after)) ∧
    (∀ interrupts inputs v, inputParts cfg interrupts inputs ledger.world.clear = .next v →
      v.game.alienBullet.active = true →
      (updateAlienBulletPosition v.game.alienBullet).active = false →
      ¬ ShipHit v.game.ship (updateAlienBulletPosition v.game.alienBullet)) ∧
    ledger.lost + (if ledger.world.game.alienBullet.active then 1 else 0) ≤ ledger.created := by
  have inv := lives_reachable ledger.world (ledgerLoop_world reached)
  refine ⟨inv.1.lives, ?_, ?_, ?_⟩
  · intro message after stepped
    refine ⟨gameStep_livesDrawn inv stepped, ?_, loseLife_hitTick inv stepped⟩
    intro fewer
    rcases gameStep_fewer inv stepped with enough | lost
    · exact absurd fewer (not_lt.mpr enough)
    · exact lost
  · intro interrupts inputs v flow active gone
    have before := inputParts_lives inv flow
    exact deactivated_misses before.1 (before.2 active) active gone
  · apply reached.invariant (fun ledger =>
      ledger.lost + ledger.world.game.alienBullet.count ≤ ledger.created)
    · rintro start ⟨⟨memory, world⟩, lost, created⟩
      rw [world, lost, created]
      exact le_rfl
    · intro before message after holds _ stepped
      obtain ⟨world, moved, rfl⟩ := Option.map_eq_some_iff.mp stepped
      have balanced := gameStep_balanced moved
      rw [Balanced] at balanced
      dsimp only
      omega

theorem lives_accounting_first_shot : ∃ ledger, (ledgerLoop sampleConfig).Reachable ledger ∧
    ledger.world.game.alienBullet.active = true ∧ ledger.lost + 1 ≤ ledger.created := by
  obtain ⟨w, reached, active⟩ := reachable_of_played (clickStart ++ [timerTick [5]])
    (fun w => w.game.alienBullet.active = true) (by decide +kernel)
  obtain ⟨lost, created, kept⟩ := ledgerLoop_covers reached
  have account := (lives_accounting sampleConfig _ kept).2.2.2
  rw [if_pos active] at account
  exact ⟨_, kept, active, account⟩

end Lcom.Proj
