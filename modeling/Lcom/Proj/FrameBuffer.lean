import Lcom.Proj.FreshStart
import Lcom.Proj.Numeral

/-! Every pixel that is drawn while the rounds are early lies in the frame buffer. -/

namespace Lcom.Proj

open Lcom.Lib

def ScoreBound (g : Game) : Prop := ∃ base, (0 ≤ base ∧ base ≤ 720) ∧ InputScore base g

/-- In the menus the score that a game will begin with is the present one. -/
theorem scoreBound_of {base : Int} {g : Game} (bound : 0 ≤ base ∧ base ≤ 720)
    (inv : ScoreInv base g)
    (menus : g.gameState = .menuDisplay ∨ g.gameState = .instructionsDisplay →
      0 ≤ g.ship.score ∧ g.ship.score ≤ 720) : ScoreBound g := by
  by_cases waiting : g.gameState = .menuDisplay ∨ g.gameState = .instructionsDisplay
  · have idle : g.gameState ≠ .playing ∧ g.gameState ≠ .nextRound := by
      rcases waiting with state | state <;> simp [state]
    exact ⟨g.ship.score, menus waiting, ⟨inv.round, inv.shared, inv.wave, inv.worth,
      fun playing => absurd playing idle.1, fun cleared => absurd cleared idle.2⟩, fun _ => rfl⟩
  · exact ⟨base, bound, inv, fun state => absurd state waiting⟩

/-- After a defeat the rest of the pass adds at most the values of the aliens still visited. -/
def MenuScore (gameState : GameState) (ship : Ship) (visited : Nat) : Prop :=
  gameState = .menuDisplay ∨ gameState = .instructionsDisplay →
    0 ≤ ship.score ∧ ship.score ≤ 30 * (visited : Int)

theorem settleAlien_menuScore (cfg : Config) (a : Alien) (m : March) (visited : Nat)
    (holds : MenuScore m.gameState m.ship visited) :
    MenuScore (settleAlien cfg a m).gameState (settleAlien cfg a m).ship visited := by
  unfold settleAlien
  split
  · intro _
    change (0 : Int) ≤ 0 ∧ (0 : Int) ≤ 30 * visited
    omega
  · split
    · rintro (menu | instructions) <;> contradiction
    · exact holds

theorem marchAliens_menuScore (cfg : Config) (g : Game) (playing : g.gameState = .playing)
    (values : ∀ a ∈ g.aliens.toList, 0 ≤ a.value ∧ a.value ≤ 30) :
    MenuScore (marchAliens cfg g).gameState (marchAliens cfg g).ship sizeOfAliens := by
  have result := marchPass_rule cfg g
    (fun done todo m => (∀ a ∈ todo, 0 ≤ a.value ∧ a.value ≤ 30) ∧
      MenuScore m.gameState m.ship done.length) ?_
    ⟨values, by simp [MenuScore, Game.march, playing]⟩
  · have bound := result.2
    rw [marchPass_length] at bound
    exact bound
  · rintro done a rest m a' m' ⟨later, holds⟩ visit
    have value := later a List.mem_cons_self
    refine ⟨fun b member => later b (List.mem_cons_of_mem _ member), ?_⟩
    rw [List.length_append, List.length_singleton]
    cases visit with
    | skipped dead =>
        intro menus
        have score := holds menus
        push_cast
        omega
    | missed heap _ alive place read next misses =>
        apply settleAlien_menuScore
        intro menus
        have score := holds menus
        push_cast
        change 0 ≤ m.ship.score ∧ m.ship.score ≤ _
        omega
    | killed heap ref moved alive place read next member hit =>
        apply settleAlien_menuScore
        intro menus
        have score := holds menus
        have same : moved.value = a.value := by rw [place]; rfl
        push_cast
        change 0 ≤ m.ship.score + moved.value ∧ m.ship.score + moved.value ≤ _
        omega

theorem moveAliens_menuScore (cfg : Config) (g : Game) (playing : g.gameState = .playing)
    (values : ∀ a ∈ g.aliens.toList, 0 ≤ a.value ∧ a.value ≤ 30) :
    MenuScore (moveAliens cfg g).gameState (moveAliens cfg g).ship sizeOfAliens := by
  rcases moveAliens_cases cfg g with ⟨_, same⟩ | ⟨_, movImg, frameCounter, same⟩
  · rw [same, playing]
    rintro (menu | instructions) <;> contradiction
  · rw [same]
    exact marchAliens_menuScore cfg { g with frameCounter := g.frameCounter + 1 } playing values

structure PlaceInv (g : Game) : Prop where
  formation : FormationInv Ranked g
  score : ScoreBound g
  ship : ShipPlace g.ship
  bullets : g.bullets.All ShipBulletPlace
  alienBullet : g.alienBullet.active = true → AlienBulletPlace g.alienBullet ∧
    (g.gameState = .playing ∨ g.gameState = .nextRound → g.roundNum ≤ 20 →
      AcrossScreen g.alienBullet)

theorem Ranked.values {aliens : Aliens} {speed roundNum : Int} {rightMov : Bool}
    (ranked : Ranked aliens speed roundNum rightMov) :
    ∀ a ∈ aliens.toList, 0 ≤ a.value ∧ a.value ≤ 30 := by
  intro a member
  obtain ⟨i, rfl⟩ := (List.Vector.mem_iff_get a aliens).mp member
  exact (ranked.2 i).1

theorem moveAliens_place (cfg : Config) {g : Game} (inv : PlaceInv g)
    (playing : g.gameState = .playing) : PlaceInv (moveAliens cfg g) := by
  obtain ⟨base, bound, score, _⟩ := inv.score
  have ranked := inv.formation.2 playing
  have scored := moveAliens_score cfg score playing
  refine ⟨?_, ?_, moveAliens_shipPlace cfg g inv.ship, moveAliens_bulletPlace cfg g inv.bullets, ?_⟩
  · exact moveAliens_formation (fun g holds after => marchAliens_ranked cfg g holds after) g
      inv.formation.1.1 playing ranked
  · exact scoreBound_of bound scored.1 (moveAliens_menuScore cfg g playing ranked.values)
  · rw [moveAliens_alienBullet]
    intro active
    obtain ⟨place, across⟩ := inv.alienBullet active
    refine ⟨place, ?_⟩
    intro under early
    apply across (.inl playing)
    rcases under with still | cleared
    · rw [← scored.2.1 still]
      exact early
    · have round := scored.2.2 cleared
      rw [if_pos playing] at round
      omega

theorem drawFrame_place (cfg : Config) (inputs : Inputs) {g : Game} (inv : PlaceInv g) :
    PlaceInv (drawFrame cfg inputs (timerIntHandler g)) := by
  obtain ⟨base, bound, score, waiting⟩ := inv.score
  refine ⟨inv.formation, ⟨base, bound, ⟨score.round, score.shared, score.wave, score.worth,
    score.playing, score.cleared⟩, waiting⟩, inv.ship, ?_, inv.alienBullet⟩
  exact drawShipBullets_all (updateShipBulletPosition_all (fun _ place => moveBullet_place place)
    inv.bullets)

theorem moveAlienBullet_place {g : Game} (inv : PlaceInv g)
    (active : g.alienBullet.active = true) : PlaceInv (moveAlienBullet g) := by
  obtain ⟨base, bound, score, waiting⟩ := inv.score
  obtain ⟨place, across⟩ := inv.alienBullet active
  obtain ⟨lives, still, calls, same⟩ := moveAlienBullet_eq g
  rw [same]
  refine ⟨inv.formation, ⟨base, bound, ⟨score.round, score.shared, score.wave, score.worth,
    score.playing, score.cleared⟩, waiting⟩, ⟨inv.ship.speed, inv.ship.width, inv.ship.height,
    inv.ship.left, inv.ship.right, inv.ship.row⟩, inv.bullets, ?_⟩
  intro _
  have after := updateAlienBulletPosition_place place
  refine ⟨⟨after.width, after.height, after.speed, after.top, after.bottom⟩, ?_⟩
  intro under early
  have wide := across under early
  rw [AcrossScreen, ← updateAlienBulletPosition_x] at wide
  exact wide

theorem gameOver_place (cfg : Config) {g : Game} (inv : PlaceInv g) :
    PlaceInv (gameOver cfg g) := by
  obtain ⟨base, bound, score, waiting⟩ := inv.score
  refine ⟨⟨⟨le_refl _, fun _ => rfl⟩, by intro playing; cases playing⟩, ?_, newShip_place cfg,
    inv.bullets, ?_⟩
  · refine ⟨0, by omega, ⟨⟨le_refl _, fun _ => rfl⟩, score.shared, ?_, ?_, ?_, ?_⟩, fun _ => rfl⟩
    · rintro (playing | cleared) <;> contradiction
    · rintro (playing | cleared) <;> contradiction
    · intro playing
      cases playing
    · intro cleared
      cases cleared
  · intro active
    refine ⟨(inv.alienBullet active).1, ?_⟩
    rintro (playing | cleared) <;> contradiction

theorem tick_place {cfg : Config} {g after : Game} (inv : PlaceInv g)
    (playing : g.gameState = .playing) (ends : TickEnd cfg g after) : PlaceInv after := by
  cases ends with
  | fired index idle alive =>
      obtain ⟨base, bound, score, waiting⟩ := inv.score
      have fired := fired_place cfg (inv.formation.2 playing) index alive
      have armed : PlaceInv (fireAlienBullet cfg index g) :=
        ⟨inv.formation, ⟨base, bound, ⟨score.round, score.shared, score.wave, score.worth,
          score.playing, score.cleared⟩, waiting⟩, inv.ship, inv.bullets,
          fun _ => ⟨fired.1, fun _ => fired.2⟩⟩
      exact moveAliens_place cfg armed playing
  | lost active dead => exact gameOver_place cfg (moveAlienBullet_place inv active)
  | flown active left =>
      apply moveAliens_place cfg (moveAlienBullet_place inv active)
      obtain ⟨lives, still, calls, same⟩ := moveAlienBullet_eq g
      rw [same]
      exact playing

theorem timerMove_place {cfg : Config} {seen : Mouse → Prop} {before after : Game}
    (inv : PlaceInv before) (move : TimerMove cfg seen before after) : PlaceInv after := by
  have formation := timerMove_formation (fun _ _ positive => initAliens_ranked cfg _ _ positive)
    (fun g holds after => marchAliens_ranked cfg g holds after) inv.formation move
  obtain ⟨base, bound, score, waiting⟩ := inv.score
  have scored := (timerMove_score score move).1
  cases move with
  | count made menus still =>
      exact ⟨formation, ⟨base, bound, scored, waiting⟩, inv.ship, inv.bullets, inv.alienBullet⟩
  | tick _ inputs playing ends =>
      exact tick_place (drawFrame_place cfg inputs inv) playing ends
  | nextRound cleared =>
      refine ⟨formation, ⟨base, bound, scored, ?_⟩, inv.ship, inv.bullets, ?_⟩
      · rintro (menu | instructions) <;> contradiction
      · intro active
        obtain ⟨place, across⟩ := inv.alienBullet active
        exact ⟨place, fun _ => across (.inr cleared)⟩

/-- Input keeps the places if a game that it starts finds the alien bullet on the screen. -/
theorem inputMove_place {cfg : Config} {seen : Mouse → Prop} {started : Prop} {before after : Game}
    (inv : PlaceInv before)
    (onScreen : started → before.alienBullet.active = true → AcrossScreen before.alienBullet)
    (move : InputMove cfg seen started before after) : PlaceInv after := by
  have formation :=
    inputMove_formation (fun _ _ positive => initAliens_ranked cfg _ _ positive) inv.formation move
  obtain ⟨base, bound, score⟩ := inv.score
  have scored : ScoreBound after := ⟨base, bound, inputMove_score score move⟩
  cases move with
  | menuCalls made menus => exact ⟨formation, scored, inv.ship, inv.bullets, inv.alienBullet⟩
  | instructions menu =>
      exact ⟨formation, scored, inv.ship, inv.bullets,
        fun active => ⟨(inv.alienBullet active).1, by simp⟩⟩
  | menu instructions =>
      exact ⟨formation, scored, inv.ship, inv.bullets,
        fun active => ⟨(inv.alienBullet active).1, by simp⟩⟩
  | exit =>
      exact ⟨formation, scored, inv.ship, inv.bullets,
        fun active => ⟨(inv.alienBullet active).1, by simp⟩⟩
  | start menu click =>
      exact ⟨formation, scored, inv.ship, inv.bullets,
        fun active => ⟨(inv.alienBullet active).1, fun _ _ => onScreen click active⟩⟩
  | shoot playing =>
      exact ⟨formation, scored, inv.ship,
        createShipBullet_all _ _ _ _ inv.bullets (shot_place cfg inv.ship), inv.alienBullet⟩
  | steer key playing =>
      exact ⟨formation, scored, updateShipPosition_place inv.ship key, inv.bullets,
        inv.alienBullet⟩

theorem digitXpm_size (res : Nat) : (digitXpm res).size = (16, 28) := by
  unfold digitXpm
  split <;> rfl

theorem fillScore_size (count div : Nat) : ∀ xpm ∈ fillScore count div, xpm.size = (16, 28) := by
  induction count generalizing div with
  | zero => intro xpm member; cases member
  | succ count ih =>
      intro xpm member
      rcases List.mem_append.mp member with later | last
      · exact ih _ xpm later
      · rw [List.mem_singleton.mp last]
        exact digitXpm_size _

theorem loader_onScreen (loader : XpmLoader) (xpm : XpmMap) (size : xpm.size = (16, 28))
    {x : Int} (left : 0 ≤ x) (right : x + 16 ≤ 1024) : OnScreen x 735 (loader.load xpm) := by
  have width : (loader.load xpm).width = 16 := by rw [loader.width_eq, size]
  have height : (loader.load xpm).height = 28 := by rw [loader.height_eq, size]
  simp only [OnScreen, width, height]
  omega

theorem drawScore_onScreen (loader : XpmLoader) (score : Int) (small : score < 100000) :
    ∀ digit ∈ drawScore score, OnScreen digit.1 digit.2.1 (loader.load digit.2.2) := by
  intro digit member
  unfold drawScore at member
  split at member
  · rw [List.mem_singleton.mp member]
    exact loader_onScreen loader .zero rfl (by decide) (by decide)
  · obtain ⟨i, bound, rfl⟩ := List.mem_mapIdx.mp member
    have few : countDigits score.toNat ≤ 5 := by
      rw [countDigits_eq]
      exact (Nat.digits_length_le_iff (by decide) _).mpr (by omega)
    have position : i < 5 := by
      rw [fillScore_length] at bound
      omega
    apply loader_onScreen loader _ (fillScore_size _ _ _ (List.getElem_mem bound))
    · omega
    · omega

theorem deadValue_le (aliens : List Alien) (values : ∀ a ∈ aliens, 0 ≤ a.value) :
    deadValue aliens ≤ waveValue aliens := by
  induction aliens with
  | nil => exact le_refl _
  | cons a rest ih =>
      have value := values a List.mem_cons_self
      have tail := ih (fun b member => values b (List.mem_cons_of_mem _ member))
      rw [waveValue_cons]
      cases alive : a.alive with
      | false =>
          rw [deadValue_cons_dead a rest alive]
          omega
      | true =>
          rw [deadValue_cons_alive a rest alive]
          omega

theorem score_small {g : Game} (inv : PlaceInv g) (playing : g.gameState = .playing)
    (early : g.roundNum ≤ 20) : g.ship.score < 100000 := by
  obtain ⟨base, bound, score, _⟩ := inv.score
  have values := (inv.formation.2 playing).values
  have dead := deadValue_le g.aliens.toList (fun a member => (values a member).1)
  have worth := score.worth (.inl playing)
  have total := score.playing playing
  omega

def Call.Safe (call : Call) : Prop := ∀ pixel ∈ call.pixels, pixel.InFrame

def SafeCalls (calls : List Call) : Prop := ∀ call ∈ calls, call.Safe

theorem SafeCalls.append {calls made : List Call} (old : SafeCalls calls) (new : SafeCalls made) :
    SafeCalls (calls ++ made) := by
  intro call member
  rcases List.mem_append.mp member with before | after
  · exact old call before
  · exact new call after

theorem drawXpm_safe {x y : Int} {img : XpmImage} (placed : OnScreen x y img) :
    (Call.drawXpm x y img).Safe :=
  drawXpm_inFrame x y img placed

theorem fromMenus_safe {call : Call} (menus : call.FromMenus CursorPlace) : call.Safe := by
  cases call with
  | drawMouse mouse => exact drawMouse_inFrame mouse.x mouse.y mouse.img menus.2
  | drawBackground img => intro pixel member; cases member
  | getMousePacket bytes => intro pixel member; cases member
  | drawXpm x y img => cases menus
  | drawLives lives => cases menus
  | generateAlienBullet aliens => cases menus
  | createAlienBullet index => cases menus
  | loseLife => cases menus

theorem initGame_safe (cfg : Config) {g : Game} (ship : ShipPlace g.ship) :
    SafeCalls [.drawBackground (cfg.loader.load .background),
      .drawXpm g.ship.x g.ship.y g.ship.img] := by
  intro call member
  simp only [List.mem_cons, List.not_mem_nil, or_false] at member
  rcases member with rfl | rfl
  · intro pixel inside
    cases inside
  · exact drawXpm_safe ship.onScreen

theorem livesXpm_onScreen (loader : XpmLoader) (live : XpmImage) {lives : Int}
    (few : lives = 1 ∨ lives = 2 ∨ lives = 3) :
    OnScreen 1000 735 (livesXpm loader live lives) := by
  unfold livesXpm
  rcases few with rfl | rfl | rfl
  · exact loader_onScreen loader .one rfl (by decide) (by decide)
  · exact loader_onScreen loader .two rfl (by decide) (by decide)
  · exact loader_onScreen loader .three rfl (by decide) (by decide)

theorem frameCalls_safe (cfg : Config) (inputs : Inputs) {g : Game} (ship : ShipPlace g.ship)
    (lives : ShipInv g.ship) (small : g.ship.score < 100000)
    (bullets : g.bullets.All ShipBulletPlace)
    (alienBullet : g.alienBullet.active = true → OnScreen g.alienBullet.x g.alienBullet.y
      g.alienBullet.img) : SafeCalls (frameCalls cfg inputs g) := by
  refine forall_frameCalls ?_ ?_ ?_ ?_ ?_ ?_ ?_
  · exact initGame_safe cfg ship _ (by simp)
  · exact drawXpm_safe ship.onScreen
  · intro bullet inside
    exact drawXpm_safe (drawnShipBullets_all bullets bullet inside).onScreen
  · intro active
    exact drawXpm_safe (alienBullet active)
  · intro pixel inside
    cases inside
  · exact drawXpm_safe (livesXpm_onScreen cfg.loader inputs.live lives.lives)
  · intro digit inside
    exact drawXpm_safe (drawScore_onScreen cfg.loader g.ship.score small digit inside)

theorem settleAlien_speed (cfg : Config) (a : Alien) (m : March) (speed : Int) (positive : 1 ≤ speed)
    (bounds : 1 ≤ m.speed ∧ m.speed ≤ speed) :
    1 ≤ (settleAlien cfg a m).speed ∧ (settleAlien cfg a m).speed ≤ speed := by
  unfold settleAlien
  split
  · exact ⟨le_refl _, positive⟩
  · split
    · exact bounds
    · exact bounds

theorem marchAliens_safe (cfg : Config) {g : Game}
    (ranked : Ranked g.aliens g.speed g.roundNum g.rightMov) (early : g.roundNum ≤ 20)
    (safe : SafeCalls g.calls) : SafeCalls (marchAliens cfg g).calls := by
  have positive : 1 ≤ g.speed := by
    have pace := ranked.1.1.1
    have round := ranked.1.1.2.1
    simp only [initialAlienSpeed] at pace
    omega
  have drawn : ∀ (a : Alien) (m : March), (∃ i, a = g.aliens.get i) → a.alive = true →
      1 ≤ m.speed ∧ m.speed ≤ g.speed → SafeCalls m.calls →
      SafeCalls (m.drawn g.rightMov g.movImg (advanceAlien g.rightMov g.movImg m.speed a)).calls := by
    rintro _ m ⟨i, rfl⟩ alive bounds safe
    apply safe.append
    intro call member
    rw [List.mem_singleton.mp member]
    exact drawXpm_safe (advanceAlien_onScreen ranked early bounds.1 bounds.2 i alive)
  have result := marchPass_rule cfg g
    (fun _ todo m => (∀ a ∈ todo, ∃ i, a = g.aliens.get i) ∧
      (1 ≤ m.speed ∧ m.speed ≤ g.speed) ∧ SafeCalls m.calls) ?_ ⟨?_, ⟨positive, le_refl _⟩, safe⟩
  · exact result.2.2
  · rintro done a rest m a' m' ⟨later, bounds, safe⟩ visit
    have here := later a List.mem_cons_self
    refine ⟨fun b member => later b (List.mem_cons_of_mem _ member), ?_⟩
    cases visit with
    | skipped dead => exact ⟨bounds, safe⟩
    | missed heap _ alive place read next misses =>
        refine ⟨settleAlien_speed cfg _ _ g.speed positive bounds, ?_⟩
        rw [settleAlien_calls, place]
        exact drawn a m here alive bounds safe
    | killed heap ref moved alive place read next member hit =>
        refine ⟨settleAlien_speed cfg _ _ g.speed positive bounds, ?_⟩
        rw [settleAlien_calls, place]
        exact drawn a m here alive bounds safe
  · intro a member
    obtain ⟨i, same⟩ := (List.Vector.mem_iff_get a g.aliens).mp member
    exact ⟨i, same.symm⟩

theorem moveAliens_safe (cfg : Config) {g : Game}
    (ranked : Ranked g.aliens g.speed g.roundNum g.rightMov) (early : g.roundNum ≤ 20)
    (safe : SafeCalls g.calls) : SafeCalls (moveAliens cfg g).calls := by
  rcases moveAliens_cases cfg g with ⟨_, same⟩ | ⟨_, movImg, frameCounter, same⟩
  · rw [same]
    exact safe
  · rw [same]
    exact marchAliens_safe cfg (g := { g with frameCounter := g.frameCounter + 1 }) ranked early
      safe

theorem SafeCalls.blank {calls made : List Call} (old : SafeCalls calls)
    (blank : ∀ call ∈ made, call.pixels = []) : SafeCalls (calls ++ made) := by
  apply old.append
  intro call member pixel inside
  rw [blank call member] at inside
  cases inside

theorem moveAlienBullet_safe {g : Game} (safe : SafeCalls g.calls) :
    SafeCalls (moveAlienBullet g).calls := by
  rcases moveAlienBullet_cases g with ⟨_, same⟩ | ⟨_, same⟩
  · rw [same]
    apply safe.blank
    intro call member
    rw [List.mem_singleton.mp member]
    rfl
  · rw [same]
    exact safe

theorem tick_safe {cfg : Config} {g after : Game} (inv : PlaceInv g)
    (playing : g.gameState = .playing) (early : g.roundNum ≤ 20) (safe : SafeCalls g.calls)
    (ends : TickEnd cfg g after) : SafeCalls after.calls := by
  have ranked := inv.formation.2 playing
  cases ends with
  | fired index idle alive =>
      have fired : SafeCalls (fireAlienBullet cfg index g).calls := by
        apply safe.blank
        intro call member
        simp only [List.mem_cons, List.not_mem_nil, or_false] at member
        rcases member with rfl | rfl <;> rfl
      exact moveAliens_safe cfg (g := fireAlienBullet cfg index g) ranked early fired
  | lost active dead => exact moveAlienBullet_safe safe
  | flown active left =>
      have flown := moveAlienBullet_safe safe
      obtain ⟨lives, still, calls, same⟩ := moveAlienBullet_eq g
      rw [same] at flown ⊢
      exact moveAliens_safe cfg (g := { g with
        ship := { g.ship with lives := lives }
        alienBullet := { updateAlienBulletPosition g.alienBullet with active := still }
        calls := calls }) ranked early flown

theorem drawFrame_safe (cfg : Config) (inputs : Inputs) {g : Game} (inv : PlaceInv g)
    (lives : LivesInv g) (playing : g.gameState = .playing) (early : g.roundNum ≤ 20)
    (safe : SafeCalls g.calls) : SafeCalls (drawFrame cfg inputs (timerIntHandler g)).calls := by
  have moved : (updateShipBulletPosition g.bullets).All ShipBulletPlace :=
    updateShipBulletPosition_all (fun _ place => moveBullet_place place) inv.bullets
  have visible : g.alienBullet.active = true →
      OnScreen g.alienBullet.x g.alienBullet.y g.alienBullet.img := by
    intro active
    have bullet := inv.alienBullet active
    exact bullet.1.onScreen (bullet.2 (.inl playing) early)
  have small := score_small inv playing early
  have drawn := frameCalls_safe cfg inputs
    (g := { timerIntHandler g with bullets := updateShipBulletPosition g.bullets })
    inv.ship lives.1 small moved visible
  exact safe.append drawn

theorem timerMove_safe {cfg : Config} {before after : Game} (inv : PlaceInv before)
    (lives : LivesInv before) (early : before.roundNum ≤ 20) (safe : SafeCalls before.calls)
    (move : TimerMove cfg CursorPlace before after) : SafeCalls after.calls := by
  cases move with
  | count made menus still =>
      exact safe.append (fun call member => fromMenus_safe (menus call member))
  | tick _ inputs playing ends =>
      exact tick_safe (drawFrame_place cfg inputs inv) playing early
        (drawFrame_safe cfg inputs inv lives playing early safe) ends
  | nextRound cleared => exact safe.append (initGame_safe cfg inv.ship)

theorem inputMove_safe {cfg : Config} {started : Prop} {before after : Game}
    (inv : PlaceInv before) (safe : SafeCalls before.calls)
    (move : InputMove cfg CursorPlace started before after) : SafeCalls after.calls := by
  cases move with
  | menuCalls made menus =>
      exact safe.append (fun call member => fromMenus_safe (menus call member))
  | start menu click => exact safe.append (initGame_safe cfg inv.ship)
  | _ => exact safe

/-- The message does not start a game while an alien bullet is in the air off the screen. -/
def KeepsBulletVisible (w : World) (message : Message) : Prop :=
  StartClick w message → w.game.alienBullet.active = true → AcrossScreen w.game.alienBullet

instance (w : World) (message : Message) : Decidable (KeepsBulletVisible w message) :=
  inferInstanceAs (Decidable (_ → _))

/-- What the parts of a message rely on, with the calls made so far. -/
structure Drawable (bullet : AlienBullet) (roundNum : Int) (g : Game) : Prop where
  place : PlaceInv g
  lives : LivesInv g
  bullet : g.alienBullet = bullet
  round : g.roundNum = roundNum

theorem inputMove_alienBullet {cfg : Config} {seen : Mouse → Prop} {started : Prop}
    {before after : Game} (move : InputMove cfg seen started before after) :
    after.alienBullet = before.alienBullet := by
  cases move <;> rfl

theorem inputMove_drawable {cfg : Config} {seen : Mouse → Prop} {started : Prop}
    {bullet : AlienBullet} {roundNum : Int} {before after : Game}
    (onScreen : started → bullet.active = true → AcrossScreen bullet)
    (holds : Drawable bullet roundNum before) (move : InputMove cfg seen started before after) :
    Drawable bullet roundNum after := by
  constructor
  · apply inputMove_place holds.place _ move
    rw [holds.bullet]
    exact onScreen
  · exact inputMove_lives holds.lives move
  · exact (inputMove_alienBullet move).trans holds.bullet
  · exact (inputMove_roundNum move).trans holds.round

structure WorldPlace (w : World) : Prop where
  place : PlaceInv w.game
  lives : LivesInv w.game
  cursor : CursorPlace w.mouse

theorem WorldPlace.drawable {w : World} (inv : WorldPlace w) :
    Drawable w.game.alienBullet w.game.roundNum w.clear.game := by
  obtain ⟨base, bound, score, waiting⟩ := inv.place.score
  have place : PlaceInv w.clear.game :=
    ⟨inv.place.formation, ⟨base, bound, ⟨score.round, score.shared, score.wave, score.worth,
      score.playing, score.cleared⟩, waiting⟩, inv.place.ship, inv.place.bullets,
      inv.place.alienBullet⟩
  exact ⟨place, inv.lives, rfl, rfl⟩

theorem gameStep_place {cfg : Config} {w after : World} {message : Message} (inv : WorldPlace w)
    (permitted : KeepsBulletVisible w message) (stepped : gameStep cfg w message = some after) :
    WorldPlace after := by
  have moves := gameStep_moves cursor_tracks w after message inv.cursor stepped
  have start := inv.drawable
  cases moves.1 with
  | input made =>
      have held := made.invariant (Drawable w.game.alienBullet w.game.roundNum)
        (fun _ _ holds move => inputMove_drawable permitted holds move) start
      exact ⟨held.place, held.lives, moves.2⟩
  | timer middle made ticked =>
      have held := made.invariant (Drawable w.game.alienBullet w.game.roundNum)
        (fun _ _ holds move => inputMove_drawable permitted holds move) start
      exact ⟨timerMove_place held.place ticked, timerMove_lives held.lives ticked, moves.2⟩

theorem start_score (cfg : Config) (memory : Uninitialised) :
    ScoreBound (startGame cfg memory) := by
  refine ⟨0, by omega, ⟨⟨le_refl _, fun _ => rfl⟩, ⟨none, rfl⟩, ?_, ?_, ?_, ?_⟩, fun _ => rfl⟩
  · rintro (playing | cleared) <;> contradiction
  · rintro (playing | cleared) <;> contradiction
  · intro playing
    cases playing
  · intro cleared
    cases cleared

theorem start_place (cfg : Config) (memory : Uninitialised) : WorldPlace (start cfg memory) := by
  have waiting : ¬ GameState.menuDisplay = .playing := by decide
  have idle : ¬ false = true := by decide
  constructor
  · refine ⟨⟨⟨le_refl _, fun _ => rfl⟩, fun playing => absurd playing waiting⟩,
      start_score cfg memory, newShip_place cfg, ?_, fun active => absurd active idle⟩
    exact fun ref member => absurd member (initShipBullets_empty ref)
  · exact ⟨newShip_inv cfg, fun active => absurd active idle⟩
  · exact createMouse_place cfg.loader

theorem place_reachable {cfg : Config} {w : World}
    (reached : (gameLoop cfg).ReachableVia KeepsBulletVisible w) : WorldPlace w := by
  apply reached.invariant WorldPlace
  · rintro _ ⟨memory, rfl⟩
    exact start_place cfg memory
  · intro before message after holds permitted stepped
    exact gameStep_place holds permitted stepped

/-- Frame-buffer safety: in a run that never starts a game with an alien bullet in the air off
the screen, every pixel drawn up to round 20 lies in the frame buffer. -/
theorem frame_buffer_safety (cfg : Config) (w after : World) (message : Message)
    (reached : (gameLoop cfg).ReachableVia KeepsBulletVisible w)
    (permitted : KeepsBulletVisible w message) (early : w.game.roundNum ≤ 20)
    (stepped : gameStep cfg w message = some after) :
    ∀ call ∈ after.game.calls, ∀ pixel ∈ call.pixels, pixel.InFrame := by
  have inv := place_reachable reached
  have moves := (gameStep_moves cursor_tracks w after message inv.cursor stepped).1
  have start : Drawable w.game.alienBullet w.game.roundNum w.clear.game ∧
      SafeCalls w.clear.game.calls := ⟨inv.drawable, by intro call member; cases member⟩
  have input : ∀ before after, Drawable w.game.alienBullet w.game.roundNum before ∧
      SafeCalls before.calls → InputMove cfg CursorPlace (StartClick w message) before after →
      Drawable w.game.alienBullet w.game.roundNum after ∧ SafeCalls after.calls := by
    rintro before after ⟨holds, safe⟩ move
    exact ⟨inputMove_drawable permitted holds move, inputMove_safe holds.place safe move⟩
  cases moves with
  | input made => exact (made.invariant _ input start).2
  | timer middle made ticked =>
      have held := made.invariant _ input start
      apply timerMove_safe held.1.place held.1.lives _ held.2 ticked
      rw [held.1.round]
      exact early

theorem frame_buffer_safety_first_game : ∃ w after,
    (gameLoop sampleConfig).ReachableVia KeepsBulletVisible w ∧ w.game.gameState = .playing ∧
    gameStep sampleConfig w (timerTick [5]) = some after ∧
    ∀ call ∈ after.game.calls, ∀ pixel ∈ call.pixels, pixel.InFrame := by
  have evaluated : ((gameLoop sampleConfig).runList KeepsBulletVisible
      (start sampleConfig sampleMemory) clickStart).any (fun w =>
        decide (w.game.gameState = .playing) && decide (KeepsBulletVisible w (timerTick [5])) &&
          decide (w.game.roundNum ≤ 20) &&
          (gameStep sampleConfig w (timerTick [5])).isSome) = true := by decide +kernel
  obtain ⟨w, played, checked⟩ := (Option.any_eq_true _ _).mp evaluated
  simp only [Bool.and_eq_true, decide_eq_true_eq] at checked
  obtain ⟨⟨⟨playing, permitted⟩, early⟩, steps⟩ := checked
  obtain ⟨after, stepped⟩ := Option.isSome_iff_exists.mp steps
  have reached : (gameLoop sampleConfig).ReachableVia KeepsBulletVisible w :=
    ⟨_, ⟨sampleMemory, rfl⟩, Machine.run_of_runList _ played⟩
  exact ⟨w, after, reached, playing, stepped,
    frame_buffer_safety sampleConfig w after (timerTick [5]) reached permitted early stepped⟩

theorem frameCalls_bullet (cfg : Config) (inputs : Inputs) (g : Game)
    (active : g.alienBullet.active = true) :
    Call.drawXpm g.alienBullet.x g.alienBullet.y g.alienBullet.img ∈ frameCalls cfg inputs g := by
  simp [frameCalls, active]

theorem moveAlienBullet_calls {g : Game} {call : Call} (made : call ∈ g.calls) :
    call ∈ (moveAlienBullet g).calls := by
  rcases moveAlienBullet_cases g with ⟨_, same⟩ | ⟨_, same⟩
  · rw [same]
    exact List.mem_append_left _ made
  · rw [same]
    exact made

theorem tick_drawsBullet (cfg : Config) {w : World} (inputs : Inputs)
    (playing : w.game.gameState = .playing) (active : w.game.alienBullet.active = true) :
    ∃ after, gameStep cfg w (.hardware timerBit inputs) = some after ∧
      Call.drawXpm w.game.alienBullet.x w.game.alienBullet.y w.game.alienBullet.img ∈
        after.game.calls := by
  have stepped := gameStep_tick cfg w inputs playing
  rw [playingTick_active (g := timerIntHandler w.clear.game) active] at stepped
  have drawn : Call.drawXpm w.game.alienBullet.x w.game.alienBullet.y w.game.alienBullet.img ∈
      (moveAlienBullet (drawFrame cfg inputs (timerIntHandler w.clear.game))).calls := by
    apply moveAlienBullet_calls
    exact List.mem_append_right _ (frameCalls_bullet cfg inputs { timerIntHandler w.clear.game with
      bullets := updateShipBulletPosition w.game.bullets } active)
  split at stepped
  · exact ⟨_, stepped, drawn⟩
  · refine ⟨_, stepped, ?_⟩
    obtain ⟨made, calls, _⟩ := moveAliens_calls cfg
      (moveAlienBullet (drawFrame cfg inputs (timerIntHandler w.clear.game)))
    change _ ∈ (moveAliens cfg _).calls
    rw [calls]
    exact List.mem_append_left _ drawn

/-- A player clears fifty waves and lets the next one reach the ship while a bullet of the last
column is in the air at `(1022, 588)`. The next game draws it in its first round. -/
theorem frame_buffer_overrun : ∃ w after, (gameLoop sampleConfig).Reachable w ∧
    w.game.roundNum ≤ 20 ∧ gameStep sampleConfig w (timerTick []) = some after ∧
    ∃ call ∈ after.game.calls, ∃ pixel ∈ call.pixels, ¬ pixel.InFrame := by
  obtain ⟨menu, lost, state, waiting, falling⟩ :=
    battle_lost Battle.gunner 15000 22 (2022, 588) (by decide +kernel)
  obtain ⟨clicked, w, run, same, click, stepped⟩ := start_clicked lost state waiting
  obtain ⟨made, begun⟩ := startClick_game sampleConfig click
  have running : clicked.game.gameState ≠ .exit := by
    rw [startClick_menu click]
    decide
  have game := (gameStep_afterPacket running stepped).trans begun
  have reached : (gameLoop sampleConfig).Reachable w :=
    ⟨_, ⟨sampleMemory, rfl⟩, Run.then run stepped⟩
  have bullet : w.game.alienBullet = menu.game.alienBullet := by
    rw [game]
    change clicked.game.alienBullet = _
    rw [same]
  obtain ⟨⟨active, width⟩, x, _⟩ := falling
  rw [← bullet] at active width x
  have height := (lives_reachable w reached).2 active
  have round := round_reachable clicked ⟨_, ⟨sampleMemory, rfl⟩, run⟩
  have first : w.game.roundNum = 0 := by
    rw [game]
    exact round.2 (.inl (startClick_menu click))
  have playing : w.game.gameState = .playing := by rw [game]; rfl
  obtain ⟨after, ticked, drawn⟩ := tick_drawsBullet sampleConfig { noInputs with rand := [] }
    playing active
  refine ⟨w, after, reached, by omega, ticked, _, drawn, ?_⟩
  have rows := height.height
  dsimp only at x
  exact drawXpm_beyond _ _ _ (by omega) (by omega) (by omega)

end Lcom.Proj
