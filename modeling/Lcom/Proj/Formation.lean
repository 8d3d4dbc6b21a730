import Lcom.Proj.March
import Lcom.Proj.Play
import Mathlib.Data.List.Forall2
import Mathlib.Order.CompletePartialOrder

/-! The formation of the aliens: how a pass moves it, its borders and its shape. -/

namespace Lcom.Proj

open Lcom.Lib

/-- What a pass that leaves `gameState` at `PLAYING` makes of one alien, before the turn. -/
inductive Marched (rightMov movImg turned : Bool) (speed : Int) (a : Alien) : Alien → Prop where
  | dead (dead : a.alive = false) : Marched rightMov movImg turned speed a a
  | moved (alive : a.alive = true) (moved after : Alien)
      (place : moved = advanceAlien rightMov movImg speed a)
      (outcome : after = moved ∨ after = moved.kill)
      (above : moved.y + moved.height < territory)
      (border : AtBorder rightMov moved → turned = true) :
      Marched rightMov movImg turned speed a after

theorem Marched.mono {rightMov movImg turned later : Bool} {speed : Int} {a after : Alien}
    (marched : Marched rightMov movImg turned speed a after) (kept : turned = true → later = true) :
    Marched rightMov movImg later speed a after := by
  cases marched with
  | dead dead => exact .dead dead
  | moved alive moved _ place outcome above border =>
      exact .moved alive moved after place outcome above (fun at_ => kept (border at_))

theorem settleAlien_playing (cfg : Config) (a : Alien) (m : March)
    (playing : (settleAlien cfg a m).gameState = .playing) :
    settleAlien cfg a m = m ∧ a.y + a.height < territory := by
  unfold settleAlien at playing ⊢
  split
  · rename_i low
    rw [if_pos low] at playing
    cases playing
  · rename_i high
    rw [if_neg high] at playing
    split
    · rename_i full
      rw [if_pos full] at playing
      cases playing
    · exact ⟨rfl, by omega⟩

theorem marchPass_playing (cfg : Config) (g : Game)
    (playing : (marchPass cfg g).2.gameState = .playing) :
    (marchPass cfg g).2.speed = g.speed ∧ (marchPass cfg g).2.roundNum = g.roundNum ∧
      List.Forall₂ (Marched g.rightMov g.movImg (marchPass cfg g).2.changeDir g.speed)
        g.aliens.toList (marchPass cfg g).1 := by
  have result := marchPass_rule cfg g
    (fun done todo m => m.gameState = .playing →
      m.speed = g.speed ∧ m.roundNum = g.roundNum ∧
        ∃ front, g.aliens.toList = front ++ todo ∧
          List.Forall₂ (Marched g.rightMov g.movImg m.changeDir g.speed) front done) ?_
    (fun _ => ⟨rfl, rfl, [], rfl, .nil⟩)
  · obtain ⟨speed, roundNum, front, all, related⟩ := result playing
    rw [List.append_nil] at all
    rw [all]
    exact ⟨speed, roundNum, related⟩
  · intro done a rest m a' m' holds visit after
    -- a visit that stays in `PLAYING` was not settled by the territory or the last kill
    have extend : ∀ (turned : Bool) (moved : Alien),
        m.gameState = .playing → (m.changeDir = true → turned = true) →
        (m.speed = g.speed → Marched g.rightMov g.movImg turned g.speed a moved) →
        m.speed = g.speed ∧ m.roundNum = g.roundNum ∧
          ∃ front, g.aliens.toList = front ++ rest ∧
            List.Forall₂ (Marched g.rightMov g.movImg turned g.speed) front (done ++ [moved]) := by
      intro turned moved before kept marched
      obtain ⟨speed, roundNum, front, all, related⟩ := holds before
      refine ⟨speed, roundNum, front ++ [a], by simp [all], ?_⟩
      apply List.rel_append
      · exact related.imp (fun _ _ old => old.mono kept)
      · exact .cons (marched speed) .nil
    cases visit with
    | skipped dead => exact extend _ _ after id (fun _ => .dead dead)
    | missed heap _ alive place read next misses =>
        obtain ⟨same, above⟩ := settleAlien_playing cfg _ _ after
        rw [same] at after ⊢
        refine extend _ _ after ?_ ?_
        · intro turned
          simp [March.checked, March.drawn, turned]
        · intro speed
          refine .moved alive a' a' (by rw [place, speed]) (.inl rfl) above ?_
          intro border
          simp [March.checked, March.drawn, border]
    | killed heap ref moved alive place read next member hit =>
        obtain ⟨same, above⟩ := settleAlien_playing cfg _ _ after
        rw [same] at after ⊢
        refine extend _ _ after ?_ ?_
        · intro turned
          simp [March.scored, March.drawn, turned]
        · intro speed
          refine .moved alive moved _ (by rw [place, speed]) (.inr rfl) above ?_
          intro border
          simp [March.scored, March.drawn, border]

theorem marchAliens_related {R : Alien → Alien → Prop} (cfg : Config) (g : Game)
    (related : List.Forall₂ R g.aliens.toList (marchPass cfg g).1) (i : Fin sizeOfAliens) :
    ∃ after, R (g.aliens.get i) after ∧ (marchAliens cfg g).aliens.get i =
      changeAlienYCoordinates after (descent (marchPass cfg g).2.changeDir) := by
  have bound : i.1 < (marchPass cfg g).1.length := by
    rw [marchPass_length]
    exact i.2
  have here := related.get (by rw [List.Vector.toList_length]; exact i.2) bound
  refine ⟨_, here, ?_⟩
  simp only [List.Vector.get_eq_get_toList, List.get_eq_getElem]
  simp only [marchAliens_toList, List.getElem_map]
  rfl

theorem marchAliens_get (cfg : Config) (g : Game)
    (playing : (marchAliens cfg g).gameState = .playing) (i : Fin sizeOfAliens) :
    ∃ after, Marched g.rightMov g.movImg (marchPass cfg g).2.changeDir g.speed
        (g.aliens.get i) after ∧
      (marchAliens cfg g).aliens.get i =
        changeAlienYCoordinates after (descent (marchPass cfg g).2.changeDir) :=
  marchAliens_related cfg g (marchPass_playing cfg g playing).2.2 i

def RoundInv (g : Game) : Prop :=
  0 ≤ g.roundNum ∧
    (g.gameState = .menuDisplay ∨ g.gameState = .instructionsDisplay → g.roundNum = 0)

theorem settleAlien_round (cfg : Config) (a : Alien) (m : March)
    (holds : 0 ≤ m.roundNum ∧ m.gameState ≠ .instructionsDisplay ∧
      (m.gameState = .menuDisplay → m.roundNum = 0)) :
    0 ≤ (settleAlien cfg a m).roundNum ∧
      (settleAlien cfg a m).gameState ≠ .instructionsDisplay ∧
      ((settleAlien cfg a m).gameState = .menuDisplay → (settleAlien cfg a m).roundNum = 0) := by
  unfold settleAlien
  split
  · exact ⟨le_refl _, by simp, fun _ => rfl⟩
  · split
    · refine ⟨by have bound := holds.1; dsimp only; omega, by simp, ?_⟩
      intro menu
      cases menu
    · exact holds

theorem marchAliens_round (cfg : Config) (g : Game) (positive : 0 ≤ g.roundNum)
    (playing : g.gameState = .playing) : RoundInv (marchAliens cfg g) := by
  have result := marchPass_rule cfg g
    (fun _ _ m => 0 ≤ m.roundNum ∧ m.gameState ≠ .instructionsDisplay ∧
      (m.gameState = .menuDisplay → m.roundNum = 0)) ?_
    ⟨positive, by simp [Game.march, playing], by simp [Game.march, playing]⟩
  · refine ⟨result.1, ?_⟩
    rintro (menu | instructions)
    · exact result.2.2 menu
    · exact absurd instructions result.2.1
  · intro done a rest m a' m' holds visit
    cases visit with
    | skipped dead => exact holds
    | missed heap _ alive place read next misses => exact settleAlien_round cfg _ _ holds
    | killed heap ref moved alive place read next member hit =>
        exact settleAlien_round cfg _ _ holds

theorem moveAliens_round (cfg : Config) (g : Game) (positive : 0 ≤ g.roundNum)
    (playing : g.gameState = .playing) : RoundInv (moveAliens cfg g) := by
  rcases moveAliens_cases cfg g with ⟨_, same⟩ | ⟨_, movImg, frameCounter, same⟩
  · rw [same]
    refine ⟨positive, ?_⟩
    rintro (menu | instructions)
    · rw [playing] at menu
      cases menu
    · rw [playing] at instructions
      cases instructions
  · rw [same]
    exact marchAliens_round cfg { g with frameCounter := g.frameCounter + 1 } positive playing

theorem tick_round {cfg : Config} {g after : Game} (positive : 0 ≤ g.roundNum)
    (playing : g.gameState = .playing) (ends : TickEnd cfg g after) : RoundInv after := by
  cases ends with
  | fired index idle alive => exact moveAliens_round cfg _ positive playing
  | lost active dead => exact ⟨le_refl _, fun _ => rfl⟩
  | flown active left =>
      obtain ⟨lives, still, calls, same⟩ := moveAlienBullet_eq g
      rw [same]
      exact moveAliens_round cfg _ positive playing

theorem inputMove_round {cfg : Config} {seen : Mouse → Prop} {started : Prop} {before after : Game}
    (holds : RoundInv before) (move : InputMove cfg seen started before after) :
    RoundInv after := by
  cases move with
  | menuCalls made menus => exact holds
  | instructions menu => exact ⟨holds.1, fun _ => holds.2 (.inl menu)⟩
  | menu instructions => exact ⟨holds.1, fun _ => holds.2 (.inr instructions)⟩
  | exit => exact ⟨holds.1, by rintro (menu | instructions) <;> contradiction⟩
  | start menu click => exact ⟨holds.1, by rintro (menu | instructions) <;> contradiction⟩
  | shoot playing => exact holds
  | steer key playing => exact holds

theorem timerMove_round {cfg : Config} {seen : Mouse → Prop} {before after : Game}
    (holds : RoundInv before) (move : TimerMove cfg seen before after) : RoundInv after := by
  cases move with
  | count made menus still => exact holds
  | tick _ inputs playing ends =>
      exact tick_round (g := drawFrame cfg inputs (timerIntHandler before)) holds.1 playing ends
  | nextRound cleared => exact ⟨holds.1, by rintro (menu | instructions) <;> contradiction⟩

theorem round_reachable {cfg : Config} (w : World) (reached : (gameLoop cfg).Reachable w) :
    RoundInv w.game :=
  reachable_invariant RoundInv (fun _ => ⟨le_refl _, fun _ => rfl⟩) (fun _ holds => holds)
    (fun _ _ _ holds move => inputMove_round holds move)
    (fun _ _ holds move => timerMove_round holds move) w reached

section Formation

variable {cfg : Config} (Q : Aliens → Int → Int → Bool → Prop)

/-- `Q` holds of the aliens, the speed, the round and the direction of a game under way. -/
def FormationInv (g : Game) : Prop :=
  RoundInv g ∧ (g.gameState = .playing → Q g.aliens g.speed g.roundNum g.rightMov)

variable {Q}

theorem moveAliens_formation
    (pass : ∀ g, Q g.aliens g.speed g.roundNum g.rightMov →
      (marchAliens cfg g).gameState = .playing →
      Q (marchAliens cfg g).aliens g.speed g.roundNum (marchAliens cfg g).rightMov)
    (g : Game) (positive : 0 ≤ g.roundNum) (playing : g.gameState = .playing)
    (holds : Q g.aliens g.speed g.roundNum g.rightMov) : FormationInv Q (moveAliens cfg g) := by
  refine ⟨moveAliens_round cfg g positive playing, ?_⟩
  rcases moveAliens_cases cfg g with ⟨_, same⟩ | ⟨_, movImg, frameCounter, same⟩
  · rw [same]
    exact fun _ => holds
  · rw [same]
    intro after
    obtain ⟨speed, roundNum, _⟩ :=
      marchPass_playing cfg { g with frameCounter := g.frameCounter + 1 } after
    change Q _ (marchPass cfg { g with frameCounter := g.frameCounter + 1 }).2.speed
      (marchPass cfg { g with frameCounter := g.frameCounter + 1 }).2.roundNum _
    rw [speed, roundNum]
    exact pass { g with frameCounter := g.frameCounter + 1 } holds after

theorem inputMove_formation {seen : Mouse → Prop} {started : Prop} {before after : Game}
    (fresh : ∀ roundNum rightMov, 0 ≤ roundNum →
      Q (initAliens cfg) (initialAlienSpeed + roundNum) roundNum rightMov)
    (holds : FormationInv Q before) (move : InputMove cfg seen started before after) :
    FormationInv Q after := by
  refine ⟨inputMove_round holds.1 move, ?_⟩
  cases move with
  | menuCalls made menus => exact holds.2
  | instructions menu => intro playing; cases playing
  | menu instructions => intro playing; cases playing
  | exit => intro playing; cases playing
  | start menu click =>
      intro _
      have first : before.roundNum = 0 := holds.1.2 (.inl menu)
      have speed : initialAlienSpeed + 2 * before.roundNum =
          initialAlienSpeed + before.roundNum := by rw [first]; rfl
      change Q (initAliens cfg) (initialAlienSpeed + 2 * before.roundNum) _ _
      rw [speed]
      exact fresh _ _ holds.1.1
  | shoot playing => exact holds.2
  | steer key playing => exact holds.2

theorem timerMove_formation {seen : Mouse → Prop} {before after : Game}
    (fresh : ∀ roundNum rightMov, 0 ≤ roundNum →
      Q (initAliens cfg) (initialAlienSpeed + roundNum) roundNum rightMov)
    (pass : ∀ g, Q g.aliens g.speed g.roundNum g.rightMov →
      (marchAliens cfg g).gameState = .playing →
      Q (marchAliens cfg g).aliens g.speed g.roundNum (marchAliens cfg g).rightMov)
    (holds : FormationInv Q before) (move : TimerMove cfg seen before after) :
    FormationInv Q after := by
  have round := timerMove_round holds.1 move
  cases move with
  | count made menus still => exact holds
  | tick _ inputs playing ends =>
      have formed := holds.2 playing
      cases ends with
      | fired index idle alive =>
          exact moveAliens_formation pass
            (fireAlienBullet cfg index (drawFrame cfg inputs (timerIntHandler before)))
            holds.1.1 playing formed
      | lost active dead => exact ⟨round, by intro playing; cases playing⟩
      | flown active left =>
          obtain ⟨lives, still, calls, same⟩ :=
            moveAlienBullet_eq (drawFrame cfg inputs (timerIntHandler before))
          rw [same]
          exact moveAliens_formation pass _ holds.1.1 playing formed
  | nextRound cleared => exact ⟨round, fun _ => fresh _ _ holds.1.1⟩

/-- The rule for the formation: `Q` holds for fresh aliens at the speed of the round and a
pass that goes on playing keeps it. -/
theorem formation_reachable
    (fresh : ∀ roundNum rightMov, 0 ≤ roundNum →
      Q (initAliens cfg) (initialAlienSpeed + roundNum) roundNum rightMov)
    (pass : ∀ g, Q g.aliens g.speed g.roundNum g.rightMov →
      (marchAliens cfg g).gameState = .playing →
      Q (marchAliens cfg g).aliens g.speed g.roundNum (marchAliens cfg g).rightMov)
    (w : World) (reached : (gameLoop cfg).Reachable w) : FormationInv Q w.game := by
  apply reachable_invariant (FormationInv Q) _ _ _ _ w reached
  · exact fun memory => ⟨⟨le_refl _, fun _ => rfl⟩, by intro playing; cases playing⟩
  · exact fun g holds => holds
  · exact fun started before after holds move => inputMove_formation fresh holds move
  · exact fun before after holds move => timerMove_formation fresh pass holds move

end Formation

def column (i : Fin sizeOfAliens) : Int := (i.1 / 3 : Nat)

def rowOf (i : Fin sizeOfAliens) : Int := (i.1 % 3 : Nat)

theorem initAliens_get (cfg : Config) (i : Fin sizeOfAliens) :
    (initAliens cfg).get i = gridAlien cfg (i.1 / 3) (i.1 % 3) := by
  fin_cases i <;> rfl

def Sized (a : Alien) : Prop :=
  (a.width = 60 ∧ a.height = 40) ∧ (a.img.width = 60 ∧ a.img.height = 40) ∧
    a.imgMov.width = 60 ∧ a.imgMov.height = 40

theorem createAlien_sized (loader : XpmLoader) (xi yi value : Int) (img imgMov : XpmMap)
    (size : img.size = (60, 40)) (sizeMov : imgMov.size = (60, 40)) :
    Sized (createAlien loader xi yi img imgMov value) := by
  refine ⟨⟨rfl, rfl⟩, ⟨?_, ?_⟩, ?_, ?_⟩
  · exact (loader.width_eq img).trans (by rw [size])
  · exact (loader.height_eq img).trans (by rw [size])
  · exact (loader.width_eq imgMov).trans (by rw [sizeMov])
  · exact (loader.height_eq imgMov).trans (by rw [sizeMov])

theorem gridAlien_spec (cfg : Config) (column row : Nat) :
    Sized (gridAlien cfg column row) ∧ (gridAlien cfg column row).x = 24 + 80 * column ∧
      (gridAlien cfg column row).y = 20 + 60 * row := by
  unfold gridAlien
  dsimp only
  split
  · exact ⟨createAlien_sized _ _ _ _ _ _ rfl rfl, rfl, rfl⟩
  · split
    · exact ⟨createAlien_sized _ _ _ _ _ _ rfl rfl, rfl, rfl⟩
    · exact ⟨createAlien_sized _ _ _ _ _ _ rfl rfl, rfl, rfl⟩

theorem advanceAlien_sized (rightMov movImg : Bool) (speed : Int) (a : Alien) (sized : Sized a) :
    Sized (advanceAlien rightMov movImg speed a) := by
  obtain ⟨_, ⟨width, height⟩, widthMov, heightMov⟩ := sized
  refine ⟨?_, ⟨width, height⟩, widthMov, heightMov⟩
  cases movImg with
  | false => exact ⟨congrArg Nat.cast width, congrArg Nat.cast height⟩
  | true => exact ⟨congrArg Nat.cast widthMov, congrArg Nat.cast heightMov⟩

def heading (rightMov : Bool) (speed : Int) : Int := if rightMov then speed else -speed

section Marched

variable {rightMov movImg turned : Bool} {speed : Int} {a after : Alien}

theorem Marched.y_eq (marched : Marched rightMov movImg turned speed a after) :
    after.y = a.y := by
  cases marched with
  | dead dead => rfl
  | moved alive moved _ place outcome above border =>
      subst place
      rcases outcome with rfl | rfl <;> rfl

theorem Marched.sized (marched : Marched rightMov movImg turned speed a after)
    (sized : Sized a) : Sized after := by
  cases marched with
  | dead dead => exact sized
  | moved alive moved _ place outcome above border =>
      have there := advanceAlien_sized rightMov movImg speed a sized
      rw [← place] at there
      rcases outcome with rfl | rfl
      · exact there
      · exact there

/-- An alien that survives a pass was alive, moved by the speed, is above the territory line,
and at a border only if the formation turns. -/
theorem Marched.survivor (marched : Marched rightMov movImg turned speed a after)
    (alive : after.alive = true) :
    a.alive = true ∧ after.x = a.x + heading rightMov speed ∧
      after.y + after.height < territory ∧ (AtBorder rightMov after → turned = true) := by
  cases marched with
  | dead dead => exact absurd (alive.symm.trans dead) (by decide)
  | moved before moved _ place outcome above border =>
      rcases outcome with rfl | rfl
      · exact ⟨before, by rw [place]; rfl, above, border⟩
      · cases alive

end Marched

def Bordered (aliens : Aliens) (speed roundNum : Int) (rightMov : Bool) : Prop :=
  (speed = initialAlienSpeed + roundNum ∧ 0 ≤ roundNum ∧ ∀ i, Sized (aliens.get i)) ∧
    ∀ i, (aliens.get i).alive = true →
      (xLeftBorder - speed < (aliens.get i).x ∧ (aliens.get i).x + 60 < xRightBorder + speed) ∧
      (rightMov = true → (aliens.get i).x + 60 < xRightBorder) ∧
      (rightMov = false → xLeftBorder < (aliens.get i).x)

theorem initAliens_bordered (cfg : Config) (roundNum : Int) (rightMov : Bool)
    (positive : 0 ≤ roundNum) :
    Bordered (initAliens cfg) (initialAlienSpeed + roundNum) roundNum rightMov := by
  refine ⟨⟨rfl, positive, ?_⟩, ?_⟩
  · intro i
    rw [initAliens_get]
    exact (gridAlien_spec cfg _ _).1
  · intro i _
    have place : ((initAliens cfg).get i).x = 24 + 80 * (i.1 / 3 : Nat) := by
      rw [initAliens_get]
      exact (gridAlien_spec cfg _ _).2.1
    have bound : i.1 / 3 ≤ 7 := by
      have below : i.1 < 24 := i.2
      omega
    rw [place]
    simp only [xLeftBorder, xRightBorder, initialAlienSpeed]
    refine ⟨⟨by omega, by omega⟩, fun _ => by omega, fun _ => by omega⟩

theorem border_step {x width speed : Int} {rightMov turned : Bool} (wide : width = 60)
    (forward : 1 ≤ speed) (right : rightMov = true → x + 60 < xRightBorder)
    (left : rightMov = false → xLeftBorder < x)
    (inside : xLeftBorder - speed < x ∧ x + 60 < xRightBorder + speed)
    (border : (if rightMov then x + heading rightMov speed + width ≥ xRightBorder
      else x + heading rightMov speed ≤ xLeftBorder) → turned = true) :
    (xLeftBorder - speed < x + heading rightMov speed ∧
        x + heading rightMov speed + 60 < xRightBorder + speed) ∧
      ((if turned then !rightMov else rightMov) = true →
        x + heading rightMov speed + 60 < xRightBorder) ∧
      ((if turned then !rightMov else rightMov) = false →
        xLeftBorder < x + heading rightMov speed) := by
  simp only [heading, xLeftBorder, xRightBorder] at *
  cases rightMov <;> cases turned <;> simp at * <;> omega

theorem marchAliens_bordered (cfg : Config) (g : Game)
    (holds : Bordered g.aliens g.speed g.roundNum g.rightMov)
    (playing : (marchAliens cfg g).gameState = .playing) :
    Bordered (marchAliens cfg g).aliens g.speed g.roundNum (marchAliens cfg g).rightMov := by
  obtain ⟨⟨speed, positive, sized⟩, bounds⟩ := holds
  refine ⟨⟨speed, positive, ?_⟩, ?_⟩
  · intro i
    obtain ⟨after, marched, place⟩ := marchAliens_get cfg g playing i
    rw [place]
    exact marched.sized (sized i)
  · intro i alive
    obtain ⟨after, marched, place⟩ := marchAliens_get cfg g playing i
    rw [place] at alive ⊢
    obtain ⟨before, moved, _, border⟩ := marched.survivor alive
    have old := bounds i before
    have width : after.width = 60 := (marched.sized (sized i)).1.1
    have forward : 1 ≤ g.speed := by
      rw [speed]
      simp only [initialAlienSpeed]
      omega
    have turn : (marchAliens cfg g).rightMov =
        if (marchPass cfg g).2.changeDir then !g.rightMov else g.rightMov := rfl
    rw [turn]
    rw [AtBorder, moved] at border
    simp only [changeAlienYCoordinates]
    rw [moved]
    exact border_step width forward old.2.1 old.2.2 old.1 border

theorem bordered_reachable {cfg : Config} (w : World) (reached : (gameLoop cfg).Reachable w)
    (playing : w.game.gameState = .playing) :
    Bordered w.game.aliens w.game.speed w.game.roundNum w.game.rightMov :=
  (formation_reachable (fun _ _ positive => initAliens_bordered cfg _ _ positive)
    (fun g holds after => marchAliens_bordered cfg g holds after) w reached).2 playing

/-- The formation never moves past a border by a full step. -/
theorem formation_border_bound (cfg : Config) (w : World) (reached : (gameLoop cfg).Reachable w)
    (playing : w.game.gameState = .playing) :
    w.game.speed = initialAlienSpeed + w.game.roundNum ∧
      ∀ i, (w.game.aliens.get i).alive = true →
        (xLeftBorder - w.game.speed < (w.game.aliens.get i).x ∧
          (w.game.aliens.get i).x + 60 < xRightBorder + w.game.speed) ∧
        (w.game.rightMov = true → (w.game.aliens.get i).x + 60 < xRightBorder) ∧
        (w.game.rightMov = false → xLeftBorder < (w.game.aliens.get i).x) := by
  obtain ⟨⟨speed, _, _⟩, bounds⟩ := bordered_reachable w reached playing
  exact ⟨speed, bounds⟩

theorem formation_border_bound_first_wave : ∃ w, (gameLoop sampleConfig).Reachable w ∧
    w.game.gameState = .playing ∧ (w.game.aliens.get 0).alive = true ∧
    xLeftBorder - w.game.speed < (w.game.aliens.get 0).x := by
  obtain ⟨w, reached, playing, alive⟩ := reachable_of_played (clickStart ++ [timerTick [5]])
    (fun w => w.game.gameState = .playing ∧ (w.game.aliens.get 0).alive = true)
    (by decide +kernel)
  have bounds := (formation_border_bound sampleConfig w reached playing).2 0 alive
  exact ⟨w, reached, playing, alive, bounds.1.1⟩

def Rigid (aliens : Aliens) : Prop :=
  (∀ i, Sized (aliens.get i)) ∧
    (∀ i j, (aliens.get i).alive = true → (aliens.get j).alive = true →
      (aliens.get i).x - (aliens.get j).x = 80 * (column i - column j)) ∧
    ∀ i j, (aliens.get i).y - (aliens.get j).y = 60 * (rowOf i - rowOf j)

theorem initAliens_rigid (cfg : Config) : Rigid (initAliens cfg) := by
  refine ⟨?_, ?_, ?_⟩
  · intro i
    rw [initAliens_get]
    exact (gridAlien_spec cfg _ _).1
  · intro i j _ _
    rw [initAliens_get, initAliens_get, (gridAlien_spec cfg _ _).2.1, (gridAlien_spec cfg _ _).2.1]
    simp only [column]
    ring
  · intro i j
    rw [initAliens_get, initAliens_get, (gridAlien_spec cfg _ _).2.2, (gridAlien_spec cfg _ _).2.2]
    simp only [rowOf]
    ring

theorem marchAliens_rigid (cfg : Config) (g : Game) (rigid : Rigid g.aliens)
    (playing : (marchAliens cfg g).gameState = .playing) :
    Rigid (marchAliens cfg g).aliens := by
  obtain ⟨sized, columns, rows⟩ := rigid
  refine ⟨?_, ?_, ?_⟩
  · intro i
    obtain ⟨after, marched, place⟩ := marchAliens_get cfg g playing i
    rw [place]
    exact marched.sized (sized i)
  · intro i j
    obtain ⟨first, marchedFirst, placeFirst⟩ := marchAliens_get cfg g playing i
    obtain ⟨second, marchedSecond, placeSecond⟩ := marchAliens_get cfg g playing j
    rw [placeFirst, placeSecond]
    intro aliveFirst aliveSecond
    obtain ⟨beforeFirst, movedFirst, _⟩ := marchedFirst.survivor aliveFirst
    obtain ⟨beforeSecond, movedSecond, _⟩ := marchedSecond.survivor aliveSecond
    have old := columns i j beforeFirst beforeSecond
    simp only [changeAlienYCoordinates]
    rw [movedFirst, movedSecond]
    linarith
  · intro i j
    obtain ⟨first, marchedFirst, placeFirst⟩ := marchAliens_get cfg g playing i
    obtain ⟨second, marchedSecond, placeSecond⟩ := marchAliens_get cfg g playing j
    have old := rows i j
    rw [placeFirst, placeSecond]
    simp only [changeAlienYCoordinates]
    rw [marchedFirst.y_eq, marchedSecond.y_eq]
    linarith

theorem rigid_reachable {cfg : Config} (w : World) (reached : (gameLoop cfg).Reachable w)
    (playing : w.game.gameState = .playing) : Rigid w.game.aliens :=
  (formation_reachable (Q := fun aliens _ _ _ => Rigid aliens)
    (fun _ _ _ => initAliens_rigid cfg)
    (fun g holds after => marchAliens_rigid cfg g holds after) w reached).2 playing

def Alien.box (a : Alien) : Set (Int × Int) :=
  Set.Icc a.x (a.x + a.width) ×ˢ Set.Icc a.y (a.y + a.height)

theorem AlienHit.mem_box {a : Alien} {bullet : ShipBullet} (hit : AlienHit a bullet) :
    (bullet.x, bullet.y) ∈ a.box := by
  obtain ⟨left, ⟨right, _⟩, top, bottom, _⟩ := hit
  exact ⟨⟨left.le, right.le⟩, top.le, bottom.le⟩

theorem grid_injective {i j : Fin sizeOfAliens} (columns : column i = column j)
    (rows : rowOf i = rowOf j) : i = j := by
  simp only [column, rowOf] at columns rows
  apply Fin.ext
  omega

theorem Rigid.box_unique {aliens : Aliens} (rigid : Rigid aliens) {i j : Fin sizeOfAliens}
    (aliveFirst : (aliens.get i).alive = true) (aliveSecond : (aliens.get j).alive = true)
    {point : Int × Int} (first : point ∈ (aliens.get i).box)
    (second : point ∈ (aliens.get j).box) : i = j := by
  obtain ⟨sized, columns, rows⟩ := rigid
  obtain ⟨⟨left, right⟩, top, bottom⟩ := first
  obtain ⟨⟨left', right'⟩, top', bottom'⟩ := second
  have apart := columns i j aliveFirst aliveSecond
  have above := rows i j
  rw [(sized i).1.1] at right
  rw [(sized i).1.2] at bottom
  rw [(sized j).1.1] at right'
  rw [(sized j).1.2] at bottom'
  -- columns are 80 apart and rows 60, more than a box is wide or high
  apply grid_injective
  · omega
  · omega

/-- The formation is rigid, so that the boxes of the living are disjoint and a bullet hits at
most one of them. -/
theorem formation_rigid (cfg : Config) (w : World) (reached : (gameLoop cfg).Reachable w)
    (playing : w.game.gameState = .playing) :
    (∀ i j, (w.game.aliens.get i).alive = true → (w.game.aliens.get j).alive = true →
      (w.game.aliens.get i).x - (w.game.aliens.get j).x = 80 * (column i - column j)) ∧
    (∀ i j, (w.game.aliens.get i).y - (w.game.aliens.get j).y = 60 * (rowOf i - rowOf j)) ∧
    (∀ i, (w.game.aliens.get i).width = 60 ∧ (w.game.aliens.get i).height = 40) ∧
    (∀ i j, (w.game.aliens.get i).alive = true → (w.game.aliens.get j).alive = true → i ≠ j →
      Disjoint (w.game.aliens.get i).box (w.game.aliens.get j).box) ∧
    ∀ (first second : ShipBullet) i j, first.x = second.x → first.y = second.y →
      AlienHit (w.game.aliens.get i) first → AlienHit (w.game.aliens.get j) second → i = j := by
  have rigid := rigid_reachable w reached playing
  refine ⟨rigid.2.1, rigid.2.2, fun i => (rigid.1 i).1, ?_, ?_⟩
  · intro i j aliveFirst aliveSecond distinct
    rw [Set.disjoint_left]
    intro point first second
    exact distinct (rigid.box_unique aliveFirst aliveSecond first second)
  · intro first second i j sameX sameY hitFirst hitSecond
    have point := hitSecond.mem_box
    rw [← sameX, ← sameY] at point
    exact rigid.box_unique hitFirst.2.1.2 hitSecond.2.1.2 hitFirst.mem_box point

theorem formation_rigid_first_wave : ∃ w, (gameLoop sampleConfig).Reachable w ∧
    w.game.gameState = .playing ∧
    (w.game.aliens.get 4).y - (w.game.aliens.get 0).y = 60 * (rowOf 4 - rowOf 0) := by
  obtain ⟨w, reached, playing⟩ := reachable_of_played (clickStart ++ [timerTick [5]])
    (fun w => w.game.gameState = .playing) (by decide +kernel)
  exact ⟨w, reached, playing, (formation_rigid sampleConfig w reached playing).2.1 4 0⟩

end Lcom.Proj
