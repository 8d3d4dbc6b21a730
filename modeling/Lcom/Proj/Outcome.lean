import Lcom.Proj.Coalescing
import Lcom.Proj.Formation
import Lcom.Proj.Waves

/-! The end of a tick: a cleared wave, a lost territory or a lost ship. The pass over the aliens
is taken apart into which aliens are hit and what the loop settles after each of them. -/

namespace Lcom.Proj

open Lcom.Lib

/-- The territory test for an alien that has been drawn with the image `movImg` chooses. -/
def Alien.AtTerritory (movImg : Bool) (a : Alien) : Prop :=
  a.y + ((if movImg then a.imgMov else a.img).height : Int) ≥ territory

instance (movImg : Bool) (a : Alien) : Decidable (a.AtTerritory movImg) :=
  inferInstanceAs (Decidable (_ ≥ _))

def bulletFor (slots : List (Option Ref)) (read : Ref → ShipBullet) (a : Alien) : Option Ref :=
  slots.reduceOption.find? (fun ref => decide (AlienHit a (read ref)))

def spend (read : Ref → ShipBullet) : Option Ref → Ref → ShipBullet
  | none => read
  | some ref => Function.update read ref { read ref with hitAlien := true }

/-- A living alien before the tick, and whether it is hit at its turn. -/
structure Turn where
  alien : Alien
  hit : Bool
  deriving DecidableEq

/-- The turns of the living aliens. An alien at the territory sets the speed of those after it. -/
def turns (rightMov movImg : Bool) (slots : List (Option Ref)) :
    (speed : Int) → (read : Ref → ShipBullet) → List Alien → List Turn
  | _, _, [] => []
  | speed, read, a :: rest =>
      if a.alive then
        let bullet := bulletFor slots read (advanceAlien rightMov movImg speed a)
        ⟨a, bullet.isSome⟩ :: turns rightMov movImg slots
          (if a.AtTerritory movImg then initialAlienSpeed else speed) (spend read bullet) rest
      else turns rightMov movImg slots speed read rest

theorem turns_alien (rightMov movImg : Bool) (slots : List (Option Ref)) (speed : Int)
    (read : Ref → ShipBullet) (aliens : List Alien) :
    (turns rightMov movImg slots speed read aliens).map Turn.alien =
      aliens.filter (fun a => a.alive) := by
  induction aliens generalizing speed read with
  | nil => rfl
  | cons a rest ih =>
      rw [turns]
      cases alive : a.alive with
      | false =>
          rw [List.filter_cons_of_neg (by simp [alive])]
          exact ih speed read
      | true =>
          rw [List.filter_cons_of_pos alive, if_pos rfl, List.map_cons, ih]

theorem verifySlots_bulletFor (slots : List (Option Ref)) (state : Collision) :
    (verifySlots state slots).heap.read =
        spend state.heap.read (bulletFor slots state.heap.read state.alien) ∧
      (verifySlots state slots).alien =
        (if (bulletFor slots state.heap.read state.alien).isSome then state.alien.kill
          else state.alien) ∧
      (verifySlots state slots).killCount = state.killCount +
        (if (bulletFor slots state.heap.read state.alien).isSome then 1 else 0) ∧
      (verifySlots state slots).ship =
        (if (bulletFor slots state.heap.read state.alien).isSome then
          increaseScore state.alien.value state.ship else state.ship) := by
  induction slots generalizing state with
  | nil => exact ⟨rfl, rfl, (Int.add_zero _).symm, rfl⟩
  | cons slot rest ih =>
      cases slot with
      | none =>
          have same : bulletFor (none :: rest) state.heap.read state.alien =
              bulletFor rest state.heap.read state.alien := by
            rw [bulletFor, List.reduceOption_cons_of_none]
            rfl
          rw [same]
          exact ih state
      | some ref =>
          by_cases hit : AlienHit state.alien (state.heap.read ref)
          · have first : bulletFor (some ref :: rest) state.heap.read state.alien = some ref := by
              rw [bulletFor, List.reduceOption_cons_of_some, List.find?_cons_of_pos (by simpa using hit)]
            rw [first, verifySlots, if_pos hit]
            refine ⟨?_, rfl, rfl, rfl⟩
            rw [Collision.hit_read, Heap.touch_read]
            rfl
          · have later : bulletFor (some ref :: rest) state.heap.read state.alien =
                bulletFor rest state.heap.read state.alien := by
              rw [bulletFor, List.reduceOption_cons_of_some, List.find?_cons_of_neg (by simpa using hit)]
              rfl
            have tail := ih { state with heap := state.heap.touch ref }
            rw [Heap.touch_read] at tail
            rw [later, verifySlots, if_neg hit]
            exact tail

/-- The march variables that the end of a game or of a wave changes. -/
structure Standing where
  killCount : Int
  ship : Ship
  speed : Int
  roundNum : Int
  gameState : GameState

def March.standing (m : March) : Standing :=
  ⟨m.killCount, m.ship, m.speed, m.roundNum, m.gameState⟩

def Standing.score (s : Standing) (turn : Turn) : Standing :=
  if turn.hit then
    { s with killCount := s.killCount + 1, ship := increaseScore turn.alien.value s.ship }
  else s

def Standing.settle (cfg : Config) (movImg : Bool) (s : Standing) (turn : Turn) : Standing :=
  if turn.alien.AtTerritory movImg then
    { s.score turn with
      ship := newShip cfg
      speed := initialAlienSpeed
      roundNum := 0
      gameState := .menuDisplay }
  else if (s.score turn).killCount = sizeOfAliens then
    { s.score turn with gameState := .nextRound, roundNum := s.roundNum + 1 }
  else s.score turn

theorem settleAlien_standing (cfg : Config) (movImg : Bool) (struck : Alien) (m : March)
    (s : Standing) (turn : Turn) (low : struck.y + struck.height ≥ territory ↔
      turn.alien.AtTerritory movImg) (scored : m.standing = s.score turn) :
    (settleAlien cfg struck m).standing = s.settle cfg movImg turn := by
  have count : m.killCount = (s.score turn).killCount := congrArg Standing.killCount scored
  have rounds : m.roundNum = s.roundNum := by
    have same : m.roundNum = (s.score turn).roundNum := congrArg Standing.roundNum scored
    rw [same, Standing.score]
    split <;> rfl
  unfold settleAlien Standing.settle
  by_cases reached : turn.alien.AtTerritory movImg
  · rw [if_pos (low.mpr reached), if_pos reached]
    dsimp only
    rw [← count]
    rfl
  · rw [if_neg (fun at_ => reached (low.mp at_)), if_neg reached, ← count, ← rounds, ← scored]
    by_cases full : m.killCount = sizeOfAliens
    · rw [if_pos full, if_pos full]
      rfl
    · rw [if_neg full, if_neg full]

structure TakesTurn (cfg : Config) (movImg : Bool) (a : Alien) (m : March) (bullet : Option Ref)
    (after : Alien × March) : Prop where
  standing : after.2.standing = m.standing.settle cfg movImg ⟨a, bullet.isSome⟩
  slots : after.2.bullets.slots = m.bullets.slots
  read : after.2.bullets.heap.read = spend m.bullets.heap.read bullet
  alive : after.1.alive = !bullet.isSome
  low : after.1.y + after.1.height ≥ territory ↔ a.AtTerritory movImg

theorem marchAlien_turn (cfg : Config) (rightMov movImg : Bool) (a : Alien) (m : March)
    (living : a.alive = true) :
    TakesTurn cfg movImg a m (bulletFor m.bullets.slots.toList m.bullets.heap.read
        (advanceAlien rightMov movImg m.speed a)) (marchAlien cfg rightMov movImg a m) := by
  obtain ⟨read, alien, killCount, ship⟩ := verifySlots_bulletFor m.bullets.slots.toList
    ⟨advanceAlien rightMov movImg m.speed a, m.killCount, m.ship, m.bullets.heap⟩
  dsimp only at read alien killCount ship
  generalize bulletFor m.bullets.slots.toList m.bullets.heap.read
    (advanceAlien rightMov movImg m.speed a) = bullet at read alien killCount ship ⊢
  have low : (strikeAlien rightMov movImg (advanceAlien rightMov movImg m.speed a) m).1.y +
      (strikeAlien rightMov movImg (advanceAlien rightMov movImg m.speed a) m).1.height ≥ territory ↔
        a.AtTerritory movImg := by
    simp only [strikeAlien, verifyAlienAndBulletCollision, alien]
    cases bullet.isSome <;> rfl
  have scored : (strikeAlien rightMov movImg (advanceAlien rightMov movImg m.speed a) m).2.standing =
      m.standing.score ⟨a, bullet.isSome⟩ := by
    simp only [strikeAlien, verifyAlienAndBulletCollision, March.standing, killCount, ship,
      Standing.score]
    cases bullet.isSome
    · simp
    · rfl
  rw [marchAlien, if_neg (not_not.mpr living)]
  refine ⟨settleAlien_standing cfg movImg _ _ _ _ low scored, ?_, ?_, ?_, low⟩
  · dsimp only
    rw [settleAlien_bullets]
    rfl
  · dsimp only
    rw [settleAlien_bullets]
    exact read
  · simp only [strikeAlien, verifyAlienAndBulletCollision, alien]
    cases bullet.isSome
    · exact living
    · rfl

theorem settle_speed (cfg : Config) (movImg : Bool) (s : Standing) (turn : Turn) :
    (s.settle cfg movImg turn).speed =
      if turn.alien.AtTerritory movImg then initialAlienSpeed else s.speed := by
  have kept : (s.score turn).speed = s.speed := by
    unfold Standing.score
    split <;> rfl
  unfold Standing.settle
  split
  · rfl
  · split
    · exact kept
    · exact kept

theorem traverse_turns (cfg : Config) (rightMov movImg : Bool) (aliens : List Alien) (m : March) :
    (traverse (marchAlien cfg rightMov movImg) aliens m).2.standing =
        (turns rightMov movImg m.bullets.slots.toList m.speed m.bullets.heap.read aliens).foldl
          (Standing.settle cfg movImg) m.standing ∧
      ((traverse (marchAlien cfg rightMov movImg) aliens m).1.filter (fun a => a.alive)).map
          (fun a => decide (a.y + a.height ≥ territory)) =
        ((turns rightMov movImg m.bullets.slots.toList m.speed m.bullets.heap.read aliens).filter
          (fun turn => !turn.hit)).map (fun turn => decide (turn.alien.AtTerritory movImg)) := by
  induction aliens generalizing m with
  | nil => exact ⟨rfl, rfl⟩
  | cons a rest ih =>
      rw [traverse_cons, turns]
      cases alive : a.alive with
      | false =>
          have skipped : marchAlien cfg rightMov movImg a m = (a, m) := by
            rw [marchAlien, if_pos (by simp [alive])]
          rw [skipped, List.filter_cons_of_neg (by simp [alive])]
          exact ih m
      | true =>
          have turn := marchAlien_turn cfg rightMov movImg a m alive
          generalize bulletFor m.bullets.slots.toList m.bullets.heap.read
            (advanceAlien rightMov movImg m.speed a) = bullet at turn ⊢
          have tail := ih (marchAlien cfg rightMov movImg a m).2
          have speed : (marchAlien cfg rightMov movImg a m).2.speed =
              if a.AtTerritory movImg then initialAlienSpeed else m.speed := by
            have same := congrArg Standing.speed turn.standing
            rw [settle_speed] at same
            exact same
          rw [turn.slots, turn.read, speed, turn.standing] at tail
          rw [if_pos rfl, List.foldl_cons]
          refine ⟨tail.1, ?_⟩
          cases hit : bullet.isSome with
          | true =>
              have dead : ¬ (marchAlien cfg rightMov movImg a m).1.alive = true := by
                rw [turn.alive, hit]
                decide
              rw [List.filter_cons_of_neg dead, List.filter_cons_of_neg (by simp [hit])]
              exact tail.2
          | false =>
              have spared : (marchAlien cfg rightMov movImg a m).1.alive = true := by
                rw [turn.alive, hit]
                rfl
              rw [List.filter_cons_of_pos spared, List.filter_cons_of_pos (by simp [hit]),
                List.map_cons, List.map_cons, tail.2, decide_eq_decide.mpr turn.low]

/-- The points for the aliens that are hit after the last one at the territory. -/
def pointsAfter (movImg : Bool) (taken : List Turn) : Int :=
  taken.foldl (fun points turn => if turn.alien.AtTerritory movImg then 0
    else if turn.hit then points + turn.alien.value else points) 0

/-- The territory is lost, and a new ship has got some points already. -/
structure Defeated (cfg : Config) (points : Int) (s : Standing) : Prop where
  gameState : s.gameState = .menuDisplay
  roundNum : s.roundNum = 0
  speed : s.speed = initialAlienSpeed
  ship : s.ship = increaseScore points (newShip cfg)

section Turns

variable (cfg : Config) {movImg : Bool}

theorem settle_low {turn : Turn} (low : turn.alien.AtTerritory movImg) (s : Standing) :
    Defeated cfg 0 (s.settle cfg movImg turn) := by
  rw [Standing.settle, if_pos low]
  exact ⟨rfl, rfl, rfl, rfl⟩

theorem settle_high {turn : Turn} (high : ¬ turn.alien.AtTerritory movImg) {s : Standing}
    (few : (s.score turn).killCount ≠ sizeOfAliens) : s.settle cfg movImg turn = s.score turn := by
  rw [Standing.settle, if_neg high, if_neg few]

variable {cfg}

theorem settle_killCount (s : Standing) (turn : Turn) :
    (s.settle cfg movImg turn).killCount = (s.score turn).killCount := by
  unfold Standing.settle
  split
  · rfl
  · split <;> rfl

theorem score_gameState (s : Standing) (turn : Turn) : (s.score turn).gameState = s.gameState := by
  unfold Standing.score
  split
  · rfl
  · rfl

theorem score_killCount (s : Standing) (turn : Turn) :
    (s.score turn).killCount = s.killCount + (if turn.hit then 1 else 0) := by
  unfold Standing.score
  split
  · rfl
  · exact (Int.add_zero _).symm

theorem foldl_killCount (taken : List Turn) (s : Standing) :
    (taken.foldl (Standing.settle cfg movImg) s).killCount =
      s.killCount + taken.countP (fun turn => turn.hit) := by
  induction taken generalizing s with
  | nil => exact (Int.add_zero _).symm
  | cons turn rest ih =>
      rw [List.foldl_cons, ih, settle_killCount, score_killCount, List.countP_cons]
      push_cast
      omega

variable (cfg movImg)

theorem pointsAfter_snoc (front : List Turn) (last : Turn) :
    pointsAfter movImg (front ++ [last]) =
      if last.alien.AtTerritory movImg then 0
      else if last.hit then pointsAfter movImg front + last.alien.value
      else pointsAfter movImg front := by
  rw [pointsAfter, List.foldl_append]
  rfl

theorem Defeated.scored {points : Int} {s : Standing} (lost : Defeated cfg points s) (turn : Turn) :
    Defeated cfg (if turn.hit then points + turn.alien.value else points) (s.score turn) := by
  obtain ⟨gameState, roundNum, speed, ship⟩ := lost
  unfold Standing.score
  split
  · refine ⟨gameState, roundNum, speed, ?_⟩
    rw [ship]
    simp only [increaseScore, Int.add_assoc]
  · exact ⟨gameState, roundNum, speed, ship⟩

/-- As long as some alien is left, the first alien at the territory ends the game for good. -/
theorem settled_few (taken : List Turn) (s : Standing)
    (few : s.killCount + taken.countP (fun turn => turn.hit) < sizeOfAliens) :
    ((∃ turn ∈ taken, turn.alien.AtTerritory movImg) →
        Defeated cfg (pointsAfter movImg taken) (taken.foldl (Standing.settle cfg movImg) s)) ∧
      ((∀ turn ∈ taken, ¬ turn.alien.AtTerritory movImg) →
        (taken.foldl (Standing.settle cfg movImg) s).gameState = s.gameState) := by
  induction taken using List.reverseRecOn with
  | nil =>
      refine ⟨?_, fun _ => rfl⟩
      rintro ⟨turn, member, _⟩
      cases member
  | append_singleton front last ih =>
      have total : ((front ++ [last]).countP (fun turn => turn.hit) : Int) =
          front.countP (fun turn => turn.hit) + (if last.hit then 1 else 0) := by
        rw [List.countP_append, List.countP_singleton]
        push_cast
        rfl
      have more : (0 : Int) ≤ if last.hit then 1 else 0 := by split <;> decide
      rw [total] at few
      have earlier := ih (by omega)
      have unfinished : ((front.foldl (Standing.settle cfg movImg) s).score last).killCount ≠
          sizeOfAliens := by
        rw [score_killCount, foldl_killCount]
        omega
      rw [List.foldl_append, List.foldl_cons, List.foldl_nil, pointsAfter_snoc]
      by_cases low : last.alien.AtTerritory movImg
      · rw [if_pos low]
        exact ⟨fun _ => settle_low cfg low _, fun high => absurd low (high last (by simp))⟩
      · rw [if_neg low, settle_high cfg low unfinished]
        constructor
        · rintro ⟨turn, member, reached⟩
          have before : ∃ turn ∈ front, turn.alien.AtTerritory movImg := by
            rcases List.mem_append.mp member with old | new
            · exact ⟨turn, old, reached⟩
            · rw [List.mem_singleton.mp new] at reached
              exact absurd reached low
          exact Defeated.scored cfg (earlier.1 before) last
        · intro high
          rw [score_gameState]
          exact earlier.2 (fun turn member => high turn (List.mem_append_left _ member))

theorem settled_full (front : List Turn) (last : Turn) (s : Standing)
    (full : s.killCount + (front ++ [last]).countP (fun turn => turn.hit) = sizeOfAliens) :
    (last.alien.AtTerritory movImg →
        Defeated cfg 0 ((front ++ [last]).foldl (Standing.settle cfg movImg) s)) ∧
      (¬ last.alien.AtTerritory movImg →
        ((front ++ [last]).foldl (Standing.settle cfg movImg) s).gameState = .nextRound) := by
  have count : ((front ++ [last]).foldl (Standing.settle cfg movImg) s).killCount = _ :=
    foldl_killCount (front ++ [last]) s
  rw [full, List.foldl_append, List.foldl_cons, List.foldl_nil, settle_killCount] at count
  rw [List.foldl_append, List.foldl_cons, List.foldl_nil]
  constructor
  · intro low
    exact settle_low cfg low _
  · intro high
    rw [Standing.settle, if_neg high, if_pos count]

variable {cfg movImg}

theorem settled_menu (taken : List Turn) (s : Standing) (before : s.gameState ≠ .menuDisplay)
    (menu : (taken.foldl (Standing.settle cfg movImg) s).gameState = .menuDisplay) :
    ∃ turn ∈ taken, turn.alien.AtTerritory movImg := by
  induction taken generalizing s with
  | nil => exact absurd menu before
  | cons first rest ih =>
      by_cases low : first.alien.AtTerritory movImg
      · exact ⟨first, List.mem_cons_self, low⟩
      · have still : (s.settle cfg movImg first).gameState ≠ .menuDisplay := by
          rw [Standing.settle, if_neg low]
          split
          · intro menu
            cases menu
          · rw [score_gameState]
            exact before
        obtain ⟨turn, member, reached⟩ := ih _ still menu
        exact ⟨turn, List.mem_cons_of_mem _ member, reached⟩

end Turns

def Game.passTurns (g : Game) : List Turn :=
  turns g.rightMov g.movImg g.bullets.slots.toList g.speed g.bullets.heap.read g.aliens.toList

/-- The loop over the aliens sets `gameState` to `MENU_DISPLAY` after some of them. -/
def TakesTerritory (cfg : Config) (g : Game) : Prop :=
  ∃ front back, g.aliens.toList = front ++ back ∧
    (traverse (marchAlien cfg g.rightMov g.movImg) front g.march).2.gameState = .menuDisplay

theorem marchPass_standing (cfg : Config) (g : Game) :
    (marchPass cfg g).2.standing =
      g.passTurns.foldl (Standing.settle cfg g.movImg) g.march.standing :=
  (traverse_turns cfg g.rightMov g.movImg g.aliens.toList g.march).1

theorem marchPass_survivor (cfg : Config) (g : Game) :
    (∃ a ∈ (marchPass cfg g).1, a.alive = true ∧ a.y + a.height ≥ territory) ↔
      ∃ turn ∈ g.passTurns, turn.hit = false ∧ turn.alien.AtTerritory g.movImg := by
  have same := (traverse_turns cfg g.rightMov g.movImg g.aliens.toList g.march).2
  have marked := congrArg (fun marks => true ∈ marks) same
  simp only [List.mem_map, List.mem_filter, decide_eq_true_eq, Bool.not_eq_true', and_assoc,
    eq_iff_iff] at marked
  exact marked

theorem marchPass_cleared (cfg : Config) (g : Game) :
    (∀ a ∈ (marchPass cfg g).1, a.alive = false) ↔ ∀ turn ∈ g.passTurns, turn.hit = true := by
  have same := congrArg List.length
    (traverse_turns cfg g.rightMov g.movImg g.aliens.toList g.march).2
  rw [List.length_map, List.length_map] at same
  have pass : (∀ a ∈ (marchPass cfg g).1, a.alive = false) ↔
      ((marchPass cfg g).1.filter (fun a => a.alive)).length = 0 := by
    rw [List.length_eq_zero_iff, List.filter_eq_nil_iff]
    simp
  rw [pass]
  change List.length _ = 0 ↔ _
  rw [show (marchPass cfg g).1 = (traverse (marchAlien cfg g.rightMov g.movImg) g.aliens.toList
    g.march).1 from rfl, same, List.length_eq_zero_iff, List.filter_eq_nil_iff]
  simp [Game.passTurns, Game.march]

theorem passTurns_low (g : Game) (movImg : Bool) :
    (∃ turn ∈ g.passTurns, turn.alien.AtTerritory movImg) ↔
      ∃ a ∈ g.aliens.toList, a.alive = true ∧ a.AtTerritory movImg := by
  have aliens := turns_alien g.rightMov g.movImg g.bullets.slots.toList g.speed
    g.bullets.heap.read g.aliens.toList
  constructor
  · rintro ⟨turn, member, low⟩
    have inside : turn.alien ∈ g.aliens.toList.filter (fun a => a.alive) := by
      rw [← aliens]
      exact List.mem_map_of_mem member
    obtain ⟨present, alive⟩ := List.mem_filter.mp inside
    exact ⟨turn.alien, present, alive, low⟩
  · rintro ⟨a, present, alive, low⟩
    have inside : a ∈ g.aliens.toList.filter (fun a => a.alive) :=
      List.mem_filter.mpr ⟨present, alive⟩
    rw [← aliens] at inside
    obtain ⟨turn, member, same⟩ := List.mem_map.mp inside
    exact ⟨turn, member, by rw [same]; exact low⟩

theorem takesTerritory_iff (cfg : Config) (g : Game) (playing : g.gameState = .playing) :
    TakesTerritory cfg g ↔ ∃ turn ∈ g.passTurns, turn.alien.AtTerritory g.movImg := by
  rw [passTurns_low]
  constructor
  · rintro ⟨front, back, split, menu⟩
    -- the turns of the aliens in `front` are those of a game that has no others
    have standing := (traverse_turns cfg g.rightMov g.movImg front g.march).1
    have reached : (turns g.rightMov g.movImg g.march.bullets.slots.toList g.march.speed
        g.march.bullets.heap.read front |>.foldl (Standing.settle cfg g.movImg)
          g.march.standing).gameState = .menuDisplay := by
      rw [← standing]
      exact menu
    have before : g.march.standing.gameState ≠ .menuDisplay := by
      change g.gameState ≠ _
      rw [playing]
      decide
    obtain ⟨turn, member, low⟩ := settled_menu _ _ before reached
    have inside : turn.alien ∈ front.filter (fun a => a.alive) := by
      rw [← turns_alien]
      exact List.mem_map_of_mem member
    obtain ⟨present, alive⟩ := List.mem_filter.mp inside
    exact ⟨turn.alien, by rw [split]; exact List.mem_append_left _ present, alive, low⟩
  · rintro ⟨a, present, alive, low⟩
    obtain ⟨front, back, split⟩ := List.append_of_mem present
    refine ⟨front ++ [a], back, by rw [split, List.append_assoc]; rfl, ?_⟩
    rw [traverse_append]
    have turn := marchAlien_turn cfg g.rightMov g.movImg a
      (traverse (marchAlien cfg g.rightMov g.movImg) front g.march).2 alive
    have settled := congrArg Standing.gameState turn.standing
    rw [(settle_low cfg low _).gameState] at settled
    exact settled

/-- A game with some aliens left, whose kills are counted and whose aliens form a grid. -/
structure UnderWay (g : Game) : Prop where
  playing : g.gameState = .playing
  living : ∃ i, (g.aliens.get i).alive = true
  counted : g.killCount = deadCount g.aliens.toList
  columns : ∀ i j, (g.aliens.get i).alive = true → (g.aliens.get j).alive = true →
    (g.aliens.get i).x - (g.aliens.get j).x = 80 * (column i - column j)
  rows : ∀ i j, (g.aliens.get i).y - (g.aliens.get j).y = 60 * (rowOf i - rowOf j)

section Pass

variable {g : Game}

theorem UnderWay.turns_length (wave : UnderWay g) :
    g.killCount + g.passTurns.length = sizeOfAliens := by
  have living : g.passTurns.length = g.aliens.toList.countP (fun a => a.alive) := by
    rw [List.countP_eq_length_filter, ← turns_alien, List.length_map]
    rfl
  have total : g.aliens.toList.length = _ :=
    List.length_eq_countP_add_countP (fun a : Alien => a.alive)
  have dead : deadCount g.aliens.toList = g.aliens.toList.countP (fun a => ¬ a.alive = true) := by
    simp [deadCount]
  rw [List.Vector.toList_length] at total
  rw [wave.counted, living, dead]
  exact_mod_cast (Nat.add_comm _ _).trans total.symm

theorem UnderWay.turns_last (wave : UnderWay g) : ∃ front last, g.passTurns = front ++ [last] := by
  rcases List.eq_nil_or_concat g.passTurns with none | ⟨front, last, split⟩
  · obtain ⟨i, alive⟩ := wave.living
    have inside : g.aliens.get i ∈ g.aliens.toList.filter (fun a => a.alive) :=
      List.mem_filter.mpr ⟨List.Vector.get_mem i g.aliens, alive⟩
    rw [← turns_alien g.rightMov g.movImg g.bullets.slots.toList g.speed g.bullets.heap.read] at inside
    change _ ∈ g.passTurns.map Turn.alien at inside
    rw [none] at inside
    cases inside
  · exact ⟨front, last, split.trans List.concat_eq_append⟩

theorem UnderWay.all_hit (wave : UnderWay g) : (∀ turn ∈ g.passTurns, turn.hit = true) ↔
    g.killCount + g.passTurns.countP (fun turn => turn.hit) = sizeOfAliens := by
  have length := wave.turns_length
  have bound : g.passTurns.countP (fun turn => turn.hit) ≤ g.passTurns.length :=
    List.countP_le_length
  have all : (∀ turn ∈ g.passTurns, turn.hit = true) ↔
      g.passTurns.countP (fun turn => turn.hit) = g.passTurns.length := List.countP_eq_length.symm
  rw [all]
  omega

theorem pass_cleared_iff (cfg : Config) (wave : UnderWay g) :
    (((∀ a ∈ (marchPass cfg g).1, a.alive = false) →
        (marchPass cfg g).2.gameState = .nextRound) ∧
      (TakesTerritory cfg g →
        ∃ a ∈ (marchPass cfg g).1, a.alive = true ∧ a.y + a.height ≥ territory)) ↔
    ((∃ turn ∈ g.passTurns, turn.alien.AtTerritory g.movImg) →
      ∃ turn ∈ g.passTurns, turn.hit = false ∧ turn.alien.AtTerritory g.movImg) := by
  rw [takesTerritory_iff cfg g wave.playing, marchPass_survivor, marchPass_cleared]
  constructor
  · exact fun claims => claims.2
  · intro spared
    refine ⟨?_, spared⟩
    intro all
    have full := wave.all_hit.mp all
    obtain ⟨front, last, split⟩ := wave.turns_last
    have high : ¬ last.alien.AtTerritory g.movImg := by
      intro low
      obtain ⟨turn, member, missed, _⟩ :=
        spared ⟨last, by rw [split]; exact List.mem_append_right _ (by simp), low⟩
      rw [all turn member] at missed
      cases missed
    have standing := congrArg Standing.gameState (marchPass_standing cfg g)
    rw [split] at standing full
    exact standing.trans ((settled_full cfg g.movImg front last g.march.standing full).2 high)

theorem increaseScore_newShip (cfg : Config) (points : Int) :
    increaseScore points (newShip cfg) = newShip cfg ↔ points = 0 := by
  simp [increaseScore, newShip, createShip]

theorem UnderWay.few_killed (wave : UnderWay g)
    (some : ¬ ∀ turn ∈ g.passTurns, turn.hit = true) :
    g.killCount + g.passTurns.countP (fun turn => turn.hit) < sizeOfAliens := by
  have differs := mt wave.all_hit.mpr some
  have length := wave.turns_length
  have bound : g.passTurns.countP (fun turn => turn.hit) ≤ g.passTurns.length :=
    List.countP_le_length
  omega

/-- A pass that ends in the menu leaves a new player unless an alien is hit after the last one
that reached the territory. -/
theorem pass_reset_iff (cfg : Config) (wave : UnderWay g) :
    ((marchPass cfg g).2.gameState = .menuDisplay → (marchPass cfg g).2.ship = newShip cfg ∧
      (marchPass cfg g).2.roundNum = 0 ∧ (marchPass cfg g).2.speed = initialAlienSpeed) ↔
    ((∃ turn ∈ g.passTurns, turn.alien.AtTerritory g.movImg) →
      (∀ turn ∈ g.passTurns, turn.hit = true) ∨ pointsAfter g.movImg g.passTurns = 0) := by
  have standing := marchPass_standing cfg g
  have state : (marchPass cfg g).2.gameState = _ := congrArg Standing.gameState standing
  have ship : (marchPass cfg g).2.ship = _ := congrArg Standing.ship standing
  have rounds : (marchPass cfg g).2.roundNum = _ := congrArg Standing.roundNum standing
  have speed : (marchPass cfg g).2.speed = _ := congrArg Standing.speed standing
  have neutral := increaseScore_newShip cfg
  rw [state, ship, rounds, speed]
  by_cases all : ∀ turn ∈ g.passTurns, turn.hit = true
  · refine iff_of_true ?_ (fun _ => .inl all)
    have full := wave.all_hit.mp all
    obtain ⟨front, last, split⟩ := wave.turns_last
    rw [split] at full ⊢
    have ended := settled_full cfg g.movImg front last g.march.standing full
    intro menu
    by_cases low : last.alien.AtTerritory g.movImg
    · have lost := ended.1 low
      exact ⟨lost.ship.trans ((neutral 0).mpr rfl), lost.roundNum, lost.speed⟩
    · rw [ended.2 low] at menu
      cases menu
  · have ended := settled_few cfg g.movImg g.passTurns g.march.standing (wave.few_killed all)
    by_cases low : ∃ turn ∈ g.passTurns, turn.alien.AtTerritory g.movImg
    · have lost := ended.1 low
      constructor
      · intro reset _
        have fresh := (reset lost.gameState).1
        rw [lost.ship] at fresh
        exact .inr ((neutral _).mp fresh)
      · intro unscored _
        rcases unscored low with hit | points
        · exact absurd hit all
        · rw [lost.ship]
          exact ⟨(neutral _).mpr points, lost.roundNum, lost.speed⟩
    · refine iff_of_true ?_ (fun reached => absurd reached low)
      intro menu
      have still := ended.2 (fun turn member reached => low ⟨turn, member, reached⟩)
      rw [still] at menu
      change g.gameState = _ at menu
      rw [wave.playing] at menu
      cases menu

end Pass

/-- The state in which a tick comes to the block that moves the aliens. It does not come there if
the ship is lost. -/
def marchEntry (cfg : Config) (inputs : Inputs) (g : Game) : Option Game :=
  let g := drawFrame cfg inputs g
  if ¬ g.alienBullet.active then
    (generateAlienBullet g.aliens inputs.rand).map (fun index => fireAlienBullet cfg index g)
  else if (moveAlienBullet g).ship.lives = 0 then none
  else some (moveAlienBullet g)

def Game.turns (g : Game) : List Turn :=
  Game.passTurns { g with bullets := updateShipBulletPosition g.bullets }

/-- What the block that moves the aliens finds as it was before the tick. -/
structure Enters (g entry : Game) : Prop where
  gameState : entry.gameState = g.gameState
  aliens : entry.aliens = g.aliens
  killCount : entry.killCount = g.killCount
  movImg : entry.movImg = g.movImg
  timerCounter : entry.timerCounter = g.timerCounter
  turns : entry.passTurns = g.turns

theorem drawFrame_enters (cfg : Config) (inputs : Inputs) (g : Game) :
    Enters g (drawFrame cfg inputs g) := by
  refine ⟨rfl, rfl, rfl, rfl, rfl, ?_⟩
  have read : (drawShipBullets (updateShipBulletPosition g.bullets)).heap.read =
      (updateShipBulletPosition g.bullets).heap.read := drawShipBullets_read
  change turns g.rightMov g.movImg _ g.speed
    (drawShipBullets (updateShipBulletPosition g.bullets)).heap.read g.aliens.toList = _
  rw [read]
  rfl

theorem marchEntry_enters {cfg : Config} {inputs : Inputs} {g entry : Game}
    (enters : marchEntry cfg inputs g = some entry) : Enters g entry := by
  have frame := drawFrame_enters cfg inputs g
  unfold marchEntry at enters
  dsimp only at enters
  split at enters
  · obtain ⟨index, _, rfl⟩ := Option.map_eq_some_iff.mp enters
    exact ⟨frame.gameState, frame.aliens, frame.killCount, frame.movImg, frame.timerCounter,
      frame.turns⟩
  · split at enters
    · cases enters
    · cases enters
      obtain ⟨lives, active, calls, same⟩ := moveAlienBullet_eq (drawFrame cfg inputs g)
      rw [same]
      exact ⟨frame.gameState, frame.aliens, frame.killCount, frame.movImg, frame.timerCounter,
        frame.turns⟩

theorem UnderWay.enters {g entry : Game} (wave : UnderWay g) (enters : Enters g entry) :
    UnderWay entry := by
  refine ⟨enters.gameState.trans wave.playing, ?_, ?_, ?_, ?_⟩
  · rw [enters.aliens]
    exact wave.living
  · rw [enters.aliens, enters.killCount]
    exact wave.counted
  · rw [enters.aliens]
    exact wave.columns
  · rw [enters.aliens]
    exact wave.rows

theorem timerPart_entry {cfg : Config} {inputs : Inputs} {w after : World}
    (playing : w.game.gameState = .playing) (ticked : timerPart cfg inputs w = some after) :
    (∃ entry, marchEntry cfg inputs (timerIntHandler w.game) = some entry ∧
        after.game = moveAliens cfg entry) ∨
      (marchEntry cfg inputs (timerIntHandler w.game) = none ∧ w.game.alienBullet.active = true ∧
        (moveAlienBullet (drawFrame cfg inputs (timerIntHandler w.game))).ship.lives = 0 ∧
        after.game =
          gameOver cfg (moveAlienBullet (drawFrame cfg inputs (timerIntHandler w.game)))) := by
  have state : (timerIntHandler w.game).gameState = .playing := playing
  simp only [timerPart, state] at ticked
  obtain ⟨game, moved, rfl⟩ := Option.map_eq_some_iff.mp ticked
  have frame : (drawFrame cfg inputs (timerIntHandler w.game)).alienBullet =
      w.game.alienBullet := rfl
  unfold marchEntry
  dsimp only
  rw [frame]
  cases active : w.game.alienBullet.active with
  | false =>
      left
      rw [playingTick_idle (g := timerIntHandler w.game) active] at moved
      obtain ⟨index, found, rfl⟩ := Option.map_eq_some_iff.mp moved
      refine ⟨fireAlienBullet cfg index (drawFrame cfg inputs (timerIntHandler w.game)), ?_, rfl⟩
      rw [if_pos (by decide)]
      exact Option.map_eq_some_iff.mpr ⟨index, found, rfl⟩
  | true =>
      rw [playingTick_active (g := timerIntHandler w.game) active] at moved
      rw [if_neg (by decide)]
      split at moved
      · rename_i dead
        right
        rw [if_pos dead]
        exact ⟨rfl, rfl, dead, (Option.some.inj moved).symm⟩
      · rename_i left
        left
        exact ⟨_, if_neg left, (Option.some.inj moved).symm⟩

theorem moveAliens_pass (cfg : Config) {g : Game} (due : cfg.ipf ≤ g.timerCounter) :
    (moveAliens cfg g).gameState = (marchPass cfg g).2.gameState ∧
      (moveAliens cfg g).ship = (marchPass cfg g).2.ship ∧
      (moveAliens cfg g).roundNum = (marchPass cfg g).2.roundNum ∧
      (moveAliens cfg g).speed = (marchPass cfg g).2.speed ∧
      ((∀ i, ((moveAliens cfg g).aliens.get i).alive = false) ↔
        ∀ a ∈ (marchPass cfg g).1, a.alive = false) := by
  rcases moveAliens_cases cfg g with ⟨early, _⟩ | ⟨_, movImg, frameCounter, same⟩
  · omega
  · rw [same]
    refine ⟨rfl, rfl, rfl, rfl, ?_⟩
    have aliens := marchAliens_toList cfg { g with frameCounter := g.frameCounter + 1 }
    change (∀ i, ((marchAliens cfg { g with frameCounter := g.frameCounter + 1 }).aliens.get i).alive =
      false) ↔ _
    have all : (∀ i, ((marchAliens cfg { g with frameCounter := g.frameCounter + 1 }).aliens.get
        i).alive = false) ↔ ∀ a ∈ (marchAliens cfg { g with
          frameCounter := g.frameCounter + 1 }).aliens.toList, a.alive = false := by
      constructor
      · intro dead a member
        obtain ⟨i, rfl⟩ := (List.Vector.mem_iff_get a _).mp member
        exact dead i
      · exact fun dead i => dead _ (List.Vector.get_mem i _)
    rw [all, aliens, List.forall_mem_map]
    rfl

/-- A wave that is cleared is the next round, and a defeat needs a living alien at the territory,
exactly if the living aliens at the territory are not all hit at their turns. -/
theorem cleared_wave_iff (cfg : Config) (inputs : Inputs) (w after : World) (entry : Game)
    (wave : UnderWay w.game)
    (enters : marchEntry cfg inputs (timerIntHandler w.game) = some entry)
    (due : cfg.ipf ≤ w.game.timerCounter + 1) (ticked : timerPart cfg inputs w = some after) :
    (((∀ i, (after.game.aliens.get i).alive = false) → after.game.gameState = .nextRound) ∧
      (TakesTerritory cfg entry →
        ∃ a ∈ (marchPass cfg entry).1, a.alive = true ∧ a.y + a.height ≥ territory)) ↔
    ((∃ a ∈ w.game.aliens.toList, a.alive = true ∧ a.AtTerritory w.game.movImg) →
      ∃ turn ∈ w.game.turns, turn.hit = false ∧ turn.alien.AtTerritory w.game.movImg) := by
  have entered := marchEntry_enters enters
  have moved : after.game = moveAliens cfg entry := by
    rcases timerPart_entry wave.playing ticked with ⟨other, same, moved⟩ | ⟨none, _⟩
    · rw [enters] at same
      rw [Option.some.inj same]
      exact moved
    · rw [enters] at none
      cases none
  have started : UnderWay (timerIntHandler w.game) :=
    ⟨wave.playing, wave.living, wave.counted, wave.columns, wave.rows⟩
  have pass := moveAliens_pass cfg (g := entry) (by
    rw [entered.timerCounter]
    exact due)
  have settled := pass_cleared_iff cfg (started.enters entered)
  rw [entered.movImg, entered.turns] at settled
  rw [moved, pass.2.2.2.2, pass.1, settled]
  have low := passTurns_low { w.game with bullets := updateShipBulletPosition w.game.bullets }
    w.game.movImg
  rw [← low]
  rfl

/-- The aliens in `living` of a first wave that has come down to the territory of the ship, and a
bullet of the ship at `(x, y)`. -/
def lowWave (living : List Nat) (x y : Int) : World :=
  { start sampleConfig sampleMemory with
    game := { initGame sampleConfig (startGame sampleConfig sampleMemory) with
      aliens := List.Vector.ofFn (fun i => { (initAliens sampleConfig).get i with
        y := ((initAliens sampleConfig).get i).y + 440, alive := decide (i.1 ∈ living) })
      killCount := sizeOfAliens - living.length
      bullets := createShipBullet x y shipBulletSpeed (sampleConfig.loader.load .shipBullet)
        initShipBullets } }

def lowTick : Inputs := { noInputs with rand := [2] }

theorem lowWave_underWay (living : List Nat) (x y : Int)
    (some_left : ∃ i, ((lowWave living x y).game.aliens.get i).alive = true)
    (counted : (lowWave living x y).game.killCount =
      deadCount (lowWave living x y).game.aliens.toList) :
    UnderWay (lowWave living x y).game := by
  have entry : ∀ i, (lowWave living x y).game.aliens.get i =
      { (initAliens sampleConfig).get i with
        y := ((initAliens sampleConfig).get i).y + 440, alive := decide (i.1 ∈ living) } :=
    fun i => List.Vector.get_ofFn _ i
  obtain ⟨_, columns, rows⟩ := initAliens_rigid sampleConfig
  have born : ∀ i, ((initAliens sampleConfig).get i).alive = true := by decide
  refine ⟨rfl, some_left, counted, ?_, ?_⟩
  · intro i j _ _
    rw [entry, entry]
    exact columns i j (born i) (born j)
  · intro i j
    have apart := rows i j
    rw [entry, entry]
    dsimp only
    omega

/-- One of two aliens at the territory is hit: the other one ends the game. -/
theorem cleared_wave_iff_one_left : ∃ entry after, UnderWay (lowWave [2, 5] 50 630).game ∧
    marchEntry sampleConfig lowTick (timerIntHandler (lowWave [2, 5] 50 630).game) = some entry ∧
    timerPart sampleConfig lowTick (lowWave [2, 5] 50 630) = some after ∧
    after.game.gameState = .menuDisplay ∧
    (TakesTerritory sampleConfig entry → ∃ a ∈ (marchPass sampleConfig entry).1,
      a.alive = true ∧ a.y + a.height ≥ territory) := by
  have wave : UnderWay (lowWave [2, 5] 50 630).game :=
    lowWave_underWay _ _ _ (by decide +kernel) (by decide +kernel)
  have comes : (marchEntry sampleConfig lowTick
      (timerIntHandler (lowWave [2, 5] 50 630).game)).isSome = true := by decide +kernel
  have ticks : (timerPart sampleConfig lowTick (lowWave [2, 5] 50 630)).any (fun after =>
      decide (after.game.gameState = .menuDisplay)) = true := by decide +kernel
  have spared : ∃ turn ∈ (lowWave [2, 5] 50 630).game.turns, turn.hit = false ∧
      turn.alien.AtTerritory (lowWave [2, 5] 50 630).game.movImg := by decide +kernel
  obtain ⟨entry, enters⟩ := Option.isSome_iff_exists.mp comes
  obtain ⟨after, ticked, menu⟩ := (Option.any_eq_true _ _).mp ticks
  exact ⟨entry, after, wave, enters, ticked, of_decide_eq_true menu,
    ((cleared_wave_iff sampleConfig lowTick _ after entry wave enters (by decide) ticked).mpr
      (fun _ => spared)).2⟩

/-- The last alien is hit at the territory: the wave is cleared, and yet the game is lost. -/
theorem cleared_wave_lost : ∃ entry after, UnderWay (lowWave [2] 50 630).game ∧
    marchEntry sampleConfig lowTick (timerIntHandler (lowWave [2] 50 630).game) = some entry ∧
    sampleConfig.ipf ≤ (lowWave [2] 50 630).game.timerCounter + 1 ∧
    timerPart sampleConfig lowTick (lowWave [2] 50 630) = some after ∧
    (∀ i, (after.game.aliens.get i).alive = false) ∧ after.game.gameState = .menuDisplay := by
  have comes : (marchEntry sampleConfig lowTick
      (timerIntHandler (lowWave [2] 50 630).game)).isSome = true := by decide +kernel
  have ticks : (timerPart sampleConfig lowTick (lowWave [2] 50 630)).any (fun after =>
      decide ((∀ i, (after.game.aliens.get i).alive = false) ∧
        after.game.gameState = .menuDisplay)) = true := by decide +kernel
  obtain ⟨entry, enters⟩ := Option.isSome_iff_exists.mp comes
  obtain ⟨after, ticked, ended⟩ := (Option.any_eq_true _ _).mp ticks
  exact ⟨entry, after, lowWave_underWay _ _ _ (by decide +kernel) (by decide +kernel), enters,
    by decide, ticked, of_decide_eq_true ended⟩

def LosesShip (g : Game) : Prop :=
  g.alienBullet.active = true ∧ ShipHit g.ship (updateAlienBulletPosition g.alienBullet) ∧
    g.ship.lives = 1

instance (g : Game) : Decidable (LosesShip g) := inferInstanceAs (Decidable (_ ∧ _))

theorem marchEntry_loses {cfg : Config} {inputs : Inputs} {g entry : Game}
    (enters : marchEntry cfg inputs g = some entry) : ¬ LosesShip g := by
  rintro ⟨active, hit, last⟩
  have flying : (drawFrame cfg inputs g).alienBullet.active = true := active
  have dead : (moveAlienBullet (drawFrame cfg inputs g)).ship.lives = 0 := by
    rcases moveAlienBullet_cases (drawFrame cfg inputs g) with ⟨_, same⟩ | ⟨missed, _⟩
    · rw [same]
      change g.ship.lives - 1 = 0
      omega
    · exact absurd hit missed
  unfold marchEntry at enters
  dsimp only at enters
  rw [if_neg (by simp [flying]), if_pos dead] at enters
  cases enters

/-- A tick that ends in the menu leaves a new player exactly if it does not move the aliens, no
alien is at the territory, all of them are hit, or no points come after the last one there. -/
theorem game_over_resets_iff (cfg : Config) (inputs : Inputs) (w after : World)
    (wave : UnderWay w.game) (lives : 1 ≤ w.game.ship.lives ∧ w.game.ship.lives ≤ 3)
    (ticked : timerPart cfg inputs w = some after) :
    (after.game.gameState = .menuDisplay →
      after.game.ship = createShip cfg.loader 512 shipYpos 15 ∧ after.game.roundNum = 0 ∧
        after.game.speed = initialAlienSpeed) ↔
    (¬ LosesShip w.game → cfg.ipf ≤ w.game.timerCounter + 1 →
      (∃ a ∈ w.game.aliens.toList, a.alive = true ∧ a.AtTerritory w.game.movImg) →
      (∀ turn ∈ w.game.turns, turn.hit = true) ∨
        pointsAfter w.game.movImg w.game.turns = 0) := by
  rcases timerPart_entry wave.playing ticked with ⟨entry, enters, moved⟩ | ⟨_, active, dead, ended⟩
  · have entered := marchEntry_enters enters
    have kept : ¬ LosesShip w.game := by
      have same := marchEntry_loses enters
      simpa only [LosesShip, timerIntHandler] using same
    have started : UnderWay (timerIntHandler w.game) :=
      ⟨wave.playing, wave.living, wave.counted, wave.columns, wave.rows⟩
    rw [moved]
    by_cases due : cfg.ipf ≤ w.game.timerCounter + 1
    · have pass := moveAliens_pass cfg (g := entry) (by
        rw [entered.timerCounter]
        exact due)
      have settled := pass_reset_iff cfg (started.enters entered)
      rw [entered.movImg, entered.turns] at settled
      have low := passTurns_low { w.game with bullets := updateShipBulletPosition w.game.bullets }
        w.game.movImg
      rw [← low, pass.1, pass.2.1, pass.2.2.1, pass.2.2.2.1]
      simp only [kept, due, not_false_eq_true, true_implies]
      exact settled
    · refine iff_of_true ?_ (fun _ late => absurd late due)
      have still : moveAliens cfg entry = entry := if_neg (by
        rw [entered.timerCounter]
        exact due)
      rw [still, entered.gameState]
      intro menu
      have playing : (timerIntHandler w.game).gameState = .playing := wave.playing
      rw [playing] at menu
      cases menu
  · refine iff_of_true ?_ (fun kept => absurd ?_ kept)
    · rw [ended]
      exact fun _ => ⟨rfl, rfl, rfl⟩
    · rcases moveAlienBullet_cases (drawFrame cfg inputs (timerIntHandler w.game)) with
        ⟨hit, same⟩ | ⟨_, same⟩
      · rw [same] at dead
        change w.game.ship.lives - 1 = 0 at dead
        exact ⟨active, hit, by omega⟩
      · rw [same] at dead
        change w.game.ship.lives = 0 at dead
        omega

/-- Nothing is hit after the last alien at the territory. -/
theorem game_over_resets_iff_unscored : ∃ after, UnderWay (lowWave [2, 5] 50 630).game ∧
    timerPart sampleConfig lowTick (lowWave [2, 5] 50 630) = some after ∧
    after.game.gameState = .menuDisplay ∧
    after.game.ship = createShip sampleConfig.loader 512 shipYpos 15 := by
  have wave : UnderWay (lowWave [2, 5] 50 630).game :=
    lowWave_underWay _ _ _ (by decide +kernel) (by decide +kernel)
  have ticks : (timerPart sampleConfig lowTick (lowWave [2, 5] 50 630)).any (fun after =>
      decide (after.game.gameState = .menuDisplay)) = true := by decide +kernel
  have unscored : pointsAfter (lowWave [2, 5] 50 630).game.movImg
      (lowWave [2, 5] 50 630).game.turns = 0 := by decide +kernel
  obtain ⟨after, ticked, menu⟩ := (Option.any_eq_true _ _).mp ticks
  have ended := of_decide_eq_true menu
  have reset := (game_over_resets_iff sampleConfig lowTick _ after wave (by decide) ticked).mpr
    (fun _ _ _ => .inr unscored)
  exact ⟨after, wave, ticked, ended, (reset ended).1⟩

/-- An alien is hit after another one has reached the territory: the new ship starts with points. -/
theorem game_over_keeps_points : ∃ after, UnderWay (lowWave [2, 3] 130 500).game ∧
    (1 ≤ (lowWave [2, 3] 130 500).game.ship.lives ∧
      (lowWave [2, 3] 130 500).game.ship.lives ≤ 3) ∧
    timerPart sampleConfig lowTick (lowWave [2, 3] 130 500) = some after ∧
    after.game.gameState = .menuDisplay ∧ after.game.ship.score = 30 ∧
    after.game.ship ≠ createShip sampleConfig.loader 512 shipYpos 15 := by
  have ticks : (timerPart sampleConfig lowTick (lowWave [2, 3] 130 500)).any (fun after =>
      decide (after.game.gameState = .menuDisplay ∧ after.game.ship.score = 30)) = true := by
    decide +kernel
  obtain ⟨after, ticked, ended⟩ := (Option.any_eq_true _ _).mp ticks
  obtain ⟨menu, score⟩ := of_decide_eq_true ended
  refine ⟨after, lowWave_underWay _ _ _ (by decide +kernel) (by decide +kernel), by decide, ticked,
    menu, score, ?_⟩
  intro fresh
  rw [fresh] at score
  exact absurd score (by decide)

end Lcom.Proj
