import Lcom.Proj.Moves

/-! The loop over the aliens: what one iteration does and what a pass leaves. -/

namespace Lcom.Proj

open Lcom.Lib

def March.drawn (m : March) (rightMov movImg : Bool) (a : Alien) : March :=
  { m with
    changeDir := m.changeDir || decide (AtBorder rightMov a)
    calls := m.calls ++ [.drawXpm a.x a.y (if movImg then a.imgMov else a.img)] }

def March.checked (m : March) (heap : Heap ShipBullet) : March :=
  { m with bullets := { m.bullets with heap := heap } }

def March.scored (m : March) (a : Alien) (heap : Heap ShipBullet) : March :=
  { m with
    bullets := { m.bullets with heap := heap }
    killCount := m.killCount + 1
    ship := increaseScore a.value m.ship }

theorem strikeAlien_cases (rightMov movImg : Bool) (a : Alien) (m : March) :
    ∃ heap, heap.read = m.bullets.heap.read ∧ heap.next = m.bullets.heap.next ∧
      ((∀ ref, some ref ∈ m.bullets.slots.toList → ¬ AlienHit a (m.bullets.heap.read ref)) ∧
          strikeAlien rightMov movImg a m =
            (a, (m.drawn rightMov movImg a).checked heap) ∨
        ∃ ref, some ref ∈ m.bullets.slots.toList ∧ AlienHit a (m.bullets.heap.read ref) ∧
          strikeAlien rightMov movImg a m =
            (a.kill, (m.drawn rightMov movImg a).scored a
              (Collision.hit ⟨a, m.killCount, m.ship, heap⟩ ref).heap)) := by
  obtain ⟨passed, _, outcome⟩ :=
    verifySlots_cases m.bullets.slots.toList ⟨a, m.killCount, m.ship, m.bullets.heap⟩
  refine ⟨_, (foldl_touchSlot passed _).1, (foldl_touchSlot passed _).2, ?_⟩
  rcases outcome with ⟨misses, result⟩ | ⟨ref, member, hit, result⟩
  · left
    refine ⟨misses, ?_⟩
    simp only [strikeAlien, verifyAlienAndBulletCollision, result]
    rfl
  · right
    refine ⟨ref, member, hit, ?_⟩
    simp only [strikeAlien, verifyAlienAndBulletCollision, result]
    rfl

/-- One iteration of the loop: a dead alien is skipped; a living one moves and then is
missed or killed. -/
inductive Visit (cfg : Config) (rightMov movImg : Bool) (a : Alien) (m : March) :
    Alien → March → Prop where
  | skipped (dead : a.alive = false) : Visit cfg rightMov movImg a m a m
  | missed (heap : Heap ShipBullet) (moved : Alien) (alive : a.alive = true)
      (place : moved = advanceAlien rightMov movImg m.speed a)
      (read : heap.read = m.bullets.heap.read) (next : heap.next = m.bullets.heap.next)
      (misses : ∀ ref, some ref ∈ m.bullets.slots.toList →
        ¬ AlienHit moved (m.bullets.heap.read ref)) :
      Visit cfg rightMov movImg a m moved
        (settleAlien cfg moved ((m.drawn rightMov movImg moved).checked heap))
  | killed (heap : Heap ShipBullet) (ref : Ref) (moved : Alien) (alive : a.alive = true)
      (place : moved = advanceAlien rightMov movImg m.speed a)
      (read : heap.read = Function.update m.bullets.heap.read ref
        { m.bullets.heap.read ref with hitAlien := true })
      (next : heap.next = m.bullets.heap.next)
      (member : some ref ∈ m.bullets.slots.toList)
      (hit : AlienHit moved (m.bullets.heap.read ref)) :
      Visit cfg rightMov movImg a m moved.kill
        (settleAlien cfg moved.kill ((m.drawn rightMov movImg moved).scored moved heap))

theorem marchAlien_visit (cfg : Config) (rightMov movImg : Bool) (a : Alien) (m : March) :
    Visit cfg rightMov movImg a m (marchAlien cfg rightMov movImg a m).1
      (marchAlien cfg rightMov movImg a m).2 := by
  unfold marchAlien
  split
  · rename_i dead
    exact .skipped (by simpa using dead)
  · rename_i living
    have alive : a.alive = true := by simpa using living
    dsimp only
    obtain ⟨heap, read, next, ⟨misses, result⟩ | ⟨ref, member, hit, result⟩⟩ :=
      strikeAlien_cases rightMov movImg (advanceAlien rightMov movImg m.speed a) m
    · rw [result]
      exact .missed heap _ alive rfl read next misses
    · rw [result]
      refine .killed _ ref _ alive rfl ?_ ?_ member hit
      · rw [Collision.hit_read]
        simp only [read]
      · simpa [Collision.hit, removeShipBullet] using next

/-- The loop rule for the aliens: `Inv done todo m` before each iteration. -/
theorem marchPass_rule (cfg : Config) (g : Game) (Inv : List Alien → List Alien → March → Prop)
    (visit : ∀ done a rest m a' m', Inv done (a :: rest) m →
      Visit cfg g.rightMov g.movImg a m a' m' → Inv (done ++ [a']) rest m')
    (start : Inv [] g.aliens.toList g.march) :
    Inv (marchPass cfg g).1 [] (marchPass cfg g).2 :=
  traverse_rule _ Inv
    (fun done a rest m holds => visit done a rest m _ _ holds (marchAlien_visit cfg _ _ a m))
    _ _ start

def descent (turned : Bool) : Int := if turned then 20 else 0

theorem marchAliens_toList (cfg : Config) (g : Game) :
    (marchAliens cfg g).aliens.toList = (marchPass cfg g).1.map
      (fun a => changeAlienYCoordinates a (descent (marchPass cfg g).2.changeDir)) := by
  unfold marchAliens
  dsimp only
  cases turned : (marchPass cfg g).2.changeDir with
  | false =>
      have same : (fun a : Alien => changeAlienYCoordinates a (descent false)) = id := by
        funext a
        simp [changeAlienYCoordinates, descent]
      rw [same, List.map_id]
      rfl
  | true =>
      rw [if_pos rfl, changeAllY, List.Vector.toList_map]
      rfl

theorem settleAlien_bullets (cfg : Config) (a : Alien) (m : March) :
    (settleAlien cfg a m).bullets = m.bullets := by
  unfold settleAlien
  split
  · rfl
  · split <;> rfl

theorem settleAlien_calls (cfg : Config) (a : Alien) (m : March) :
    (settleAlien cfg a m).calls = m.calls := by
  unfold settleAlien
  split
  · rfl
  · split <;> rfl

def Drawings (calls : List Call) : Prop := ∀ call ∈ calls, ∃ x y img, call = Call.drawXpm x y img

theorem Drawings.snoc {calls : List Call} (drawings : Drawings calls) (x y : Int) (img : XpmImage) :
    Drawings (calls ++ [.drawXpm x y img]) := by
  intro call member
  rcases List.mem_append.mp member with old | new
  · exact drawings call old
  · exact ⟨x, y, img, List.mem_singleton.mp new⟩

theorem marchPass_calls (cfg : Config) (g : Game) :
    ∃ made, (marchPass cfg g).2.calls = g.calls ++ made ∧ Drawings made := by
  refine marchPass_rule cfg g (fun _ _ m => ∃ made, m.calls = g.calls ++ made ∧ Drawings made) ?_
    ⟨[], (List.append_nil _).symm, by intro call member; cases member⟩
  rintro done a rest m a' m' ⟨made, same, drawings⟩ visit
  cases visit with
  | skipped dead => exact ⟨made, same, drawings⟩
  | missed heap _ alive place read next misses =>
      refine ⟨_, ?_, drawings.snoc a'.x a'.y (if g.movImg then a'.imgMov else a'.img)⟩
      rw [settleAlien_calls, ← List.append_assoc, ← same]
      rfl
  | killed heap ref moved alive place read next inside hit =>
      refine ⟨_, ?_, drawings.snoc moved.x moved.y (if g.movImg then moved.imgMov else moved.img)⟩
      rw [settleAlien_calls, ← List.append_assoc, ← same]
      rfl

theorem advanceFrame_eq (g : Game) : ∃ movImg frameCounter,
    advanceFrame g = { g with
      row := g.row + 1, timerCounter := 0, movImg := movImg, frameCounter := frameCounter } := by
  unfold advanceFrame
  dsimp only
  split
  · exact ⟨_, _, rfl⟩
  · exact ⟨_, _, rfl⟩

theorem moveAliens_cases (cfg : Config) (g : Game) :
    (g.timerCounter < cfg.ipf ∧ moveAliens cfg g = g) ∨
    (cfg.ipf ≤ g.timerCounter ∧ ∃ movImg frameCounter, moveAliens cfg g =
      { marchAliens cfg { g with frameCounter := g.frameCounter + 1 } with
        row := g.row + 1, timerCounter := 0, movImg := movImg, frameCounter := frameCounter }) := by
  by_cases due : cfg.ipf ≤ g.timerCounter
  · right
    refine ⟨due, ?_⟩
    rw [moveAliens, if_pos due]
    exact advanceFrame_eq (marchAliens cfg { g with frameCounter := g.frameCounter + 1 })
  · left
    exact ⟨not_le.mp due, if_neg due⟩

/-- A property that does not look at the frame counters, the image or the timer survives
`moveAliens` if it survives a pass. -/
theorem moveAliens_keeps (cfg : Config) (g : Game) (Inv : Game → Prop)
    (frames : ∀ g row timerCounter movImg frameCounter, Inv g → Inv { g with
      row := row, timerCounter := timerCounter, movImg := movImg, frameCounter := frameCounter })
    (pass : ∀ g, Inv g → Inv (marchAliens cfg g)) (holds : Inv g) : Inv (moveAliens cfg g) := by
  rcases moveAliens_cases cfg g with ⟨_, same⟩ | ⟨_, movImg, frameCounter, same⟩
  · rw [same]
    exact holds
  · rw [same]
    exact frames _ _ _ _ _ (pass _ (frames g g.row g.timerCounter g.movImg _ holds))

theorem settleAlien_ship {cfg : Config} {P : Ship → Prop} (fresh : P (newShip cfg)) (a : Alien)
    (m : March) (holds : P m.ship) : P (settleAlien cfg a m).ship := by
  unfold settleAlien
  split
  · exact fresh
  · split
    · exact holds
    · exact holds

theorem marchAliens_ship {cfg : Config} {P : Ship → Prop} (fresh : P (newShip cfg))
    (scored : ∀ ship score, P ship → P { ship with score := score }) (g : Game)
    (holds : P g.ship) : P (marchAliens cfg g).ship := by
  apply marchPass_rule cfg g (fun _ _ m => P m.ship) _ holds
  intro done a rest m a' m' ship visit
  cases visit with
  | skipped dead => exact ship
  | missed heap _ alive place read next misses => exact settleAlien_ship fresh _ _ ship
  | killed heap ref moved alive place read next member hit =>
      apply settleAlien_ship fresh
      exact scored _ _ ship

theorem moveAliens_ship {cfg : Config} {P : Ship → Prop} (fresh : P (newShip cfg))
    (scored : ∀ ship score, P ship → P { ship with score := score }) (g : Game)
    (holds : P g.ship) : P (moveAliens cfg g).ship :=
  moveAliens_keeps cfg g (fun g => P g.ship) (fun _ _ _ _ _ ship => ship)
    (marchAliens_ship fresh scored) holds

theorem moveAliens_alienBullet (cfg : Config) (g : Game) :
    (moveAliens cfg g).alienBullet = g.alienBullet :=
  moveAliens_keeps cfg g (fun after => after.alienBullet = g.alienBullet)
    (fun _ _ _ _ _ same => same) (fun _ same => same) rfl

theorem moveAliens_calls (cfg : Config) (g : Game) :
    ∃ made, (moveAliens cfg g).calls = g.calls ++ made ∧ Drawings made := by
  rcases moveAliens_cases cfg g with ⟨_, same⟩ | ⟨_, movImg, frameCounter, same⟩
  · rw [same]
    exact ⟨[], (List.append_nil _).symm, by intro call member; cases member⟩
  · rw [same]
    exact marchPass_calls cfg { g with frameCounter := g.frameCounter + 1 }

theorem moveAlienBullet_cases (g : Game) :
    (ShipHit g.ship (updateAlienBulletPosition g.alienBullet) ∧ moveAlienBullet g = { g with
      ship := { g.ship with lives := g.ship.lives - 1 }
      alienBullet := { updateAlienBulletPosition g.alienBullet with active := false }
      calls := g.calls ++ [.loseLife] }) ∨
    (¬ ShipHit g.ship (updateAlienBulletPosition g.alienBullet) ∧ moveAlienBullet g = { g with
      alienBullet := updateAlienBulletPosition g.alienBullet }) := by
  by_cases hit : ShipHit g.ship (updateAlienBulletPosition g.alienBullet)
  · left
    exact ⟨hit, if_pos hit⟩
  · right
    exact ⟨hit, if_neg hit⟩

/-- Moving the alien bullet only changes the bullet and the lives of the ship. -/
theorem moveAlienBullet_eq (g : Game) : ∃ lives active calls,
    moveAlienBullet g = { g with
      ship := { g.ship with lives := lives }
      alienBullet := { updateAlienBulletPosition g.alienBullet with active := active }
      calls := calls } := by
  rcases moveAlienBullet_cases g with ⟨_, same⟩ | ⟨_, same⟩
  · exact ⟨_, _, _, same⟩
  · exact ⟨_, _, _, same⟩

def Call.isBullet : Call → Bool
  | .createAlienBullet _ | .loseLife => true
  | _ => false

def Game.bulletCalls (g : Game) : List Call := g.calls.filter Call.isBullet

theorem bulletCalls_append (g after : Game) (made : List Call)
    (calls : after.calls = g.calls ++ made) (other : ∀ call ∈ made, call.isBullet = false) :
    after.bulletCalls = g.bulletCalls := by
  have none : made.filter Call.isBullet = [] := by
    rw [List.filter_eq_nil_iff]
    intro call member
    simp [other call member]
  rw [Game.bulletCalls, calls, List.filter_append, none, List.append_nil]
  rfl

theorem Drawings.not_bullet {made : List Call} (drawings : Drawings made) :
    ∀ call ∈ made, call.isBullet = false := by
  intro call member
  obtain ⟨x, y, img, rfl⟩ := drawings call member
  rfl

theorem FromMenus.not_bullet {seen : Mouse → Prop} (call : Call) (menus : call.FromMenus seen) :
    call.isBullet = false := by
  cases call <;> first | rfl | cases menus

theorem inputMove_bulletCalls {cfg : Config} {seen : Mouse → Prop} {started : Prop}
    {before after : Game} (move : InputMove cfg seen started before after) :
    after.bulletCalls = before.bulletCalls := by
  cases move with
  | menuCalls made menus =>
      exact bulletCalls_append _ _ made rfl
        (fun call member => FromMenus.not_bullet call (menus call member))
  | start menu click => exact bulletCalls_append _ _ _ rfl (by simp [Call.isBullet])
  | _ => rfl

theorem forall_frameCalls {cfg : Config} {inputs : Inputs} {g : Game} {P : Call → Prop}
    (background : P (.drawBackground (cfg.loader.load .background)))
    (ship : P (.drawXpm g.ship.x g.ship.y g.ship.img))
    (bullets : ∀ bullet ∈ drawnShipBullets g.bullets, P (.drawXpm bullet.x bullet.y bullet.img))
    (alienBullet : g.alienBullet.active = true →
      P (.drawXpm g.alienBullet.x g.alienBullet.y g.alienBullet.img))
    (lives : P (.drawLives g.ship.lives))
    (icon : P (.drawXpm 1000 735 (livesXpm cfg.loader inputs.live g.ship.lives)))
    (digits : ∀ digit ∈ drawScore g.ship.score,
      P (.drawXpm digit.1 digit.2.1 (cfg.loader.load digit.2.2))) :
    ∀ call ∈ frameCalls cfg inputs g, P call := by
  intro call member
  simp only [frameCalls, List.mem_append, List.mem_cons, List.not_mem_nil, or_false,
    List.mem_map] at member
  rcases member with (((first | ⟨bullet, inside, rfl⟩) | drawn) | last) | ⟨digit, inside, rfl⟩
  · rcases first with rfl | rfl
    · exact background
    · exact ship
  · exact bullets bullet inside
  · split at drawn
    · rename_i active
      rw [List.mem_singleton.mp drawn]
      exact alienBullet active
    · cases drawn
  · rcases last with rfl | rfl
    · exact lives
    · exact icon
  · exact digits digit inside

theorem frameCalls_not_bullet (cfg : Config) (inputs : Inputs) (g : Game) :
    ∀ call ∈ frameCalls cfg inputs g, call.isBullet = false :=
  forall_frameCalls rfl rfl (fun _ _ => rfl) (fun _ => rfl) rfl rfl (fun _ _ => rfl)

theorem drawFrame_bulletCalls (cfg : Config) (inputs : Inputs) (g : Game) :
    (drawFrame cfg inputs g).bulletCalls = g.bulletCalls :=
  bulletCalls_append _ _ _ rfl (frameCalls_not_bullet cfg inputs _)

theorem moveAliens_bulletCalls (cfg : Config) (g : Game) :
    (moveAliens cfg g).bulletCalls = g.bulletCalls := by
  obtain ⟨made, calls, drawings⟩ := moveAliens_calls cfg g
  exact bulletCalls_append _ _ made calls drawings.not_bullet

theorem fireAlienBullet_bulletCalls (cfg : Config) (index : Fin sizeOfAliens) (g : Game) :
    (fireAlienBullet cfg index g).bulletCalls = g.bulletCalls ++ [.createAlienBullet index] := by
  simp [fireAlienBullet, Game.bulletCalls, Game.call, Call.isBullet]

theorem moveAlienBullet_bulletCalls (g : Game) :
    (moveAlienBullet g).bulletCalls = g.bulletCalls ++
      (if ShipHit g.ship (updateAlienBulletPosition g.alienBullet) then [.loseLife] else []) := by
  rcases moveAlienBullet_cases g with ⟨hit, same⟩ | ⟨missed, same⟩
  · rw [same, if_pos hit]
    simp [Game.bulletCalls, Call.isBullet]
  · rw [same, if_neg missed]
    simp [Game.bulletCalls]

theorem inputMoves_bulletCalls {cfg : Config} {seen : Mouse → Prop} {started : Prop}
    {before after : Game} (moves : InputMoves cfg seen started before after) :
    after.bulletCalls = before.bulletCalls :=
  moves.invariant (fun g => g.bulletCalls = before.bulletCalls)
    (fun _ _ same move => (inputMove_bulletCalls move).trans same) rfl

theorem timerMove_bulletCalls {cfg : Config} {seen : Mouse → Prop} {g after : Game}
    (move : TimerMove cfg seen g after) :
    (after.bulletCalls = g.bulletCalls ∧ after.alienBullet = g.alienBullet) ∨
      ∃ inputs, g.gameState = .playing ∧
        TickEnd cfg (drawFrame cfg inputs (timerIntHandler g)) after := by
  cases move with
  | count made menus still =>
      left
      exact ⟨bulletCalls_append g _ made rfl
        (fun call member => FromMenus.not_bullet call (menus call member)), rfl⟩
  | nextRound cleared =>
      left
      exact ⟨bulletCalls_append g _ _ rfl (by simp [Call.isBullet]), rfl⟩
  | tick _ inputs playing ends => exact .inr ⟨inputs, playing, ends⟩

theorem bulletCall_timer {cfg : Config} {w after : World} {message : Message} {call : Call}
    (stepped : gameStep cfg w message = some after) (member : call ∈ after.game.calls)
    (bullet : call.isBullet = true) :
    ∃ interrupts inputs v, message = .hardware interrupts inputs ∧ w.game.gameState ≠ .exit ∧
      inputParts cfg interrupts inputs w.clear = .next v ∧ interrupts &&& timerBit ≠ 0 ∧
      timerPart cfg inputs v = some after ∧ v.game.bulletCalls = [] := by
  have made : call ∈ after.game.bulletCalls := List.mem_filter.mpr ⟨member, bullet⟩
  have running : w.game.gameState ≠ .exit := by
    intro exited
    simp [gameStep, exited] at stepped
  cases message with
  | failedReceive =>
      rw [gameStep_quiet (.inl rfl) stepped] at member
      cases member
  | notFromHardware =>
      rw [gameStep_quiet (.inr rfl) stepped] at member
      cases member
  | hardware interrupts inputs =>
      have arrived : Arrived cfg (fun _ => True) (StartClick w.clear (.hardware interrupts inputs))
          w.clear.game (inputParts cfg interrupts inputs w.clear).world :=
        inputParts_arrives Tracks.always interrupts inputs w.clear trivial
      have none := inputMoves_bulletCalls arrived.moves
      rcases gameStep_hardware stepped with flow | ⟨flow, _⟩ | ⟨v, flow, bit, ticked⟩
      · rw [flow] at none
        rw [show after.game.bulletCalls = [] from none] at made
        cases made
      · rw [flow] at none
        rw [show after.game.bulletCalls = [] from none] at made
        cases made
      · rw [flow] at none
        exact ⟨interrupts, inputs, v, rfl, running, flow, bit, ticked, none⟩

end Lcom.Proj
