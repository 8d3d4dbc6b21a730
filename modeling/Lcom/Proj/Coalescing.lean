import Lcom.Proj.Play
import Lcom.Proj.March

/-! One notification for several interrupts, against one notification for each of them. -/

namespace Lcom.Proj

open Lcom.Lib

def Game.only (kept : Call → Bool) (g : Game) : Game := { g with calls := g.calls.filter kept }

def March.only (kept : Call → Bool) (m : March) : March := { m with calls := m.calls.filter kept }

section Record

-- the record of calls is never read
variable {kept : Call → Bool}

theorem March.only_eq {m other : March} (same : m.only kept = other.only kept) :
    ∃ calls, other = { m with calls := calls } ∧ calls.filter kept = m.calls.filter kept := by
  refine ⟨other.calls, ?_, (congrArg March.calls same).symm⟩
  cases m
  cases other
  simp only [March.only, March.mk.injEq] at same
  simp only [March.mk.injEq]
  tauto

theorem Game.only_eq {g other : Game} (same : g.only kept = other.only kept) :
    ∃ calls, other = { g with calls := calls } ∧ calls.filter kept = g.calls.filter kept := by
  refine ⟨other.calls, ?_, (congrArg Game.calls same).symm⟩
  cases g
  cases other
  simp only [Game.only, Game.mk.injEq] at same
  simp only [Game.mk.injEq]
  tauto

theorem Game.only_congr {g other : Game}
    (rest : ({ g with calls := [] } : Game) = { other with calls := [] })
    (same : g.calls.filter kept = other.calls.filter kept) : g.only kept = other.only kept := by
  have split : ∀ g : Game, g.only kept =
      { ({ g with calls := [] } : Game) with calls := g.calls.filter kept } := fun _ => rfl
  rw [split g, split other, rest, same]

theorem filter_append_congr {calls others : List Call} (made : List Call)
    (same : calls.filter kept = others.filter kept) :
    (calls ++ made).filter kept = (others ++ made).filter kept := by
  rw [List.filter_append, List.filter_append, same]

theorem settleAlien_only (cfg : Config) (a : Alien) (m : March) :
    (settleAlien cfg a m).only kept = settleAlien cfg a (m.only kept) := by
  unfold settleAlien
  split
  · rfl
  · by_cases full : m.killCount = sizeOfAliens
    · rw [if_pos full]
      exact (if_pos full).symm
    · rw [if_neg full]
      exact (if_neg full).symm

theorem marchAlien_only (cfg : Config) (rightMov movImg : Bool) (a : Alien) (m other : March)
    (same : m.only kept = other.only kept) :
    (marchAlien cfg rightMov movImg a m).1 = (marchAlien cfg rightMov movImg a other).1 ∧
      (marchAlien cfg rightMov movImg a m).2.only kept =
        (marchAlien cfg rightMov movImg a other).2.only kept := by
  obtain ⟨calls, rfl, made⟩ := March.only_eq same
  unfold marchAlien
  split
  · exact ⟨rfl, same⟩
  · refine ⟨rfl, ?_⟩
    dsimp only
    rw [settleAlien_only, settleAlien_only]
    simp only [strikeAlien, March.only, filter_append_congr _ made]

theorem marchAliens_only (cfg : Config) (g other : Game) (same : g.only kept = other.only kept) :
    (marchAliens cfg g).only kept = (marchAliens cfg other).only kept := by
  obtain ⟨calls, rfl, made⟩ := Game.only_eq same
  obtain ⟨aliens, pass⟩ := traverse_congr (marchAlien cfg g.rightMov g.movImg) (March.only kept)
    (marchAlien_only cfg g.rightMov g.movImg) g.aliens.toList g.march
    (Game.march { g with calls := calls }) (by simp only [March.only, Game.march, made])
  change (marchPass cfg g).1 = (marchPass cfg { g with calls := calls }).1 at aliens
  change (marchPass cfg g).2.only kept = (marchPass cfg { g with calls := calls }).2.only kept at pass
  obtain ⟨drawn, last, also⟩ := March.only_eq pass
  have vector : marchedAliens cfg g = marchedAliens cfg { g with calls := calls } :=
    Subtype.ext aliens
  unfold marchAliens
  dsimp only
  rw [last, ← vector]
  exact Game.only_congr rfl also.symm

theorem advanceFrame_only (g other : Game) (same : g.only kept = other.only kept) :
    (advanceFrame g).only kept = (advanceFrame other).only kept := by
  obtain ⟨calls, rfl, made⟩ := Game.only_eq same
  unfold advanceFrame
  dsimp only
  split <;> exact Game.only_congr rfl made.symm

theorem moveAliens_only (cfg : Config) (g other : Game) (same : g.only kept = other.only kept) :
    (moveAliens cfg g).only kept = (moveAliens cfg other).only kept := by
  obtain ⟨calls, rfl, made⟩ := Game.only_eq same
  unfold moveAliens
  split
  · apply advanceFrame_only
    apply marchAliens_only
    exact Game.only_congr rfl made.symm
  · exact Game.only_congr rfl made.symm

theorem moveAlienBullet_only (g other : Game) (same : g.only kept = other.only kept) :
    (moveAlienBullet g).only kept = (moveAlienBullet other).only kept := by
  obtain ⟨calls, rfl, made⟩ := Game.only_eq same
  unfold moveAlienBullet verifyShipAndBulletCollision
  dsimp only
  split
  · exact Game.only_congr rfl (filter_append_congr _ made.symm)
  · exact Game.only_congr rfl made.symm

end Record

theorem playingTick_idle {cfg : Config} {inputs : Inputs} {g : Game}
    (idle : g.alienBullet.active = false) :
    playingTick cfg inputs g = (generateAlienBullet g.aliens inputs.rand).map
      (fun index => moveAliens cfg (fireAlienBullet cfg index (drawFrame cfg inputs g))) := by
  have silent : (drawFrame cfg inputs g).alienBullet.active = false := idle
  simp only [playingTick, silent, Bool.false_eq_true, not_false_eq_true, if_true]
  rfl

theorem playingTick_active {cfg : Config} {inputs : Inputs} {g : Game}
    (active : g.alienBullet.active = true) :
    playingTick cfg inputs g =
      if (moveAlienBullet (drawFrame cfg inputs g)).ship.lives = 0 then
        some (gameOver cfg (moveAlienBullet (drawFrame cfg inputs g)))
      else some (moveAliens cfg (moveAlienBullet (drawFrame cfg inputs g))) := by
  have flying : (drawFrame cfg inputs g).alienBullet.active = true := active
  simp only [playingTick, flying, not_true_eq_false, if_false]

theorem playingTick_only {kept : Call → Bool} (cfg : Config) (inputs : Inputs) (g other : Game)
    (same : g.only kept = other.only kept) :
    (playingTick cfg inputs g).map (Game.only kept) =
      (playingTick cfg inputs other).map (Game.only kept) := by
  obtain ⟨calls, rfl, made⟩ := Game.only_eq same
  have drawn : (drawFrame cfg inputs g).only kept =
      (drawFrame cfg inputs { g with calls := calls }).only kept :=
    Game.only_congr rfl (filter_append_congr _ made.symm)
  cases active : g.alienBullet.active with
  | false =>
      rw [playingTick_idle active,
        playingTick_idle (g := { g with calls := calls }) active, Option.map_map, Option.map_map]
      congr 1
      funext index
      refine moveAliens_only cfg (fireAlienBullet cfg index (drawFrame cfg inputs g)) _ ?_
      exact Game.only_congr rfl (filter_append_congr _ (congrArg Game.calls drawn))
  | true =>
      have flown := moveAlienBullet_only (drawFrame cfg inputs g)
        (drawFrame cfg inputs { g with calls := calls }) drawn
      obtain ⟨shown, moved, also⟩ := Game.only_eq flown
      rw [playingTick_active active, playingTick_active (g := { g with calls := calls }) active,
        moved]
      split
      · exact congrArg some (Game.only_congr rfl also.symm)
      · apply congrArg some
        exact moveAliens_only cfg _ _ (Game.only_congr rfl also.symm)

theorem timerPart_clear (cfg : Config) (inputs : Inputs) (w : World) :
    (timerPart cfg inputs w.clear).map World.clear = (timerPart cfg inputs w).map World.clear := by
  cases state : w.game.gameState with
  | playing =>
      have none : ∀ calls : List Call, calls.filter (fun _ => false) = [] :=
        fun calls => List.filter_eq_nil_iff.mpr (fun _ _ => Bool.false_ne_true)
      have silent : Game.only (fun _ => false) = fun g => { g with calls := [] } := by
        funext g
        rw [Game.only, none]
      have ticked := playingTick_only cfg inputs (timerIntHandler w.clear.game)
        (timerIntHandler w.game) (Game.only_congr rfl ((none _).trans (none _).symm))
      rw [silent] at ticked
      have quiet : (timerIntHandler w.clear.game).gameState = .playing := state
      have loud : (timerIntHandler w.game).gameState = .playing := state
      simp only [timerPart, quiet, loud, Option.map_map]
      have lifted := congrArg (Option.map (fun game => { w with game := game })) ticked
      rw [Option.map_map, Option.map_map] at lifted
      exact lifted
  | _ =>
      have quiet : (timerIntHandler w.clear.game).gameState = _ := state
      have loud : (timerIntHandler w.game).gameState = _ := state
      simp only [timerPart, quiet, loud]
      rfl

/-- The variables that the two ways of delivery are compared on. -/
structure View where
  gameState : GameState
  aliens : Aliens
  bullets : ShipBullets
  alienBullet : AlienBullet
  ship : Ship
  mouse : Mouse
  currentByte : Nat
  mouseBytes : MouseBytes
  size : Nat
  timerCounter : Int
  killCount : Int
  frameCounter : Int
  row : Int
  roundNum : Int

def World.view (w : World) : View :=
  ⟨w.game.gameState, w.game.aliens, w.game.bullets, w.game.alienBullet, w.game.ship, w.mouse,
    w.currentByte, w.mouseBytes, w.size, w.game.timerCounter, w.game.killCount,
    w.game.frameCounter, w.game.row, w.game.roundNum⟩

theorem timerPart_view (cfg : Config) (inputs : Inputs) (w : World) :
    (timerPart cfg inputs w.clear).map World.view = (timerPart cfg inputs w).map World.view := by
  have same := congrArg (Option.map World.view) (timerPart_clear cfg inputs w)
  rw [Option.map_map, Option.map_map] at same
  exact same

def World.nextScancode (w : World) (inputs : Inputs) : UInt8 :=
  kbcIh inputs.keyboard inputs.statuscode w.keyboardScancode

def World.awaitByte (w : World) (inputs : Inputs) : World :=
  { w with keyboardScancode := w.nextScancode inputs, size := 2 }

def World.typed (w : World) (inputs : Inputs) : World :=
  { w with
    keyboardScancode := w.nextScancode inputs
    kbdBytes :=
      if w.size = 1 then (w.nextScancode inputs, w.kbdBytes.2) else (0xE0, w.nextScancode inputs)
    size := 1 }

def World.keyed (w : World) (inputs : Inputs) : World :=
  if w.game.gameState = .playing then
    { w.typed inputs with game := steer (keyActivity (w.nextScancode inputs)) w.game }
  else w.typed inputs

theorem keyboardPart_eq (inputs : Inputs) (w : World) :
    keyboardPart inputs w =
      if twoBytes (w.nextScancode inputs) then .leave (w.awaitByte inputs)
      else if w.nextScancode inputs = escBreak then .leave ((w.typed inputs).enter .exit)
      else .next (w.keyed inputs) := by
  by_cases two : twoBytes (w.nextScancode inputs) = true
  · rw [if_pos two]
    exact if_pos two
  · rw [if_neg two]
    by_cases escape : w.nextScancode inputs = escBreak
    · rw [if_pos escape]
      exact (if_neg two).trans (if_pos escape)
    · rw [if_neg escape, World.keyed]
      by_cases playing : w.game.gameState = .playing
      · rw [if_pos playing]
        exact ((if_neg two).trans (if_neg escape)).trans (if_pos playing)
      · rw [if_neg playing]
        exact ((if_neg two).trans (if_neg escape)).trans (if_neg playing)

theorem keyed_clear (inputs : Inputs) (w : World) :
    (w.clear.keyed inputs).clear = (w.keyed inputs).clear := by
  unfold World.keyed
  by_cases playing : w.game.gameState = .playing
  · rw [if_pos playing, if_pos (show w.clear.game.gameState = .playing from playing)]
    rfl
  · rw [if_neg playing, if_neg (show w.clear.game.gameState ≠ .playing from playing)]
    rfl

/-- A timer interrupt is always visible in the counters. -/
theorem timerMove_counts {cfg : Config} {seen : Mouse → Prop} {g after : Game}
    (move : TimerMove cfg seen g after) :
    after.timerCounter ≠ g.timerCounter ∨ after.row ≠ g.row := by
  have moved : ∀ h : Game, h.timerCounter = g.timerCounter + 1 → h.row = g.row →
      (moveAliens cfg h).timerCounter ≠ g.timerCounter ∨ (moveAliens cfg h).row ≠ g.row := by
    intro h timer row
    rcases moveAliens_cases cfg h with ⟨_, same⟩ | ⟨_, movImg, frameCounter, same⟩
    · rw [same]
      left
      omega
    · rw [same]
      right
      change h.row + 1 ≠ g.row
      omega
  cases move with
  | count made menus still =>
      left
      change g.timerCounter + 1 ≠ g.timerCounter
      omega
  | nextRound cleared =>
      left
      change g.timerCounter + 1 ≠ g.timerCounter
      omega
  | tick _ inputs playing ends =>
      cases ends with
      | fired index idle alive => exact moved _ rfl rfl
      | lost active dead =>
          obtain ⟨lives, still, calls, same⟩ :=
            moveAlienBullet_eq (drawFrame cfg inputs (timerIntHandler g))
          rw [same]
          left
          change g.timerCounter + 1 ≠ g.timerCounter
          omega
      | flown active left =>
          apply moved
          all_goals
            obtain ⟨lives, still, calls, same⟩ :=
              moveAlienBullet_eq (drawFrame cfg inputs (timerIntHandler g))
            rw [same]
            rfl

theorem timerPart_visible (cfg : Config) (inputs : Inputs) (w other : World)
    (timer : other.game.timerCounter = w.game.timerCounter) (row : other.game.row = w.game.row) :
    (timerPart cfg inputs w).map World.view ≠ some other.view := by
  intro same
  obtain ⟨after, ticked, view⟩ := Option.map_eq_some_iff.mp same
  have move : TimerMove cfg (fun _ => True) w.game after.game :=
    (timerPart_moves inputs w after trivial ticked).1
  have sameTimer : after.game.timerCounter = other.game.timerCounter :=
    congrArg View.timerCounter view
  have sameRow : after.game.row = other.game.row := congrArg View.row view
  rcases timerMove_counts move with differs | differs
  · exact differs (sameTimer.trans timer)
  · exact differs (sameRow.trans row)

/-- The bits of the devices in a subset of mouse, keyboard and timer, in the order of the handlers. -/
def deviceBits (mouse kbd timer : Bool) : List (BitVec 64) :=
  (if mouse then [mouseBit] else []) ++ (if kbd then [kbdBit] else []) ++
    (if timer then [timerBit] else [])

def deviceMask (mouse kbd timer : Bool) : BitVec 64 := (deviceBits mouse kbd timer).foldr (· ||| ·) 0

def separately (cfg : Config) (inputs : Inputs) : World → List (BitVec 64) → Option World
  | w, [] => some w
  | w, bit :: rest =>
      if w.game.gameState = .exit then some w
      else (gameStep cfg w (.hardware bit inputs)).bind (fun after => separately cfg inputs after rest)

theorem deviceMask_bits (mouse kbd timer : Bool) :
    (deviceMask mouse kbd timer &&& mouseBit ≠ 0 ↔ mouse = true) ∧
      (deviceMask mouse kbd timer &&& kbdBit ≠ 0 ↔ kbd = true) ∧
      (deviceMask mouse kbd timer &&& timerBit ≠ 0 ↔ timer = true) := by
  cases mouse <;> cases kbd <;> cases timer <;> decide

def together (cfg : Config) (inputs : Inputs) (kbd timer : Bool) (w : World) : Option World :=
  match (if kbd then keyboardPart inputs w else .next w) with
  | .leave v => some v
  | .next v => if timer then timerPart cfg inputs v else some v

theorem gameStep_together (cfg : Config) (inputs : Inputs) (w : World) (mouse kbd timer : Bool)
    (running : w.game.gameState ≠ .exit) :
    gameStep cfg w (.hardware (deviceMask mouse kbd timer) inputs) =
      match (if mouse then mousePart cfg inputs w.clear else .next w.clear) with
      | .leave v => some v
      | .next v => together cfg inputs kbd timer v := by
  obtain ⟨mouseSet, kbdSet, timerSet⟩ := deviceMask_bits mouse kbd timer
  rw [gameStep, if_neg running]
  dsimp only
  unfold hardware inputParts
  simp only [Flow.part, mouseSet]
  cases flow : (if mouse then mousePart cfg inputs w.clear else Flow.next w.clear) with
  | leave v => rfl
  | next v =>
      simp only [kbdSet, timerSet]
      rfl

theorem gameStep_mouse (cfg : Config) (inputs : Inputs) (w : World)
    (running : w.game.gameState ≠ .exit) :
    gameStep cfg w (.hardware mouseBit inputs) = some (mousePart cfg inputs w.clear).world := by
  have step := gameStep_together cfg inputs w true false false running
  rw [show deviceMask true false false = mouseBit from by decide] at step
  rw [step, if_pos rfl]
  cases mousePart cfg inputs w.clear <;> rfl

theorem gameStep_kbd (cfg : Config) (inputs : Inputs) (w : World)
    (running : w.game.gameState ≠ .exit) :
    gameStep cfg w (.hardware kbdBit inputs) = some (keyboardPart inputs w.clear).world := by
  have step := gameStep_together cfg inputs w false true false running
  rw [show deviceMask false true false = kbdBit from by decide] at step
  rw [step, if_neg Bool.false_ne_true]
  dsimp only
  rw [together, if_pos rfl]
  cases keyboardPart inputs w.clear <;> rfl

theorem gameStep_timer (cfg : Config) (inputs : Inputs) (w : World)
    (running : w.game.gameState ≠ .exit) :
    gameStep cfg w (.hardware timerBit inputs) = timerPart cfg inputs w.clear := by
  have step := gameStep_together cfg inputs w false false true running
  rw [show deviceMask false false true = timerBit from by decide] at step
  rw [step]
  rfl

def apart (cfg : Config) (inputs : Inputs) (kbd timer : Bool) (w : World) : Option World :=
  separately cfg inputs w (deviceBits false kbd timer)

section Apart

variable (cfg : Config) (inputs : Inputs) (w : World)

theorem separately_mouse (kbd timer : Bool) (running : w.game.gameState ≠ .exit) :
    separately cfg inputs w (deviceBits true kbd timer) =
      apart cfg inputs kbd timer (mousePart cfg inputs w.clear).world := by
  change separately cfg inputs w (mouseBit :: deviceBits false kbd timer) = _
  rw [separately, if_neg running, gameStep_mouse cfg inputs w running]
  rfl

theorem apart_exited (kbd timer : Bool) (exited : w.game.gameState = .exit) :
    apart cfg inputs kbd timer w = some w := by
  cases kbd <;> cases timer <;> simp [apart, deviceBits, separately, exited]

def tickApart (timer : Bool) : Option World :=
  if timer = true ∧ w.game.gameState ≠ .exit then timerPart cfg inputs w.clear else some w

theorem separately_timer (timer : Bool) :
    separately cfg inputs w (if timer then [timerBit] else []) = tickApart cfg inputs w timer := by
  cases timer with
  | false => rfl
  | true =>
      by_cases exited : w.game.gameState = .exit
      · simp [separately, tickApart, exited]
      · simp [separately, tickApart, exited, gameStep_timer cfg inputs w exited]

theorem apart_timer (timer : Bool) :
    apart cfg inputs false timer w = tickApart cfg inputs w timer :=
  separately_timer cfg inputs w timer

theorem apart_kbd (timer : Bool) (running : w.game.gameState ≠ .exit) :
    apart cfg inputs true timer w = tickApart cfg inputs (keyboardPart inputs w.clear).world timer := by
  change separately cfg inputs w (kbdBit :: if timer then [timerBit] else []) = _
  rw [separately, if_neg running, gameStep_kbd cfg inputs w running, Option.bind_some,
    separately_timer]

theorem apart_clear (kbd timer : Bool) :
    (apart cfg inputs kbd timer w.clear).map World.view =
      (apart cfg inputs kbd timer w).map World.view := by
  unfold apart
  cases bits : deviceBits false kbd timer with
  | nil => rfl
  | cons bit rest =>
      by_cases exited : w.game.gameState = .exit
      · rw [separately, separately, if_pos exited, if_pos (show w.clear.game.gameState = _ from exited)]
        rfl
      · rw [separately, separately, if_neg exited, if_neg (show w.clear.game.gameState ≠ _ from exited)]
        rfl

theorem tickApart_view (timer : Bool) (running : w.game.gameState ≠ .exit) :
    (tickApart cfg inputs w timer).map World.view =
      (if timer then timerPart cfg inputs w else some w).map World.view := by
  cases timer with
  | false => rfl
  | true =>
      rw [tickApart, if_pos ⟨rfl, running⟩]
      exact timerPart_view cfg inputs w

theorem tickApart_visible (other : World) (running : w.game.gameState ≠ .exit)
    (timer : other.game.timerCounter = w.game.timerCounter) (row : other.game.row = w.game.row) :
    (tickApart cfg inputs w true).map World.view ≠ some other.view := by
  rw [tickApart_view cfg inputs w true running]
  exact timerPart_visible cfg inputs w other timer row

end Apart

section Agreement

variable (cfg : Config) (inputs : Inputs) (w : World)

theorem keyed_state : (w.keyed inputs).game.gameState = w.game.gameState := by
  unfold World.keyed
  split <;> rfl

theorem keyed_counters : (w.keyed inputs).game.timerCounter = w.game.timerCounter ∧
    (w.keyed inputs).game.row = w.game.row := by
  unfold World.keyed
  split <;> exact ⟨rfl, rfl⟩

theorem keyed_clear_view : (w.clear.keyed inputs).view = (w.keyed inputs).view := by
  have same := congrArg World.view (keyed_clear inputs w)
  exact same

/-- Without an early end the two ways agree, but for a tick after a two-byte prefix. -/
theorem together_apart (kbd timer : Bool) (running : w.game.gameState ≠ .exit) :
    (together cfg inputs kbd timer w).map World.view = (apart cfg inputs kbd timer w).map World.view ↔
      ¬ (kbd = true ∧ twoBytes (w.nextScancode inputs) = true ∧ timer = true) := by
  cases kbd with
  | false =>
      rw [apart_timer, tickApart_view cfg inputs w timer running]
      simp [together]
  | true =>
      rw [apart_kbd cfg inputs w timer running, together, if_pos rfl, keyboardPart_eq,
        keyboardPart_eq inputs w.clear]
      by_cases two : twoBytes (w.nextScancode inputs) = true
      · rw [if_pos two, if_pos (show twoBytes (w.clear.nextScancode inputs) = true from two)]
        cases timer with
        | false => simp [tickApart, Flow.world]; rfl
        | true =>
            have visible := tickApart_visible cfg inputs (w.clear.awaitByte inputs)
              (w.awaitByte inputs) running rfl rfl
            have differs : some (w.awaitByte inputs).view ≠
                (tickApart cfg inputs (w.clear.awaitByte inputs) true).map World.view :=
              fun same => visible same.symm
            simpa [two, Flow.world] using differs
      · rw [if_neg two, if_neg (show ¬ twoBytes (w.clear.nextScancode inputs) = true from two)]
        refine iff_of_true ?_ (fun all => two all.2.1)
        by_cases escape : w.nextScancode inputs = escBreak
        · rw [if_pos escape, if_pos (show w.clear.nextScancode inputs = escBreak from escape)]
          have ended : ((w.clear.typed inputs).enter .exit).game.gameState = .exit := rfl
          rw [Flow.world, tickApart, if_neg (fun both => both.2 ended)]
          rfl
        · rw [if_neg escape, if_neg (show w.clear.nextScancode inputs ≠ escBreak from escape)]
          have alive : (w.clear.keyed inputs).game.gameState ≠ .exit := by
            rw [keyed_state]
            exact running
          rw [Flow.world, tickApart_view cfg inputs _ timer alive]
          cases timer with
          | false => exact congrArg some (keyed_clear_view inputs w).symm
          | true =>
              dsimp only
              rw [if_pos rfl, if_pos rfl, ← timerPart_view cfg inputs (w.keyed inputs),
                ← timerPart_view cfg inputs (w.clear.keyed inputs), keyed_clear]

def InertKey : Prop :=
  if twoBytes (w.nextScancode inputs) then w.size = 2
  else w.nextScancode inputs ≠ escBreak ∧ w.size = 1 ∧ (w.game.gameState = .playing →
    updateShipPosition w.game.ship (keyActivity (w.nextScancode inputs)) = w.game.ship)

instance : Decidable (InertKey inputs w) := by unfold InertKey; infer_instance

theorem awaitByte_view : w.view = (w.awaitByte inputs).view ↔ w.size = 2 := by
  constructor
  · exact fun same => congrArg View.size same
  · intro size
    simp only [World.view, World.awaitByte, size]

theorem typed_view : w.view = (w.typed inputs).view ↔ w.size = 1 := by
  constructor
  · exact fun same => congrArg View.size same
  · intro size
    simp only [World.view, World.typed, size]

theorem keyed_view : w.view = (w.keyed inputs).view ↔ w.size = 1 ∧ (w.game.gameState = .playing →
    updateShipPosition w.game.ship (keyActivity (w.nextScancode inputs)) = w.game.ship) := by
  by_cases playing : w.game.gameState = .playing
  · rw [World.keyed, if_pos playing]
    constructor
    · intro same
      exact ⟨congrArg View.size same, fun _ => (congrArg View.ship same).symm⟩
    · rintro ⟨size, still⟩
      simp only [World.view, World.typed, steer, size, still playing]
  · rw [World.keyed, if_neg playing, typed_view]
    exact ⟨fun size => ⟨size, fun state => absurd state playing⟩, fun both => both.1⟩

/-- A notification that ends early agrees with separate ones exactly if nothing is lost. -/
theorem left_apart (kbd timer : Bool) (running : w.game.gameState ≠ .exit) :
    some w.view = (apart cfg inputs kbd timer w).map World.view ↔
      timer = false ∧ (kbd = true → InertKey inputs w) := by
  cases kbd with
  | false =>
      rw [apart_timer]
      cases timer with
      | false => simp [tickApart]
      | true =>
          have visible := tickApart_visible cfg inputs w w running rfl rfl
          exact iff_of_false (fun same => visible same.symm) (by simp)
  | true =>
      rw [apart_kbd cfg inputs w timer running, keyboardPart_eq, InertKey]
      by_cases two : twoBytes (w.nextScancode inputs) = true
      · rw [if_pos two, if_pos (show twoBytes (w.clear.nextScancode inputs) = true from two)]
        cases timer with
        | false =>
            have same : w.view = (w.clear.awaitByte inputs).view ↔ w.size = 2 :=
              awaitByte_view inputs w
            simpa [tickApart, Flow.world] using same
        | true =>
            have visible := tickApart_visible cfg inputs (w.clear.awaitByte inputs) w running rfl rfl
            exact iff_of_false (fun same => visible same.symm) (by simp)
      · rw [if_neg two, if_neg (show ¬ twoBytes (w.clear.nextScancode inputs) = true from two)]
        by_cases escape : w.nextScancode inputs = escBreak
        · rw [if_pos (show w.clear.nextScancode inputs = escBreak from escape)]
          have ended : ((w.clear.typed inputs).enter .exit).game.gameState = .exit := rfl
          rw [Flow.world, tickApart, if_neg (fun both => both.2 ended)]
          refine iff_of_false ?_ (fun both => (both.2 rfl).1 escape)
          intro same
          exact running (congrArg View.gameState (Option.some.inj same))
        · rw [if_neg (show w.clear.nextScancode inputs ≠ escBreak from escape), Flow.world]
          cases timer with
          | false =>
              have same := keyed_view inputs w
              rw [← keyed_clear_view] at same
              simpa [tickApart, escape] using same
          | true =>
              have alive : (w.clear.keyed inputs).game.gameState ≠ .exit := by
                rw [keyed_state]
                exact running
              have counters := keyed_counters inputs w.clear
              have visible := tickApart_visible cfg inputs (w.clear.keyed inputs) w alive
                counters.1.symm counters.2.symm
              exact iff_of_false (fun same => visible same.symm) (by simp)

def KeptSize : Prop :=
  if twoBytes (w.nextScancode inputs) then w.size = 2 else w.size = 1

instance : Decidable (KeptSize inputs w) := by unfold KeptSize; infer_instance

/-- A notification that goes on after the click on `EXIT_BUTTON` agrees with separate ones
exactly if what follows is not seen. -/
theorem exited_together (kbd timer : Bool) (exited : w.game.gameState = .exit) :
    (together cfg inputs kbd timer w).map World.view = some w.view ↔
      (kbd = true → KeptSize inputs w) ∧ (timer = true → kbd = true ∧
        (twoBytes (w.nextScancode inputs) = true ∨ w.nextScancode inputs = escBreak)) := by
  cases kbd with
  | false =>
      cases timer with
      | false => simp [together]
      | true =>
          have visible := timerPart_visible cfg inputs w w rfl rfl
          exact iff_of_false visible (by simp)
  | true =>
      rw [together, if_pos rfl, keyboardPart_eq, KeptSize]
      by_cases two : twoBytes (w.nextScancode inputs) = true
      · rw [if_pos two]
        have same := awaitByte_view inputs w
        simpa [two, eq_comm] using same
      · rw [if_neg two]
        by_cases escape : w.nextScancode inputs = escBreak
        · rw [if_pos escape]
          have enter : ((w.typed inputs).enter .exit).view = (w.typed inputs).view := by
            simp only [World.view, World.enter, World.typed, exited]
          have same : some ((w.typed inputs).enter .exit).view = some w.view ↔ w.size = 1 := by
            rw [enter, Option.some_inj, eq_comm]
            exact typed_view inputs w
          rw [if_neg two]
          refine same.trans ?_
          exact ⟨fun size => ⟨fun _ => size, fun _ => ⟨rfl, .inr escape⟩⟩, fun both => both.1 rfl⟩
        · rw [if_neg escape, World.keyed, if_neg (by rw [exited]; decide)]
          cases timer with
          | false =>
              have same := typed_view inputs w
              simpa [two, escape, eq_comm] using same
          | true =>
              have visible := timerPart_visible cfg inputs (w.typed inputs) w rfl rfl
              exact iff_of_false visible (by simp [two, escape])

end Agreement

/-- The mouse part ends the notification: the byte is erroneous or out of sync. -/
def MouseLeaves (inputs : Inputs) (w : World) : Prop :=
  (mouseIh inputs.mouse w.mouseGlobals).ihError = true ∨
    w.currentByte = 1 ∧ (mouseIh inputs.mouse w.mouseGlobals).scancode &&& 0x08 = 0

instance (inputs : Inputs) (w : World) : Decidable (MouseLeaves inputs w) :=
  inferInstanceAs (Decidable (_ ∨ _))

def ExitClick (inputs : Inputs) (w : World) : Prop :=
  let u := decodePacket (mouseIh inputs.mouse w.mouseGlobals).scancode w
  w.currentByte = 3 ∧ w.game.gameState = .menuDisplay ∧ u.mouse.lbPressed = true ∧
    getButton u.mouse.x u.mouse.y = .exitButton

instance (inputs : Inputs) (w : World) : Decidable (ExitClick inputs w) :=
  inferInstanceAs (Decidable (_ ∧ _))

theorem mousePart_leaves (cfg : Config) (inputs : Inputs) (w : World)
    (leaves : MouseLeaves inputs w) :
    ∃ globals, mousePart cfg inputs w = .leave { w with mouseGlobals := globals } := by
  unfold mousePart
  by_cases error : (mouseIh inputs.mouse w.mouseGlobals).ihError = true
  · exact ⟨_, if_pos error⟩
  · rcases leaves with broken | ⟨first, sync⟩
    · exact absurd broken error
    · exact ⟨_, (if_neg error).trans ((if_pos first).trans (if_pos sync))⟩

theorem menuPacket_exit (cfg : Config) (w : World) (menu : w.game.gameState = .menuDisplay) :
    ((menuPacket cfg w).game.gameState = .exit ↔
        w.mouse.lbPressed = true ∧ getButton w.mouse.x w.mouse.y = .exitButton) ∧
      (menuPacket cfg w).size = w.size ∧ (menuPacket cfg w).keyboardScancode = w.keyboardScancode := by
  refine ⟨?_, ?_, ?_⟩
  · unfold menuPacket
    dsimp only
    split
    · rename_i pressed
      have clicked : w.mouse.lbPressed = true := pressed
      rw [clicked]
      split
      all_goals
        rename_i button
        simp [button, World.enter, World.call, Game.call, initGame, menu]
    · rename_i released
      have loose : ¬ w.mouse.lbPressed = true := released
      simp [loose, World.call, Game.call, menu]
  all_goals
    unfold menuPacket
    dsimp only
    split
    · split <;> rfl
    · rfl

theorem handlePacket_exit (cfg : Config) (w : World) (running : w.game.gameState ≠ .exit) :
    ((handlePacket cfg w).game.gameState = .exit ↔ w.game.gameState = .menuDisplay ∧
        w.mouse.lbPressed = true ∧ getButton w.mouse.x w.mouse.y = .exitButton) ∧
      (handlePacket cfg w).size = w.size ∧
      (handlePacket cfg w).keyboardScancode = w.keyboardScancode := by
  unfold handlePacket
  cases state : w.game.gameState with
  | menuDisplay =>
      have menu := menuPacket_exit cfg w state
      simpa using menu
  | instructionsDisplay =>
      simp only [instructionsPacket]
      split <;> simp [World.enter, World.call, Game.call, state]
  | playing =>
      simp only [playingPacket]
      split <;> simp [shoot, state]
  | nextRound => simp [state]
  | exit => exact absurd state running

theorem mousePart_third (cfg : Config) (inputs : Inputs) (w : World)
    (fine : ¬ (mouseIh inputs.mouse w.mouseGlobals).ihError = true) (third : w.currentByte = 3) :
    mousePart cfg inputs w = .next (handlePacket cfg
      (decodePacket (mouseIh inputs.mouse w.mouseGlobals).scancode (readMouse inputs w))) := by
  have first : ¬ w.currentByte = 1 := by
    rw [third]
    decide
  have second : ¬ w.currentByte = 2 := by
    rw [third]
    decide
  unfold mousePart
  exact (if_neg fine).trans ((if_neg first).trans ((if_neg second).trans (if_pos third)))

theorem mousePart_next (cfg : Config) (inputs : Inputs) (w : World)
    (running : w.game.gameState ≠ .exit) (stays : ¬ MouseLeaves inputs w) :
    ∃ v, mousePart cfg inputs w = .next v ∧ (v.game.gameState = .exit ↔ ExitClick inputs w) ∧
      v.size = w.size ∧ v.keyboardScancode = w.keyboardScancode := by
  have error : ¬ (mouseIh inputs.mouse w.mouseGlobals).ihError = true := fun broken =>
    stays (.inl broken)
  unfold mousePart
  by_cases first : w.currentByte = 1
  · have sync : ¬ (mouseIh inputs.mouse w.mouseGlobals).scancode &&& 0x08 = 0 := fun out =>
      stays (.inr ⟨first, out⟩)
    refine ⟨_, (if_neg error).trans ((if_pos first).trans (if_neg sync)), ?_, rfl, rfl⟩
    exact iff_of_false running (fun click => absurd (first.symm.trans click.1) (by decide))
  · by_cases second : w.currentByte = 2
    · refine ⟨_, (if_neg error).trans ((if_neg first).trans (if_pos second)), ?_, rfl, rfl⟩
      exact iff_of_false running (fun click => absurd (second.symm.trans click.1) (by decide))
    · by_cases third : w.currentByte = 3
      · refine ⟨_, mousePart_third cfg inputs w error third, ?_⟩
        have packet := handlePacket_exit cfg
          (decodePacket (mouseIh inputs.mouse w.mouseGlobals).scancode (readMouse inputs w)) running
        refine ⟨packet.1.trans ?_, packet.2⟩
        exact ⟨fun click => ⟨third, click⟩, fun click => click.2⟩
      · refine ⟨_, (if_neg error).trans ((if_neg first).trans ((if_neg second).trans
          (if_neg third))), ?_, rfl, rfl⟩
        exact iff_of_false running (fun click => third click.1)

/-- Nothing is lost or added when the interrupts of the devices come in one notification. -/
def CoalescesWell (inputs : Inputs) (w : World) (mouse kbd timer : Bool) : Prop :=
  if mouse = true ∧ MouseLeaves inputs w then timer = false ∧ (kbd = true → InertKey inputs w)
  else if mouse = true ∧ ExitClick inputs w then
    (kbd = true → KeptSize inputs w) ∧ (timer = true → kbd = true ∧
      (twoBytes (w.nextScancode inputs) = true ∨ w.nextScancode inputs = escBreak))
  else ¬ (kbd = true ∧ twoBytes (w.nextScancode inputs) = true ∧ timer = true)

instance (inputs : Inputs) (w : World) (mouse kbd timer : Bool) :
    Decidable (CoalescesWell inputs w mouse kbd timer) := by
  unfold CoalescesWell; infer_instance

/-- One notification for several interrupts leaves the same state as one for each of them, in
the order of the handlers, exactly if `CoalescesWell`. `kbdBytes` and `keyboardScancode`, which the
next byte overwrites, are not compared. -/
theorem coalesced_iff (cfg : Config) (inputs : Inputs) (w : World) (mouse kbd timer : Bool)
    (running : w.game.gameState ≠ .exit) :
    (gameStep cfg w (.hardware (deviceMask mouse kbd timer) inputs)).map World.view =
        (separately cfg inputs w (deviceBits mouse kbd timer)).map World.view ↔
      CoalescesWell inputs w mouse kbd timer := by
  rw [gameStep_together cfg inputs w mouse kbd timer running]
  unfold CoalescesWell
  cases mouse with
  | false =>
      have whole := together_apart cfg inputs w.clear kbd timer running
      rw [apart_clear cfg inputs w kbd timer] at whole
      rw [if_neg Bool.false_ne_true, if_neg (fun both => Bool.false_ne_true both.1),
        if_neg (fun both => Bool.false_ne_true both.1)]
      exact whole
  | true =>
      rw [if_pos rfl, separately_mouse cfg inputs w kbd timer running]
      by_cases leaves : MouseLeaves inputs w
      · obtain ⟨globals, left⟩ := mousePart_leaves cfg inputs w.clear leaves
        rw [left, if_pos ⟨rfl, leaves⟩]
        exact left_apart cfg inputs { w.clear with mouseGlobals := globals } kbd timer running
      · obtain ⟨v, next, exits, size, scancode⟩ := mousePart_next cfg inputs w.clear running leaves
        have same : v.nextScancode inputs = w.nextScancode inputs := by
          rw [World.nextScancode, scancode]
          rfl
        rw [next, if_neg (fun both => leaves both.2)]
        by_cases click : ExitClick inputs w
        · rw [if_pos ⟨rfl, click⟩, Flow.world, apart_exited cfg inputs v kbd timer (exits.mpr click)]
          have result := exited_together cfg inputs v kbd timer (exits.mpr click)
          rw [KeptSize, size, same] at result
          exact result
        · rw [if_neg (fun both => click both.2), ← same]
          exact together_apart cfg inputs v kbd timer (fun exited => click (exits.mp exited))

/-- A mouse byte that is out of sync, with a timer interrupt in the same notification. -/
def outOfSync : Inputs := { noInputs with mouse := ⟨some 0x21, some 0⟩ }

theorem coalesced_tick_lost :
    (start sampleConfig sampleMemory).game.gameState ≠ .exit ∧
    (gameStep sampleConfig (start sampleConfig sampleMemory)
        (.hardware (deviceMask true false true) outOfSync)).map World.view ≠
      (separately sampleConfig outOfSync (start sampleConfig sampleMemory)
        (deviceBits true false true)).map World.view := by
  refine ⟨by decide, ?_⟩
  intro same
  have counters := congrArg (Option.map View.timerCounter) same
  rw [Option.map_map, Option.map_map] at counters
  revert counters
  decide +kernel

theorem coalesced_iff_plain :
    (gameStep sampleConfig (start sampleConfig sampleMemory)
        (.hardware (deviceMask false true true) noInputs)).map World.view =
      (separately sampleConfig noInputs (start sampleConfig sampleMemory)
        (deviceBits false true true)).map World.view :=
  (coalesced_iff sampleConfig noInputs (start sampleConfig sampleMemory) false true true
    (by decide)).mpr (by decide +kernel)

end Lcom.Proj
