import Lcom.Lab5.Vg
import Lcom.Lib.EventLoop
import Mathlib.Algebra.Order.Floor.Div

/-! `video_test_move` of `lab5/lab5.c`: a sprite that moves along a row or a column. -/

namespace Lcom.Lab5

/-- What the function takes from files that the repository does not have. The products of the clock
frequency fit in an `int`. -/
structure Platform where
  sysHz : Nat
  bounded : sysHz < 65536
  escBreak : UInt8
  twoBytes : UInt8 → Bool

def sixtyHz : Platform := ⟨60, by decide, 0x81, (· == 0xE0)⟩

/-- What comes from `driver_receive`: a failure, a message that is no hardware notification, or a
notification with its two bits and the scancode that `kbc_ih` would read. -/
inductive Message where
  | failed
  | other
  | interrupts (kbd timer : Bool) (scancode : UInt8)
  deriving DecidableEq, Repr

structure Move where
  xi : UInt16
  yi : UInt16
  xf : UInt16
  yf : UInt16
  speed : Int16
  frRate : UInt8
  deriving DecidableEq, Repr

structure Plan where
  ipf : Int
  movX : Int
  movY : Int
  negativeMov : Bool
  deriving DecidableEq, Repr

structure NextXpm where
  prevX : UInt16
  prevY : UInt16
  x : UInt16
  y : UInt16
  deriving DecidableEq, Repr

/-- The position of the sprite, whether it still moves, and the calls of `draw_next_xpm`. -/
structure Sprite where
  xi : UInt16
  yi : UInt16
  moving : Bool
  drawn : List NextXpm
  deriving DecidableEq, Repr

structure State where
  sprite : Sprite
  timerCounter : Nat
  scancode : UInt8
  deriving DecidableEq, Repr

namespace Move

variable (platform : Platform) (move : Move)

def plan : Option Plan :=
  if move.frRate = 0 then none
  else if move.xi ≠ move.xf ∧ move.yi ≠ move.yf then none
  else
    let ipf : Int := (platform.sysHz / move.frRate.toNat : Nat)
    let ipf := if move.speed.toInt < 0 then ipf * -move.speed.toInt else ipf
    let mov := if move.speed.toInt < 0 then 1 else move.speed.toInt
    let movX := if move.xi = move.xf then 0 else mov
    let movY := if move.xi = move.xf then mov else 0
    some ⟨ipf, if move.xf < move.xi then -movX else movX, if move.yf < move.yi then -movY else movY,
      move.xf < move.xi || move.yf < move.yi⟩

variable (plan : Plan)

def frame (sprite : Sprite) : Sprite :=
  -- the coordinates wrap before they are compared with the target
  let xi : UInt16 := .ofInt (sprite.xi.toNat + plan.movX)
  let yi : UInt16 := .ofInt (sprite.yi.toNat + plan.movY)
  if (move.xf ≤ xi ∧ move.yf ≤ yi ∧ ¬ plan.negativeMov) ∨
      (xi ≤ move.xf ∧ yi ≤ move.yf ∧ plan.negativeMov) then
    ⟨xi, yi, false, sprite.drawn ++ [⟨sprite.xi, sprite.yi, move.xf, move.yf⟩]⟩
  else ⟨xi, yi, true, sprite.drawn ++ [⟨sprite.xi, sprite.yi, xi, yi⟩]⟩

def advance (s : State) : State :=
  if s.sprite.moving ∧ plan.ipf ≤ s.timerCounter then
    { s with sprite := move.frame plan s.sprite, timerCounter := 0 }
  else s

/-- A round of the loop; it is left when the scancode is that of the released escape key. -/
def round (s : State) (message : Message) : Option State :=
  if s.scancode = platform.escBreak then none
  else match message with
  | .failed => some s
  | .other => some (move.advance plan s)
  | .interrupts kbd timer scancode =>
      let s := if kbd then { s with scancode := scancode } else s
      if kbd ∧ platform.twoBytes scancode then some s
      else some (move.advance plan
        (if timer then { s with timerCounter := s.timerCounter + 1 } else s))

def received (scancode : UInt8) (messages : List Message) : Option State :=
  messages.foldlM (move.round platform plan) ⟨⟨move.xi, move.yi, true, []⟩, 0, scancode⟩

end Move

namespace Message

variable (platform : Platform)

def handled : Message → Bool
  | failed => false
  | other => true
  | interrupts kbd _ scancode => !(kbd && platform.twoBytes scancode)

def tick : Message → Bool
  | interrupts kbd timer scancode => timer && !(kbd && platform.twoBytes scancode)
  | _ => false

end Message

/-- How many frames the messages are long enough for: one every `ipf` ticks, or one for each message
if there are more frames than ticks. -/
def frameCount (platform : Platform) (ipf : Nat) (messages : List Message) : Nat :=
  if ipf = 0 then messages.countP (Message.handled platform)
  else messages.countP (Message.tick platform) / ipf

namespace Move

variable {platform : Platform} {move : Move} {plan : Plan}

def next (move : Move) (plan : Plan) (sprite : Sprite) : Sprite :=
  if sprite.moving then move.frame plan sprite else sprite

theorem round_spec {s later : State} {message : Message}
    (ran : move.round platform plan s message = some later) :
    ∃ scancode, later =
      if message.handled platform then
        move.advance plan ⟨s.sprite, s.timerCounter + (message.tick platform).toNat, scancode⟩
      else ⟨s.sprite, s.timerCounter, scancode⟩ := by
  unfold round at ran
  split at ran
  · cases ran
  · cases message with
    | failed => exact ⟨s.scancode, (Option.some.inj ran).symm⟩
    | other => exact ⟨s.scancode, (Option.some.inj ran).symm⟩
    | interrupts kbd timer scancode =>
        refine ⟨if kbd then scancode else s.scancode, ?_⟩
        dsimp only at ran
        cases kbd <;> cases timer <;> cases two : platform.twoBytes scancode <;>
          simp_all [Message.handled, Message.tick]

theorem interval_step {ipf : Nat} (positive : ipf ≠ 0) (ticks : Nat) {more : Nat} (few : more ≤ 1) :
    if ipf ≤ ticks % ipf + more then
      (ticks + more) / ipf = ticks / ipf + 1 ∧ (ticks + more) % ipf = 0
    else (ticks + more) / ipf = ticks / ipf ∧ (ticks + more) % ipf = ticks % ipf + more := by
  have whole := Nat.div_add_mod ticks ipf
  have rest := Nat.mod_lt ticks (Nat.pos_of_ne_zero positive)
  split
  · have sum : ticks + more = ipf * (ticks / ipf + 1) := by
      rw [Nat.mul_add, Nat.mul_one]
      omega
    rw [sum]
    exact ⟨Nat.mul_div_cancel_left _ (Nat.pos_of_ne_zero positive), Nat.mul_mod_right _ _⟩
  · rename_i counts
    have sum : ticks + more = ipf * (ticks / ipf) + (ticks % ipf + more) := by omega
    have below : ticks % ipf + more < ipf := Nat.lt_of_not_le counts
    rw [sum, Nat.mul_add_div (Nat.pos_of_ne_zero positive), Nat.mul_add_mod,
      Nat.div_eq_of_lt below, Nat.mod_eq_of_lt below, Nat.add_zero]
    exact ⟨rfl, rfl⟩

theorem tick_handled {message : Message} (skipped : message.handled platform = false) :
    message.tick platform = false := by
  cases message with
  | failed => rfl
  | other => cases skipped
  | interrupts kbd timer scancode =>
      rw [Message.handled] at skipped
      rw [Message.tick, skipped, Bool.and_false]

theorem frameCount_snoc {ipf counter : Nat} {messages : List Message} {message : Message}
    (counted : ipf ≠ 0 → counter = messages.countP (Message.tick platform) % ipf)
    (reached : message.handled platform = true) :
    frameCount platform ipf (messages ++ [message]) = frameCount platform ipf messages +
      if ipf ≤ counter + (message.tick platform).toNat then 1 else 0 := by
  by_cases none : ipf = 0
  · rw [frameCount, if_pos none, frameCount, if_pos none, Lib.countP_snoc, reached, none,
      if_pos (Nat.zero_le _)]
    rfl
  · have step := interval_step none (messages.countP (Message.tick platform))
      (Bool.toNat_le (message.tick platform))
    rw [frameCount, if_neg none, frameCount, if_neg none, Lib.countP_snoc, counted none]
    split at step
    · rename_i full
      rw [if_pos full, step.1]
    · rename_i counts
      rw [if_neg counts, step.1, Nat.add_zero]

theorem next_stopped {sprite : Sprite} (stopped : sprite.moving = false) (count : Nat) :
    (move.next plan)^[count] sprite = sprite := by
  apply Function.iterate_fixed
  rw [next, stopped]
  rfl

theorem frameCount_le (platform : Platform) (ipf : Nat) (messages later : List Message) :
    frameCount platform ipf messages ≤ frameCount platform ipf (messages ++ later) := by
  rw [frameCount, frameCount, List.countP_append, List.countP_append]
  split
  · exact Nat.le_add_right _ _
  · exact Nat.div_le_div_right (Nat.le_add_right _ _)

theorem advance_moving {ipf counter : Nat} (interval : plan.ipf = ipf) {sprite start : Sprite}
    (moving : sprite.moving = true) {messages : List Message} {message : Message}
    (reached : sprite = (move.next plan)^[frameCount platform ipf messages] start)
    (counted : ipf ≠ 0 → counter = messages.countP (Message.tick platform) % ipf) {code : UInt8} :
    (move.advance plan ⟨sprite, counter + (message.tick platform).toNat, code⟩).sprite =
      (move.next plan)^[frameCount platform ipf messages +
        if ipf ≤ counter + (message.tick platform).toNat then 1 else 0] start ∧
    ((move.advance plan ⟨sprite, counter + (message.tick platform).toNat, code⟩).sprite.moving =
        true → ipf ≠ 0 →
      (move.advance plan ⟨sprite, counter + (message.tick platform).toNat, code⟩).timerCounter =
        (messages ++ [message]).countP (Message.tick platform) % ipf) := by
  have guard : plan.ipf ≤ ((counter + (message.tick platform).toNat : Nat) : Int) ↔
      ipf ≤ counter + (message.tick platform).toNat := by
    rw [interval]
    exact Int.ofNat_le
  rw [advance, Lib.countP_snoc]
  by_cases full : ipf ≤ counter + (message.tick platform).toNat
  · rw [if_pos ⟨moving, guard.mpr full⟩, if_pos full, Function.iterate_succ_apply', ← reached, next,
      if_pos moving]
    refine ⟨rfl, fun _ positive => ?_⟩
    have step := interval_step positive (messages.countP (Message.tick platform))
      (Bool.toNat_le (message.tick platform))
    rw [← counted positive, if_pos full] at step
    exact step.2.symm
  · rw [if_neg (fun both => full (guard.mp both.2)), if_neg full, Nat.add_zero]
    refine ⟨reached, fun _ positive => ?_⟩
    have step := interval_step positive (messages.countP (Message.tick platform))
      (Bool.toNat_le (message.tick platform))
    rw [← counted positive, if_neg full] at step
    exact step.2.symm

/-- The frames of a run are those that its messages are long enough for. While the sprite moves the
counter has the ticks since the last frame. -/
theorem received_sprite {ipf : Nat} (interval : plan.ipf = ipf) (scancode : UInt8)
    (messages : List Message) {s : State}
    (ran : move.received platform plan scancode messages = some s) :
    s.sprite = (move.next plan)^[frameCount platform ipf messages] ⟨move.xi, move.yi, true, []⟩ ∧
      (s.sprite.moving = true → ipf ≠ 0 →
        s.timerCounter = messages.countP (Message.tick platform) % ipf) := by
  induction messages using List.reverseRecOn generalizing s with
  | nil =>
      cases ran
      simp [frameCount]
  | append_singleton messages message ih =>
      rw [received, List.foldlM_append] at ran
      obtain ⟨before, earlier, last⟩ := Option.bind_eq_some_iff.mp ran
      rw [List.foldlM_cons] at last
      obtain ⟨after, rounded, same⟩ := Option.bind_eq_some_iff.mp last
      cases same
      obtain ⟨sprite, counted⟩ := ih earlier
      obtain ⟨code, rfl⟩ := round_spec rounded
      cases reached : message.handled platform with
      | false =>
          rw [if_neg (by decide)]
          simp only [frameCount, Lib.countP_snoc, reached, tick_handled reached, Bool.toNat_false,
            Nat.add_zero]
          exact ⟨sprite, counted⟩
      | true =>
          rw [if_pos rfl]
          cases moving : before.sprite.moving with
          | false =>
              -- there is no frame any more, however many there is time for
              have stays : move.advance plan ⟨before.sprite,
                  before.timerCounter + (message.tick platform).toNat, code⟩ =
                  ⟨before.sprite, before.timerCounter + (message.tick platform).toNat, code⟩ := by
                rw [advance, if_neg (by simp [moving])]
              obtain ⟨more, count⟩ :=
                Nat.exists_eq_add_of_le' (frameCount_le platform ipf messages [message])
              rw [stays, count, Function.iterate_add_apply, ← sprite, next_stopped moving]
              exact ⟨rfl, fun goes => absurd goes (by simp [moving])⟩
          | true =>
              rw [frameCount_snoc (counted moving) reached]
              exact advance_moving interval moving sprite (counted moving)

end Move

end Lcom.Lab5
