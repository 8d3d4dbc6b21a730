import Lcom.Lib.Bits
import Lcom.Lib.Strict
import Mathlib.Tactic

/-! A game on the level of the formation. The player steers out of the way of every alien
bullet and shoots only while no bullet of the ship is in the air. -/

namespace Lcom.Proj

open Lcom.Lib

/-- The formation as a rigid body with the two bullets that can be in the air. Column 0 stands at
`x`, row 0 at `y`, and bit `i` of `living` says that alien `i` is alive. Horizontal positions
count from 1000 pixels left of the screen, so that they are natural numbers. -/
structure Battle where
  x : Nat
  y : Nat
  right : Bool
  round : Nat
  living : Nat
  shot : Option (Nat × Nat)
  bomb : Option (Nat × Nat)
  deriving DecidableEq, Repr

/-- What the player and `rand()` decide for one tick: the position `30 + 15 * k` of the ship to
shoot from, and the alien that fires if no alien bullet is in the air. -/
structure Order where
  aim : Option Nat
  shooter : Nat

namespace Battle

def renew (s : Battle) : Battle := { s with x := 1024, y := 20, living := 2 ^ 24 - 1 }

def turns (right : Bool) (x living : Nat) : Bool :=
  bif right then Nat.blt 0 (living / 8 ^ ((2023 - x) / 80))
  else Nat.ble x 1020 && Nat.blt 0 (living % 8 ^ ((1020 - x) / 80 + 1))

/-- A distance from the origin falls into one of `count` boxes of the given size, one in each
multiple of `pitch`. -/
def inBox (pitch size count distance : Nat) : Bool :=
  Nat.blt 0 (distance % pitch) && Nat.blt (distance % pitch) size &&
    Nat.blt (distance / pitch) count

/-- The index of the alien around a point at the distances `dx` and `dy` from the first one. -/
def boxAt (dx dy : Nat) : Option Nat :=
  bif inBox 60 40 3 dy && inBox 80 60 8 dx then some (3 * (dx / 80) + dy / 60) else none

def struck (x y living : Nat) : Option (Nat × Nat) → Option Nat
  | none => none
  | some shot => (boxAt (shot.1 - x) (shot.2 - y)).filter living.testBit

def ahead (s : Battle) : Nat := bif s.right then s.x + (s.round + 1) else s.x - (s.round + 1)

def pass (s : Battle) (shot bomb : Option (Nat × Nat)) : Battle :=
  let x := s.ahead
  let turned := turns s.right x s.living
  let hit := struck x s.y s.living shot
  let living := s.living ^^^ hit.elim 0 (2 ^ ·)
  { x := x
    y := s.y + bif turned then 20 else 0
    right := s.right ^^ turned
    round := s.round + bif Nat.beq living 0 then 1 else 0
    living := living
    shot := bif hit.isSome then none else shot
    bomb := bomb }

def drop (s : Battle) (shooter : Nat) : Option (Nat × Nat) :=
  match s.bomb with
  | none => some (s.x + 80 * (shooter / 3) + 30, s.y + 60 * (shooter % 3) + 40)
  | some (x, y) => bif Nat.ble 696 y then none else some (x, y + 4)

def overrun (s : Battle) : Bool :=
  Nat.ble 440 s.y && (List.range 24).any (fun i =>
    s.living.testBit i && Nat.ble 560 (s.y + 60 * (i % 3)))

def rise : Option (Nat × Nat) → Option (Nat × Nat)
  | none => none
  | some (x, y) => some (x, y - 28)

def misses : Option (Nat × Nat) → Bool
  | none => false
  | some (_, y) => Nat.blt y 28

/-- The shot of an order. It is ignored while the last bullet is in the air and between waves. -/
def shoot (s : Battle) : Option Nat → Battle
  | none => s
  | some k =>
      bif s.shot.isSome || Nat.beq s.living 0 || Nat.blt 59 k then s
      else { s with shot := some (1067 + 15 * k, 630) }

def tick (s : Battle) (shooter : Nat) : Option Battle :=
  bif Nat.beq s.living 0 then some s.renew
  else
    bif s.living.testBit shooter && !s.overrun && !misses s.shot && Nat.blt s.round s.x then
      some (s.pass (rise s.shot) (s.drop shooter))
    else none

def strict {β : Type} (s : Battle) (next : Battle → β) : β :=
  strictNat s.x fun x => strictNat s.y fun y => strictBool s.right fun right =>
    strictNat s.round fun round => strictNat s.living fun living =>
      strictPoint s.shot fun shot => strictPoint s.bomb fun bomb =>
        next ⟨x, y, right, round, living, shot, bomb⟩

theorem strict_eq {β : Type} (s : Battle) (next : Battle → β) : s.strict next = next s := by
  simp [strict]

/-- The battle after `n` ticks under a plan, or at the tick before the territory is lost. -/
def fight (plan : Battle → Order) : Nat → Battle → Option Battle
  | 0, s => some s
  | n + 1, s =>
      bif s.overrun then some s
      else
        match (s.shoot (plan s).aim).tick (plan s).shooter with
        | none => none
        | some next => next.strict (fight plan n)

theorem eight_pow (k : Nat) : 8 ^ k = 2 ^ (3 * k) := by rw [pow_mul]; rfl

theorem turns_right (x living : Nat) :
    turns true x living = true ↔ ∃ i, living.testBit i = true ∧ 2004 ≤ x + 80 * (i / 3) + 60 := by
  rw [turns, cond_true, Nat.blt_eq, eight_pow, exists_bit_from]
  constructor
  · rintro ⟨i, bit, far⟩
    exact ⟨i, bit, by omega⟩
  · rintro ⟨i, bit, far⟩
    exact ⟨i, bit, by omega⟩

theorem turns_left (x living : Nat) :
    turns false x living = true ↔ ∃ i, living.testBit i = true ∧ x + 80 * (i / 3) ≤ 1020 := by
  rw [turns, cond_false, Bool.and_eq_true, Nat.blt_eq, eight_pow, exists_bit_below, Nat.ble_eq]
  constructor
  · rintro ⟨near, i, bit, far⟩
    exact ⟨i, bit, by omega⟩
  · rintro ⟨i, bit, far⟩
    exact ⟨by omega, i, bit, by omega⟩

theorem inBox_iff (pitch size count distance : Nat) : inBox pitch size count distance = true ↔
    0 < distance % pitch ∧ distance % pitch < size ∧ distance / pitch < count := by
  simp only [inBox, Bool.and_eq_true, Nat.blt_eq, and_assoc]

def Inside (x y i a b : Nat) : Prop :=
  (x + 80 * (i / 3) < a ∧ a < x + 80 * (i / 3) + 60) ∧
    y + 60 * (i % 3) < b ∧ b < y + 60 * (i % 3) + 40

theorem boxAt_iff (x y a b i : Nat) :
    boxAt (a - x) (b - y) = some i ↔ i < 24 ∧ Inside x y i a b := by
  unfold boxAt Inside
  constructor
  · intro found
    cases inside : inBox 60 40 3 (b - y) && inBox 80 60 8 (a - x) with
    | false =>
        rw [inside] at found
        cases found
    | true =>
        rw [inside] at found
        have index := Option.some.inj found
        rw [Bool.and_eq_true, inBox_iff, inBox_iff] at inside
        omega
  · rintro ⟨bound, ⟨left, right⟩, top, bottom⟩
    have inside : (inBox 60 40 3 (b - y) && inBox 80 60 8 (a - x)) = true := by
      rw [Bool.and_eq_true, inBox_iff, inBox_iff]
      omega
    rw [inside, cond_true]
    congr 1
    omega

theorem struck_iff (x y living a b i : Nat) : struck x y living (some (a, b)) = some i ↔
    living.testBit i = true ∧ i < 24 ∧ Inside x y i a b := by
  rw [struck, Option.filter_eq_some_iff, boxAt_iff]
  exact and_comm

theorem overrun_iff (s : Battle) : s.overrun = true ↔
    ∃ i, s.living.testBit i = true ∧ i < 24 ∧ 600 ≤ s.y + 60 * (i % 3) + 40 := by
  simp only [overrun, Bool.and_eq_true, List.any_eq_true, List.mem_range, Nat.ble_eq]
  constructor
  · rintro ⟨_, i, bound, bit, low⟩
    exact ⟨i, bit, bound, by omega⟩
  · rintro ⟨i, bit, bound, low⟩
    exact ⟨by omega, i, bound, bit, by omega⟩

def lowest (living : Nat) : Nat := (living - (living &&& (living - 1))).log2

def idle (s : Battle) : Order := ⟨none, lowest s.living⟩

/-- The position to shoot from at the first living alien of the row at the distance `dy` from
the first row. -/
def aimAt (living x dy : Nat) : Option Nat :=
  bif inBox 60 40 3 dy then
    strictNat (living &&& 0x249249 <<< (dy / 60)) fun row =>
    strictNat ((x + 80 * (lowest row / 3) - 1037) / 15) fun k =>
      bif Nat.ble k 59 && (boxAt (1067 + 15 * k - x) dy).any row.testBit then some k else none
  else none

/-- The position to shoot from so that the bullet meets an alien after at most `n` ticks. -/
def foresee (living step : Nat) : (n x y : Nat) → (right : Bool) → (height : Nat) → Option Nat
  | 0, _, _, _, _ => none
  | n + 1, x, y, right, height =>
      strictNat (bif right then x + step else x - step) fun x =>
      strictNat (height - 28) fun height =>
      match aimAt living x (height - y) with
      | some k => some k
      | none =>
          bif turns right x living then foresee living step n x (y + 20) (!right) height
          else foresee living step n x y right height

def gunner (s : Battle) : Order :=
  bif Nat.beq s.round 50 then ⟨none, 22⟩
  else ⟨bif s.shot.isSome then none
    else foresee s.living (s.round + 1) 21 s.x s.y s.right 630, lowest s.living⟩

def first : Battle := ⟨1024, 20, true, 0, 2 ^ 24 - 1, none, none⟩

end Battle

end Lcom.Proj
