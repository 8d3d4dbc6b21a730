import Lcom.Lib.Heap
import Lcom.Lib.Traversal
import Lcom.Proj.Objects
import Mathlib.Data.List.ReduceOption

/-! `shipBullet.c`. The array `shipBullets` holds references into a heap, because
`removeShipBullet` frees the bullet and clears only its own parameter. -/

namespace Lcom.Proj

open Lcom.Lib

structure ShipBullet where
  x : Int
  y : Int
  speed : Int
  img : XpmImage
  hitAlien : Bool
  deriving DecidableEq, Repr

instance : Inhabited ShipBullet := ⟨⟨0, 0, 0, XpmImage.zeroed, false⟩⟩

structure ShipBullets where
  slots : List.Vector (Option Ref) maxShipBullets
  heap : Heap ShipBullet

def initShipBullets : ShipBullets := ⟨List.Vector.replicate maxShipBullets none, Heap.empty⟩

/-- One iteration of the loop of `createShipBullet`. The loop goes on after it has
stored the bullet. -/
def storeSlot (shipBullet : Ref) : Option Ref → Heap ShipBullet → Option Ref × Heap ShipBullet
  | none, heap => (some shipBullet, heap)
  | some ref, heap =>
      if (heap.read ref).hitAlien then (some shipBullet, heap.touch ref)
      else (some ref, heap.touch ref)

def createShipBullet (x y speed : Int) (img : XpmImage) (bullets : ShipBullets) : ShipBullets :=
  let shipBullet := bullets.heap.next
  let heap := bullets.heap.alloc ⟨x, y, speed, img, false⟩
  let pass := traverse (storeSlot shipBullet) bullets.slots.toList heap
  ⟨⟨pass.1, by rw [traverse_length]; exact bullets.slots.2⟩, pass.2⟩

def removeShipBullet (shipBullet : Ref) (heap : Heap ShipBullet) : Heap ShipBullet :=
  heap.free shipBullet

def moveSlot (heap : Heap ShipBullet) : Option Ref → Heap ShipBullet
  | none => heap
  | some ref =>
      let bullet := heap.read ref
      if bullet.hitAlien then heap.touch ref
      else if bullet.y - bullet.speed ≥ 0 then
        (heap.touch ref).write ref { bullet with y := bullet.y - bullet.speed }
      else removeShipBullet ref (heap.touch ref)

def updateShipBulletPosition (bullets : ShipBullets) : ShipBullets :=
  { bullets with heap := bullets.slots.toList.foldl moveSlot bullets.heap }

def touchSlot (heap : Heap ShipBullet) : Option Ref → Heap ShipBullet
  | none => heap
  | some ref => heap.touch ref

def drawShipBullets (bullets : ShipBullets) : ShipBullets :=
  { bullets with heap := bullets.slots.toList.foldl touchSlot bullets.heap }

/-- The bullets that `drawShipBullets` passes to `drawXpm`, in the order of the slots. -/
def drawnShipBullets (bullets : ShipBullets) : List ShipBullet :=
  (bullets.slots.toList.reduceOption.map bullets.heap.read).filter (fun bullet => !bullet.hitAlien)

def AlienHit (a1 : Alien) (bullet : ShipBullet) : Prop :=
  a1.x < bullet.x ∧ (a1.x + a1.width > bullet.x ∧ a1.alive = true) ∧
    bullet.y > a1.y ∧ bullet.y < a1.y + a1.height ∧ bullet.hitAlien = false

instance (a1 : Alien) (bullet : ShipBullet) : Decidable (AlienHit a1 bullet) :=
  inferInstanceAs (Decidable (_ ∧ _))

structure Collision where
  alien : Alien
  killCount : Int
  ship : Ship
  heap : Heap ShipBullet

def Alien.kill (a1 : Alien) : Alien := { a1 with alive := false }

def Collision.hit (state : Collision) (ref : Ref) : Collision :=
  { alien := state.alien.kill
    killCount := state.killCount + 1
    ship := increaseScore state.alien.value state.ship
    heap := removeShipBullet ref
      (state.heap.write ref { state.heap.read ref with hitAlien := true }) }

def verifySlots (state : Collision) : List (Option Ref) → Collision
  | [] => state
  | none :: rest => verifySlots state rest
  | some ref :: rest =>
      let touched := { state with heap := state.heap.touch ref }
      if AlienHit state.alien (state.heap.read ref) then touched.hit ref
      else verifySlots touched rest

def verifyAlienAndBulletCollision (a1 : Alien) (killCount : Int) (ship : Ship)
    (bullets : ShipBullets) : Collision :=
  verifySlots ⟨a1, killCount, ship, bullets.heap⟩ bullets.slots.toList

namespace ShipBullets

def All (P : ShipBullet → Prop) (bullets : ShipBullets) : Prop :=
  ∀ ref, some ref ∈ bullets.slots.toList → P (bullets.heap.read ref)

def Shared (bullets : ShipBullets) : Prop :=
  ∃ slot, bullets.slots.toList = List.replicate maxShipBullets slot

def Allocated (bullets : ShipBullets) : Prop :=
  ∀ ref, some ref ∈ bullets.slots.toList → ref < bullets.heap.next

end ShipBullets

theorem storeSlot_heap (shipBullet : Ref) (slot : Option Ref) (heap : Heap ShipBullet) :
    (storeSlot shipBullet slot heap).2 = touchSlot heap slot := by
  cases slot with
  | none => rfl
  | some ref =>
      simp only [storeSlot]
      split <;> rfl

def reuseSlot (read : Ref → ShipBullet) (shipBullet : Ref) : Option Ref → Option Ref
  | none => some shipBullet
  | some ref => if (read ref).hitAlien then some shipBullet else some ref

theorem storeSlot_slot (shipBullet : Ref) (slot : Option Ref) (heap : Heap ShipBullet) :
    (storeSlot shipBullet slot heap).1 = reuseSlot heap.read shipBullet slot := by
  cases slot with
  | none => rfl
  | some ref =>
      simp only [storeSlot, reuseSlot]
      split <;> rfl

theorem foldl_touchSlot (slots : List (Option Ref)) (heap : Heap ShipBullet) :
    (slots.foldl touchSlot heap).read = heap.read ∧
      (slots.foldl touchSlot heap).next = heap.next := by
  induction slots generalizing heap with
  | nil => exact ⟨rfl, rfl⟩
  | cons slot rest ih =>
      have tail := ih (touchSlot heap slot)
      cases slot with
      | none => exact tail
      | some ref => simpa [touchSlot] using tail

theorem traverse_storeSlot (shipBullet : Ref) (slots : List (Option Ref)) (heap : Heap ShipBullet) :
    (traverse (storeSlot shipBullet) slots heap).1 = slots.map (reuseSlot heap.read shipBullet) ∧
      (traverse (storeSlot shipBullet) slots heap).2 = slots.foldl touchSlot heap := by
  induction slots generalizing heap with
  | nil => exact ⟨rfl, rfl⟩
  | cons slot rest ih =>
      have tail := ih (storeSlot shipBullet slot heap).2
      have read : (touchSlot heap slot).read = heap.read := (foldl_touchSlot [slot] heap).1
      rw [storeSlot_heap, read] at tail
      rw [traverse_cons, storeSlot_heap, storeSlot_slot]
      exact ⟨by rw [List.map_cons, tail.1], tail.2⟩

section Create

variable (x y speed : Int) (img : XpmImage) (bullets : ShipBullets)

theorem createShipBullet_slots :
    (createShipBullet x y speed img bullets).slots.toList =
      bullets.slots.toList.map (reuseSlot
        (Function.update bullets.heap.read bullets.heap.next ⟨x, y, speed, img, false⟩)
        bullets.heap.next) := by
  have pass := traverse_storeSlot bullets.heap.next bullets.slots.toList
    (bullets.heap.alloc ⟨x, y, speed, img, false⟩)
  rw [Heap.alloc_read] at pass
  exact pass.1

theorem createShipBullet_heap :
    (createShipBullet x y speed img bullets).heap =
      bullets.slots.toList.foldl touchSlot (bullets.heap.alloc ⟨x, y, speed, img, false⟩) :=
  (traverse_storeSlot bullets.heap.next bullets.slots.toList _).2

theorem createShipBullet_read :
    (createShipBullet x y speed img bullets).heap.read =
      Function.update bullets.heap.read bullets.heap.next ⟨x, y, speed, img, false⟩ := by
  rw [createShipBullet_heap, (foldl_touchSlot _ _).1, Heap.alloc_read]

theorem createShipBullet_next :
    (createShipBullet x y speed img bullets).heap.next = bullets.heap.next + 1 := by
  rw [createShipBullet_heap, (foldl_touchSlot _ _).2, Heap.alloc_next]

theorem createShipBullet_mem (ref : Ref)
    (member : some ref ∈ (createShipBullet x y speed img bullets).slots.toList) :
    ref = bullets.heap.next ∨ some ref ∈ bullets.slots.toList := by
  rw [createShipBullet_slots] at member
  obtain ⟨slot, inside, same⟩ := List.mem_map.mp member
  cases slot with
  | none =>
      left
      exact (Option.some.inj same).symm
  | some old =>
      simp only [reuseSlot] at same
      split at same
      · left
        exact (Option.some.inj same).symm
      · right
        rwa [same] at inside

variable {bullets}

theorem createShipBullet_all {P : ShipBullet → Prop} (holds : bullets.All P)
    (new : P ⟨x, y, speed, img, false⟩) : (createShipBullet x y speed img bullets).All P := by
  intro ref member
  rw [createShipBullet_read]
  by_cases fresh : ref = bullets.heap.next
  · subst ref
    simpa using new
  · rw [Function.update_of_ne fresh]
    rcases createShipBullet_mem x y speed img bullets ref member with same | old
    · exact absurd same fresh
    · exact holds ref old

theorem createShipBullet_allocated (holds : bullets.Allocated) :
    (createShipBullet x y speed img bullets).Allocated := by
  intro ref member
  rw [createShipBullet_next]
  rcases createShipBullet_mem x y speed img bullets ref member with same | old
  · rw [same]
    exact Nat.lt_succ_self _
  · exact Nat.lt_succ_of_lt (holds ref old)

theorem createShipBullet_shared (holds : bullets.Shared) :
    (createShipBullet x y speed img bullets).Shared := by
  rcases holds with ⟨slot, same⟩
  exact ⟨_, by rw [createShipBullet_slots, same, List.map_replicate]⟩

end Create

def moveBullet (bullet : ShipBullet) : ShipBullet :=
  if bullet.hitAlien then bullet
  else if bullet.y - bullet.speed ≥ 0 then { bullet with y := bullet.y - bullet.speed }
  else bullet

theorem moveSlot_read (heap : Heap ShipBullet) (ref : Ref) :
    (moveSlot heap (some ref)).read =
      Function.update heap.read ref (moveBullet (heap.read ref)) := by
  simp only [moveSlot, moveBullet]
  split
  · simp
  · split
    · simp [Heap.write_read]
    · simp [removeShipBullet]

theorem moveSlot_next (heap : Heap ShipBullet) (slot : Option Ref) :
    (moveSlot heap slot).next = heap.next := by
  cases slot with
  | none => rfl
  | some ref =>
      simp only [moveSlot]
      split
      · simp
      · split <;> simp [removeShipBullet]

theorem foldl_moveSlot_next (slots : List (Option Ref)) (heap : Heap ShipBullet) :
    (slots.foldl moveSlot heap).next = heap.next := by
  induction slots generalizing heap with
  | nil => rfl
  | cons slot rest ih => rw [List.foldl_cons, ih, moveSlot_next]

theorem foldl_moveSlot_read {P : ShipBullet → Prop} (kept : ∀ bullet, P bullet → P (moveBullet bullet))
    (slots : List (Option Ref)) (heap : Heap ShipBullet) (ref : Ref) (holds : P (heap.read ref)) :
    P ((slots.foldl moveSlot heap).read ref) := by
  induction slots generalizing heap with
  | nil => exact holds
  | cons slot rest ih =>
      apply ih
      cases slot with
      | none => exact holds
      | some moved =>
          rw [moveSlot_read]
          by_cases same : ref = moved
          · subst moved
            simpa using kept _ holds
          · rwa [Function.update_of_ne same]

/-- A bullet is moved once for each slot that refers to it. -/
theorem foldl_moveSlot_count (slots : List (Option Ref)) (heap : Heap ShipBullet) (ref : Ref) :
    (slots.foldl moveSlot heap).read ref =
      moveBullet^[slots.count (some ref)] (heap.read ref) := by
  induction slots generalizing heap with
  | nil => rfl
  | cons slot rest ih =>
      rw [List.foldl_cons, ih]
      by_cases same : slot = some ref
      · rw [same, List.count_cons_self, moveSlot_read, Function.update_self]
        rfl
      · rw [List.count_cons_of_ne same]
        cases slot with
        | none => rfl
        | some other =>
            have differ : ref ≠ other := fun equal => same (congrArg some equal.symm)
            rw [moveSlot_read, Function.update_of_ne differ]

theorem moveBullet_iterate (count : Nat) (bullet : ShipBullet) (flying : bullet.hitAlien = false)
    (upwards : 0 ≤ bullet.speed) (room : count * bullet.speed ≤ bullet.y) :
    moveBullet^[count] bullet = { bullet with y := bullet.y - count * bullet.speed } := by
  induction count generalizing bullet with
  | zero => simp
  | succ count ih =>
      have spent : ¬ bullet.hitAlien = true := by
        rw [flying]
        decide
      have rest : 0 ≤ count * bullet.speed := Int.mul_nonneg (Int.natCast_nonneg count) upwards
      have split : ((count + 1 : Nat) : Int) * bullet.speed = count * bullet.speed + bullet.speed := by
        push_cast
        ring
      rw [split] at room ⊢
      have above : bullet.y - bullet.speed ≥ 0 := by omega
      have moved : moveBullet bullet = { bullet with y := bullet.y - bullet.speed } := by
        rw [moveBullet, if_neg spent, if_pos above]
      have next : (count : Int) * bullet.speed ≤ bullet.y - bullet.speed := by omega
      rw [Function.iterate_succ_apply, moved,
        ih { bullet with y := bullet.y - bullet.speed } flying upwards next]
      congr 1
      dsimp only
      ring

section Move

variable {bullets : ShipBullets}

theorem updateShipBulletPosition_all {P : ShipBullet → Prop}
    (kept : ∀ bullet, P bullet → P (moveBullet bullet)) (holds : bullets.All P) :
    (updateShipBulletPosition bullets).All P := by
  intro ref member
  exact foldl_moveSlot_read kept _ _ ref (holds ref member)

theorem drawShipBullets_read : (drawShipBullets bullets).heap.read = bullets.heap.read :=
  (foldl_touchSlot _ _).1

theorem drawShipBullets_all {P : ShipBullet → Prop} (holds : bullets.All P) :
    (drawShipBullets bullets).All P := by
  intro ref member
  rw [drawShipBullets_read]
  exact holds ref member

theorem updateShipBulletPosition_allocated (holds : bullets.Allocated) :
    (updateShipBulletPosition bullets).Allocated := by
  intro ref member
  rw [updateShipBulletPosition, foldl_moveSlot_next]
  exact holds ref member

theorem drawShipBullets_allocated (holds : bullets.Allocated) :
    (drawShipBullets bullets).Allocated := by
  intro ref member
  rw [drawShipBullets, (foldl_touchSlot _ _).2]
  exact holds ref member

theorem drawnShipBullets_all {P : ShipBullet → Prop} (holds : bullets.All P) :
    ∀ bullet ∈ drawnShipBullets bullets, P bullet := by
  intro bullet member
  obtain ⟨ref, inside, rfl⟩ := List.mem_map.mp (List.mem_of_mem_filter member)
  exact holds ref (List.reduceOption_mem_iff.mp inside)

end Move

theorem Collision.hit_read (state : Collision) (ref : Ref) :
    (state.hit ref).heap.read =
      Function.update state.heap.read ref { state.heap.read ref with hitAlien := true } := by
  simp [Collision.hit, removeShipBullet, Heap.write_read]

/-- The two outcomes of the loop of `verifyAlienAndBulletCollision`. It follows the slots
`passed` up to the first hit. -/
theorem verifySlots_cases (slots : List (Option Ref)) (state : Collision) :
    ∃ passed : List (Option Ref), (∀ slot ∈ passed, slot ∈ slots) ∧
      ((∀ ref, some ref ∈ slots → ¬ AlienHit state.alien (state.heap.read ref)) ∧
          verifySlots state slots = { state with heap := passed.foldl touchSlot state.heap } ∨
        ∃ ref, some ref ∈ slots ∧ AlienHit state.alien (state.heap.read ref) ∧
          verifySlots state slots =
            { state with heap := passed.foldl touchSlot state.heap }.hit ref) := by
  induction slots generalizing state with
  | nil => exact ⟨[], by simp, Or.inl ⟨(by intro ref member; cases member), rfl⟩⟩
  | cons slot rest ih =>
      cases slot with
      | none =>
          obtain ⟨passed, inside, outcome⟩ := ih state
          refine ⟨passed, fun slot member => List.mem_cons_of_mem _ (inside slot member), ?_⟩
          simpa [verifySlots] using outcome
      | some ref =>
          by_cases hit : AlienHit state.alien (state.heap.read ref)
          · refine ⟨[some ref], by simp, Or.inr ⟨ref, List.mem_cons_self, hit, ?_⟩⟩
            rw [verifySlots, if_pos hit]
            rfl
          · have step : verifySlots state (some ref :: rest) =
                verifySlots { state with heap := state.heap.touch ref } rest := by
              rw [verifySlots, if_neg hit]
            rw [step]
            obtain ⟨passed, inside, outcome⟩ := ih { state with heap := state.heap.touch ref }
            simp only [Heap.touch_read] at outcome
            refine ⟨some ref :: passed, ?_, ?_⟩
            · intro slot member
              rcases List.mem_cons.mp member with same | later
              · rw [same]
                exact List.mem_cons_self
              · exact List.mem_cons_of_mem _ (inside slot later)
            rcases outcome with ⟨misses, result⟩ | ⟨other, member, hits, result⟩
            · left
              refine ⟨?_, result⟩
              intro other member
              rcases List.mem_cons.mp member with same | later
              · cases same
                exact hit
              · exact misses other later
            · right
              exact ⟨other, List.mem_cons_of_mem _ member, hits, result⟩

end Lcom.Proj
