import Lcom.Proj.March
import Lcom.Proj.Play

/-! Runs of calls on `shipBullets`, from `initShipBullets`. The game makes such a run. -/

namespace Lcom.Proj

open Lcom.Lib

inductive BulletCall where
  | createShipBullet (x y speed : Int) (img : XpmImage)
  | updateShipBulletPosition
  | drawShipBullets
  | verifyAlienAndBulletCollision (a1 : Alien) (killCount : Int) (ship : Ship)

def ShipBullets.apply (bullets : ShipBullets) : BulletCall → ShipBullets
  | .createShipBullet x y speed img => createShipBullet x y speed img bullets
  | .updateShipBulletPosition => updateShipBulletPosition bullets
  | .drawShipBullets => drawShipBullets bullets
  | .verifyAlienAndBulletCollision a1 killCount ship =>
      { bullets with heap := (verifyAlienAndBulletCollision a1 killCount ship bullets).heap }

def runBullets (calls : List BulletCall) : ShipBullets :=
  calls.foldl ShipBullets.apply initShipBullets

theorem runBullets_snoc (calls : List BulletCall) (call : BulletCall) :
    runBullets (calls ++ [call]) = (runBullets calls).apply call := by
  simp [runBullets]

theorem runBullets_invariant (Inv : ShipBullets → Prop) (base : Inv initShipBullets)
    (kept : ∀ bullets call, Inv bullets → Inv (bullets.apply call)) (calls : List BulletCall) :
    Inv (runBullets calls) := by
  induction calls using List.reverseRecOn with
  | nil => exact base
  | append_singleton front call ih =>
      rw [runBullets_snoc]
      exact kept _ call ih

theorem apply_slots (bullets : ShipBullets) (call : BulletCall)
    (other : ∀ x y speed img, call ≠ .createShipBullet x y speed img) :
    (bullets.apply call).slots = bullets.slots := by
  cases call with
  | createShipBullet x y speed img => exact absurd rfl (other x y speed img)
  | updateShipBulletPosition => rfl
  | drawShipBullets => rfl
  | verifyAlienAndBulletCollision a1 killCount ship => rfl

theorem runBullets_shared (calls : List BulletCall) : (runBullets calls).Shared := by
  apply runBullets_invariant
  · exact ⟨none, rfl⟩
  · intro bullets call shared
    cases call with
    | createShipBullet x y speed img => exact createShipBullet_shared x y speed img shared
    | updateShipBulletPosition => exact shared
    | drawShipBullets => exact shared
    | verifyAlienAndBulletCollision a1 killCount ship => exact shared

def FromCalls (bullets : ShipBullets) : Prop := ∃ calls, bullets = runBullets calls

theorem FromCalls.apply {bullets : ShipBullets} (made : FromCalls bullets) (call : BulletCall) :
    FromCalls (bullets.apply call) := by
  obtain ⟨calls, rfl⟩ := made
  exact ⟨calls ++ [call], (runBullets_snoc calls call).symm⟩

theorem marchAlien_fromCalls (cfg : Config) (rightMov movImg : Bool) (a : Alien) (m : March)
    (made : FromCalls m.bullets) : FromCalls (marchAlien cfg rightMov movImg a m).2.bullets := by
  unfold marchAlien
  split
  · exact made
  · dsimp only
    rw [settleAlien_bullets]
    exact made.apply (.verifyAlienAndBulletCollision _ m.killCount m.ship)

theorem marchAliens_fromCalls (cfg : Config) (g : Game) (made : FromCalls g.bullets) :
    FromCalls (marchAliens cfg g).bullets :=
  traverse_acc _ (fun m => FromCalls m.bullets)
    (fun a m made => marchAlien_fromCalls cfg _ _ a m made) _ _ made

theorem bullets_fromCalls {cfg : Config} (w : World) (reached : (gameLoop cfg).Reachable w) :
    FromCalls w.game.bullets := by
  apply reachable_invariant (fun g => FromCalls g.bullets) _ _ _ _ w reached
  · exact fun memory => ⟨[], rfl⟩
  · exact fun g made => made
  · intro started before after made move
    cases move with
    | shoot playing => exact made.apply (.createShipBullet _ _ _ _)
    | _ => exact made
  · intro before after made move
    cases move with
    | count made' menus still => exact made
    | nextRound cleared => exact made
    | tick _ inputs playing ends =>
        have drawn : FromCalls (drawFrame cfg inputs (timerIntHandler before)).bullets :=
          (made.apply .updateShipBulletPosition).apply .drawShipBullets
        have moved : ∀ g : Game, FromCalls g.bullets → FromCalls (moveAliens cfg g).bullets :=
          fun g made => moveAliens_keeps cfg g (fun g => FromCalls g.bullets)
            (fun _ _ _ _ _ made => made) (marchAliens_fromCalls cfg) made
        cases ends with
        | fired index idle alive => exact moved _ drawn
        | lost active dead =>
            obtain ⟨lives, still, calls, same⟩ :=
              moveAlienBullet_eq (drawFrame cfg inputs (timerIntHandler before))
            rw [same]
            exact drawn
        | flown active left =>
            apply moved
            obtain ⟨lives, still, calls, same⟩ :=
              moveAlienBullet_eq (drawFrame cfg inputs (timerIntHandler before))
            rw [same]
            exact drawn

theorem shared_reachable {cfg : Config} (w : World) (reached : (gameLoop cfg).Reachable w) :
    w.game.bullets.Shared := by
  obtain ⟨calls, same⟩ := bullets_fromCalls w reached
  rw [same]
  exact runBullets_shared calls

theorem foldl_later {α β : Type*} {step : Heap α → β → Heap α}
    (later : ∀ heap item, Heap.Later heap (step heap item)) (items : List β) (heap : Heap α) :
    Heap.Later heap (items.foldl step heap) := by
  induction items generalizing heap with
  | nil => exact .refl heap
  | cons item rest ih => exact (later heap item).trans (ih _)

theorem touchSlot_later (heap : Heap ShipBullet) (slot : Option Ref) :
    Heap.Later heap (touchSlot heap slot) := by
  cases slot with
  | none => exact .refl heap
  | some ref => exact Heap.touch_later ref

theorem moveSlot_later (heap : Heap ShipBullet) (slot : Option Ref) :
    Heap.Later heap (moveSlot heap slot) := by
  cases slot with
  | none => exact .refl heap
  | some ref =>
      simp only [moveSlot]
      split
      · exact Heap.touch_later ref
      · split
        · exact (Heap.touch_later ref).trans (Heap.write_later ref _)
        · exact (Heap.touch_later ref).trans (Heap.free_later ref)

theorem foldl_touchSlot_live (slots : List (Option Ref)) (heap : Heap ShipBullet)
    (live : ∀ ref, some ref ∈ slots → ¬ heap.Removed ref) : slots.foldl touchSlot heap = heap := by
  induction slots with
  | nil => rfl
  | cons slot rest ih =>
      have same : touchSlot heap slot = heap := by
        cases slot with
        | none => rfl
        | some ref => exact Heap.touch_of_live (live ref List.mem_cons_self)
      rw [List.foldl_cons, same]
      exact ih (fun ref member => live ref (List.mem_cons_of_mem _ member))

theorem foldl_touch_faults {step : Heap ShipBullet → Option Ref → Heap ShipBullet}
    (later : ∀ heap slot, Heap.Later heap (step heap slot))
    (follows : ∀ (heap : Heap ShipBullet) ref, heap.Removed ref → (step heap (some ref)).faults ≠ [])
    {slots : List (Option Ref)} {heap : Heap ShipBullet} {ref : Ref} (member : some ref ∈ slots)
    (removed : heap.Removed ref) : (slots.foldl step heap).faults ≠ [] := by
  induction slots generalizing heap with
  | nil => cases member
  | cons slot rest ih =>
      rw [List.foldl_cons]
      rcases List.mem_cons.mp member with same | inside
      · subst slot
        exact (foldl_later later rest _).faults (follows heap ref removed)
      · exact ih inside ((later heap slot).removed ref removed)

/-- Every bullet in flight stays on the screen when it is moved once for each slot. -/
def Room (slots : List (Option Ref)) (heap : Heap ShipBullet) : Prop :=
  ∀ ref, some ref ∈ slots → (heap.read ref).hitAlien = false →
    ∀ n : Nat, 1 ≤ n → n ≤ slots.count (some ref) →
      0 ≤ (heap.read ref).y - n * (heap.read ref).speed

def ShipBullets.Keeps (bullets : ShipBullets) : BulletCall → Prop
  | .createShipBullet _ _ _ _ | .drawShipBullets => True
  | .updateShipBulletPosition => Room bullets.slots.toList bullets.heap
  | .verifyAlienAndBulletCollision a1 _ _ =>
      ∀ ref, some ref ∈ bullets.slots.toList → ¬ AlienHit a1 (bullets.heap.read ref)

/-- No fault yet, and the slots refer to bullets that are there. -/
structure ShipBullets.Live (bullets : ShipBullets) : Prop where
  faults : bullets.heap.faults = []
  allocated : bullets.Allocated
  live : ∀ ref, some ref ∈ bullets.slots.toList → ¬ bullets.heap.Removed ref

def ShipBullets.Doomed (bullets : ShipBullets) : Prop :=
  bullets.heap.faults ≠ [] ∨ ∃ ref, some ref ∈ bullets.slots.toList ∧ bullets.heap.Removed ref

theorem Room.tail {slot : Option Ref} {rest : List (Option Ref)} {heap : Heap ShipBullet}
    (room : Room (slot :: rest) heap) : Room rest heap := by
  intro ref member flying n positive bound
  apply room ref (List.mem_cons_of_mem _ member) flying n positive
  exact bound.trans (List.count_le_count_cons)

theorem Room.write {ref : Ref} {rest : List (Option Ref)} {heap : Heap ShipBullet}
    (room : Room (some ref :: rest) heap) :
    Room rest (heap.write ref
      { heap.read ref with y := (heap.read ref).y - (heap.read ref).speed }) := by
  intro other member flying n positive bound
  rw [Heap.write_read] at flying ⊢
  by_cases same : other = ref
  · subst other
    rw [Function.update_self] at flying ⊢
    have above := room ref List.mem_cons_self flying (n + 1) (by omega) (by
      rw [List.count_cons_self]
      omega)
    push_cast at above
    linarith
  · rw [Function.update_of_ne same] at flying ⊢
    exact room.tail other member flying n positive bound

theorem foldl_moveSlot_room (slots : List (Option Ref)) (heap : Heap ShipBullet)
    (room : Room slots heap) (live : ∀ ref, some ref ∈ slots → ¬ heap.Removed ref) :
    (slots.foldl moveSlot heap).faults = heap.faults ∧
      ∀ ref, (slots.foldl moveSlot heap).Removed ref ↔ heap.Removed ref := by
  induction slots generalizing heap with
  | nil => exact ⟨rfl, fun _ => Iff.rfl⟩
  | cons slot rest ih =>
      have below : ∀ ref, some ref ∈ rest → ¬ heap.Removed ref :=
        fun ref member => live ref (List.mem_cons_of_mem _ member)
      rw [List.foldl_cons]
      cases slot with
      | none => exact ih heap room.tail below
      | some ref =>
          simp only [moveSlot, Heap.touch_of_live (live ref List.mem_cons_self)]
          split
          · exact ih heap room.tail below
          · rename_i flying
            have above := room ref List.mem_cons_self (by simpa using flying) 1 le_rfl (by
              rw [List.count_cons_self]
              omega)
            rw [if_pos (by simpa using above)]
            have rest := ih _ room.write (fun other member => by
              rw [Heap.write_removed]
              exact below other member)
            refine ⟨rest.1, fun other => ?_⟩
            rw [rest.2 other, Heap.write_removed]

theorem foldl_moveSlot_removes (slots : List (Option Ref)) (heap : Heap ShipBullet) (ref : Ref)
    (n : Nat) (flying : (heap.read ref).hitAlien = false) (positive : 1 ≤ n)
    (bound : n ≤ slots.count (some ref))
    (above : (heap.read ref).y - n * (heap.read ref).speed < 0) :
    (slots.foldl moveSlot heap).Removed ref := by
  induction slots generalizing heap n with
  | nil =>
      rw [List.count_nil] at bound
      omega
  | cons slot rest ih =>
      rw [List.foldl_cons]
      by_cases here : slot = some ref
      · subst slot
        rw [List.count_cons_self] at bound
        by_cases stays : (heap.read ref).y - (heap.read ref).speed ≥ 0
        · have many : n ≠ 1 := by
            rintro rfl
            simp only [Nat.cast_one, one_mul] at above
            omega
          have read : (moveSlot heap (some ref)).read ref =
              { heap.read ref with y := (heap.read ref).y - (heap.read ref).speed } := by
            rw [moveSlot_read, Function.update_self, moveBullet, if_neg (by simp [flying]),
              if_pos stays]
          obtain ⟨k, rfl⟩ : ∃ k, n = k + 1 := ⟨n - 1, by omega⟩
          apply ih (moveSlot heap (some ref)) k
          · rw [read]
            exact flying
          · omega
          · omega
          · rw [read]
            push_cast at above
            dsimp only
            linarith
        · apply (foldl_later moveSlot_later rest _).removed
          simp only [moveSlot, flying, if_neg stays]
          exact Heap.free_removed ref
      · rw [List.count_cons_of_ne here] at bound
        have read : (moveSlot heap slot).read ref = heap.read ref := by
          cases slot with
          | none => rfl
          | some other =>
              rw [moveSlot_read, Function.update_of_ne]
              intro same
              exact here (by rw [same])
        apply ih (moveSlot heap slot) n
        · rw [read]
          exact flying
        · exact positive
        · exact bound
        · rw [read]
          exact above

theorem verifySlots_removes {slots : List (Option Ref)} {state : Collision} {ref : Ref}
    (member : some ref ∈ slots) (hit : AlienHit state.alien (state.heap.read ref)) :
    ∃ other, some other ∈ slots ∧ (verifySlots state slots).heap.Removed other := by
  obtain ⟨passed, _, ⟨misses, _⟩ | ⟨other, inside, _, result⟩⟩ := verifySlots_cases slots state
  · exact absurd hit (misses ref member)
  · refine ⟨other, inside, ?_⟩
    rw [result]
    exact Heap.free_removed other

theorem verifySlots_later (slots : List (Option Ref)) (state : Collision) :
    Heap.Later state.heap (verifySlots state slots).heap := by
  obtain ⟨passed, _, ⟨_, result⟩ | ⟨ref, _, _, result⟩⟩ := verifySlots_cases slots state
  · rw [result]
    exact foldl_later touchSlot_later passed _
  · rw [result]
    exact ((foldl_later touchSlot_later passed _).trans (Heap.write_later ref _)).trans
      (Heap.free_later ref)

theorem live_apply {bullets : ShipBullets} {call : BulletCall} (live : bullets.Live)
    (keeps : bullets.Keeps call) : (bullets.apply call).Live := by
  cases call with
  | createShipBullet x y speed img =>
      have old : ∀ ref, some ref ∈ bullets.slots.toList →
          ¬ (bullets.heap.alloc ⟨x, y, speed, img, false⟩).Removed ref := by
        intro ref member
        rw [Heap.alloc_removed (live.allocated ref member)]
        exact live.live ref member
      have heap := createShipBullet_heap x y speed img bullets
      rw [foldl_touchSlot_live _ _ old] at heap
      refine ⟨?_, createShipBullet_allocated x y speed img live.allocated, ?_⟩
      · change (createShipBullet x y speed img bullets).heap.faults = []
        rw [heap]
        exact live.faults
      · intro ref member
        change ¬ (createShipBullet x y speed img bullets).heap.Removed ref
        rw [heap]
        rcases createShipBullet_mem x y speed img bullets ref member with same | inside
        · rw [same]
          exact Heap.alloc_live _
        · exact old ref inside
  | updateShipBulletPosition =>
      have moved := foldl_moveSlot_room _ _ keeps live.live
      refine ⟨moved.1.trans live.faults, updateShipBulletPosition_allocated live.allocated, ?_⟩
      intro ref member removed
      exact live.live ref member ((moved.2 ref).mp removed)
  | drawShipBullets =>
      have same : drawShipBullets bullets = bullets := by
        rw [drawShipBullets, foldl_touchSlot_live _ _ live.live]
      change (drawShipBullets bullets).Live
      rw [same]
      exact live
  | verifyAlienAndBulletCollision a1 killCount ship =>
      have same : (verifyAlienAndBulletCollision a1 killCount ship bullets).heap = bullets.heap := by
        obtain ⟨passed, inside, ⟨_, result⟩ | ⟨ref, member, hit, _⟩⟩ :=
          verifySlots_cases bullets.slots.toList ⟨a1, killCount, ship, bullets.heap⟩
        · rw [verifyAlienAndBulletCollision, result]
          exact foldl_touchSlot_live passed _ (fun ref member => live.live ref (inside _ member))
        · exact absurd hit (keeps ref member)
      simp only [ShipBullets.apply, same]
      exact live

theorem doomed_apply {bullets : ShipBullets} (call : BulletCall) (allocated : bullets.Allocated)
    (doomed : bullets.Doomed) : (bullets.apply call).Doomed := by
  have later : ∀ heap : Heap ShipBullet, Heap.Later bullets.heap heap →
      ShipBullets.Doomed { bullets with heap := heap } := by
    intro heap later
    rcases doomed with faults | ⟨ref, member, removed⟩
    · exact .inl (later.faults faults)
    · exact .inr ⟨ref, member, later.removed ref removed⟩
  cases call with
  | createShipBullet x y speed img =>
      left
      change (createShipBullet x y speed img bullets).heap.faults ≠ []
      rw [createShipBullet_heap]
      rcases doomed with faults | ⟨ref, member, removed⟩
      · exact (foldl_later touchSlot_later _ _).faults faults
      · apply foldl_touch_faults touchSlot_later (fun _ _ removed => Heap.touch_faults removed) member
        rw [Heap.alloc_removed (allocated ref member)]
        exact removed
  | updateShipBulletPosition => exact later _ (foldl_later moveSlot_later _ _)
  | drawShipBullets => exact later _ (foldl_later touchSlot_later _ _)
  | verifyAlienAndBulletCollision a1 killCount ship =>
      exact later _ (verifySlots_later bullets.slots.toList ⟨a1, killCount, ship, bullets.heap⟩)

theorem not_keeps_doomed {bullets : ShipBullets} {call : BulletCall}
    (broken : ¬ bullets.Keeps call) : (bullets.apply call).Doomed := by
  cases call with
  | createShipBullet x y speed img => exact absurd trivial broken
  | drawShipBullets => exact absurd trivial broken
  | updateShipBulletPosition =>
      simp only [ShipBullets.Keeps, Room, not_forall, not_le] at broken
      obtain ⟨ref, member, flying, n, positive, bound, above⟩ := broken
      exact .inr ⟨ref, member, foldl_moveSlot_removes _ _ ref n flying positive bound above⟩
  | verifyAlienAndBulletCollision a1 killCount ship =>
      simp only [ShipBullets.Keeps, not_forall, not_not] at broken
      obtain ⟨ref, member, hit⟩ := broken
      exact .inr (verifySlots_removes member hit)

theorem doomed_drawn {bullets : ShipBullets} (doomed : bullets.Doomed) :
    (drawShipBullets bullets).heap.faults ≠ [] := by
  rcases doomed with faults | ⟨ref, member, removed⟩
  · exact (foldl_later touchSlot_later _ _).faults faults
  · exact foldl_touch_faults touchSlot_later (fun _ _ removed => Heap.touch_faults removed) member
      removed

def AllKeep (calls : List BulletCall) : Prop :=
  ∀ front call back, calls = front ++ call :: back → (runBullets front).Keeps call

theorem allKeep_snoc (calls : List BulletCall) (call : BulletCall) :
    AllKeep (calls ++ [call]) ↔ AllKeep calls ∧ (runBullets calls).Keeps call := by
  constructor
  · intro keep
    refine ⟨?_, keep calls call [] rfl⟩
    intro front other back split
    apply keep front other (back ++ [call])
    rw [split]
    simp
  · rintro ⟨keep, last⟩ front other back split
    rcases List.eq_nil_or_concat back with empty | ⟨inner, final, same⟩
    · subst empty
      obtain ⟨same, equal⟩ := List.append_inj' split rfl
      cases equal
      rw [← same]
      exact last
    · rw [same, List.concat_eq_append, ← List.cons_append, ← List.append_assoc] at split
      obtain ⟨same, _⟩ := List.append_inj' split rfl
      exact keep front other inner same

theorem verifySlots_next (slots : List (Option Ref)) (state : Collision) :
    (verifySlots state slots).heap.next = state.heap.next := by
  obtain ⟨passed, _, ⟨_, result⟩ | ⟨ref, _, _, result⟩⟩ := verifySlots_cases slots state
  · rw [result]
    exact (foldl_touchSlot passed _).2
  · rw [result]
    simpa [Collision.hit, removeShipBullet] using (foldl_touchSlot passed state.heap).2

theorem apply_allocated {bullets : ShipBullets} (call : BulletCall)
    (allocated : bullets.Allocated) : (bullets.apply call).Allocated := by
  cases call with
  | createShipBullet x y speed img => exact createShipBullet_allocated x y speed img allocated
  | updateShipBulletPosition => exact updateShipBulletPosition_allocated allocated
  | drawShipBullets => exact drawShipBullets_allocated allocated
  | verifyAlienAndBulletCollision a1 killCount ship =>
      intro ref member
      have next := verifySlots_next bullets.slots.toList ⟨a1, killCount, ship, bullets.heap⟩
      exact (allocated ref member).trans_eq next.symm

theorem initShipBullets_empty (ref : Ref) : some ref ∉ initShipBullets.slots.toList := by
  intro member
  have same : initShipBullets.slots.toList = List.replicate maxShipBullets none := rfl
  rw [same] at member
  cases List.eq_of_mem_replicate member

theorem runBullets_allocated (calls : List BulletCall) : (runBullets calls).Allocated :=
  runBullets_invariant ShipBullets.Allocated
    (fun ref member => absurd member (initShipBullets_empty ref))
    (fun _ call allocated => apply_allocated call allocated) calls

theorem runBullets_live (calls : List BulletCall) (keep : AllKeep calls) :
    (runBullets calls).Live := by
  induction calls using List.reverseRecOn with
  | nil =>
      exact ⟨rfl, runBullets_allocated [],
        fun ref member => absurd member (initShipBullets_empty ref)⟩
  | append_singleton front call ih =>
      obtain ⟨earlier, last⟩ := (allKeep_snoc front call).mp keep
      rw [runBullets_snoc]
      exact live_apply (ih earlier) last

theorem runBullets_doomed (calls : List BulletCall) (broken : ¬ AllKeep calls) :
    (runBullets calls).Doomed := by
  induction calls using List.reverseRecOn with
  | nil =>
      refine absurd ?_ broken
      intro front call back split
      simp at split
  | append_singleton front call ih =>
      rw [runBullets_snoc]
      by_cases keep : AllKeep front
      · apply not_keeps_doomed
        intro last
        exact broken ((allKeep_snoc front call).mpr ⟨keep, last⟩)
      · exact doomed_apply call (runBullets_allocated front) (ih keep)

/-- A run in which no call removes a bullet follows no reference to a removed bullet and removes
none twice. After a call that removes one, the next `drawShipBullets` follows it. -/
theorem removed_bullets_untouched (calls : List BulletCall) :
    (AllKeep calls → (runBullets calls).heap.faults = []) ∧
      ((runBullets (calls ++ [.drawShipBullets])).heap.faults = [] ↔ AllKeep calls) := by
  refine ⟨fun keep => (runBullets_live calls keep).faults, ?_, ?_⟩
  · intro clean
    by_contra broken
    rw [runBullets_snoc] at clean
    exact doomed_drawn (runBullets_doomed calls broken) clean
  · intro keep
    have all : AllKeep (calls ++ [.drawShipBullets]) := (allKeep_snoc _ _).mpr ⟨keep, trivial⟩
    exact (runBullets_live _ all).faults

/-- After the first hit of a game the bullet is still in all slots, and has been followed again. -/
theorem first_hit : ∃ w, (gameLoop sampleConfig).Reachable w ∧
    w.game.bullets.slots.toList = List.replicate maxShipBullets (some 0) ∧
    (w.game.bullets.heap.read 0).hitAlien = true ∧ w.game.bullets.heap.next < maxShipBullets ∧
    w.game.bullets.heap.faults ≠ [] :=
  reachable_of_played (clickStart ++ clickShoot ++ List.replicate 17 (timerTick [3]))
    (fun w => w.game.bullets.slots.toList = List.replicate maxShipBullets (some 0) ∧
      (w.game.bullets.heap.read 0).hitAlien = true ∧ w.game.bullets.heap.next < maxShipBullets ∧
      w.game.bullets.heap.faults ≠ []) (by decide +kernel)

/-- The first hit of a game leaves the bullet in the slots, and the same tick follows it again. -/
theorem removed_bullets_touched_after_hit : ∃ w calls, (gameLoop sampleConfig).Reachable w ∧
    w.game.bullets = runBullets calls ∧ (runBullets calls).heap.faults ≠ [] := by
  obtain ⟨w, reached, _, _, _, faults⟩ := first_hit
  obtain ⟨calls, same⟩ := bullets_fromCalls w reached
  rw [same] at faults
  exact ⟨w, calls, reached, same, faults⟩

/-- A shot changes at most one slot, no two slots refer to the same bullet, and an update moves
every bullet in flight by its speed or removes it. -/
def OneSlotPerShot (calls : List BulletCall) : Prop :=
  ∀ front call back, calls = front ++ call :: back →
    (∀ x y speed img, call = .createShipBullet x y speed img →
      ∃ i, ∀ j, j ≠ i → ((runBullets front).apply call).slots.get j = (runBullets front).slots.get j) ∧
    (∀ i j ref, ((runBullets front).apply call).slots.get i = some ref →
      ((runBullets front).apply call).slots.get j = some ref → i = j) ∧
    (call = .updateShipBulletPosition → ∀ i ref, (runBullets front).slots.get i = some ref →
      ((runBullets front).heap.read ref).hitAlien = false →
      ((runBullets front).apply call).heap.Removed ref ∨
        (((runBullets front).apply call).heap.read ref).y =
          ((runBullets front).heap.read ref).y - ((runBullets front).heap.read ref).speed)

theorem runBullets_unshot (calls : List BulletCall)
    (unshot : ∀ x y speed img, .createShipBullet x y speed img ∉ calls) :
    (runBullets calls).slots = initShipBullets.slots := by
  induction calls using List.reverseRecOn with
  | nil => rfl
  | append_singleton front call ih =>
      rw [runBullets_snoc, apply_slots]
      · apply ih
        intro x y speed img member
        exact unshot x y speed img (List.mem_append_left _ member)
      · intro x y speed img same
        exact unshot x y speed img (by simp [same])

theorem createShipBullet_all_slots {bullets : ShipBullets} (shared : bullets.Shared)
    (x y speed : Int) (img : XpmImage) :
    ∃ ref, ∀ i, (createShipBullet x y speed img bullets).slots.get i = some ref := by
  obtain ⟨slot, same⟩ := shared
  have slots := createShipBullet_slots x y speed img bullets
  rw [same, List.map_replicate] at slots
  have stored : ∃ ref, reuseSlot (Function.update bullets.heap.read bullets.heap.next
      ⟨x, y, speed, img, false⟩) bullets.heap.next slot = some ref := by
    cases slot with
    | none => exact ⟨_, rfl⟩
    | some old =>
        simp only [reuseSlot]
        split
        · exact ⟨_, rfl⟩
        · exact ⟨_, rfl⟩
  obtain ⟨ref, value⟩ := stored
  rw [value] at slots
  refine ⟨ref, fun i => ?_⟩
  have member := List.Vector.get_mem i (createShipBullet x y speed img bullets).slots
  rw [slots] at member
  exact List.eq_of_mem_replicate member

/-- The slots are kept apart exactly as long as no shot is fired. -/
theorem one_slot_per_shot_iff (calls : List BulletCall) :
    OneSlotPerShot calls ↔ ∀ x y speed img, .createShipBullet x y speed img ∉ calls := by
  constructor
  · intro apart x y speed img member
    obtain ⟨front, back, split⟩ := List.append_of_mem member
    obtain ⟨ref, all⟩ := createShipBullet_all_slots (runBullets_shared front) x y speed img
    have same := (apart front _ back split).2.1 0 1 ref (all 0) (all 1)
    exact absurd same (by decide)
  · intro unshot front call back split
    have early : ∀ x y speed img, .createShipBullet x y speed img ∉ front := by
      intro x y speed img member
      exact unshot x y speed img (by rw [split]; exact List.mem_append_left _ member)
    have other : ∀ x y speed img, call ≠ .createShipBullet x y speed img := by
      intro x y speed img same
      exact unshot x y speed img (by simp [split, same])
    have slots := runBullets_unshot front early
    have after := apply_slots (runBullets front) call other
    have empty : ∀ i, initShipBullets.slots.get i = none :=
      fun i => List.Vector.get_replicate none i
    refine ⟨fun x y speed img same => absurd same (other x y speed img), ?_, ?_⟩
    · intro i j ref first
      rw [after, slots, empty] at first
      cases first
    · intro _ i ref first
      rw [slots, empty] at first
      cases first

/-- The first shot of a game takes all seven slots. -/
theorem one_slot_per_shot_fails : ¬ OneSlotPerShot [.createShipBullet 549 630 4 XpmImage.zeroed] ∧
    ∃ w, (gameLoop sampleConfig).Reachable w ∧
      w.game.bullets.slots.toList = List.replicate maxShipBullets (some 0) := by
  constructor
  · intro apart
    have same := (apart [] _ [] rfl).2.1 0 1 0 rfl rfl
    exact absurd same (by decide)
  · exact reachable_of_played (clickStart ++ clickShoot)
      (fun w => w.game.bullets.slots.toList = List.replicate maxShipBullets (some 0))
      (by decide +kernel)

/-- The number of bullets that were created and neither hit an alien nor were removed. -/
def ShipBullets.inFlight (bullets : ShipBullets) : Nat :=
  (List.range bullets.heap.next).countP (fun ref =>
    !(bullets.heap.read ref).hitAlien && !decide (bullets.heap.Removed ref))

structure ShipBullets.Followed (bullets : ShipBullets) (ref : Ref) : Prop where
  moved : ∃ count, 0 < count ∧ (updateShipBulletPosition bullets).heap.read ref =
    moveBullet^[count] (bullets.heap.read ref)
  drawn : (bullets.heap.read ref).hitAlien = false →
    bullets.heap.read ref ∈ drawnShipBullets bullets
  checked : ∀ a1 killCount ship, AlienHit a1 (bullets.heap.read ref) →
    (verifyAlienAndBulletCollision a1 killCount ship bullets).alien.alive = false

theorem followed_of_mem {bullets : ShipBullets} {ref : Ref}
    (stored : some ref ∈ bullets.slots.toList) : bullets.Followed ref where
  moved := ⟨_, List.count_pos_iff.mpr stored, foldl_moveSlot_count _ _ _⟩
  drawn := by
    intro flying
    apply List.mem_filter.mpr
    refine ⟨List.mem_map_of_mem (List.reduceOption_mem_iff.mpr stored), ?_⟩
    simpa using flying
  checked := by
    intro a1 killCount ship hit
    obtain ⟨passed, _, ⟨misses, _⟩ | ⟨other, _, _, result⟩⟩ :=
      verifySlots_cases bullets.slots.toList ⟨a1, killCount, ship, bullets.heap⟩
    · exact absurd hit (misses ref stored)
    · rw [verifyAlienAndBulletCollision, result]
      rfl

/-- The new bullet is stored and takes part in the next tick, if there is capacity for it. -/
def ShipBullets.Accepts (bullets : ShipBullets) (x y speed : Int) (img : XpmImage) : Prop :=
  bullets.inFlight < maxShipBullets →
    some bullets.heap.next ∈ (createShipBullet x y speed img bullets).slots.toList ∧
      (createShipBullet x y speed img bullets).Followed bullets.heap.next

/-- A new bullet finds a slot exactly if the bullet that all slots share has hit an alien. -/
theorem createShipBullet_stored {bullets : ShipBullets} (shared : bullets.Shared)
    (allocated : bullets.Allocated) (x y speed : Int) (img : XpmImage) :
    some bullets.heap.next ∈ (createShipBullet x y speed img bullets).slots.toList ↔
      bullets.All (fun bullet => bullet.hitAlien = true) := by
  have slots := createShipBullet_slots x y speed img bullets
  constructor
  · intro stored ref member
    obtain ⟨slot, same⟩ := shared
    rw [slots, same, List.map_replicate] at stored
    rw [same] at member
    have reused := List.eq_of_mem_replicate stored
    rw [← List.eq_of_mem_replicate member, reuseSlot] at reused
    have old : ref < bullets.heap.next :=
      allocated ref (by rw [same]; exact member)
    rw [Function.update_of_ne old.ne] at reused
    split at reused
    · assumption
    · exact absurd (Option.some.inj reused) old.ne'
  · intro all
    rw [slots]
    have entry : bullets.slots.get 0 ∈ bullets.slots.toList := List.Vector.get_mem 0 bullets.slots
    apply List.mem_map.mpr
    refine ⟨_, entry, ?_⟩
    cases slot : bullets.slots.get 0 with
    | none => rfl
    | some ref =>
        rw [slot] at entry
        rw [reuseSlot, Function.update_of_ne (allocated ref entry).ne, if_pos (all ref entry)]

theorem allocated_reachable {cfg : Config} (w : World) (reached : (gameLoop cfg).Reachable w) :
    w.game.bullets.Allocated := by
  obtain ⟨calls, same⟩ := bullets_fromCalls w reached
  rw [same]
  exact runBullets_allocated calls

/-- With less than seven bullets in flight a shot is kept exactly if every bullet that the slots
still refer to has hit an alien. -/
theorem shot_kept_iff (cfg : Config) (w : World) (reached : (gameLoop cfg).Reachable w)
    (x y speed : Int) (img : XpmImage) :
    w.game.bullets.Accepts x y speed img ↔ (w.game.bullets.inFlight < maxShipBullets →
      w.game.bullets.All (fun bullet => bullet.hitAlien = true)) := by
  have stored := createShipBullet_stored (shared_reachable w reached) (allocated_reachable w reached)
    x y speed img
  apply imp_congr_right
  intro capacity
  rw [← stored]
  exact ⟨fun kept => kept.1, fun kept => ⟨kept, followed_of_mem kept⟩⟩

/-- After a hit the next shot is kept. -/
theorem shot_kept_iff_after_hit : ∃ w, (gameLoop sampleConfig).Reachable w ∧
    w.game.bullets.inFlight < maxShipBullets ∧
    w.game.bullets.slots.toList = List.replicate maxShipBullets (some 0) ∧
    w.game.bullets.Accepts 549 630 4 XpmImage.zeroed := by
  obtain ⟨w, reached, slots, hit, few, _⟩ := first_hit
  have capacity : w.game.bullets.inFlight < maxShipBullets := by
    refine Nat.lt_of_le_of_lt List.countP_le_length ?_
    rwa [List.length_range]
  refine ⟨w, reached, capacity, slots,
    (shot_kept_iff sampleConfig w reached 549 630 4 XpmImage.zeroed).mpr (fun _ => ?_)⟩
  intro ref member
  rw [slots] at member
  rw [Option.some.inj (List.eq_of_mem_replicate member)]
  exact hit

/-- A shot is lost with one bullet in flight, and also with none once a bullet from the right
border has left at the top. -/
theorem shot_lost : (∃ w, (gameLoop sampleConfig).Reachable w ∧ w.game.bullets.inFlight = 1 ∧
      ¬ w.game.bullets.Accepts 549 630 4 XpmImage.zeroed) ∧
    ∃ w, (gameLoop sampleConfig).Reachable w ∧ w.game.bullets.inFlight = 0 ∧
      ¬ w.game.bullets.Accepts 549 630 4 XpmImage.zeroed := by
  constructor
  · obtain ⟨w, reached, one, lost⟩ := reachable_of_played (clickStart ++ clickShoot)
      (fun w => w.game.bullets.inFlight = 1 ∧ some w.game.bullets.heap.next ∉
        (createShipBullet 549 630 4 XpmImage.zeroed w.game.bullets).slots.toList)
      (by decide +kernel)
    exact ⟨w, reached, one, fun accepts => lost (accepts (by rw [one]; decide)).1⟩
  · obtain ⟨w, reached, none, lost⟩ := reachable_of_played
      (clickStart ++ List.replicate 28 (keyByte 0x20) ++ clickShoot ++
        List.replicate 23 (timerTick [3]))
      (fun w => w.game.bullets.inFlight = 0 ∧ some w.game.bullets.heap.next ∉
        (createShipBullet 549 630 4 XpmImage.zeroed w.game.bullets).slots.toList)
      (by decide +kernel)
    exact ⟨w, reached, none, fun accepts => lost (accepts (by rw [none]; decide)).1⟩

end Lcom.Proj
