import Lcom.Proj.Formation
import Lcom.Proj.Slots
import Lcom.Proj.Waves

/-! What a pass over the aliens leaves, as long as no living alien has reached the territory of
the ship: everyone moves, and the one alien that the bullet of the ship meets is killed. -/

namespace Lcom.Proj

open Lcom.Lib

def ShipBullets.Hits (bullets : ShipBullets) (a : Alien) : Prop :=
  ∃ ref, some ref ∈ bullets.slots.toList ∧ AlienHit a (bullets.heap.read ref)

def Game.moved (g : Game) (a : Alien) : Alien := advanceAlien g.rightMov g.movImg g.speed a

def Game.Strikes (g : Game) (a : Alien) : Prop := a.alive = true ∧ g.bullets.Hits (g.moved a)

inductive Swept (g : Game) (a : Alien) : Alien → Prop where
  | dead (dead : a.alive = false) : Swept g a a
  | spared (alive : a.alive = true) (spared : ¬ g.Strikes a) : Swept g a (g.moved a)
  | killed (struck : g.Strikes a) : Swept g a (g.moved a).kill

def Checked (g : Game) (front : List Alien) (bullets : ShipBullets) : Prop :=
  ((∀ ref, some ref ∈ g.bullets.slots.toList → bullets.heap.read ref = g.bullets.heap.read ref) ∧
      ∀ a ∈ front, ¬ g.Strikes a) ∨
    (bullets.All (fun bullet => bullet.hitAlien = true) ∧ ∃ a ∈ front, g.Strikes a)

structure Sweep (g : Game) (done todo : List Alien) (m : March) : Prop where
  swept : ∃ front, g.aliens.toList = front ++ todo ∧ List.Forall₂ (Swept g) front done ∧
    (m.changeDir = true ↔ ∃ a ∈ front, a.alive = true ∧ AtBorder g.rightMov (g.moved a)) ∧
    Checked g front m.bullets
  speed : m.speed = g.speed
  slots : m.bullets.slots = g.bullets.slots
  fits : (done ++ todo).length = sizeOfAliens
  tally : Tally m.gameState m.killCount (done ++ todo)
  state : (m.gameState = .playing ∧ m.roundNum = g.roundNum) ∨
    (m.gameState = .nextRound ∧ m.roundNum = g.roundNum + 1)

theorem settleAlien_high (cfg : Config) (a : Alien) (m : March)
    (high : a.y + a.height < territory) :
    settleAlien cfg a m = if m.killCount = sizeOfAliens then
      { m with gameState := .nextRound, roundNum := m.roundNum + 1 } else m := by
  have above : ¬ a.y + a.height ≥ territory := by omega
  rw [settleAlien, if_neg above]

section Visit

variable {cfg : Config} {g : Game} {done rest : List Alien} {a a' : Alien} {m m' : March}

theorem Sweep.settled (sweep : Sweep g done (a :: rest) m) (alive : a.alive = true)
    (visit : Visit cfg g.rightMov g.movImg a m a' m') (v : March) (after : Alien)
    (high : after.y + after.height < territory) (same : m' = settleAlien cfg after v)
    (kept : Swept g a a') (speed : v.speed = m.speed) (slots : v.bullets.slots = m.bullets.slots)
    (state : v.gameState = m.gameState ∧ v.roundNum = m.roundNum)
    (turned : v.changeDir = (m.changeDir || decide (AtBorder g.rightMov (g.moved a))))
    (checked : ∀ front, g.aliens.toList = front ++ a :: rest → Checked g front m.bullets →
      Checked g (front ++ [a]) v.bullets) : Sweep g (done ++ [a']) rest m' := by
  have tally := sweep.tally.visit sweep.fits visit
  have playing : m.gameState = .playing ∧ m.roundNum = g.roundNum := by
    rcases sweep.state with playing | cleared
    · exact playing
    · exact absurd cleared.1 (sweep.tally.not_cleared alive sweep.fits)
  obtain ⟨front, all, related, border, bullets⟩ := sweep.swept
  rw [settleAlien_high cfg after v high] at same
  have fields : m'.speed = v.speed ∧ m'.bullets = v.bullets ∧ m'.changeDir = v.changeDir := by
    rw [same]
    split
    · exact ⟨rfl, rfl, rfl⟩
    · exact ⟨rfl, rfl, rfl⟩
  constructor
  · refine ⟨front ++ [a], by rw [all, List.append_assoc]; rfl,
      List.rel_append related (.cons kept .nil), ?_, ?_⟩
    · rw [fields.2.2, turned, Bool.or_eq_true, border, decide_eq_true_eq]
      constructor
      · rintro (⟨b, member, holds⟩ | here)
        · exact ⟨b, List.mem_append_left _ member, holds⟩
        · exact ⟨a, by simp, alive, here⟩
      · rintro ⟨b, member, holds⟩
        rcases List.mem_append.mp member with before | here
        · exact .inl ⟨b, before, holds⟩
        · rw [List.mem_singleton.mp here] at holds
          exact .inr holds.2
    · rw [fields.2.1]
      exact checked front all bullets
  · rw [fields.1, speed, sweep.speed]
  · rw [fields.2.1, slots, sweep.slots]
  · simpa using sweep.fits
  · exact tally
  · rw [same]
    split
    · right
      refine ⟨rfl, ?_⟩
      change v.roundNum + 1 = g.roundNum + 1
      rw [state.2, playing.2]
    · left
      exact ⟨state.1.trans playing.1, state.2.trans playing.2⟩

theorem Sweep.skipped (sweep : Sweep g done (a :: rest) m) (dead : a.alive = false) :
    Sweep g (done ++ [a]) rest m := by
  have still : ¬ a.alive = true := by
    rw [dead]
    decide
  obtain ⟨front, all, related, border, bullets⟩ := sweep.swept
  refine ⟨⟨front ++ [a], by rw [all, List.append_assoc]; rfl,
    List.rel_append related (.cons (.dead dead) .nil), ?_, ?_⟩, sweep.speed, sweep.slots,
    by simpa using sweep.fits, by simpa using sweep.tally, sweep.state⟩
  · rw [border]
    constructor
    · rintro ⟨b, member, holds⟩
      exact ⟨b, List.mem_append_left _ member, holds⟩
    · rintro ⟨b, member, holds⟩
      rcases List.mem_append.mp member with before | here
      · exact ⟨b, before, holds⟩
      · rw [List.mem_singleton.mp here] at holds
        exact absurd holds.1 still
  · rcases bullets with ⟨read, spared⟩ | ⟨spent, b, member, struck⟩
    · left
      refine ⟨read, ?_⟩
      intro b member
      rcases List.mem_append.mp member with before | here
      · exact spared b before
      · rw [List.mem_singleton.mp here]
        exact fun struck => still struck.1
    · right
      exact ⟨spent, b, List.mem_append_left _ member, struck⟩

structure Sweepable (g : Game) : Prop where
  high : ∀ a ∈ g.aliens.toList, a.alive = true → (g.moved a).y + (g.moved a).height < territory
  shared : g.bullets.Shared
  unique : g.aliens.toList.Pairwise (fun a b => ¬ (g.Strikes a ∧ g.Strikes b))

theorem Sweepable.before (able : Sweepable g) {front : List Alien}
    (all : g.aliens.toList = front ++ a :: rest) {b : Alien} (member : b ∈ front)
    (first : g.Strikes b) : ¬ g.Strikes a := by
  intro second
  have pairs := able.unique
  rw [all, List.pairwise_append] at pairs
  exact pairs.2.2 b member a List.mem_cons_self ⟨first, second⟩

theorem Sweep.missed (able : Sweepable g) (sweep : Sweep g done (a :: rest) m)
    (heap : Heap ShipBullet) (moved : Alien) (alive : a.alive = true)
    (place : moved = advanceAlien g.rightMov g.movImg m.speed a)
    (read : heap.read = m.bullets.heap.read) (next : heap.next = m.bullets.heap.next)
    (misses : ∀ ref, some ref ∈ m.bullets.slots.toList →
      ¬ AlienHit moved (m.bullets.heap.read ref)) :
    Sweep g (done ++ [moved]) rest
      (settleAlien cfg moved ((m.drawn g.rightMov g.movImg moved).checked heap)) := by
  have visit : Visit cfg g.rightMov g.movImg a m moved _ :=
    .missed heap moved alive place read next misses
  have here : moved = g.moved a := by rw [place, sweep.speed]; rfl
  subst here
  -- a bullet that is spent has met an earlier alien, so it would not have hit this one either
  have spared : ¬ g.Strikes a := by
    obtain ⟨front, all, _, _, bullets⟩ := sweep.swept
    rcases bullets with ⟨same, _⟩ | ⟨_, b, member, struck⟩
    · rintro ⟨_, ref, inside, hit⟩
      rw [← same ref inside] at hit
      rw [← sweep.slots] at inside
      exact misses ref inside hit
    · exact able.before all member struck
  have member : a ∈ g.aliens.toList := by
    obtain ⟨front, all, _⟩ := sweep.swept
    rw [all]
    exact List.mem_append_right _ List.mem_cons_self
  apply sweep.settled alive visit _ (g.moved a) (able.high a member alive) rfl
    (.spared alive spared) rfl rfl ⟨rfl, rfl⟩ rfl
  intro front all bullets
  change Checked g (front ++ [a]) ⟨m.bullets.slots, heap⟩
  rcases bullets with ⟨same, none⟩ | ⟨spent, b, inside, struck⟩
  · left
    refine ⟨fun ref inside => by rw [← same ref inside, ← read], ?_⟩
    intro b inside
    rcases List.mem_append.mp inside with before | last
    · exact none b before
    · rw [List.mem_singleton.mp last]
      exact spared
  · right
    refine ⟨?_, b, List.mem_append_left _ inside, struck⟩
    intro ref inside
    rw [read]
    exact spent ref inside

theorem Sweep.killed (able : Sweepable g) (sweep : Sweep g done (a :: rest) m)
    (heap : Heap ShipBullet) (ref : Ref) (moved : Alien) (alive : a.alive = true)
    (place : moved = advanceAlien g.rightMov g.movImg m.speed a)
    (read : heap.read = Function.update m.bullets.heap.read ref
      { m.bullets.heap.read ref with hitAlien := true })
    (next : heap.next = m.bullets.heap.next) (member : some ref ∈ m.bullets.slots.toList)
    (hit : AlienHit moved (m.bullets.heap.read ref)) :
    Sweep g (done ++ [moved.kill]) rest
      (settleAlien cfg moved.kill ((m.drawn g.rightMov g.movImg moved).scored moved heap)) := by
  have visit : Visit cfg g.rightMov g.movImg a m moved.kill _ :=
    .killed heap ref moved alive place read next member hit
  have here : moved = g.moved a := by rw [place, sweep.speed]; rfl
  subst here
  have struck : g.Strikes a := by
    obtain ⟨front, all, _, _, bullets⟩ := sweep.swept
    rcases bullets with ⟨same, _⟩ | ⟨spent, _⟩
    · have inside : some ref ∈ g.bullets.slots.toList := by
        rw [← sweep.slots]
        exact member
      rw [same ref inside] at hit
      exact ⟨alive, ref, inside, hit⟩
    · exact absurd (hit.2.2.2.2.symm.trans (spent ref member)) (by decide)
  have living : a ∈ g.aliens.toList := by
    obtain ⟨front, all, _⟩ := sweep.swept
    rw [all]
    exact List.mem_append_right _ List.mem_cons_self
  apply sweep.settled alive visit _ (g.moved a).kill (able.high a living alive) rfl
    (.killed struck) rfl rfl ⟨rfl, rfl⟩ rfl
  intro front all _
  right
  refine ⟨?_, a, by simp, struck⟩
  -- all slots share the bullet that has hit
  intro other inside
  obtain ⟨slot, slots⟩ := able.shared
  rw [← sweep.slots] at slots
  have first : some ref = slot := List.eq_of_mem_replicate (by rw [← slots]; exact member)
  have second : some other = slot := List.eq_of_mem_replicate (by rw [← slots]; exact inside)
  have same : other = ref := Option.some.inj (second.trans first.symm)
  change (heap.read other).hitAlien = true
  rw [read, same, Function.update_self]

end Visit

theorem marchPass_sweep (cfg : Config) {g : Game} (able : Sweepable g)
    (playing : g.gameState = .playing) (tally : Tally g.gameState g.killCount g.aliens.toList) :
    Sweep g (marchPass cfg g).1 [] (marchPass cfg g).2 := by
  apply marchPass_rule cfg g (Sweep g)
  · intro done a rest m a' m' sweep visit
    cases visit with
    | skipped dead => exact sweep.skipped dead
    | missed heap _ alive place read next misses =>
        exact sweep.missed able heap a' alive place read next misses
    | killed heap ref moved alive place read next member hit =>
        exact sweep.killed able heap ref moved alive place read next member hit
  · refine ⟨⟨[], rfl, .nil, by simp [Game.march], .inl ⟨fun _ _ => rfl, by simp⟩⟩, rfl, rfl, ?_,
      tally, .inl ⟨playing, rfl⟩⟩
    exact g.aliens.2

end Lcom.Proj
