import Lcom.Minix.Receive
import Lcom.Proj.Commands

/-! `timer_test_int` of `lab2/lab2.c`. -/

namespace Lcom.Lab2

open Lcom.Lib Lcom.Minix Lcom.Proj

def hookid : Nat := 0

/-- The global `timer_counter`, and how often `timer_print_elapsed_time` has been called. -/
structure Elapsed where
  timerCounter : Int32
  prints : Nat
  deriving DecidableEq, Repr

def timerIntHandler (s : Elapsed) : Elapsed := { s with timerCounter := s.timerCounter + 1 }

def timerPart (hz : UInt32) (s : Elapsed) (interrupts : BitVec 64) : Elapsed :=
  if interrupts &&& bit hookid ≠ 0 then
    let s := timerIntHandler s
    if s.timerCounter % hz.toInt32 = 0 then { s with prints := s.prints + 1 } else s
  else s

/-- The loop. `sys_hz()` is unsigned; the cast to `int` and the product are taken as they come
out in 32 bits. -/
def testLoop (time : UInt8) (hz : UInt32) : EventLoop Elapsed (Receipt Unit) where
  running s := s.timerCounter < time.toUInt32.toInt32 * hz.toInt32
  body s receipt := receipt.dispatch s (fun interrupts _ => timerPart hz s interrupts)

def timerTestInt (time : UInt8) (hz : UInt32) (s : Elapsed) :
    Program (Receipt Unit) (Nat × Elapsed) :=
  session timerSubscribeInt (testLoop time hz) s (check timerUnsubscribeInt (pure 0))

variable {time : UInt8} {hz : UInt32}

theorem timerTestInt_leaves {s final : Elapsed} {installs : Answer (Reply (Receipt Unit))}
    {answers : List (Answer (Reply (Receipt Unit)))}
    (installed : installs (.sysIrqsetpolicy timer0Irq false .timer) = true)
    (leaves : (testLoop time hz).Leaves s
      (answers.map (fun answer => answer .driverReceive)) final)
    (removes : Answer (Reply (Receipt Unit))) (rest : List (Answer (Reply (Receipt Unit)))) :
    ∃ code trace, timerTestInt time hz s (installs :: (answers ++ removes :: rest)) =
      some ⟨(code, final), trace, rest⟩ := by
  obtain ⟨code, ends⟩ := check_unsubscribeInt .timer removes rest
  exact ⟨code, _, session_leaves (subscribeInt_cons installed _) leaves ends⟩

theorem testLoop_body (s : Elapsed) (receipt : Receipt Unit) :
    (testLoop time hz).body s receipt =
      if receipt.raises hookid then
        ⟨s.timerCounter + 1, s.prints + if (s.timerCounter + 1) % hz.toInt32 = 0 then 1 else 0⟩
      else s := by
  cases tick : receipt.raises hookid with
  | false => exact Receipt.dispatch_quiet tick (fun _ _ clear => if_neg (not_not.mpr clear))
  | true =>
      obtain ⟨interrupts, found, rfl, raised⟩ := Receipt.raises_true tick
      change timerPart hz s interrupts = _
      rw [timerPart, if_pos raised, if_pos rfl]
      by_cases second : (s.timerCounter + 1) % hz.toInt32 = 0
      · rw [if_pos second]
        exact if_pos second
      · rw [if_neg second]
        exact if_neg second

theorem toInt_toInt32 (value : UInt32) :
    value.toInt32.toInt = (value.toNat : Int).bmod (2 ^ 32) :=
  BitVec.toInt_eq_toNat_bmod value.toBitVec

theorem bmod_small {value : Int} (positive : 0 ≤ value) (small : value < 2 ^ 31) :
    value.bmod (2 ^ 32) = value := by
  apply Int.bmod_eq_of_le
  all_goals omega

/-- The counter has the ticks among the messages, and the calls are those of the full seconds. -/
def Elapsed.Counted (hz : UInt32) (messages : List (Receipt Unit)) (s : Elapsed) : Prop :=
  s.timerCounter.toInt = messages.countP (Receipt.raises hookid) ∧
    s.prints = messages.countP (Receipt.raises hookid) / hz.toNat

section Fits

variable (fits : time.toNat * hz.toNat < 2 ^ 31)
include fits

theorem limit_toInt :
    (time.toUInt32.toInt32 * hz.toInt32).toInt = (time.toNat * hz.toNat : Nat) := by
  rw [Int32.toInt_mul, toInt_toInt32, toInt_toInt32, ← Int.mul_bmod, UInt8.toNat_toUInt32,
    ← Nat.cast_mul]
  exact bmod_small (by omega) (by omega)

theorem testLoop_running {s : Elapsed} {ticks : Nat} (counter : s.timerCounter.toInt = ticks) :
    (testLoop time hz).running s = true ↔ ticks < time.toNat * hz.toNat := by
  rw [testLoop, decide_eq_true_eq, Int32.lt_iff_toInt_lt, limit_toInt fits, counter]
  exact Int.ofNat_lt

theorem tick_toInt {counter : Int32} {ticks : Nat} (counts : counter.toInt = ticks)
    (runs : ticks < time.toNat * hz.toNat) :
    (counter + 1).toInt = (ticks + 1 : Nat) ∧
      ((counter + 1) % hz.toInt32 = 0 ↔ hz.toNat ∣ ticks + 1) := by
  have next : (counter + 1).toInt = (ticks + 1 : Nat) := by
    rw [Int32.toInt_add, counts, show (1 : Int32).toInt = 1 from rfl]
    exact bmod_small (by omega) (by omega)
  have wait : 1 ≤ time.toNat := Nat.pos_of_mul_pos_right (Nat.zero_lt_of_lt runs)
  have cast : hz.toInt32.toInt = hz.toNat := by
    have small : hz.toNat ≤ time.toNat * hz.toNat := Nat.le_mul_of_pos_left _ wait
    rw [toInt_toInt32]
    exact bmod_small (by omega) (by omega)
  refine ⟨next, ?_⟩
  rw [← Int32.toInt_inj, Int32.toInt_mod, next, cast, Int32.toInt_zero,
    ← Int.dvd_iff_tmod_eq_zero, Int.natCast_dvd_natCast]

theorem testLoop_received {messages : List (Receipt Unit)} {s : Elapsed}
    (reached : (testLoop time hz).received ⟨0, 0⟩ messages = some s) :
    s.Counted hz messages := by
  refine EventLoop.received_invariant (fun messages s => s.Counted hz messages) ?_ ?_ reached
  · simp [Elapsed.Counted]
  · rintro earlier before receipt ⟨counter, prints⟩ goes
    rw [testLoop_body, Elapsed.Counted, countP_snoc]
    cases receipt.raises hookid with
    | false => exact ⟨counter, prints⟩
    | true =>
        obtain ⟨next, second⟩ := tick_toInt fits counter ((testLoop_running fits counter).mp goes)
        rw [if_pos rfl, Bool.toNat_true, Nat.succ_div, prints]
        simp only [second]
        exact ⟨next, trivial⟩

theorem testLoop_last {messages : List (Receipt Unit)} {final : Elapsed}
    (leaves : (testLoop time hz).Leaves ⟨0, 0⟩ messages final) :
    messages.countP (Receipt.raises hookid) = time.toNat * hz.toNat ∧
      ∀ last, messages.getLast? = some last → last.raises hookid = true := by
  have counted := testLoop_received fits leaves.1
  have enough : time.toNat * hz.toNat ≤ messages.countP (Receipt.raises hookid) := by
    have left := leaves.2
    rw [← Bool.not_eq_true, testLoop_running fits counted.1] at left
    exact Nat.le_of_not_lt left
  cases messages using List.reverseRecOn with
  | nil =>
      rw [List.countP_nil] at enough ⊢
      exact ⟨by omega, by simp⟩
  | append_singleton earlier last =>
      obtain ⟨before, reached, goes, -⟩ := (EventLoop.received_snoc last).mp leaves.1
      rw [testLoop_running fits (testLoop_received fits reached).1] at goes
      rw [countP_snoc] at enough ⊢
      cases tick : last.raises hookid with
      | false =>
          rw [tick, Bool.toNat_false] at enough
          omega
      | true =>
          rw [tick, Bool.toNat_true] at enough
          exact ⟨by rw [Bool.toNat_true]; omega, by simp [tick]⟩

end Fits

theorem exists_tick {messages : List (Receipt Unit)} {k : Nat} (positive : 1 ≤ k)
    (enough : k ≤ messages.countP (Receipt.raises hookid)) :
    ∃ earlier tick rest, messages = earlier ++ tick :: rest ∧ tick.raises hookid = true ∧
      earlier.countP (Receipt.raises hookid) + 1 = k := by
  induction messages using List.reverseRecOn with
  | nil =>
      rw [List.countP_nil] at enough
      omega
  | append_singleton earlier last ih =>
      by_cases sooner : k ≤ earlier.countP (Receipt.raises hookid)
      · obtain ⟨before, tick, rest, rfl, raised, count⟩ := ih sooner
        exact ⟨before, tick, rest ++ [last], by simp, raised, count⟩
      · rw [countP_snoc] at enough
        cases tick : last.raises hookid with
        | false =>
            rw [tick, Bool.toNat_false] at enough
            omega
        | true =>
            rw [tick, Bool.toNat_true] at enough
            exact ⟨earlier, last, [], rfl, tick, by omega⟩

/-- The loop is left right after the timer notification that completes `time` seconds. By then
there have been `time` reports, and the report `k` has come with the notification `k * hz`. -/
theorem timerTestInt_reports (time : UInt8) (hz : UInt32) (positive : 1 ≤ hz.toNat)
    (fits : time.toNat * hz.toNat < 2 ^ 31) (messages : List (Receipt Unit))
    (enough : time.toNat * hz.toNat ≤ messages.countP (Receipt.raises hookid)) :
    ∃ received later final, messages = received ++ later ∧
      (testLoop time hz).Leaves ⟨0, 0⟩ received final ∧
      received.countP (Receipt.raises hookid) = time.toNat * hz.toNat ∧
      (∀ last, received.getLast? = some last → last.raises hookid = true) ∧
      final.prints = time.toNat ∧
      (∀ installs removes answers rest,
        installs (.sysIrqsetpolicy timer0Irq false .timer) = true →
        answers.map (fun answer : Answer (Reply (Receipt Unit)) => answer .driverReceive) = received →
        ∃ code trace, timerTestInt time hz ⟨0, 0⟩ (installs :: (answers ++ removes :: rest)) =
          some ⟨(code, final), trace, rest⟩) ∧
      ∀ k, 1 ≤ k → k ≤ time.toNat → ∃ earlier tick rest before after,
        received = earlier ++ tick :: rest ∧ tick.raises hookid = true ∧
        earlier.countP (Receipt.raises hookid) + 1 = k * hz.toNat ∧
        (testLoop time hz).received ⟨0, 0⟩ earlier = some before ∧ before.prints = k - 1 ∧
        (testLoop time hz).received ⟨0, 0⟩ (earlier ++ [tick]) = some after ∧ after.prints = k := by
  have stops : ∀ final, (testLoop time hz).received ⟨0, 0⟩ messages = some final →
      (testLoop time hz).running final = false := by
    intro final reached
    rw [← Bool.not_eq_true, testLoop_running fits (testLoop_received fits reached).1]
    exact Nat.not_lt.mpr enough
  obtain ⟨received, later, final, split, leaves⟩ := EventLoop.exists_leaves stops
  have last := testLoop_last fits leaves
  refine ⟨received, later, final, split, leaves, last.1, last.2, ?_, ?_, ?_⟩
  · rw [(testLoop_received fits leaves.1).2, last.1]
    exact Nat.mul_div_cancel _ positive
  · intro installs removes answers rest installed receives
    rw [← receives] at leaves
    exact timerTestInt_leaves installed leaves removes rest
  · intro k first bounded
    have within : k * hz.toNat ≤ received.countP (Receipt.raises hookid) := by
      rw [last.1]
      exact Nat.mul_le_mul_right hz.toNat bounded
    obtain ⟨earlier, tick, rest, whole, raised, count⟩ :=
      exists_tick (Nat.mul_pos first positive) within
    have upTo : earlier ++ [tick] <+: received := ⟨rest, by simp [whole]⟩
    obtain ⟨before, reached⟩ :=
      EventLoop.received_prefix ((List.prefix_append _ _).trans upTo) leaves.1
    obtain ⟨after, reported⟩ := EventLoop.received_prefix upTo leaves.1
    refine ⟨earlier, tick, rest, before, after, whole, raised, count, reached, ?_, reported, ?_⟩
    · have ticks : earlier.countP (Receipt.raises hookid) = (k - 1) * hz.toNat + (hz.toNat - 1) := by
        obtain ⟨k, rfl⟩ := Nat.exists_eq_add_of_le' first
        rw [Nat.add_mul, Nat.one_mul] at count
        rw [Nat.add_sub_cancel]
        omega
      rw [(testLoop_received fits reached).2, ticks, Nat.mul_comm, Nat.mul_add_div positive,
        Nat.div_eq_of_lt (by omega), Nat.add_zero]
    · rw [(testLoop_received fits reported).2, countP_snoc, raised, Bool.toNat_true, count]
      exact Nat.mul_div_cancel _ positive

/-- A report after one second of two ticks, between messages that are not ticks. -/
theorem timerTestInt_reports_once :
    ∃ received final,
      received <+: [.failed, .notify true 1#64 (), .message, .notify false 1#64 (),
        .notify true 3#64 (), .notify true 1#64 ()] ∧
      (testLoop 1 2).Leaves ⟨0, 0⟩ received final ∧ final.prints = 1 := by
  obtain ⟨received, later, final, split, leaves, -, -, prints, -⟩ :=
    timerTestInt_reports 1 2 (by decide) (by decide) [.failed, .notify true 1#64 (), .message,
      .notify false 1#64 (), .notify true 3#64 (), .notify true 1#64 ()] (by decide)
  exact ⟨received, final, ⟨later, split.symm⟩, leaves, prints⟩

/-- With a frequency that is negative as an `int`, the loop is not entered. -/
theorem timerTestInt_silent :
    (3000000000 : UInt32).toNat ≤
        (List.replicate 3000000000 (Receipt.notify true 1#64 ())).countP (Receipt.raises hookid) ∧
      ∀ received later final,
        List.replicate 3000000000 (Receipt.notify true 1#64 ()) = received ++ later →
        (testLoop 1 3000000000).Leaves ⟨0, 0⟩ received final →
        received = [] ∧ final.prints ≠ (1 : UInt8).toNat := by
  constructor
  · rw [List.countP_replicate, if_pos (show Receipt.raises hookid (.notify true 1#64 ()) = true by
      decide)]
    exact Nat.le_of_eq rfl
  · intro received later final _ leaves
    have closed : (testLoop 1 3000000000).running ⟨0, 0⟩ = false := by decide
    cases received with
    | nil =>
        have same : (⟨0, 0⟩ : Elapsed) = final := Option.some.inj leaves.1
        rw [← same]
        exact ⟨rfl, by decide⟩
    | cons first rest =>
        have rounds := leaves.1
        rw [EventLoop.received, List.foldlM_cons] at rounds
        obtain ⟨before, opened, _⟩ := Option.bind_eq_some_iff.mp rounds
        have goes := (EventLoop.round_eq_some.mp opened).1
        rw [closed] at goes
        exact absurd goes (by decide)

end Lcom.Lab2
