import Lcom.Lab3.Scan

/-! `kbd_test_timed_scan` of `lab3/lab3.c`. -/

namespace Lcom.Lab3

open Lcom.Lib Lcom.Minix Lcom.Proj

def hookid : Nat := 0

/-- The variables of the test. `lab3.c` declares the global `timer_counter` as an `int`, `timer.c`
as a `uint32_t`. -/
structure Timed where
  decoder : Decoder
  auxCounter : UInt32
  timerCounter : UInt32
  deriving DecidableEq, Repr

/-- `aux_counter` has no initial value. -/
def Timed.start (bytes : UInt8 × UInt8) (auxCounter : UInt32) : Timed :=
  ⟨.start bytes, auxCounter, 0⟩

def timerIntHandler (s : Timed) : Timed := { s with timerCounter := s.timerCounter + 1 }

def timerPart (s : Timed) : Timed :=
  timerIntHandler
    (if s.timerCounter.toInt32 % 60 = 0 then { s with auxCounter := s.auxCounter + 1 } else s)

def timedPart (s : Timed) (interrupts : BitVec 64) (found : Found) : Timed :=
  let tick (s : Timed) := if interrupts &&& bit hookid ≠ 0 then timerPart s else s
  if interrupts &&& bit kbdHookid ≠ 0 then
    let scancode := found.scancode s.decoder.scancode
    let decoder := s.decoder.handle scancode
    if twoBytes scancode then { s with decoder := decoder } else tick ⟨decoder, 0, 0⟩
  else tick s

def timedLoop (n : UInt8) : EventLoop Timed (Receipt Found) where
  running s := s.decoder.scancode != escBreak && decide (s.auxCounter ≤ n.toUInt32)
  body s receipt := receipt.dispatch s (timedPart s)

/-- The function, for what its array and `aux_counter` hold before they are assigned. -/
def kbdTestTimedScan (n : UInt8) (bytes : UInt8 × UInt8) (auxCounter : UInt32) :
    Program (Receipt Found) (Nat × Timed) :=
  session (check kbdSubscribeInt (check timerSubscribeInt (pure 0))) (timedLoop n)
    (.start bytes auxCounter) (check timerUnsubscribeInt (check kbdUnsubscribeInt (pure 0)))

variable {n : UInt8} {auxCounter : UInt32} {messages : List (Receipt Found)} {s : Timed}

/-- With both policies installed, the function ends in the state in which its loop is left. -/
theorem kbdTestTimedScan_leaves {bytes : UInt8 × UInt8} {final : Timed}
    {kbd timer : Answer (Reply (Receipt Found))} {answers : List (Answer (Reply (Receipt Found)))}
    (kbdInstalled : kbd (.sysIrqsetpolicy kbdIrq true .kbd) = true)
    (timerInstalled : timer (.sysIrqsetpolicy timer0Irq false .timer) = true)
    (leaves : (timedLoop n).Leaves (.start bytes auxCounter)
      (answers.map (fun answer => answer .driverReceive)) final)
    (first second : Answer (Reply (Receipt Found))) (rest : List (Answer (Reply (Receipt Found)))) :
    ∃ code trace left, kbdTestTimedScan n bytes auxCounter
      (kbd :: timer :: (answers ++ first :: second :: rest)) = some ⟨(code, final), trace, left⟩ := by
  have begins : ∀ rest, check kbdSubscribeInt (check timerSubscribeInt (pure 0))
      (kbd :: timer :: rest) = some ⟨0, [⟨.sysIrqsetpolicy kbdIrq true .kbd, true⟩,
        ⟨.sysIrqsetpolicy timer0Irq false .timer, true⟩], rest⟩ := by
    intro rest
    refine (check_subscribeInt kbdInstalled _ _).trans ?_
    rw [timerSubscribeInt, check_subscribeInt timerInstalled]
    rfl
  have ends : ∃ ended, check timerUnsubscribeInt (check kbdUnsubscribeInt (pure 0))
      (first :: second :: rest) = some ended := by
    obtain ⟨code, removed⟩ := check_unsubscribeInt .kbd second rest
    have first : timerUnsubscribeInt (first :: second :: rest) = some ⟨_, _, second :: rest⟩ := rfl
    exact check_returns first removed
  obtain ⟨ended, removed⟩ := ends
  exact ⟨ended.value, _, ended.rest, session_leaves (begins _) leaves removed⟩

/-- The timer notifications after the last one of the keyboard, or from the start. -/
def sinceByte (messages : List (Receipt Found)) : Nat :=
  messages.foldl (fun ticks receipt =>
    if receipt.raises kbdHookid then 0 else if receipt.raises hookid then ticks + 1 else ticks) 0

def escapes : Receipt Found → Bool
  | .notify true interrupts found =>
      interrupts &&& bit kbdHookid != 0 && found.scancode 0 == escBreak
  | _ => false

/-- What `n` seconds are: the loop is left not before the notification `60 * n` without a byte, and
not after the next one. -/
def TimesOut (n : UInt8) (messages : List (Receipt Found)) (s : Timed) : Prop :=
  ((timedLoop n).running s = false → 60 * n.toNat ≤ sinceByte messages) ∧
    ((timedLoop n).running s = true → sinceByte messages ≤ 60 * n.toNat)

/-- The message is the timer notification with which `aux_counter` gets over `n`. -/
def Due (n : UInt8) (s : Timed) (receipt : Receipt Found) : Prop :=
  s.auxCounter = n.toUInt32 ∧ s.timerCounter.toInt32 % 60 = 0 ∧
    receipt.raises kbdHookid = false ∧ receipt.raises hookid = true

theorem sinceByte_snoc (messages : List (Receipt Found)) (receipt : Receipt Found) :
    sinceByte (messages ++ [receipt]) = if receipt.raises kbdHookid then 0
      else if receipt.raises hookid then sinceByte messages + 1 else sinceByte messages := by
  rw [sinceByte, List.foldl_append]
  rfl

theorem timedLoop_cases (n : UInt8) (s : Timed) (receipt : Receipt Found) :
    (receipt.raises kbdHookid = false ∧
      (timedLoop n).body s receipt = if receipt.raises hookid then timerPart s else s) ∨
    ∃ interrupts found, receipt = .notify true interrupts found ∧
      receipt.raises kbdHookid = true ∧
      ((found.scancode s.decoder.scancode = 0xE0 ∧
          (timedLoop n).body s receipt = { s with decoder := s.decoder.handle 0xE0 }) ∨
        (found.scancode s.decoder.scancode ≠ 0xE0 ∧
          let fresh : Timed := ⟨s.decoder.handle (found.scancode s.decoder.scancode), 0, 0⟩
          (timedLoop n).body s receipt =
            if receipt.raises hookid then timerPart fresh else fresh)) := by
  cases receipt with
  | failed => exact Or.inl ⟨rfl, rfl⟩
  | message => exact Or.inl ⟨rfl, rfl⟩
  | notify hardware interrupts found =>
      cases hardware with
      | false => exact Or.inl ⟨rfl, rfl⟩
      | true =>
          simp only [timedLoop, Receipt.dispatch, Receipt.raises, timedPart, bne_iff_ne]
          by_cases key : interrupts &&& bit kbdHookid = 0
          · rw [if_neg (not_not.mpr key), bne_eq_false_iff_eq]
            exact Or.inl ⟨key, rfl⟩
          · refine Or.inr ⟨interrupts, found, rfl, key, ?_⟩
            rw [if_pos key, twoBytes]
            by_cases plain : found.scancode s.decoder.scancode = 0xE0
            · rw [plain]
              exact Or.inl ⟨rfl, rfl⟩
            · have whole : ¬ (found.scancode s.decoder.scancode == 0xE0) = true :=
                fun prefixed => plain (beq_iff_eq.mp prefixed)
              rw [if_neg whole]
              exact Or.inr ⟨plain, rfl⟩

theorem int32_mod {x : UInt32} (small : x.toNat < 2 ^ 31) :
    x.toInt32 % 60 = 0 ↔ x.toNat % 60 = 0 := by
  have value : x.toInt32.toInt = x.toNat := by
    change x.toBitVec.toInt = _
    rw [BitVec.toInt_eq_toNat_of_lt]
    · rfl
    · change 2 * x.toNat < _
      omega
  rw [← Int32.toInt_inj, Int32.toInt_mod, value]
  change Int.tmod x.toNat 60 = 0 ↔ _
  rw [Int.tmod_eq_emod_of_nonneg (Int.natCast_nonneg _)]
  omega

/-- The notifications that `timer_counter` holds are `aux_counter` seconds, the last of them perhaps
just begun, since `aux_counter` was `base`. -/
def Counts (base : Nat) (s : Timed) : Prop :=
  s.auxCounter.toNat = base + (s.timerCounter.toNat + 59) / 60

theorem Counts.timerPart {base : Nat} {s : Timed} (counts : Counts base s)
    (small : s.auxCounter.toNat ≤ 255) :
    Counts base (timerPart s) ∧
      (Lab3.timerPart s).timerCounter.toNat = s.timerCounter.toNat + 1 := by
  rw [Counts] at counts ⊢
  have ticks : (s.timerCounter + 1).toNat = s.timerCounter.toNat + 1 := by
    rw [UInt32.toNat_add, UInt32.toNat_one, Nat.mod_eq_of_lt (by omega)]
  have seconds : (s.auxCounter + 1).toNat = s.auxCounter.toNat + 1 := by
    rw [UInt32.toNat_add, UInt32.toNat_one, Nat.mod_eq_of_lt (by omega)]
  rw [Lab3.timerPart]
  by_cases full : s.timerCounter.toNat % 60 = 0
  · rw [if_pos ((int32_mod (by omega)).mpr full)]
    refine ⟨?_, ticks⟩
    change (s.auxCounter + 1).toNat = base + ((s.timerCounter + 1).toNat + 59) / 60
    rw [seconds, ticks]
    omega
  · rw [if_neg (fun zero => full ((int32_mod (by omega)).mp zero))]
    refine ⟨?_, ticks⟩
    change s.auxCounter.toNat = base + ((s.timerCounter + 1).toNat + 59) / 60
    rw [ticks]
    omega

/-- What `aux_counter` has been counted from: its first content, until a scancode is printed. -/
def base (auxCounter : UInt32) (s : Timed) : Nat :=
  if s.decoder.printed = [] then auxCounter.toNat else 0

/-- What holds after the messages so far. A prefix byte is a keyboard byte, but `timer_counter` is
not reset by it. -/
structure Keeps (auxCounter : UInt32) (messages : List (Receipt Found)) (s : Timed) : Prop where
  goes : s.decoder.scancode ≠ escBreak
  counts : Counts (base auxCounter s) s
  since : sinceByte messages ≤ s.timerCounter.toNat
  whole : s.decoder.size = 1 → s.timerCounter.toNat ≤ sinceByte messages + 1

theorem Keeps.start (bytes : UInt8 × UInt8) : Keeps auxCounter [] (.start bytes auxCounter) := by
  have goes : (0 : UInt8) ≠ escBreak := by decide
  have seconds : Counts (base auxCounter (.start bytes auxCounter)) (.start bytes auxCounter) := by
    change auxCounter.toNat = auxCounter.toNat + (0 + 59) / 60
    rfl
  exact ⟨goes, seconds, Nat.zero_le _, fun _ => Nat.zero_le _⟩

theorem Keeps.running (keeps : Keeps auxCounter messages s) (n : UInt8) :
    (timedLoop n).running s = true ↔
      base auxCounter s + (s.timerCounter.toNat + 59) / 60 ≤ n.toNat := by
  have goes : (s.decoder.scancode != escBreak) = true := bne_iff_ne.mpr keeps.goes
  change (s.decoder.scancode != escBreak && decide (s.auxCounter ≤ n.toUInt32)) = true ↔ _
  rw [← keeps.counts, goes, Bool.true_and, decide_eq_true_eq, UInt32.le_iff_toNat_le,
    UInt8.toNat_toUInt32]

theorem Keeps.small (keeps : Keeps auxCounter messages s) {n : UInt8}
    (running : (timedLoop n).running s = true) : s.auxCounter.toNat ≤ 255 := by
  have bound := n.toNat_lt
  rw [keeps.running, ← keeps.counts] at running
  omega

theorem scancode_escapes {interrupts : BitVec 64} {found : Found}
    (raised : (Receipt.notify true interrupts found).raises kbdHookid = true)
    (quiet : escapes (.notify true interrupts found) = false) {scancode : UInt8}
    (goes : scancode ≠ escBreak) : found.scancode scancode ≠ escBreak := by
  rw [Receipt.raises] at raised
  rw [escapes, raised, Bool.true_and, beq_eq_false_iff_ne, Found.scancode_eq] at quiet
  rw [Found.scancode_eq]
  split at quiet
  · rename_i error
    rwa [if_pos error]
  · rename_i clear
    rw [if_neg clear]
    cases byte : found.out with
    | none => exact goes
    | some byte' =>
        rw [byte] at quiet
        exact quiet

theorem timerPart_decoder (s : Timed) : (timerPart s).decoder = s.decoder := by
  change (if s.timerCounter.toInt32 % 60 = 0 then { s with auxCounter := s.auxCounter + 1 }
    else s).decoder = s.decoder
  split
  · rfl
  · rfl

theorem Keeps.tick {earlier : List (Receipt Found)} (keeps : Keeps auxCounter earlier s)
    (small : s.auxCounter.toNat ≤ 255) (since : sinceByte messages ≤ s.timerCounter.toNat + 1)
    (whole : s.decoder.size = 1 → s.timerCounter.toNat ≤ sinceByte messages) :
    Keeps auxCounter messages (timerPart s) := by
  obtain ⟨counts, ticked⟩ := keeps.counts.timerPart small
  refine ⟨?_, ?_, ?_, ?_⟩
  · rw [timerPart_decoder]
    exact keeps.goes
  · rw [base, timerPart_decoder]
    exact counts
  · rw [ticked]
    exact since
  · rw [timerPart_decoder, ticked]
    exact fun one => Nat.succ_le_succ (whole one)

theorem Keeps.body {n : UInt8} (keeps : Keeps auxCounter messages s)
    (running : (timedLoop n).running s = true) {receipt : Receipt Found}
    (quiet : escapes receipt = false) :
    Keeps auxCounter (messages ++ [receipt]) ((timedLoop n).body s receipt) := by
  have small := keeps.small running
  have since := sinceByte_snoc messages receipt
  rcases timedLoop_cases n s receipt with
    ⟨noByte, same⟩ | ⟨interrupts, found, rfl, raised, ⟨-, same⟩ | ⟨plain, same⟩⟩
  · rw [same]
    rw [noByte, if_neg Bool.false_ne_true] at since
    split
    · rename_i tick
      rw [tick, if_pos rfl] at since
      refine keeps.tick small ?_ ?_
      · rw [since]
        exact Nat.succ_le_succ keeps.since
      · rw [since]
        exact keeps.whole
    · rename_i quiet
      rw [if_neg quiet] at since
      exact ⟨keeps.goes, keeps.counts, since ▸ keeps.since, since ▸ keeps.whole⟩
  · -- neither counter changes, although a byte has come
    rw [same]
    rw [raised, if_pos rfl] at since
    refine ⟨(by decide : (0xE0 : UInt8) ≠ escBreak), keeps.counts, since ▸ Nat.zero_le _, ?_⟩
    rintro ⟨⟩
  · rw [same]
    rw [raised, if_pos rfl] at since
    have fresh : Keeps auxCounter (messages ++ [.notify true interrupts found])
        ⟨s.decoder.handle (found.scancode s.decoder.scancode), 0, 0⟩ := by
      refine ⟨?_, ?_, since ▸ Nat.zero_le _, fun _ => Nat.zero_le _⟩
      · change (s.decoder.handle _).scancode ≠ escBreak
        rw [handle_plain plain]
        exact scancode_escapes raised quiet keeps.goes
      · have printed : (s.decoder.handle (found.scancode s.decoder.scancode)).printed ≠ [] := by
          rw [handle_plain plain]
          exact List.append_ne_nil_of_right_ne_nil _ (List.cons_ne_nil _ _)
        have zero : (0 : UInt32).toNat = 0 + ((0 : UInt32).toNat + 59) / 60 := by decide
        rw [base, if_neg printed]
        exact zero
    split
    · exact fresh.tick (Nat.zero_le _) (since ▸ Nat.zero_le _) (fun _ => Nat.zero_le _)
    · exact fresh

theorem Keeps.received {n : UInt8} {bytes : UInt8 × UInt8}
    (quiet : ∀ receipt ∈ messages, escapes receipt = false)
    (reached : (timedLoop n).received (.start bytes auxCounter) messages = some s) :
    Keeps auxCounter messages s := by
  have keeps : (∀ receipt ∈ messages, escapes receipt = false) → Keeps auxCounter messages s := by
    refine EventLoop.received_invariant
      (fun messages s => (∀ receipt ∈ messages, escapes receipt = false) →
        Keeps auxCounter messages s) (fun _ => Keeps.start bytes) ?_ reached
    intro earlier before receipt kept running quiet
    have first := kept (fun receipt member => quiet receipt (List.mem_append_left _ member))
    exact first.body running (quiet receipt (List.mem_append_right _ List.mem_cons_self))
  exact keeps quiet

theorem Keeps.atLatest (keeps : Keeps auxCounter messages s) {n : UInt8}
    (running : (timedLoop n).running s = true) : sinceByte messages ≤ 60 * n.toNat := by
  have since := keeps.since
  rw [keeps.running] at running
  omega

theorem due_iff (n : UInt8) (keeps : Keeps auxCounter messages s) (small : s.auxCounter.toNat ≤ 255)
    (receipt : Receipt Found) : Due n s receipt ↔
      base auxCounter s + s.timerCounter.toNat / 60 = n.toNat ∧ s.timerCounter.toNat % 60 = 0 ∧
        receipt.raises kbdHookid = false ∧ receipt.raises hookid = true := by
  have counts := keeps.counts
  rw [Counts] at counts
  rw [Due, int32_mod (by omega), ← UInt32.toNat_inj, UInt8.toNat_toUInt32, counts]
  constructor
  · rintro ⟨full, whole, raised⟩
    exact ⟨by omega, whole, raised⟩
  · rintro ⟨full, whole, raised⟩
    exact ⟨by omega, whole, raised⟩

theorem Keeps.stops (keeps : Keeps auxCounter messages s) (n : UInt8) :
    (timedLoop n).running s = false ↔
      n.toNat < base auxCounter s + (s.timerCounter.toNat + 59) / 60 := by
  rw [← Bool.not_eq_true, keeps.running, Nat.not_le]

theorem Keeps.due_left (keeps : Keeps auxCounter messages s) {n : UInt8}
    (running : (timedLoop n).running s = true) {receipt : Receipt Found}
    (quiet : escapes receipt = false) (due : Due n s receipt) :
    (timedLoop n).running ((timedLoop n).body s receipt) = false := by
  have after := keeps.body running quiet
  have small := keeps.small running
  obtain ⟨full, whole, noByte, tick⟩ := (due_iff n keeps small receipt).mp due
  rcases timedLoop_cases n s receipt with ⟨-, same⟩ | ⟨interrupts, found, -, raised, -⟩
  · rw [tick, if_pos rfl] at same
    obtain ⟨-, ticked⟩ := keeps.counts.timerPart small
    rw [after.stops, same, ticked, base, timerPart_decoder]
    change _ < base auxCounter s + _
    omega
  · rw [noByte] at raised
    cases raised

theorem Keeps.left_due (keeps : Keeps auxCounter messages s) {n : UInt8}
    (running : (timedLoop n).running s = true) {receipt : Receipt Found}
    (quiet : escapes receipt = false)
    (left : (timedLoop n).running ((timedLoop n).body s receipt) = false) :
    n.toNat = 0 ∨ Due n s receipt := by
  have after := keeps.body running quiet
  have small := keeps.small running
  rw [after.stops] at left
  rw [keeps.running] at running
  rcases timedLoop_cases n s receipt with
    ⟨noByte, same⟩ | ⟨interrupts, found, rfl, raised, ⟨-, same⟩ | ⟨plain, same⟩⟩
  · cases tick : receipt.raises hookid with
    | false =>
        rw [same, tick, if_neg Bool.false_ne_true] at left
        omega
    | true =>
        obtain ⟨-, ticked⟩ := keeps.counts.timerPart small
        rw [same, tick, if_pos rfl, ticked, base, timerPart_decoder] at left
        change _ < base auxCounter s + _ at left
        exact Or.inr ((due_iff n keeps small receipt).mpr ⟨by omega, by omega, noByte, tick⟩)
  · rw [same] at left
    change _ < base auxCounter s + (s.timerCounter.toNat + 59) / 60 at left
    omega
  · -- the counters start again, and at most one notification has come with the byte
    have decoder : ((timedLoop n).body s (.notify true interrupts found)).decoder =
        s.decoder.handle (found.scancode s.decoder.scancode) := by
      rw [same]
      split
      · exact timerPart_decoder _
      · rfl
    have ticks := after.whole (by rw [decoder, handle_plain plain])
    rw [sinceByte_snoc, raised, if_pos rfl] at ticks
    rw [base, decoder, handle_plain plain,
      if_neg (List.append_ne_nil_of_right_ne_nil _ (List.cons_ne_nil _ _))] at left
    omega

/-- What makes a message that is due come late enough: `aux_counter` has been counted from 0, and
the last byte is no prefix, or all but one of the notifications that have been counted came later. -/
def Patient (n : UInt8) (auxCounter : UInt32) (messages : List (Receipt Found)) (s : Timed) : Prop :=
  n.toNat = 0 ∨ (auxCounter = 0 ∨ s.decoder.printed ≠ []) ∧
    (s.decoder.size = 1 ∨ s.timerCounter.toNat ≤ sinceByte messages + 1)

theorem Keeps.patient (keeps : Keeps auxCounter messages s) {n : UInt8} {receipt : Receipt Found}
    (running : (timedLoop n).running s = true) (due : Due n s receipt) :
    Patient n auxCounter messages s ↔ 60 * n.toNat ≤ sinceByte (messages ++ [receipt]) := by
  obtain ⟨full, whole, noByte, tick⟩ := (due_iff n keeps (keeps.small running) receipt).mp due
  have since := keeps.since
  have started : base auxCounter s = 0 ↔ auxCounter = 0 ∨ s.decoder.printed ≠ [] := by
    rw [base]
    split
    · rename_i none
      simp [none, ← UInt32.toNat_inj]
    · rename_i some
      simp [some]
  have fresh : s.decoder.size = 1 ∨ s.timerCounter.toNat ≤ sinceByte messages + 1 ↔
      s.timerCounter.toNat ≤ sinceByte messages + 1 :=
    ⟨fun either => either.elim keeps.whole id, Or.inr⟩
  rw [sinceByte_snoc, noByte, tick, if_neg Bool.false_ne_true, if_pos rfl, Patient, ← started, fresh]
  constructor
  · rintro (zero | ⟨begun, late⟩)
    · omega
    · omega
  · intro late
    omega

theorem Keeps.due_running (keeps : Keeps auxCounter messages s) {n : UInt8} {receipt : Receipt Found}
    (due : Due n s receipt) : (timedLoop n).running s = true := by
  rw [keeps.running, ← keeps.counts, due.1, UInt8.toNat_toUInt32]

theorem start_running (n : UInt8) (bytes : UInt8 × UInt8) :
    (timedLoop n).running (.start bytes auxCounter) = true ↔ auxCounter ≤ n.toUInt32 := by
  change (true && decide (auxCounter ≤ n.toUInt32)) = true ↔ _
  rw [Bool.true_and, decide_eq_true_eq]

/-- The idle timeout is kept in every state of a run if and only if the loop is entered, and no
message is due too early. A run that leaves the loop is one of the function. -/
theorem kbdTestTimedScan_timesOut_iff (n : UInt8) (bytes : UInt8 × UInt8) (auxCounter : UInt32)
    (messages : List (Receipt Found)) (quiet : ∀ receipt ∈ messages, escapes receipt = false) :
    ((∀ earlier s, earlier <+: messages →
        (timedLoop n).received (.start bytes auxCounter) earlier = some s →
        TimesOut n earlier s) ↔
      (n.toNat = 0 ∨ auxCounter ≤ n.toUInt32) ∧
        ∀ earlier receipt before, earlier ++ [receipt] <+: messages →
          (timedLoop n).received (.start bytes auxCounter) earlier = some before →
          Due n before receipt → Patient n auxCounter earlier before) ∧
      ∀ final kbd timer first second answers rest,
        kbd (.sysIrqsetpolicy kbdIrq true .kbd) = true →
        timer (.sysIrqsetpolicy timer0Irq false .timer) = true →
        (timedLoop n).Leaves (.start bytes auxCounter)
          (answers.map (fun answer : Answer (Reply (Receipt Found)) => answer .driverReceive)) final →
        ∃ code trace left, kbdTestTimedScan n bytes auxCounter
          (kbd :: timer :: (answers ++ first :: second :: rest)) = some ⟨(code, final), trace, left⟩ := by
  refine ⟨?_, fun final kbd timer first second answers rest installed ticking leaves =>
    kbdTestTimedScan_leaves installed ticking leaves first second rest⟩
  have keeps : ∀ earlier s, earlier <+: messages →
      (timedLoop n).received (.start bytes auxCounter) earlier = some s →
      Keeps auxCounter earlier s := fun earlier s begins reached =>
    .received (fun receipt member => quiet receipt (begins.subset member)) reached
  have silent : ∀ earlier receipt, earlier ++ [receipt] <+: messages → escapes receipt = false :=
    fun earlier receipt begins =>
      quiet receipt (begins.subset (List.mem_append_right _ List.mem_cons_self))
  constructor
  · intro timesOut
    constructor
    · have first := (timesOut [] _ List.nil_prefix rfl).1
      rw [← Bool.not_eq_true, start_running, sinceByte, List.foldl_nil] at first
      by_cases entered : auxCounter ≤ n.toUInt32
      · exact Or.inr entered
      · have zero := first entered
        exact Or.inl (by omega)
    · intro earlier receipt before begins reached due
      have kept := keeps earlier before ((List.prefix_append _ _).trans begins) reached
      have running := kept.due_running due
      have left := kept.due_left running (silent earlier receipt begins) due
      refine (kept.patient running due).mpr ?_
      exact (timesOut _ _ begins
        ((EventLoop.received_snoc receipt).mpr ⟨before, reached, running, rfl⟩)).1 left
  · rintro ⟨entered, patient⟩ earlier s begins reached
    refine ⟨fun left => ?_, (keeps earlier s begins reached).atLatest⟩
    cases earlier using List.reverseRecOn with
    | nil =>
        cases reached
        rw [← Bool.not_eq_true, start_running] at left
        rw [entered.resolve_right left]
        exact Nat.zero_le _
    | append_singleton earlier receipt =>
        obtain ⟨before, first, running, rfl⟩ := (EventLoop.received_snoc receipt).mp reached
        have kept := keeps earlier before ((List.prefix_append _ _).trans begins) first
        rcases kept.left_due running (silent earlier receipt begins) left with zero | due
        · rw [zero]
          exact Nat.zero_le _
        · exact (kept.patient running due).mp (patient earlier receipt before begins first due)

instance (n : UInt8) (auxCounter : UInt32) (messages : List (Receipt Found)) (s : Timed) :
    Decidable (Patient n auxCounter messages s) := inferInstanceAs (Decidable (_ ∨ _ ∧ _))

def sampleSecond : List (Receipt Found) :=
  .notify true 2#64 ⟨0, some 0x01, some 0x1E⟩ :: List.replicate 61 (.notify true 1#64 ⟨0, none, none⟩)

theorem kbdTestTimedScan_timesOut_iff_second :
    ∃ s, (timedLoop 1).received (.start (0, 0) 0) sampleSecond = some s ∧
      (timedLoop 1).running s = false ∧ sinceByte sampleSecond = 61 ∧ TimesOut 1 sampleSecond s := by
  obtain ⟨s, left, stopped⟩ := (Option.any_eq_true _ _).mp
    (show ((timedLoop 1).received (.start (0, 0) 0) sampleSecond).any
      (fun s => (timedLoop 1).running s == false) = true by decide +kernel)
  refine ⟨s, left, beq_iff_eq.mp stopped, by decide +kernel, ?_⟩
  refine (kbdTestTimedScan_timesOut_iff 1 (0, 0) 0 sampleSecond (by decide +kernel)).1.mpr
    ⟨.inr (by decide), ?_⟩ _ _ List.prefix_rfl left
  intro earlier receipt before begins reached due
  have short := begins.length_le
  have taken : earlier = sampleSecond.take earlier.length :=
    List.prefix_iff_eq_take.mp ((List.prefix_append _ _).trans begins)
  have patient : ∀ count < sampleSecond.length,
      ((timedLoop 1).received (.start (0, 0) 0) (sampleSecond.take count)).all
        (fun before => decide (Patient 1 0 (sampleSecond.take count) before)) = true := by
    decide +kernel
  rw [List.length_append, List.length_singleton] at short
  have holds := patient earlier.length short
  rw [← taken, reached] at holds
  exact of_decide_eq_true holds

/-- With 2 in `aux_counter` the loop for one second is left before it is entered. -/
theorem kbdTestTimedScan_leaves_at_once : ¬ ∀ earlier s, earlier <+: ([] : List (Receipt Found)) →
    (timedLoop 1).received (.start (0, 0) 2) earlier = some s → TimesOut 1 earlier s := by
  intro timesOut
  have late := (timesOut [] _ List.nil_prefix rfl).1 (by decide)
  exact absurd late (by decide)

end Lcom.Lab3
