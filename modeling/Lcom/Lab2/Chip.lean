import Lcom.Lab2.Timer
import Lcom.Minix.Triples

/-! What `timer_set_frequency` and `timer_test_read_config` do to the counters of an i8254, and what
they show of them. -/

namespace Lcom.Lab2

open Lcom.Lib Lcom.Minix Lcom.Proj

/-- A counter: the bits 5 to 0 of its control word, the two bytes of its divisor, the first byte of a
divisor that is being written, and a status that has not been read yet. -/
structure Counter where
  control : UInt8
  masked : control &&& 0x3F = control
  lsb : UInt8
  msb : UInt8
  first : Option UInt8
  latched : Option UInt8

abbrev Chip := Fin 3 → Counter

theorem masked_and (value : UInt8) : value &&& 0x3F &&& 0x3F = value &&& 0x3F := by
  rw [UInt8.and_assoc]
  rfl

namespace Counter

/-- A command: the read-back of some timers, or the control word of one. A second read-back of the
status before it is read is ignored. -/
def commanded (n : Fin 3) (value : UInt8) (counter : Counter) : Counter :=
  if value >>> 6 = 3 then
    if value &&& 0x10 = 0 ∧ value &&& timerRbSel (UInt8.ofNat n) ≠ 0 ∧ counter.latched = none then
      { counter with latched := some counter.control }
    else counter
  else if value >>> 6 = UInt8.ofNat n ∧ value &&& 0x30 ≠ 0 then
    { counter with control := value &&& 0x3F, masked := masked_and value, first := none }
  else counter

/-- A byte of the divisor: the least significant one, the most significant one, or each in turn. -/
def loaded (value : UInt8) (counter : Counter) : Counter :=
  if counter.control &&& 0x30 = 0x10 then { counter with lsb := value, msb := 0 }
  else if counter.control &&& 0x30 = 0x20 then { counter with lsb := 0, msb := value }
  else
    match counter.first with
    | none => { counter with first := some value }
    | some lsb => { counter with first := none, lsb := lsb, msb := value }

def number (counter : Counter) : Nat := counter.lsb.toNat + 256 * counter.msb.toNat

/-- The number that is meant by four decimal digits of four bits each. A digit above 9 has no
documented meaning. -/
def decimal (number : Nat) : Option Nat :=
  if ∀ digit ∈ Nat.digits 16 number, digit ≤ 9 then some (Nat.ofDigits 10 (Nat.digits 16 number))
  else none

/-- What the counter divides by: the BCD bit of the control word tells how the bytes are meant. -/
def divisor (counter : Counter) : Option Nat :=
  if counter.control &&& 0x01 = 0 then some counter.number else decimal counter.number

end Counter

namespace Chip

def written (port : Nat) (value : UInt8) (chip : Chip) : Chip := fun n =>
  if port = 0x43 then (chip n).commanded n value
  else if port = 0x40 + n then (chip n).loaded value
  else chip n

def read (port : Nat) (chip : Chip) : Chip := fun n =>
  if port = 0x40 + n then { chip n with latched := none } else chip n

end Chip

variable {Message : Type}

/-- A read after a read-back gives the status, with the control word under two bits of its own. -/
def i8254Device : Device (Reply Message) Chip
  | ⟨.sysOutb port value, done⟩, chip =>
      let done : Bool := done
      some (if done then chip.written port value else chip)
  | ⟨.sysInb port, aux⟩, chip =>
      let aux : Option UInt32 := aux
      aux.elim (some chip) (fun aux =>
        if ∀ n : Fin 3, port = 0x40 + n → (chip n).latched.all (· == aux.toUInt8 &&& 0x3F) then
          some (chip.read port)
        else none)
  | _, chip => some chip

inductive TimerInit where
  | invalVal | lsbOnly | msbOnly | msbAfterLsb
  deriving DecidableEq, Repr

def TimerInit.ofByte (value : UInt8) : TimerInit :=
  if value = 0 then .invalVal else if value = 1 then .lsbOnly
  else if value = 2 then .msbOnly else .msbAfterLsb

inductive TimerStatusField where
  | all | initial | mode | base
  deriving DecidableEq, Repr

/-- `union timer_status_field_val`, with the member that is written. -/
inductive TimerStatusFieldVal where
  | byte (value : UInt8)
  | inMode (value : TimerInit)
  | countMode (value : UInt8)
  | bcd (value : Bool)
  deriving DecidableEq, Repr

abbrev Print := UInt8 → TimerStatusField → TimerStatusFieldVal → Nat

def statusFieldVal (st : UInt8) : TimerStatusField → TimerStatusFieldVal
  | .all => .byte st
  | .initial => .inMode (.ofByte (st &&& 0x20 &&& 0x10))
  | .mode => .countMode (st &&& 0x02 &&& 0x04 &&& 0x08)
  | .base => .bcd (if st &&& 0x01 = 1 then true else false)

def timerDisplayConf (print : Print) (timer st : UInt8) (field : TimerStatusField) :
    Nat × Option TimerStatusFieldVal :=
  if 2 < timer then (1, none)
  else
    let val := statusFieldVal st field
    if print timer field val ≠ 0 then (1, some val) else (0, some val)

def timerTestReadConfig (print : Print) (timer : UInt8) (field : TimerStatusField) :
    Program Message (Nat × Option TimerStatusFieldVal) := do
  match ← timerGetConf timer with
  | none => return (1, none)
  | some status =>
      let (code, printed) := timerDisplayConf print timer status field
      if code ≠ 0 then return (1, printed) else return (0, printed)

def timerTestTimeBase (timer : UInt8) (freq : UInt32) : Program Message Nat := do
  if (← timerSetFrequency timer freq) ≠ 0 then return 1 else return 0

end Lcom.Lab2

namespace Lcom.Lab4

open Lcom.Lab2

def statusFieldVal (st : UInt8) : TimerStatusField → TimerStatusFieldVal
  | .all => .byte st
  | .initial => .inMode (.ofByte ((st &&& (0x10 ||| 0x20)) >>> 4))
  | .mode => .countMode ((st &&& (0x02 ||| 0x04 ||| 0x08)) >>> 1)
  | .base => .bcd (if st &&& 0x01 ≠ 0 then true else false)

def timerDisplayConf (print : Print) (timer st : UInt8) (field : TimerStatusField) :
    Nat × Option TimerStatusFieldVal :=
  let val := statusFieldVal st field
  if print timer field val ≠ 0 then (1, some val) else (0, some val)

end Lcom.Lab4

namespace Lcom.Lab2

open Lcom.Lib Lcom.Minix Lcom.Proj

variable {Message : Type}

/-- A status that has not been read is that of the present control word. -/
def Counter.Settled (counter : Counter) : Prop := ∀ st ∈ counter.latched, st = counter.control

/-- The counter is as before, up to a status that has not been read. -/
structure Counter.Same (counter last : Counter) : Prop where
  control : last.control = counter.control
  lsb : last.lsb = counter.lsb
  msb : last.msb = counter.msb
  first : last.first = counter.first

theorem Counter.Same.rfl {counter : Counter} : counter.Same counter :=
  ⟨.refl _, .refl _, .refl _, .refl _⟩

theorem Counter.Same.number {counter last : Counter} (same : counter.Same last) :
    last.number = counter.number := by
  rw [Counter.number, same.lsb, same.msb, Counter.number]

theorem exists_counter {timer : UInt8} (small : timer ≤ 2) :
    ∃ n : Fin 3, timer = UInt8.ofNat n ∧ timer.toNat = n := by
  have bytes : ∀ timer : BitVec 8, UInt8.ofBitVec timer ≤ 2 →
      ∃ n : Fin 3, UInt8.ofBitVec timer = UInt8.ofNat n ∧ timer.toNat = n := by
    decide +kernel
  exact bytes timer.toBitVec small

theorem counter_inj {n m : Fin 3} (same : UInt8.ofNat n = UInt8.ofNat m) : n = m := by
  revert n m
  decide

theorem select_counter (n : Fin 3) :
    select i8254 (UInt8.ofNat n) = some (UInt8.ofNat (64 * n), 0x40 + n.val) := by
  revert n
  decide

theorem commanded_readBack (n m : Fin 3) (counter : Counter) :
    counter.commanded m
        (i8254.timerRbCmd ||| i8254.timerRbCount ||| timerRbSel (UInt8.ofNat n)) =
      if m = n ∧ counter.latched = none then { counter with latched := some counter.control }
      else counter := by
  have command : ∀ n m : Fin 3,
      (i8254.timerRbCmd ||| i8254.timerRbCount ||| timerRbSel (UInt8.ofNat n)) >>> 6 = 3 ∧
      (i8254.timerRbCmd ||| i8254.timerRbCount ||| timerRbSel (UInt8.ofNat n)) &&& 0x10 = 0 ∧
      ((i8254.timerRbCmd ||| i8254.timerRbCount ||| timerRbSel (UInt8.ofNat n)) &&&
        timerRbSel (UInt8.ofNat m) ≠ 0 ↔ m = n) := by decide
  obtain ⟨readBack, status, selected⟩ := command n m
  rw [Counter.commanded, if_pos readBack]
  simp only [status, selected, true_and]

structure Counter.Reads (control : UInt8) (number : Nat) (first : Option UInt8) (counter : Counter) :
    Prop where
  control : counter.control = control
  number : counter.number = number
  first : counter.first = first
  latched : counter.latched = none

theorem commanded_control (n m : Fin 3) (st : UInt8) (counter : Counter) :
    (m ≠ n → counter.commanded m (st &&& 0x0F ||| i8254.timerLsbMsb ||| UInt8.ofNat (64 * n)) =
      counter) ∧
    (m = n → counter.latched = none →
      (counter.commanded m (st &&& 0x0F ||| i8254.timerLsbMsb ||| UInt8.ofNat (64 * n))).Reads
        (st &&& 0x0F ||| 0x30) counter.number none) := by
  have bytes : ∀ (st : BitVec 8) (n m : Fin 3),
      (UInt8.ofBitVec st &&& 0x0F ||| 0x30 ||| UInt8.ofNat (64 * n)) >>> 6 ≠ 3 ∧
      ((UInt8.ofBitVec st &&& 0x0F ||| 0x30 ||| UInt8.ofNat (64 * n)) >>> 6 = UInt8.ofNat m ↔
        m = n) ∧
      (UInt8.ofBitVec st &&& 0x0F ||| 0x30 ||| UInt8.ofNat (64 * n)) &&& 0x30 ≠ 0 ∧
      (UInt8.ofBitVec st &&& 0x0F ||| 0x30 ||| UInt8.ofNat (64 * n)) &&& 0x3F =
        UInt8.ofBitVec st &&& 0x0F ||| 0x30 := by decide +kernel
  have command : (st &&& 0x0F ||| i8254.timerLsbMsb ||| UInt8.ofNat (64 * n)) >>> 6 ≠ 3 ∧
      ((st &&& 0x0F ||| i8254.timerLsbMsb ||| UInt8.ofNat (64 * n)) >>> 6 = UInt8.ofNat m ↔
        m = n) ∧
      (st &&& 0x0F ||| i8254.timerLsbMsb ||| UInt8.ofNat (64 * n)) &&& 0x30 ≠ 0 ∧
      (st &&& 0x0F ||| i8254.timerLsbMsb ||| UInt8.ofNat (64 * n)) &&& 0x3F =
        st &&& 0x0F ||| 0x30 := bytes st.toBitVec n m
  obtain ⟨control, selected, access, low⟩ := command
  constructor
  · intro other
    rw [Counter.commanded, if_neg control, if_neg (fun both => other (selected.mp both.1))]
  · intro own unread
    rw [Counter.commanded, if_neg control, if_pos ⟨selected.mpr own, access⟩]
    exact ⟨low, rfl, rfl, unread⟩

variable {chip : Chip}

def Kept (chip last : Chip) : Prop := ∀ m, (chip m).Same (last m) ∧ (last m).Settled

theorem kept_refl (settled : ∀ m, (chip m).Settled) : Kept chip chip :=
  fun m => ⟨.rfl, settled m⟩

theorem getConf_triple (timer : UInt8) :
    i8254Device.Triple (Kept chip) (timerGetConf timer : Program Message _) (fun value last =>
      Kept chip last ∧ ∀ st, value = some st → ∃ n : Fin 3, timer = UInt8.ofNat n ∧
        st &&& 0x3F = (chip n).control ∧ (last n).latched = none) := by
  have failed : ∀ last, Kept chip last → Kept chip last ∧ ∀ st, none = some st → ∃ n : Fin 3,
      timer = UInt8.ofNat n ∧ st &&& 0x3F = (chip n).control ∧ (last n).latched = none :=
    fun last kept => ⟨kept, fun st absent => by cases absent⟩
  rw [timerGetConf, getConf]
  by_cases large : 2 < timer
  · rw [if_pos large]
    exact .pure failed
  · obtain ⟨n, rfl, -⟩ := exists_counter (UInt8.not_lt.mp large)
    rw [if_neg large, select_counter]
    dsimp only
    have latches : i8254Device.Triple (Kept chip) (sysOutb i8254.timerCtrl
        (i8254.timerRbCmd ||| i8254.timerRbCount ||| timerRbSel (UInt8.ofNat n)) : Program Message Nat)
        (fun code last => Kept chip last ∧
          (code = 0 → (last n).latched = some (chip n).control)) := by
      refine sysOutb_triple (fun before done last kept moved => ?_)
      cases done with
      | false =>
          cases moved
          exact ⟨kept, fun zero => by cases zero⟩
      | true =>
          obtain rfl : before.written 0x43 _ = last := Option.some.inj moved
          have counters : ∀ m, before.written 0x43 (i8254.timerRbCmd ||| i8254.timerRbCount |||
              timerRbSel (UInt8.ofNat n)) m = if m = n ∧ (before m).latched = none then
                { before m with latched := some (before m).control } else before m :=
            fun m => (if_pos rfl).trans (commanded_readBack n m (before m))
          refine ⟨fun m => ?_, fun _ => ?_⟩
          · obtain ⟨same, settled⟩ := kept m
            rw [counters]
            split
            · refine ⟨⟨same.control, same.lsb, same.msb, same.first⟩, ?_⟩
              rintro st ⟨⟩
              rfl
            · exact ⟨same, settled⟩
          · obtain ⟨same, settled⟩ := kept n
            rw [counters]
            cases unread : (before n).latched with
            | none =>
                rw [if_pos ⟨rfl, rfl⟩]
                exact congrArg some same.control
            | some st =>
                rw [if_neg (fun both => by cases both.2)]
                exact unread.trans (congrArg some ((settled st unread).trans same.control))
    refine latches.bind (fun code => ?_)
    by_cases fine : code = 0
    · rw [if_neg (not_not.mpr fine)]
      refine utilSysInb_triple (fun before aux last reached moved => ?_)
      obtain ⟨kept, status⟩ := reached
      cases aux with
      | none =>
          cases moved
          exact failed _ kept
      | some aux =>
          change (if _ then some _ else none) = some last at moved
          split at moved
          · rename_i answers
            obtain rfl : before.read (0x40 + n.val) = last := Option.some.inj moved
            have answered := answers n rfl
            rw [status fine] at answered
            refine ⟨fun m => ?_, ?_⟩
            · obtain ⟨same, settled⟩ := kept m
              rw [Chip.read]
              split
              · exact ⟨⟨same.control, same.lsb, same.msb, same.first⟩, fun st read => by cases read⟩
              · exact ⟨same, settled⟩
            · rintro st ⟨⟩
              refine ⟨n, rfl, (beq_iff_eq.mp answered).symm, ?_⟩
              rw [Chip.read, if_pos rfl]
          · cases moved
    · rw [if_pos fine]
      exact .pure (fun last reached => failed last reached.1)

def ChangedAt (chip : Chip) (n : Fin 3) (holds : Counter → Prop) (last : Chip) : Prop :=
  holds (last n) ∧ ∀ m, m ≠ n → (chip m).Same (last m) ∧ (last m).Settled

structure Adjusted (timer : UInt8) (chip last : Chip) : Prop where
  settled : ∀ m, (last m).Settled
  base : ∀ m, (last m).control &&& 0x0F = (chip m).control &&& 0x0F
  others : ∀ m : Fin 3, timer ≠ UInt8.ofNat m → (chip m).Same (last m)

theorem Kept.adjusted {timer : UInt8} {last : Chip} (kept : Kept chip last) :
    Adjusted timer chip last where
  settled m := (kept m).2
  base m := congrArg (· &&& 0x0F) (kept m).1.control
  others m _ := (kept m).1

def Counter.twoBytes (counter : Counter) : UInt8 := counter.control &&& 0x0F ||| 0x30

theorem control_bits (control : UInt8) :
    (control &&& 0x0F ||| 0x30) &&& 0x0F = control &&& 0x0F ∧
      (control &&& 0x0F ||| 0x30) &&& 0x30 = 0x30 ∧ control &&& 0x3F &&& 0x0F = control &&& 0x0F := by
  have bytes : ∀ control : BitVec 8,
      (UInt8.ofBitVec control &&& 0x0F ||| 0x30) &&& 0x0F = UInt8.ofBitVec control &&& 0x0F ∧
      (UInt8.ofBitVec control &&& 0x0F ||| 0x30) &&& 0x30 = 0x30 ∧
      UInt8.ofBitVec control &&& 0x3F &&& 0x0F = UInt8.ofBitVec control &&& 0x0F := by
    decide +kernel
  exact bytes control.toBitVec

theorem ChangedAt.adjusted {n : Fin 3} {number : Nat} {first : Option UInt8} {last : Chip}
    (changed : ChangedAt chip n (Counter.Reads (chip n).twoBytes number first) last) :
    Adjusted (UInt8.ofNat n) chip last where
  settled m := by
    by_cases own : m = n
    · rw [own]
      intro st unread
      rw [changed.1.latched] at unread
      cases unread
    · exact (changed.2 m own).2
  base m := by
    by_cases own : m = n
    · rw [own, changed.1.control]
      exact (control_bits _).1
    · exact congrArg (· &&& 0x0F) (changed.2 m own).1.control
  others m other := by
    refine (changed.2 m (fun own => other ?_)).1
    rw [own]

theorem load_triple {n : Fin 3} {byte : UInt8} {before after : Counter → Prop}
    (loads : ∀ counter, before counter → after (counter.loaded byte)) :
    i8254Device.Triple (ChangedAt chip n before)
      (sysOutb (0x40 + n.val) byte : Program Message Nat) (fun code last =>
        (code = 0 → ChangedAt chip n after last) ∧ (code ≠ 0 → ChangedAt chip n before last)) := by
  refine sysOutb_triple (fun reached done last changed moved => ?_)
  cases done with
  | false =>
      cases moved
      exact ⟨fun zero => absurd zero (by decide), fun _ => changed⟩
  | true =>
      obtain rfl : reached.written (0x40 + n.val) byte = last := Option.some.inj moved
      have data : 0x40 + n.val ≠ 0x43 := by omega
      refine ⟨fun _ => ⟨?_, ?_⟩, fun other => absurd rfl other⟩
      · rw [Chip.written, if_neg data, if_pos rfl]
        exact loads _ changed.1
      · intro m other
        have elsewhere : 0x40 + n.val ≠ 0x40 + m.val := fun same => other (Fin.ext (by omega))
        rw [Chip.written, if_neg data, if_neg elsewhere]
        exact changed.2 m other

theorem loaded_first {control lsb : UInt8} {number : Nat} {counter : Counter}
    (access : control &&& 0x30 = 0x30) (reads : counter.Reads control number none) :
    (counter.loaded lsb).Reads control number (some lsb) := by
  obtain ⟨same, kept, first, latched⟩ := reads
  have bits : counter.control &&& 0x30 = 0x30 := by rw [same, access]
  rw [Counter.loaded, if_neg (by rw [bits]; decide), if_neg (by rw [bits]; decide), first]
  exact ⟨same, kept, rfl, latched⟩

theorem loaded_second {control lsb msb : UInt8} {number : Nat} {counter : Counter}
    (access : control &&& 0x30 = 0x30) (reads : counter.Reads control number (some lsb)) :
    (counter.loaded msb).Reads control (lsb.toNat + 256 * msb.toNat) none := by
  obtain ⟨same, _, first, latched⟩ := reads
  have bits : counter.control &&& 0x30 = 0x30 := by rw [same, access]
  rw [Counter.loaded, if_neg (by rw [bits]; decide), if_neg (by rw [bits]; decide), first]
  exact ⟨same, rfl, rfl, latched⟩

theorem control_triple {n : Fin 3} {st : UInt8} (status : st &&& 0x3F = (chip n).control) :
    i8254Device.Triple (fun last => Kept chip last ∧ (last n).latched = none)
      (sysOutb i8254.timerCtrl (st &&& 0x0F ||| i8254.timerLsbMsb ||| UInt8.ofNat (64 * n)) :
        Program Message Nat)
      (fun code last => (code ≠ 0 ∧ Kept chip last) ∨
        (code = 0 ∧ ChangedAt chip n (Counter.Reads (chip n).twoBytes (chip n).number none) last)) := by
  refine sysOutb_triple (fun before done last reached moved => ?_)
  obtain ⟨kept, unread⟩ := reached
  cases done with
  | false =>
      cases moved
      exact .inl ⟨by decide, kept⟩
  | true =>
      obtain rfl : before.written 0x43 _ = last := Option.some.inj moved
      refine .inr ⟨rfl, ?_, fun m other => ?_⟩
      · have written := (commanded_control n n st (before n)).2 rfl unread
        have low : st &&& 0x0F = (chip n).control &&& 0x0F := by
          rw [← status, (control_bits st).2.2]
        rw [Chip.written, if_pos rfl, Counter.twoBytes, ← low, ← (kept n).1.number]
        exact written
      · rw [Chip.written, if_pos rfl, (commanded_control n m st (before m)).1 other]
        exact kept m

theorem setFrequency_triple (timer : UInt8) (freq : UInt32) :
    i8254Device.Triple (Kept chip) (timerSetFrequency timer freq : Program Message Nat)
      (fun code last => Adjusted timer chip last ∧ (code = 0 → ∃ n : Fin 3,
        timer = UInt8.ofNat n ∧
          (last n).Reads (chip n).twoBytes (1193182 / freq.toNat) none)) := by
  have failed : ∀ last, Adjusted timer chip last → Adjusted timer chip last ∧ (1 = 0 →
      ∃ n : Fin 3, timer = UInt8.ofNat n ∧
        (last n).Reads (chip n).twoBytes (1193182 / freq.toNat) none) :=
    fun last adjusted => ⟨adjusted, fun zero => by cases zero⟩
  rw [timerSetFrequency, setFrequency]
  by_cases wrong : freq < 19 ∨ i8254.timerFreq < freq
  · rw [if_pos wrong]
    exact .pure (fun last kept => failed last (Kept.adjusted kept))
  · by_cases large : 2 < timer
    · rw [if_neg wrong, if_pos large]
      exact .pure (fun last kept => failed last (Kept.adjusted kept))
    · rw [if_neg wrong, if_neg large]
      rw [not_or, UInt32.not_lt, UInt32.not_lt] at wrong
      refine (getConf_triple timer).bind (fun value => ?_)
      cases value with
      | none => exact .pure (fun last reached => failed last reached.1.adjusted)
      | some st =>
          obtain ⟨n, rfl, -⟩ := exists_counter (UInt8.not_lt.mp large)
          dsimp only
          rw [select_counter]
          dsimp only [utils]
          intro before reached
          obtain ⟨kept, status⟩ := reached
          obtain ⟨m, same, control, unread⟩ := status st rfl
          obtain rfl := counter_inj same
          have access := (control_bits (chip n).control).2.1
          refine check_triple (control_triple control) ?_ ?_ before ⟨kept, unread⟩
          · have begun : ∀ last, ((0 : Nat) ≠ 0 ∧ Kept chip last) ∨ (0 = 0 ∧ ChangedAt chip n
                (Counter.Reads (chip n).twoBytes (chip n).number none) last) →
                ChangedAt chip n (Counter.Reads (chip n).twoBytes (chip n).number none) last := by
              rintro last (⟨other, _⟩ | ⟨_, changed⟩)
              · exact absurd rfl other
              · exact changed
            refine check_triple ((load_triple (fun _ => loaded_first access)).mono begun
              (fun _ _ loaded => loaded)) ?_ ?_
            · refine check_triple ((load_triple (fun _ => loaded_second access)).mono
                (fun _ loaded => loaded.1 rfl) (fun _ _ loaded => loaded)) (.pure ?_) ?_
              · intro last loaded
                have changed := loaded.1 rfl
                rw [lsb_add_msb, (divisor_toNat wrong.1 wrong.2).1] at changed
                exact ⟨changed.adjusted, fun _ => ⟨n, rfl, changed.1⟩⟩
              · exact fun code last other loaded => failed last (loaded.2 other).adjusted
            · exact fun code last other loaded => failed last (loaded.2 other).adjusted
          · rintro code last other (⟨_, kept⟩ | ⟨zero, _⟩)
            · exact failed last kept.adjusted
            · exact absurd zero other

inductive TimerCall where
  | timeBase (timer : UInt8) (freq : UInt32)
  | readConfig (timer : UInt8) (field : TimerStatusField)
  deriving DecidableEq, Repr

def TimerCall.run (print : Print) : TimerCall → Program Message (Nat × Option TimerStatusFieldVal)
  | .timeBase timer freq => do return (← timerTestTimeBase timer freq, none)
  | .readConfig timer field => timerTestReadConfig print timer field

def runCalls (print : Print) : List TimerCall →
    Program Message (List (Nat × Option TimerStatusFieldVal))
  | [] => return []
  | call :: calls => do
      let result ← call.run print
      return result :: (← runCalls print calls)

/-- The two bytes of a counter after a test that returned `code`, if the test does not leave them
open: one that fails may have written one of them. -/
def TimerCall.number (n : Fin 3) (known : Option Nat) (code : Nat) : TimerCall → Option Nat
  | .timeBase timer freq =>
      if timer ≠ UInt8.ofNat n then known
      else if code = 0 then some (1193182 / freq.toNat)
      else none
  | .readConfig _ _ => known

def numberAfter (n : Fin 3) : Option Nat → List (TimerCall × Nat) → Option Nat
  | known, [] => known
  | known, (call, code) :: later => numberAfter n (call.number n known code) later

def Counter.Has (counter : Counter) (known : Option Nat) : Prop :=
  ∀ number ∈ known, counter.number = number ∧ counter.first = none

structure Counter.Follows (control : UInt8) (known : Option Nat) (counter : Counter) : Prop where
  settled : counter.Settled
  base : counter.control &&& 0x0F = control &&& 0x0F
  has : counter.Has known

theorem Counter.Same.has {counter last : Counter} {known : Option Nat} (same : counter.Same last)
    (has : counter.Has known) : last.Has known := by
  intro number member
  rw [same.number, same.first]
  exact has number member

theorem timeBase_triple (timer : UInt8) (freq : UInt32) :
    i8254Device.Triple (Kept chip) (timerTestTimeBase timer freq : Program Message Nat)
      (fun code last => Adjusted timer chip last ∧ (code = 0 → ∃ n : Fin 3,
        timer = UInt8.ofNat n ∧
          (last n).Reads (chip n).twoBytes (1193182 / freq.toNat) none)) := by
  refine check_triple (setFrequency_triple timer freq) (.pure (fun last ends => ends)) ?_
  exact fun code last other ends => ⟨ends.1, fun zero => by cases zero⟩

theorem readConfig_triple (print : Print) (timer : UInt8) (field : TimerStatusField) :
    i8254Device.Triple (Kept chip) (timerTestReadConfig print timer field : Program Message _)
      (fun result last => Kept chip last ∧ ∀ val, result.2 = some val → ∃ (n : Fin 3) (st : UInt8),
        timer = UInt8.ofNat n ∧ st &&& 0x3F = (chip n).control ∧ val = statusFieldVal st field) := by
  refine (getConf_triple timer).bind (fun value => ?_)
  cases value with
  | none => exact .pure (fun last reached => ⟨reached.1, fun val absent => by cases absent⟩)
  | some st =>
      have shown : ∀ val, (timerDisplayConf print timer st field).2 = some val →
          val = statusFieldVal st field := by
        intro val printed
        rw [timerDisplayConf] at printed
        split at printed
        · cases printed
        · dsimp only at printed
          split at printed
          · exact (Option.some.inj printed).symm
          · exact (Option.some.inj printed).symm
      have returned : ∀ last, (Kept chip last ∧ ∀ status, some st = some status →
          ∃ n : Fin 3, timer = UInt8.ofNat n ∧ status &&& 0x3F = (chip n).control ∧
            (last n).latched = none) → Kept chip last ∧
          ∀ val, (timerDisplayConf print timer st field).2 = some val →
            ∃ (n : Fin 3) (st : UInt8), timer = UInt8.ofNat n ∧ st &&& 0x3F = (chip n).control ∧
              val = statusFieldVal st field := by
        rintro last ⟨kept, status⟩
        obtain ⟨n, same, control, _⟩ := status st rfl
        exact ⟨kept, fun val printed => ⟨n, st, same, control, shown val printed⟩⟩
      dsimp only
      split
      · exact .pure returned
      · exact .pure returned

theorem call_triple (print : Print) (call : TimerCall) (n : Fin 3) (control : UInt8)
    (known : Option Nat) :
    i8254Device.Triple
      (fun last => (∀ m, (last m).Settled) ∧ (last n).Follows control known)
      (call.run print : Program Message _)
      (fun result last => (∀ m, (last m).Settled) ∧
        (last n).Follows control (call.number n known result.1)) := by
  intro chip begins
  obtain ⟨settled, follows⟩ := begins
  suffices i8254Device.Triple (Kept chip) (call.run print : Program Message _) (fun result last =>
      (∀ m, (last m).Settled) ∧ (last n).Follows control (call.number n known result.1)) from
    this chip (kept_refl settled)
  cases call with
  | timeBase timer freq =>
      refine (timeBase_triple timer freq).bind (fun code => .pure (fun last ends => ?_))
      obtain ⟨adjusted, programmed⟩ := ends
      refine ⟨adjusted.settled, adjusted.settled n, (adjusted.base n).trans follows.base, ?_⟩
      rw [TimerCall.number]
      split
      · exact (adjusted.others n ‹_›).has follows.has
      · split
        · rintro number ⟨⟩
          obtain ⟨m, same, reads⟩ := programmed ‹_›
          obtain rfl := counter_inj ((not_not.mp ‹¬ timer ≠ _›).symm.trans same)
          exact ⟨reads.number, reads.first⟩
        · rintro number ⟨⟩
  | readConfig timer field =>
      refine (readConfig_triple print timer field).mono (fun _ kept => kept)
        (fun result last ends => ?_)
      have same := (ends.1 n).1
      exact ⟨fun m => (ends.1 m).2, (ends.1 n).2,
        (congrArg (· &&& 0x0F) same.control).trans follows.base, same.has follows.has⟩

theorem runCalls_triple (print : Print) (calls : List TimerCall) (n : Fin 3) (control : UInt8)
    (known : Option Nat) :
    i8254Device.Triple
      (fun last => (∀ m, (last m).Settled) ∧ (last n).Follows control known)
      (runCalls print calls : Program Message _)
      (fun results last => (∀ m, (last m).Settled) ∧ results.length = calls.length ∧
        (last n).Follows control
          (numberAfter n known (calls.zip (results.map Prod.fst)))) := by
  induction calls generalizing known with
  | nil => exact .pure (fun last begins => ⟨begins.1, rfl, begins.2⟩)
  | cons call calls ih =>
      refine (call_triple print call n control known).bind (fun result => ?_)
      refine (ih _).bind (fun results => .pure (fun last ends => ?_))
      exact ⟨ends.1, congrArg (· + 1) ends.2.1, ends.2.2⟩

theorem bcd_bit {control last : UInt8} (base : last &&& 0x0F = control &&& 0x0F) :
    last &&& 0x01 = control &&& 0x01 := by
  have lowest (value : UInt8) : value &&& 0x0F &&& 0x01 = value &&& 0x01 := by
    rw [UInt8.and_assoc]
    rfl
  rw [← lowest, base, lowest]

def access (control : UInt8) : TimerInit :=
  if control &&& 0x30 = 0x10 then .lsbOnly
  else if control &&& 0x30 = 0x20 then .msbOnly
  else if control &&& 0x30 = 0x30 then .msbAfterLsb
  else .invalVal

def Counter.Shows (counter : Counter) : TimerStatusField → TimerStatusFieldVal → Prop
  | .all, .byte st => st &&& 0x3F = counter.control
  | .initial, .inMode mode => mode = access counter.control
  | .mode, .countMode mode => mode.toNat = counter.control.toNat / 2 % 8
  | .base, .bcd value => value = decide (counter.control.toNat % 2 = 1)
  | _, _ => False

theorem shown_fields (st : UInt8) :
    (TimerInit.ofByte ((st &&& (0x10 ||| 0x20)) >>> 4) = access (st &&& 0x3F) ∧
      (TimerInit.ofByte (st &&& 0x20 &&& 0x10) = access (st &&& 0x3F) ↔
        st &&& 0x3F &&& 0x30 = 0)) ∧
    (((st &&& (0x02 ||| 0x04 ||| 0x08)) >>> 1).toNat = (st &&& 0x3F).toNat / 2 % 8 ∧
      ((st &&& 0x02 &&& 0x04 &&& 0x08).toNat = (st &&& 0x3F).toNat / 2 % 8 ↔
        st &&& 0x3F &&& 0x0E = 0)) ∧
    ((if st &&& 0x01 ≠ 0 then true else false) = decide ((st &&& 0x3F).toNat % 2 = 1) ∧
      (if st &&& 0x01 = 1 then true else false) = decide ((st &&& 0x3F).toNat % 2 = 1)) := by
  have bytes : ∀ st : BitVec 8,
      (TimerInit.ofByte ((UInt8.ofBitVec st &&& (0x10 ||| 0x20)) >>> 4) =
          access (UInt8.ofBitVec st &&& 0x3F) ∧
        (TimerInit.ofByte (UInt8.ofBitVec st &&& 0x20 &&& 0x10) =
          access (UInt8.ofBitVec st &&& 0x3F) ↔ UInt8.ofBitVec st &&& 0x3F &&& 0x30 = 0)) ∧
      (((UInt8.ofBitVec st &&& (0x02 ||| 0x04 ||| 0x08)) >>> 1).toNat =
          (UInt8.ofBitVec st &&& 0x3F).toNat / 2 % 8 ∧
        ((UInt8.ofBitVec st &&& 0x02 &&& 0x04 &&& 0x08).toNat =
          (UInt8.ofBitVec st &&& 0x3F).toNat / 2 % 8 ↔ UInt8.ofBitVec st &&& 0x3F &&& 0x0E = 0)) ∧
      ((if UInt8.ofBitVec st &&& 0x01 ≠ 0 then true else false) =
          decide ((UInt8.ofBitVec st &&& 0x3F).toNat % 2 = 1) ∧
        (if UInt8.ofBitVec st &&& 0x01 = 1 then true else false) =
          decide ((UInt8.ofBitVec st &&& 0x3F).toNat % 2 = 1)) := by
    decide +kernel
  exact bytes st.toBitVec

/-- The value of `lab4` is that of the field, and so is the one of `lab2` where it is no number or
the number is 0. -/
theorem statusFieldVal_shows {counter : Counter} {st : UInt8} (status : st &&& 0x3F = counter.control)
    (field : TimerStatusField) :
    counter.Shows field (Lab4.statusFieldVal st field) ∧
      (counter.Shows field (statusFieldVal st field) ↔
        (field = .initial → counter.control &&& 0x30 = 0) ∧
        (field = .mode → counter.control &&& 0x0E = 0)) := by
  obtain ⟨initial, mode, base⟩ := shown_fields st
  rw [status] at initial mode base
  cases field with
  | all => exact ⟨status, fun _ => ⟨nofun, nofun⟩, fun _ => status⟩
  | initial =>
      exact ⟨initial.1, fun shows => ⟨fun _ => initial.2.mp shows, nofun⟩,
        fun clear => initial.2.mpr (clear.1 rfl)⟩
  | mode =>
      exact ⟨mode.1, fun shows => ⟨nofun, fun _ => mode.2.mp shows⟩,
        fun clear => mode.2.mpr (clear.2 rfl)⟩
  | base => exact ⟨base.1, fun _ => ⟨nofun, nofun⟩, fun _ => base.2⟩

/-- `timer_test_read_config` changes no counter. What it prints is the field of the counter, up to
the two fields that are numbers, for which `lab2` always prints 0; the value that `lab4` would print
is always right. -/
theorem config_shown (print : Print) (timer : UInt8) (field : TimerStatusField)
    (answers : List (Answer (Reply Message)))
    (ended : Ended (Reply Message) (Nat × Option TimerStatusFieldVal))
    (ran : timerTestReadConfig print timer field answers = some ended) (chip last : Chip)
    (settled : ∀ n, (chip n).Settled)
    (answered : i8254Device.after ended.trace chip = some last) :
    (∀ n, (chip n).Same (last n) ∧ (last n).Settled) ∧
      ∀ val, ended.value.2 = some val → ∃ (n : Fin 3) (st : UInt8), timer = UInt8.ofNat n ∧
        val = statusFieldVal st field ∧
        ((chip n).Shows field val ↔ (field = .initial → (chip n).control &&& 0x30 = 0) ∧
          (field = .mode → (chip n).control &&& 0x0E = 0)) ∧
        (chip n).Shows field (Lab4.statusFieldVal st field) := by
  obtain ⟨kept, shown⟩ := readConfig_triple print timer field chip (kept_refl settled) answers ended
    ran last answered
  refine ⟨kept, fun val printed => ?_⟩
  obtain ⟨n, st, same, control, rfl⟩ := shown val printed
  have shows := statusFieldVal_shows control field
  exact ⟨n, st, same, rfl, shows.2, shows.1⟩

def started : Chip := fun _ =>
  { control := 0x36, masked := rfl, lsb := 0, msb := 0, first := none, latched := none }

/-- The bytes of 596, as decimal digits. -/
example : Counter.decimal 596 = some 254 := by decide +kernel

/-- Timer 2 at 60 Hz, timer 0 at 1000 Hz and a look at the mode of timer 2. -/
def sampleCalls : List TimerCall := [.timeBase 2 60, .timeBase 0 1000, .readConfig 2 .mode]

def obliging : Answer (Reply Unit) := answering (fun _ => some 0xF6) true ()

theorem started_settled (m : Fin 3) : (started m).Settled := by
  intro st unread
  cases unread

theorem config_shown_square : ∃ ended last,
    timerTestReadConfig (fun _ _ _ => 0) 2 .mode (List.replicate 2 obliging) = some ended ∧
    i8254Device.after ended.trace started = some last ∧
    (∀ n, (started n).Same (last n) ∧ (last n).Settled) ∧
    ended.value = (0, some (.countMode 0)) ∧ ¬ (started 2).Shows .mode (.countMode 0) := by
  have evaluated : (timerTestReadConfig (fun _ _ _ => 0) 2 .mode (List.replicate 2 obliging)).any
      (fun ended => decide (ended.value = (0, some (.countMode 0))) &&
        (i8254Device.after ended.trace started).isSome) = true := by decide +kernel
  obtain ⟨ended, ran, checked⟩ := (Option.any_eq_true _ _).mp evaluated
  obtain ⟨returned, answers⟩ := Bool.and_eq_true_iff.mp checked
  obtain ⟨last, answered⟩ := Option.isSome_iff_exists.mp answers
  have value := of_decide_eq_true returned
  obtain ⟨kept, shown⟩ := config_shown _ _ _ _ ended ran started last started_settled answered
  obtain ⟨n, st, _, _, shows, _⟩ := shown (.countMode 0) (by rw [value])
  refine ⟨ended, last, ran, answered, kept, value, fun right => ?_⟩
  have clear : (0x36 : UInt8) &&& 0x0E = 0 := (shows.mp right).2 rfl
  exact absurd clear (by decide)

end Lcom.Lab2
