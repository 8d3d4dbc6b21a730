import Lcom.Minix.Receive
import Lcom.Proj.Commands

/-! `timer_get_conf` and `timer_set_frequency`: the file `timer.c` of `lab2`, which `lab5` has as
well, and that of `lab4`. -/

namespace Lcom.Lab2

open Lcom.Lib Lcom.Minix Lcom.Proj

structure I8254 where
  timerFreq : UInt32
  timer0 : Nat
  timer1 : Nat
  timer2 : Nat
  timerCtrl : Nat
  timerSel0 : UInt8
  timerSel1 : UInt8
  timerSel2 : UInt8
  timerRbCmd : UInt8
  timerRbCount : UInt8
  timerLsbMsb : UInt8

def i8254 : I8254 :=
  { timerFreq := 1193182
    timer0 := 0x40
    timer1 := 0x41
    timer2 := 0x42
    timerCtrl := 0x43
    timerSel0 := 0x00
    timerSel1 := 0x40
    timerSel2 := 0x80
    timerRbCmd := 0xC0
    timerRbCount := 0x20
    timerLsbMsb := 0x30 }

def timerRbSel (n : UInt8) : UInt8 := UInt8.ofNat (1 <<< (n.toNat + 1))

structure Utils (Message : Type) where
  utilGetLSB : UInt16 → Option UInt8
  utilGetMSB : UInt16 → Option UInt8
  utilSysInb : Nat → Program Message (Option UInt8)

variable {Message : Type}

/-- The files of `lab2` and `lab4`. Their argument for the result is not `NULL` in the calls. -/
def utils : Utils Message :=
  { utilGetLSB := fun val => some val.toUInt8
    utilGetMSB := fun val => some (val >>> 8).toUInt8
    utilSysInb := Minix.utilSysInb }

variable (header : I8254) (utils : Utils Message)

def select (timer : UInt8) : Option (UInt8 × Nat) :=
  if timer = 0 then some (header.timerSel0, header.timer0)
  else if timer = 1 then some (header.timerSel1, header.timer1)
  else if timer = 2 then some (header.timerSel2, header.timer2)
  else none

def getConf (timer : UInt8) : Program Message (Option UInt8) := do
  if 2 < timer then return none
  else
    let readBack := header.timerRbCmd ||| header.timerRbCount ||| timerRbSel timer
    match select header timer with
    | none => return none
    | some (_, timerReg) =>
        if (← sysOutb header.timerCtrl readBack) ≠ 0 then return none
        else utils.utilSysInb timerReg

def setFrequency (timer : UInt8) (freq : UInt32) : Program Message Nat := do
  if freq < 19 ∨ header.timerFreq < freq then return 1
  else if 2 < timer then return 1
  else
    match ← getConf header utils timer with
    | none => return 1
    | some status =>
        let status := status &&& 0x0F
        let controlWord := status ||| header.timerLsbMsb
        let frequency : UInt16 := (header.timerFreq / freq).toUInt16
        match select header timer with
        | none => return 1
        | some (sel, timerReg) =>
            if (← sysOutb header.timerCtrl (controlWord ||| sel)) ≠ 0 then return 1
            else
              match utils.utilGetLSB frequency, utils.utilGetMSB frequency with
              | some lsb, some msb =>
                  if (← sysOutb timerReg lsb) ≠ 0 then return 1
                  else if (← sysOutb timerReg msb) ≠ 0 then return 1
                  else return 0
              | _, _ => return 1

def timerGetConf (timer : UInt8) : Program Message (Option UInt8) := getConf i8254 Lab2.utils timer

def timerSetFrequency (timer : UInt8) (freq : UInt32) : Program Message Nat :=
  setFrequency i8254 Lab2.utils timer freq

end Lcom.Lab2

namespace Lcom.Lab4

open Lcom.Lib Lcom.Minix Lcom.Proj Lcom.Lab2

variable {Message : Type}

def timerGetConf (timer : UInt8) : Program Message (Option UInt8) := do
  let readBack := i8254.timerRbCount ||| i8254.timerRbCmd ||| timerRbSel timer
  match select i8254 timer with
  | none => return none
  | some (_, port) =>
      if (← sysOutb i8254.timerCtrl readBack) ≠ 0 then return none
      else Lab2.utils.utilSysInb port

def timerSetFrequency (timer : UInt8) (freq : UInt32) : Program Message Nat := do
  if 2 < timer then return 1
  else if freq < 19 ∨ i8254.timerFreq < freq then return 1
  else
    match ← timerGetConf timer with
    | none => return 1
    | some st =>
        let st := st &&& 0x0F
        let controlword := i8254.timerLsbMsb ||| st
        match select i8254 timer with
        | none => return 1
        | some (sel, timerReg) =>
            if (← sysOutb i8254.timerCtrl (controlword ||| sel)) ≠ 0 then return 1
            else
              let f : UInt16 := (i8254.timerFreq / freq).toUInt16
              match (Lab2.utils : Utils Message).utilGetLSB f,
                (Lab2.utils : Utils Message).utilGetMSB f with
              | some lsb, some msb =>
                  if (← sysOutb timerReg lsb) ≠ 0 then return 1
                  else if (← sysOutb timerReg msb) ≠ 0 then return 1
                  else return 0
              | _, _ => return 1

end Lcom.Lab4

namespace Lcom.Lab5

open Lcom.Minix Lcom.Lab2

variable {Message : Type}

/-- The files `i8254.h` and `utils.c` of `lab5` are not in the repository. This is what the others
and `lcom/utils.h` say about them. -/
structure Documented (header : I8254) (utils : Utils Message) : Prop where
  constants : header = i8254
  lsb : ∀ val, utils.utilGetLSB val = some val.toUInt8
  msb : ∀ val, utils.utilGetMSB val = some (val >>> 8).toUInt8
  sysInb : ∀ port, utils.utilSysInb port = Minix.utilSysInb port

def timerSetFrequency (header : I8254) (utils : Utils Message) (timer : UInt8) (freq : UInt32) :
    Program Message Nat := setFrequency header utils timer freq

end Lcom.Lab5

namespace Lcom.Lab2

open Lcom.Lib Lcom.Minix Lcom.Proj

variable {Message : Type}

theorem select_none {timer : UInt8} (large : 2 < timer) : select i8254 timer = none := by
  have bytes : ∀ timer : BitVec 8, 2 < UInt8.ofBitVec timer →
      UInt8.ofBitVec timer ≠ 0 ∧ UInt8.ofBitVec timer ≠ 1 ∧ UInt8.ofBitVec timer ≠ 2 := by
    decide +kernel
  have other : timer ≠ 0 ∧ timer ≠ 1 ∧ timer ≠ 2 := bytes timer.toBitVec large
  simp only [select, other.1, other.2.1, other.2.2, if_false]

/-- The test that `lab4` does not make is the last case of its `switch`. -/
theorem lab4_timerGetConf (timer : UInt8) :
    (Lab4.timerGetConf timer : Program Message _) = timerGetConf timer := by
  rw [Lab4.timerGetConf, timerGetConf, getConf, UInt8.or_comm i8254.timerRbCount]
  by_cases large : 2 < timer
  · rw [select_none large, if_pos large]
  · rw [if_neg large]

theorem lab4_timerSetFrequency (timer : UInt8) (freq : UInt32) :
    (Lab4.timerSetFrequency timer freq : Program Message _) = timerSetFrequency timer freq := by
  rw [Lab4.timerSetFrequency, timerSetFrequency, setFrequency, lab4_timerGetConf, timerGetConf]
  by_cases wrong : freq < 19 ∨ i8254.timerFreq < freq
  · rw [if_pos wrong, if_pos wrong, ite_self]
  · rw [if_neg wrong, if_neg wrong]
    simp only [UInt8.or_comm i8254.timerLsbMsb]

theorem documented_utils {header : I8254} {missing : Utils Message}
    (documented : Lab5.Documented header missing) : missing = utils := by
  cases missing
  rw [utils, Utils.mk.injEq]
  exact ⟨funext documented.lsb, funext documented.msb, funext documented.sysInb⟩

theorem lab5_timerSetFrequency {header : I8254} {missing : Utils Message}
    (documented : Lab5.Documented header missing) (timer : UInt8) (freq : UInt32) :
    Lab5.timerSetFrequency header missing timer freq = timerSetFrequency timer freq := by
  rw [Lab5.timerSetFrequency, timerSetFrequency, documented.constants,
    documented_utils documented]

def Valid (timer : UInt8) (freq : UInt32) : Prop := timer ≤ 2 ∧ 19 ≤ freq ∧ freq ≤ 1193182

theorem timerSetFrequency_invalid {timer : UInt8} {freq : UInt32} (invalid : ¬ Valid timer freq)
    (answers : List (Answer (Reply Message))) :
    timerSetFrequency timer freq answers = some ⟨1, [], answers⟩ := by
  rw [timerSetFrequency, setFrequency]
  by_cases wrong : freq < 19 ∨ i8254.timerFreq < freq
  · rw [if_pos wrong]
    rfl
  · rw [if_neg wrong, if_pos]
    · rfl
    · by_contra small
      rw [not_or, UInt32.not_lt, UInt32.not_lt] at wrong
      exact invalid ⟨UInt8.not_lt.mp small, wrong.1, wrong.2⟩

theorem lsb_add_msb (val : UInt16) :
    val.toUInt8.toNat + 256 * (val >>> 8).toUInt8.toNat = val.toNat := by
  have small := val.toNat_lt
  rw [UInt16.toNat_toUInt8, UInt16.toNat_toUInt8, UInt16.toNat_shiftRight]
  change val.toNat % 256 + 256 * (val.toNat >>> 8 % 256) = val.toNat
  rw [Nat.shiftRight_eq_div_pow]
  omega

/-- With 19 as the least frequency the divisor fits in 16 bits, and it is not 0. -/
theorem divisor_toNat {freq : UInt32} (low : 19 ≤ freq) (high : freq ≤ 1193182) :
    (i8254.timerFreq / freq).toUInt16.toNat = 1193182 / freq.toNat ∧ 1193182 / freq.toNat ≠ 0 := by
  have low : 19 ≤ freq.toNat := UInt32.le_iff_toNat_le.mp low
  have high : freq.toNat ≤ 1193182 := UInt32.le_iff_toNat_le.mp high
  have fits : 1193182 / freq.toNat ≤ 1193182 / 19 := Nat.div_le_div_left low (by decide)
  constructor
  · rw [UInt32.toNat_toUInt16, UInt32.toNat_div]
    exact Nat.mod_eq_of_lt (Nat.lt_of_le_of_lt fits (by decide))
  · exact Nat.ne_of_gt (Nat.div_pos high (by omega))

theorem select_some {timer : UInt8} (small : timer ≤ 2) :
    ∃ sel, select i8254 timer = some (sel, 0x40 + timer.toNat) ∧
      (i8254.timerRbCmd ||| i8254.timerRbCount ||| timerRbSel timer).toNat =
        0xE0 ||| 2 ^ (timer.toNat + 1) ∧
      ∀ st : UInt8, (st &&& 0x0F ||| i8254.timerLsbMsb ||| sel).toNat =
        st.toNat % 16 + 0x30 + 64 * timer.toNat := by
  have bytes : ∀ timer : BitVec 8, UInt8.ofBitVec timer ≤ 2 →
      UInt8.ofBitVec timer = 0 ∨ UInt8.ofBitVec timer = 1 ∨ UInt8.ofBitVec timer = 2 := by
    decide +kernel
  have fields : ∀ st : BitVec 8,
      (UInt8.ofBitVec st &&& 0x0F ||| 0x30 ||| 0x00).toNat = st.toNat % 16 + 0x30 + 64 * 0 ∧
      (UInt8.ofBitVec st &&& 0x0F ||| 0x30 ||| 0x40).toNat = st.toNat % 16 + 0x30 + 64 * 1 ∧
      (UInt8.ofBitVec st &&& 0x0F ||| 0x30 ||| 0x80).toNat = st.toNat % 16 + 0x30 + 64 * 2 := by
    decide +kernel
  have cases : timer = 0 ∨ timer = 1 ∨ timer = 2 := bytes timer.toBitVec small
  rcases cases with rfl | rfl | rfl
  · exact ⟨0x00, rfl, by decide, fun st => (fields st.toBitVec).1⟩
  · exact ⟨0x40, rfl, by decide, fun st => (fields st.toBitVec).2.1⟩
  · exact ⟨0x80, rfl, by decide, fun st => (fields st.toBitVec).2.2⟩

structure Succeeds (st : UInt8) (answer : Answer (Reply Message)) : Prop where
  sysOutb : ∀ port value, answer (.sysOutb port value) = true
  sysInb : ∀ port, ∃ aux, answer (.sysInb port) = some aux ∧ aux.toUInt8 = st

theorem sysOutb_true {α : Type} {st : UInt8} {answer : Answer (Reply Message)}
    (succeeds : Succeeds st answer) (port : Nat) (value : UInt8) (next : Nat → Program Message α)
    (rest : List (Answer (Reply Message))) :
    (sysOutb port value >>= next) (answer :: rest) = (next 0 rest).map
      (fun ended => { ended with trace := ⟨.sysOutb port value, true⟩ :: ended.trace }) :=
  sysOutb_cons port value next answer rest true (succeeds.sysOutb port value)

theorem getConf_succeeds {timer : UInt8} (small : timer ≤ 2) {sel : UInt8} {timerReg : Nat}
    (selected : select i8254 timer = some (sel, timerReg)) {st : UInt8} {aux : UInt32}
    {first second : Answer (Reply Message)} (succeeds : Succeeds st first)
    (reply : second (.sysInb timerReg) = some aux) (rest : List (Answer (Reply Message))) :
    getConf i8254 utils timer (first :: second :: rest) = some ⟨some aux.toUInt8,
      [⟨.sysOutb 0x43 (i8254.timerRbCmd ||| i8254.timerRbCount ||| timerRbSel timer), true⟩,
        ⟨.sysInb timerReg, some aux⟩], rest⟩ := by
  rw [getConf, if_neg (UInt8.not_lt.mpr small), selected]
  dsimp only
  rw [sysOutb_true succeeds, if_neg (by decide)]
  change some (Ended.mk ((second (.sysInb timerReg) : Option UInt32).map UInt32.toUInt8)
    [⟨.sysOutb 0x43 _, true⟩, ⟨.sysInb timerReg, second (.sysInb timerReg)⟩] rest) = _
  rw [reply]
  rfl

theorem timerSetFrequency_valid {timer : UInt8} {freq : UInt32} (valid : Valid timer freq)
    {st : UInt8} {first second third fourth fifth : Answer (Reply Message)}
    (succeed : ∀ answer ∈ [first, second, third, fourth, fifth], Succeeds st answer)
    (rest : List (Answer (Reply Message))) :
    ∃ readBack controlWord lsb msb aux,
      timerSetFrequency timer freq (first :: second :: third :: fourth :: fifth :: rest) =
        some ⟨0, [⟨.sysOutb 0x43 readBack, true⟩, ⟨.sysInb (0x40 + timer.toNat), some aux⟩,
          ⟨.sysOutb 0x43 controlWord, true⟩, ⟨.sysOutb (0x40 + timer.toNat) lsb, true⟩,
          ⟨.sysOutb (0x40 + timer.toNat) msb, true⟩], rest⟩ ∧
      aux.toUInt8 = st ∧
      readBack.toNat = 0xE0 ||| 2 ^ (timer.toNat + 1) ∧
      controlWord.toNat = st.toNat % 16 + 0x30 + 64 * timer.toNat ∧
      lsb.toNat + 256 * msb.toNat = 1193182 / freq.toNat ∧ 1193182 / freq.toNat ≠ 0 := by
  obtain ⟨small, low, high⟩ := valid
  obtain ⟨sel, selected, readBack, control⟩ := select_some small
  obtain ⟨aux, reply, byte⟩ := (succeed second (by simp)).sysInb (0x40 + timer.toNat)
  have divisor := divisor_toNat low high
  refine ⟨_, _, (i8254.timerFreq / freq).toUInt16.toUInt8,
    ((i8254.timerFreq / freq).toUInt16 >>> 8).toUInt8, aux, ?_, byte, readBack, control st,
    (lsb_add_msb _).trans divisor.1, divisor.2⟩
  have inRange : ¬ (freq < 19 ∨ i8254.timerFreq < freq) :=
    not_or.mpr ⟨UInt32.not_lt.mpr low, UInt32.not_lt.mpr high⟩
  rw [timerSetFrequency, setFrequency, if_neg inRange, if_neg (UInt8.not_lt.mpr small)]
  change (getConf i8254 utils timer _).bind _ = _
  rw [getConf_succeeds small selected (succeed first (by simp)) reply, Option.bind_some, byte]
  dsimp only
  rw [selected]
  dsimp only [utils]
  rw [sysOutb_true (succeed third (by simp)), if_neg (by decide),
    sysOutb_true (succeed fourth (by simp)), if_neg (by decide),
    sysOutb_true (succeed fifth (by simp)), if_neg (by decide)]
  rfl

/-- The function succeeds on the three timers with a frequency from 19 to that of the chip, and then
it writes the read-back command, the control word that keeps the mode and the base of the status,
and the divisor; on other arguments it does not touch a port. All copies do the same. -/
theorem timerSetFrequency_programs {header : I8254} {missing : Utils Message}
    (documented : Lab5.Documented header missing) (timer : UInt8) (freq : UInt32) :
    (∀ (st : UInt8) (first second third fourth fifth : Answer (Reply Message)) rest,
      (∀ answer ∈ [first, second, third, fourth, fifth], Succeeds st answer) →
      ((∃ trace left, timerSetFrequency timer freq
          (first :: second :: third :: fourth :: fifth :: rest) = some ⟨0, trace, left⟩) ↔
        timer ≤ 2 ∧ 19 ≤ freq ∧ freq ≤ 1193182) ∧
      (timer ≤ 2 ∧ 19 ≤ freq ∧ freq ≤ 1193182 → ∃ readBack controlWord lsb msb aux,
        timerSetFrequency timer freq (first :: second :: third :: fourth :: fifth :: rest) =
          some ⟨0, [⟨.sysOutb 0x43 readBack, true⟩, ⟨.sysInb (0x40 + timer.toNat), some aux⟩,
            ⟨.sysOutb 0x43 controlWord, true⟩, ⟨.sysOutb (0x40 + timer.toNat) lsb, true⟩,
            ⟨.sysOutb (0x40 + timer.toNat) msb, true⟩], rest⟩ ∧
        aux.toUInt8 = st ∧
        readBack.toNat = 0xE0 ||| 2 ^ (timer.toNat + 1) ∧
        controlWord.toNat = st.toNat % 16 + 0x30 + 64 * timer.toNat ∧
        lsb.toNat + 256 * msb.toNat = 1193182 / freq.toNat ∧ 1193182 / freq.toNat ≠ 0)) ∧
    (¬ (timer ≤ 2 ∧ 19 ≤ freq ∧ freq ≤ 1193182) → ∀ answers : List (Answer (Reply Message)),
      timerSetFrequency timer freq answers = some ⟨1, [], answers⟩) ∧
    (Lab4.timerSetFrequency timer freq : Program Message Nat) = timerSetFrequency timer freq ∧
    Lab5.timerSetFrequency header missing timer freq = timerSetFrequency timer freq := by
  refine ⟨?_, timerSetFrequency_invalid, lab4_timerSetFrequency timer freq,
    lab5_timerSetFrequency documented timer freq⟩
  intro st first second third fourth fifth rest succeed
  refine ⟨⟨?_, ?_⟩, fun valid => timerSetFrequency_valid valid succeed rest⟩
  · rintro ⟨trace, left, ran⟩
    by_contra invalid
    rw [timerSetFrequency_invalid invalid] at ran
    cases ran
  · intro valid
    obtain ⟨_, _, _, _, _, ran, -⟩ := timerSetFrequency_valid valid succeed rest
    exact ⟨_, rest, ran⟩

/-- Timer 2 at 60 Hz, with a status of 0xB6 and the files of `lab2` for those of `lab5`. -/
theorem timerSetFrequency_programs_sixty :
    ∃ trace left, Lab5.timerSetFrequency i8254 utils 2 60
      (List.replicate 5 (answering (fun _ => some 0xB6) true ())) = some ⟨0, trace, left⟩ := by
  obtain ⟨runs, -, -, same⟩ := timerSetFrequency_programs
    (⟨rfl, fun _ => rfl, fun _ => rfl, fun _ => rfl⟩ : Lab5.Documented i8254 (utils : Utils Unit)) 2 60
  rw [same]
  refine (runs 0xB6 _ _ _ _ _ [] ?_).1.mpr (by decide)
  intro answer member
  obtain rfl : answer = answering (fun _ => some 0xB6) true () := by simpa using member
  exact ⟨fun _ _ => rfl, fun _ => ⟨0xB6, rfl, rfl⟩⟩

end Lcom.Lab2
