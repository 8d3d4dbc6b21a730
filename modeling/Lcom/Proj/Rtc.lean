import Lcom.Minix.Triples
import Lcom.Proj.SwitchedOff

/-! What `game_loop` does to the registers of the real-time clock. -/

namespace Lcom.Proj

open Lcom.Lib Lcom.Minix

variable {Message : Type} {α : Type}

/-- The registers, and the one that the data port gives access to. -/
structure Rtc where
  index : UInt8
  registers : UInt8 → UInt8

def Rtc.written (rtc : Rtc) (port : Nat) (value : UInt8) : Rtc :=
  if port = rtcAddrReg then { rtc with index := value }
  else if port = rtcDataReg then
    { rtc with registers := Function.update rtc.registers rtc.index value }
  else rtc

def rtcDevice : Device (Reply Message) Rtc
  | ⟨.sysOutb port value, done⟩, rtc =>
      let done : Bool := done
      some (if done then rtc.written port value else rtc)
  | ⟨.sysInb port, aux⟩, rtc =>
      let aux : Option UInt32 := aux
      if port = rtcDataReg ∧ aux.any (fun aux => aux.toUInt8 != rtc.registers rtc.index) then none
      else some rtc
  | _, rtc => some rtc

theorem rtcDevice_sysOutb {port : Nat} (value : UInt8)
    (other : port ≠ rtcAddrReg ∧ port ≠ rtcDataReg) :
    rtcDevice.Unaware (sysOutb port value : Program Message Nat) := by
  refine sysOutb_unaware (fun rtc done => ?_)
  cases done with
  | false => rfl
  | true =>
      change some (rtc.written port value) = some rtc
      rw [Rtc.written, if_neg other.1, if_neg other.2]

theorem rtcDevice_utilSysInb {port : Nat} (other : port ≠ rtcDataReg) :
    rtcDevice.Unaware (utilSysInb port : Program Message (Option UInt8)) :=
  utilSysInb_unaware (fun _ _ => if_neg (fun both => other both.1))

theorem subscribeInt_unaware (irq : Nat) (exclusive : Bool) (hook : Hook) :
    rtcDevice.Unaware (subscribeInt irq exclusive hook : Program Message Nat) :=
  .bind (.ask (fun _ _ => rfl)) (fun _ => .pure _)

theorem unsubscribeInt_unaware (hook : Hook) :
    rtcDevice.Unaware (unsubscribeInt hook : Program Message Nat) :=
  .bind (.ask (fun _ _ => rfl)) (fun _ => .pure _)

theorem sendMouseCommand_unaware {δ : Type} {device : Device (Reply Message) δ}
    (reads : ∀ port, port = statReg ∨ port = outBuf →
      device.Unaware (utilSysInb port : Program Message _))
    (writes : ∀ port value, port = statReg ∨ port = argsReg →
      device.Unaware (sysOutb port value : Program Message _))
    (delays : device.Unaware (tickdelay 20000 : Program Message Unit)) (cmd : UInt8) (s : Sending) :
    device.Unaware (sendMouseCommand cmd s : Program Message _) := by
  refine .loop s (fun s => ?_)
  refine .bind (reads _ (.inl rfl)) (fun status => ?_)
  cases status with
  | none => exact .pure _
  | some stat =>
      dsimp only
      split
      · exact .pure _
      · refine .bind (writes _ _ (.inl rfl)) (fun code => ?_)
        split
        · exact .pure _
        · refine .bind (reads _ (.inl rfl)) (fun status => ?_)
          cases status with
          | none => exact .pure _
          | some stat =>
              dsimp only
              split
              · exact .pure _
              · refine .bind (writes _ _ (.inr rfl)) (fun code => ?_)
                split
                · exact .pure _
                · refine .bind delays (fun _ => ?_)
                  refine .bind (reads _ (.inr rfl)) (fun reply => ?_)
                  cases reply with
                  | none => exact .pure _
                  | some reply =>
                      simp only [ite_self]
                      split
                      · exact .pure _
                      · exact .pure _

theorem rtcDevice_sendMouseCommand (cmd : UInt8) (s : Sending) :
    rtcDevice.Unaware (sendMouseCommand cmd s : Program Message _) := by
  refine sendMouseCommand_unaware ?_ ?_ (.ask (fun _ _ => rfl)) cmd s
  · rintro port (rfl | rfl)
    · exact rtcDevice_utilSysInb (by decide)
    · exact rtcDevice_utilSysInb (by decide)
  · rintro port value (rfl | rfl)
    · exact rtcDevice_sysOutb value (by decide)
    · exact rtcDevice_sysOutb value (by decide)

variable {pre : Rtc → Prop} {post : α → Rtc → Prop} {registers : UInt8 → UInt8}

theorem rtcDevice_written (port : Nat) (value : UInt8) :
    rtcDevice.Triple pre (sysOutb port value : Program Message Nat) (fun code last =>
      ∃ rtc, pre rtc ∧ last = if code = 0 then rtc.written port value else rtc) := by
  refine sysOutb_triple (fun rtc done last begins moved => ⟨rtc, begins, ?_⟩)
  rw [← Option.some.inj moved]
  cases done with
  | false => rfl
  | true => rfl

theorem rtcRead_triple (reg : UInt8) :
    rtcDevice.Triple (fun rtc => rtc.registers = registers)
      (rtcRead reg : Program Message (Option UInt8)) (fun byte last =>
        last.registers = registers ∧ ∀ data, byte = some data → data = registers reg) := by
  refine .bind (rtcDevice_written rtcAddrReg reg) (fun code => ?_)
  by_cases fine : code = 0
  · rw [if_neg (not_not.mpr fine)]
    have selected : rtcDevice.Triple (fun rtc => rtc.registers = registers ∧ rtc.index = reg)
        (utilSysInb rtcDataReg : Program Message (Option UInt8)) (fun byte last =>
          last.registers = registers ∧ ∀ data, byte = some data → data = registers reg) := by
      refine utilSysInb_triple ?_
      rintro rtc aux last ⟨same, index⟩ moved
      change (if rtcDataReg = rtcDataReg ∧ aux.any (fun aux =>
        aux.toUInt8 != rtc.registers rtc.index) then none else some rtc) = some last at moved
      split at moved
      · cases moved
      · rename_i agrees
        cases moved
        refine ⟨same, ?_⟩
        intro data read
        cases aux with
        | none => cases read
        | some aux =>
            rw [← Option.some.inj read, ← same, ← index]
            simpa using agrees
    refine selected.mono ?_ (fun _ _ reached => reached)
    rintro last ⟨rtc, begins, rfl⟩
    rw [if_pos fine]
    exact ⟨begins, rfl⟩
  · rw [if_pos fine]
    refine .pure ?_
    rintro last ⟨rtc, begins, rfl⟩
    rw [if_neg fine]
    exact ⟨begins, fun data none => by cases none⟩

theorem rtcWrite_triple (data reg : UInt8) :
    rtcDevice.Triple (fun rtc => rtc.registers = registers)
      (rtcWrite data reg : Program Message Nat) (fun code last =>
        (code ≠ 0 ∧ last.registers = registers) ∨
          last.registers = Function.update registers reg data) := by
  refine check_triple (rtcDevice_written rtcAddrReg reg) ?_ ?_
  · refine check_triple (rtcDevice_written rtcDataReg data) (.pure ?_) ?_
    · rintro last ⟨_, ⟨rtc, begins, rfl⟩, rfl⟩
      right
      change Function.update rtc.registers reg data = _
      rw [begins]
    · rintro code last failed ⟨_, ⟨rtc, begins, rfl⟩, rfl⟩
      rw [if_neg failed]
      exact .inl ⟨by decide, begins⟩
  · rintro code last failed ⟨rtc, begins, rfl⟩
    rw [if_neg failed]
    exact .inl ⟨by decide, begins⟩

theorem rtcChange_triple (change : UInt8 → UInt8) :
    rtcDevice.Triple (fun rtc => rtc.registers = registers)
      (rtcChange change : Program Message Nat) (fun code last =>
        (code ≠ 0 ∧ last.registers = registers) ∨
          last.registers = Function.update registers regB (change (registers regB))) := by
  refine .bind (rtcRead_triple regB) (fun byte => ?_)
  cases byte with
  | none => exact .pure (fun last read => .inl ⟨by decide, read.1⟩)
  | some data =>
      intro rtc begins
      have read : data = registers regB := begins.2 data rfl
      rw [← read]
      refine check_triple (rtcWrite_triple (change data) regB) (.pure ?_) ?_ rtc begins.1
      · rintro last (⟨failed, _⟩ | written)
        · exact absurd rfl failed
        · exact .inr written
      · rintro code last failed (⟨_, same⟩ | written)
        · exact .inl ⟨by decide, same⟩
        · exact .inr written

def PieOnly (registers : UInt8 → UInt8) (rtc : Rtc) : Prop :=
  ∃ data, rtc.registers = Function.update registers regB data ∧
    data &&& ~~~pie = registers regB &&& ~~~pie

def PieOff (registers : UInt8 → UInt8) (rtc : Rtc) : Prop :=
  rtc.registers = Function.update registers regB (registers regB &&& ~~~pie)

theorem pie_masked (data : UInt8) :
    (data ||| pie) &&& ~~~pie = data &&& ~~~pie ∧ data &&& ~~~pie &&& ~~~pie = data &&& ~~~pie := by
  have bytes : ∀ data : BitVec 8,
      (UInt8.ofBitVec data ||| pie) &&& ~~~pie = UInt8.ofBitVec data &&& ~~~pie ∧
        UInt8.ofBitVec data &&& ~~~pie &&& ~~~pie = UInt8.ofBitVec data &&& ~~~pie := by
    decide +kernel
  exact bytes data.toBitVec

theorem PieOnly.changed {rtc last : Rtc} {change : UInt8 → UInt8} (kept : PieOnly registers rtc)
    (masked : ∀ data, change data &&& ~~~pie = data &&& ~~~pie)
    (written : last.registers =
      Function.update rtc.registers regB (change (rtc.registers regB))) :
    PieOnly registers last := by
  obtain ⟨data, same, bits⟩ := kept
  refine ⟨change data, ?_, (masked data).trans bits⟩
  rw [written, same, Function.update_idem, Function.update_self]

theorem rtcEnable_triple : rtcDevice.Triple (PieOnly registers)
    (rtcEnable : Program Message Nat) (fun _ => PieOnly registers) := by
  intro rtc kept
  refine (rtcChange_triple (· ||| pie) rtc rfl).mono (fun code trace ends last ended => ?_)
  rcases ends last ended with ⟨_, same⟩ | written
  · rw [PieOnly, same]
    exact kept
  · exact kept.changed (fun data => (pie_masked data).1) written

theorem rtcDisable_triple : rtcDevice.Triple (PieOnly registers)
    (rtcDisable : Program Message Nat)
    (fun code last => PieOnly registers last ∧ (code = 0 → PieOff registers last)) := by
  intro rtc kept
  refine (rtcChange_triple (· &&& ~~~pie) rtc rfl).mono (fun code trace ends last ended => ?_)
  rcases ends last ended with ⟨failed, same⟩ | written
  · refine ⟨?_, fun fine => absurd fine failed⟩
    rw [PieOnly, same]
    exact kept
  · refine ⟨kept.changed (fun data => (pie_masked data).2) written, fun _ => ?_⟩
    obtain ⟨data, same, bits⟩ := kept
    rw [PieOff, written, same, Function.update_idem, Function.update_self, bits]

theorem check_unaware {step rest : Program Message Nat} (first : rtcDevice.Unaware step)
    (second : rtcDevice.Unaware rest) : rtcDevice.Unaware (check step rest) := by
  refine .bind first (fun code => ?_)
  split
  · exact .pure _
  · exact second

theorem unaware_check {step rest : Program Message Nat} {post : Nat → Rtc → Prop}
    (first : rtcDevice.Unaware step) (goes : rtcDevice.Triple pre rest post)
    (fails : ∀ rtc, pre rtc → post 1 rtc) : rtcDevice.Triple pre (check step rest) post :=
  check_triple (first.keeps pre) goes (fun _ rtc _ kept => fails rtc kept)

theorem mainLoop_unaware (cfg : Config) (w : World) : rtcDevice.Unaware (mainLoop cfg w) := by
  refine .loop w (fun w => ?_)
  unfold mainRound
  split
  · exact .pure _
  · refine .bind (.ask (fun _ _ => rfl)) (fun message => ?_)
    cases gameStep cfg w message with
    | none => exact .halt
    | some w => exact .pure _

def RtcLeft (registers : UInt8 → UInt8) (code : Nat) (last : Rtc) : Prop :=
  PieOnly registers last ∧ (code = 0 → PieOff registers last)

theorem pieOnly_failed (rtc : Rtc) (kept : PieOnly registers rtc) : RtcLeft registers 1 rtc :=
  ⟨kept, fun zero => by cases zero⟩

theorem tearDown_triple (locals : Locals) (w : World) :
    rtcDevice.Triple (PieOnly registers) (tearDown locals w) (RtcLeft registers) := by
  have rest : rtcDevice.Unaware (check rtcUnsubscribeInt <| check timerUnsubscribeInt <|
      check (Prod.fst <$> sendMouseCommand disableMouse
        ⟨locals.disableAck, w.mouseGlobals.statuscode⟩) <|
      check mouseUnsubscribeInt <| check kbdUnsubscribeInt <| check vgExit <| pure 0 :
      Program Proj.Message Nat) :=
    check_unaware (unsubscribeInt_unaware _) <| check_unaware (unsubscribeInt_unaware _) <|
    check_unaware (.bind (rtcDevice_sendMouseCommand _ _) (fun _ => .pure _)) <|
    check_unaware (unsubscribeInt_unaware _) <| check_unaware (unsubscribeInt_unaware _) <|
    check_unaware (.bind (.ask (fun _ _ => rfl)) (fun _ => .pure _)) (.pure _)
  refine check_triple rtcDisable_triple ?_ ?_
  · refine (rest.keeps (fun last => PieOnly registers last ∧ PieOff registers last)).mono ?_ ?_
    · exact fun rtc left => ⟨left.1, left.2 rfl⟩
    · exact fun code last left => ⟨left.1, fun _ => left.2⟩
  · exact fun code rtc _ left => pieOnly_failed rtc left.1

theorem setUp_triple (cfg : Config) (locals : Locals) :
    rtcDevice.Triple (PieOnly registers) (setUp cfg locals) (RtcLeft registers) := by
  refine unaware_check (subscribeInt_unaware _ _ _) ?_ pieOnly_failed
  refine Device.Unaware.andThen (rtcDevice_sendMouseCommand _ _) (fun result => ?_)
  dsimp only
  split
  · exact .pure pieOnly_failed
  · refine unaware_check (subscribeInt_unaware _ _ _) ?_ pieOnly_failed
    refine unaware_check (subscribeInt_unaware _ _ _) ?_ pieOnly_failed
    refine unaware_check (subscribeInt_unaware _ _ _) ?_ pieOnly_failed
    refine check_triple rtcEnable_triple ?_ (fun _ rtc _ kept => pieOnly_failed rtc kept)
    refine Device.Unaware.andThen (.ask (fun _ _ => rfl)) (fun _ => ?_)
    exact Device.Unaware.andThen (mainLoop_unaware cfg _) (fun w => tearDown_triple locals w)

theorem gameLoopProgram_triple (cfg : Config) (locals : Locals) :
    rtcDevice.Triple (PieOnly registers) (gameLoopProgram cfg locals) (RtcLeft registers) := by
  have asks : rtcDevice.Unaware (vgGetModeInfo 0x105 : Program Proj.Message _) := by
    refine .bind (.ask (fun _ _ => rfl)) (fun info => ?_)
    cases info with
    | none => exact .pure _
    | some info =>
        refine .bind (.ask (fun _ _ => rfl)) (fun added => ?_)
        split
        · refine .bind (.ask (fun _ _ => rfl)) (fun mapped => ?_)
          split
          · exact .pure _
          · exact .halt
        · exact .halt
  refine Device.Unaware.andThen asks (fun info => ?_)
  cases info with
  | none => exact .pure pieOnly_failed
  | some info =>
      refine unaware_check ?_ (setUp_triple cfg locals) pieOnly_failed
      unfold vgSetMode
      split
      · exact .pure _
      · exact .bind (.ask (fun _ _ => rfl)) (fun _ => .pure _)

/-- Whatever fails, a run of `game_loop` leaves all registers of the clock as they were, up to the
bit `PIE` of register B, and when it returns 0 that bit is clear. -/
theorem rtc_restored (cfg : Config) (locals : Locals) (answers : List (Answer (Reply Proj.Message)))
    (ended : Ended (Reply Proj.Message) Nat)
    (ran : gameLoopProgram cfg locals answers = some ended) (rtc last : Rtc)
    (answered : rtcDevice.after ended.trace rtc = some last) :
    (∀ reg, reg ≠ regB → last.registers reg = rtc.registers reg) ∧
      last.registers regB &&& ~~~pie = rtc.registers regB &&& ~~~pie ∧
      (ended.value = 0 → last.registers regB = rtc.registers regB &&& ~~~pie) := by
  have begins : PieOnly rtc.registers rtc :=
    ⟨rtc.registers regB, (Function.update_eq_self _ _).symm, rfl⟩
  obtain ⟨⟨data, same, bits⟩, off⟩ :=
    gameLoopProgram_triple cfg locals rtc begins answers ended ran last answered
  refine ⟨fun reg other => ?_, ?_, fun zero => ?_⟩
  · rw [same, Function.update_of_ne other]
  · rw [same, Function.update_self, bits]
  · rw [off zero, Function.update_self]

def ticking : Answer (Reply Proj.Message) :=
  scripted (fun port => if port = outBuf then some 0xFA else if port = rtcDataReg then some 0x42
    else some 0x00) true (keyByte 0x81)

theorem rtc_restored_ticking : ∃ ended last,
    gameLoopProgram sampleConfig sampleLocals (List.replicate 35 ticking) = some ended ∧
    ended.value = 0 ∧ rtcDevice.after ended.trace ⟨0, fun _ => 0x42⟩ = some last ∧
    last.registers regB = 0x02 := by
  have evaluated : (gameLoopProgram sampleConfig sampleLocals (List.replicate 35 ticking)).any
      (fun ended => decide (ended.value = 0) &&
        (rtcDevice.after ended.trace ⟨0, fun _ => 0x42⟩).isSome) = true := by decide +kernel
  obtain ⟨ended, ran, checked⟩ := (Option.any_eq_true _ _).mp evaluated
  obtain ⟨returned, answers⟩ := Bool.and_eq_true_iff.mp checked
  obtain ⟨last, answered⟩ := Option.isSome_iff_exists.mp answers
  have zero := of_decide_eq_true returned
  have restored :=
    (rtc_restored sampleConfig sampleLocals _ ended ran _ last answered).2.2 zero
  exact ⟨ended, last, ran, zero, answered, restored⟩

end Lcom.Proj
