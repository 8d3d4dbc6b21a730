import Lcom.Proj.CleanExit

/-! What is switched off when `game_loop` returns 0, the graphics mode and the reports of the mouse,
and what it never touches: the periodic interrupt of the RTC, since the `REG_B` of `rtc.h` is not the
register B of the device. -/

namespace Lcom.Proj

open Lcom.Lib Lcom.Minix

variable {Message : Type}

def Keeps {α : Type} (part : System → Bool) (program : Program Message α) : Prop :=
  Dialogue.Yields program (fun _ trace => ∀ s : System, part (s.after trace) = part s)

namespace Keeps

variable {α β : Type} {part : System → Bool}

theorem pure (value : α) : Keeps part (Pure.pure value : Program Message α) :=
  Dialogue.Yields.pure (fun _ => rfl)

theorem call {request : Request}
    (same : ∀ (s : System) (reply : Reply Message request),
      part (s.call ⟨request, reply⟩) = part s) :
    Keeps part (Minix.call request : Program Message _) :=
  Dialogue.Yields.ask (fun reply s => same s reply)

theorem bind {program : Program Message α} {next : α → Program Message β}
    (first : Keeps part program) (second : ∀ value, Keeps part (next value)) :
    Keeps part (program >>= next) := by
  refine Dialogue.Yields.bind first ?_
  intro value said kept
  refine (second value).mono ?_
  intro result trace later s
  rw [after_append, later, kept]

theorem halt : Keeps part (Dialogue.halt : Program Message α) := Dialogue.Yields.halt

theorem map {program : Program Message α} (f : α → β) (kept : Keeps part program) :
    Keeps part (f <$> program) := kept.bind (fun _ => .pure _)

theorem loop {σ : Type} {body : σ → Program Message (Dialogue.Round σ α)} (state : σ)
    (round : ∀ state, Keeps part (body state)) : Keeps part (Dialogue.loop body state) := by
  refine Dialogue.Yields.loop (fun _ said => ∀ s : System, part (s.after said) = part s)
    (fun _ => rfl) ?_
  intro state said kept
  refine (round state).mono ?_
  intro outcome trace later
  cases outcome with
  | again next =>
      intro s
      rw [after_append, later, kept]
  | done value =>
      intro s
      rw [after_append, later, kept]

end Keeps

theorem utilSysInb_keeps (part : System → Bool) (port : Nat) :
    Keeps part (utilSysInb port : Program Message (Option UInt8)) :=
  .bind (.call (fun _ _ => rfl)) (fun _ => .pure _)

theorem sysOutb_keeps {part : System → Bool} {port : Nat} {value : UInt8}
    (same : ∀ s : System, part (s.written port value) = part s) :
    Keeps part (sysOutb port value : Program Message Nat) := by
  have asks : Keeps part (call (.sysOutb port value) : Program Message _) := by
    refine .call (fun s done => ?_)
    cases done with
    | false => rfl
    | true => exact same s
  exact .bind asks (fun _ => .pure _)

theorem unsubscribeInt_keeps {part : System → Bool} (hook : Hook)
    (same : ∀ (s : System) policies, part { s with policies := policies } = part s) :
    Keeps part (unsubscribeInt hook : Program Message Nat) := by
  have asks : Keeps part (call (.sysIrqrmpolicy hook) : Program Message _) := by
    refine .call (fun s done => ?_)
    cases done with
    | false => rfl
    | true => exact same s _
  exact .bind asks (fun _ => .pure _)

theorem check_keeps {part : System → Bool} {step rest : Program Message Nat}
    (first : Keeps part step) (second : Keeps part rest) : Keeps part (check step rest) := by
  refine .bind first (fun code => ?_)
  split
  · exact .pure _
  · exact second

theorem subscribeInt_keeps {part : System → Bool} (irq : Nat) (exclusive : Bool) (hook : Hook)
    (same : ∀ (s : System) policies, part { s with policies := policies } = part s) :
    Keeps part (subscribeInt irq exclusive hook : Program Message Nat) := by
  have asks : Keeps part (call (.sysIrqsetpolicy irq exclusive hook) : Program Message _) := by
    refine .call (fun s done => ?_)
    cases done with
    | false => rfl
    | true => exact same s _
  exact .bind asks (fun _ => .pure _)

theorem sendMouseCommand_periodic (cmd : UInt8) (s : Sending) :
    Keeps System.periodic (sendMouseCommand cmd s : Program Message _) := by
  refine .loop s (fun s => ?_)
  refine .bind (utilSysInb_keeps _ _) (fun status => ?_)
  cases status with
  | none => exact .pure _
  | some stat =>
      dsimp only
      split
      · exact .pure _
      · refine .bind (sysOutb_keeps (fun _ => rfl)) (fun code => ?_)
        split
        · exact .pure _
        · refine .bind (utilSysInb_keeps _ _) (fun status => ?_)
          cases status with
          | none => exact .pure _
          | some stat =>
              dsimp only
              split
              · exact .pure _
              · refine .bind (sysOutb_keeps (fun _ => rfl)) (fun code => ?_)
                split
                · exact .pure _
                · refine .bind (.call (fun _ _ => rfl)) (fun _ => ?_)
                  refine .bind (utilSysInb_keeps _ _) (fun reply => ?_)
                  cases reply with
                  | none => exact .pure _
                  | some reply =>
                      simp only [ite_self]
                      split
                      · exact .pure _
                      · exact .pure _

/-- A return of 0 means that this part of the state is off. -/
def Silences (part : System → Bool) (program : Program Message Nat) : Prop :=
  Dialogue.Yields program (fun code trace => code = 0 → ∀ s : System, part (s.after trace) = false)

namespace Silences

variable {α : Type} {part : System → Bool}

theorem later {program : Program Message α} {next : α → Program Message Nat}
    (second : ∀ value, Silences part (next value)) : Silences part (program >>= next) := by
  have first : Dialogue.Yields program (fun _ _ => True) := fun _ _ _ => trivial
  refine Dialogue.Yields.bind first ?_
  intro value said _
  refine (second value).mono ?_
  intro code trace off zero s
  rw [after_append]
  exact off zero (s.after said)

theorem check {step rest : Program Message Nat} (second : Silences part rest) :
    Silences part (Proj.check step rest) := by
  refine .later (fun code => ?_)
  split
  · exact Dialogue.Yields.pure (fun zero => by cases zero)
  · exact second

theorem kept {step rest : Program Message Nat} (first : Silences part step)
    (second : Keeps part rest) : Silences part (Proj.check step rest) := by
  refine Dialogue.Yields.bind first ?_
  intro code said off
  split
  · exact Dialogue.Yields.pure (fun zero => by cases zero)
  · rename_i fine
    refine second.mono ?_
    intro result trace same _ s
    rw [after_append, same]
    exact off (not_not.mp fine) s

end Silences

theorem sysOutb_written (port : Nat) (value : UInt8) :
    Dialogue.Yields (sysOutb port value : Program Message Nat) (fun code trace =>
      ∀ s : System, s.after trace = if code = 0 then s.written port value else s) := by
  have asks : Dialogue.Yields (call (.sysOutb port value) : Program Message Bool)
      (fun done trace => trace = [⟨.sysOutb port value, done⟩]) := .ask (fun done => rfl)
  refine .bind asks ?_
  rintro done said rfl
  refine .pure (fun s => ?_)
  cases done with
  | false => rfl
  | true => rfl

theorem rtcRead_periodic (reg : UInt8) :
    Keeps System.periodic (rtcRead reg : Program Message (Option UInt8)) := by
  refine .bind (sysOutb_keeps (fun _ => rfl)) (fun code => ?_)
  split
  · exact .pure _
  · exact utilSysInb_keeps _ _

/-- A register is selected before it is written, so another register stays as it is. -/
theorem rtcWrite_periodic {reg : UInt8} (other : reg ≠ rtcRegisterB) (data : UInt8) :
    Keeps System.periodic (rtcWrite data reg : Program Message Nat) := by
  refine Dialogue.Yields.bind (sysOutb_written rtcAddrReg reg) ?_
  intro code said selects
  by_cases fine : code = 0
  · rw [if_neg (not_not.mpr fine)]
    refine .bind (sysOutb_written rtcDataReg data) ?_
    intro code later writes
    have kept : ∀ s : System, (s.after (said ++ later)).periodic = s.periodic := by
      intro s
      have register : (s.written rtcAddrReg reg).rtcRegister ≠ rtcRegisterB := other
      rw [after_append, selects, if_pos fine, writes]
      split
      · rw [System.written, if_neg (by decide), if_neg (by decide), if_neg (by decide),
          if_neg (fun both => register both.2)]
        rfl
      · rfl
    split
    · exact .pure (by rwa [List.append_nil])
    · exact .pure (by rwa [List.append_nil])
  · rw [if_pos fine]
    refine .pure (fun s => ?_)
    rw [List.append_nil, selects, if_neg fine]

theorem rtcChange_periodic (change : UInt8 → UInt8) :
    Keeps System.periodic (rtcChange change : Program Message Nat) := by
  refine .bind (rtcRead_periodic regB) (fun byte => ?_)
  cases byte with
  | none => exact .pure _
  | some data => exact check_keeps (rtcWrite_periodic (by decide) _) (.pure _)

theorem Replied.silences {reply : UInt8} {trace : List (Event (Reply Message))}
    (replied : Replied disableMouse reply trace) (s : System) :
    (s.after trace).reporting = false := by
  obtain ⟨before, status, aux, rfl, _⟩ := replied
  rw [after_append]
  rfl

theorem disable_silences {s : Sending} (other : s.ack ≠ ack) :
    Silences System.reporting
      (Prod.fst <$> sendMouseCommand disableMouse s : Program Message Nat) := by
  refine Dialogue.Yields.bind (sendMouseCommand_later disableMouse s other) ?_
  intro result said replied
  refine Dialogue.Yields.pure (fun zero t => ?_)
  rw [List.append_nil]
  exact (replied zero).silences t

theorem vgExit_keeps {part : System → Bool}
    (same : ∀ (s : System) exitCalled graphics,
      part { s with exitCalled := exitCalled, graphics := graphics } = part s) :
    Keeps part (check vgExit (pure 0) : Program Message Nat) :=
  check_keeps (.bind (.call (fun s _ => same s _ _)) (fun _ => .pure _)) (.pure _)

theorem vgExit_silences : Silences System.graphics (vgExit : Program Message Nat) := by
  have asks : Dialogue.Yields (call .vgExit : Program Message Bool)
      (fun done trace => trace = [⟨.vgExit, done⟩]) := .ask (fun done => rfl)
  refine Dialogue.Yields.bind asks ?_
  rintro done said rfl
  refine .pure (fun zero s => ?_)
  cases done with
  | false => cases zero
  | true => exact Bool.and_false _

theorem tearDown_graphics (locals : Locals) (w : World) :
    Silences System.graphics (tearDown locals w) :=
  .check <| .check <| .check <| .check <| .check <| .check <| .kept vgExit_silences (.pure _)

theorem tearDown_periodic (locals : Locals) (w : World) :
    Keeps System.periodic (tearDown locals w) := by
  have removes (hook : Hook) :
      Keeps System.periodic (unsubscribeInt hook : Program Proj.Message Nat) :=
    unsubscribeInt_keeps hook (fun _ _ => rfl)
  exact check_keeps (rtcChange_periodic _) <| check_keeps (removes .rtc) <|
    check_keeps (removes .timer) <| check_keeps (.map _ (sendMouseCommand_periodic _ _)) <|
    check_keeps (removes .mouse) <| check_keeps (removes .kbd) <| vgExit_keeps (fun _ _ _ => rfl)

theorem vgGetModeInfo_periodic (mode : UInt16) :
    Keeps System.periodic (vgGetModeInfo mode : Program Message _) := by
  refine .bind (.call (fun _ _ => rfl)) (fun info => ?_)
  cases info with
  | none => exact .pure _
  | some info =>
      refine .bind (.call (fun _ _ => rfl)) (fun added => ?_)
      split
      · refine .bind (.call (fun _ _ => rfl)) (fun mapped => ?_)
        split
        · exact .pure _
        · exact .halt
      · exact .halt

theorem vgSetMode_periodic (mode : UInt16) :
    Keeps System.periodic (vgSetMode mode : Program Message Nat) := by
  unfold vgSetMode
  split
  · exact .pure _
  · refine .bind (.call (fun s regs => ?_)) (fun _ => .pure _)
    change Option (UInt8 × UInt8) at regs
    change System.periodic (if regs = some (0x00, 0x4F) then _ else _) = _
    split
    · rfl
    · rfl

theorem mainLoop_periodic (cfg : Config) (w : World) :
    Keeps System.periodic (mainLoop cfg w) := by
  refine .loop w (fun w => ?_)
  unfold mainRound
  split
  · exact .pure _
  · refine .bind (.call (fun _ _ => rfl)) (fun message => ?_)
    cases gameStep cfg w message with
    | none => exact .halt
    | some w => exact .pure _

theorem gameLoopProgram_periodic (cfg : Config) (locals : Locals) :
    Keeps System.periodic (gameLoopProgram cfg locals) := by
  have installs (irq : Nat) (exclusive : Bool) (hook : Hook) :
      Keeps System.periodic (subscribeInt irq exclusive hook : Program Proj.Message Nat) :=
    subscribeInt_keeps irq exclusive hook (fun _ _ => rfl)
  have plays (statuscode : UInt8) : Keeps System.periodic (play cfg locals statuscode) :=
    .bind (.call (fun _ _ => rfl)) (fun _ =>
      .bind (mainLoop_periodic cfg _) (fun w => tearDown_periodic locals w))
  refine .bind (vgGetModeInfo_periodic _) (fun info => ?_)
  cases info with
  | none => exact .pure _
  | some info =>
      refine check_keeps (vgSetMode_periodic _) <| check_keeps (installs _ _ .mouse) ?_
      refine .bind (sendMouseCommand_periodic _ _) (fun result => ?_)
      obtain ⟨code, statuscode⟩ := result
      dsimp only
      split
      · exact .pure _
      · exact check_keeps (installs _ _ .kbd) <| check_keeps (installs _ _ .timer) <|
          check_keeps (installs _ _ .rtc) <| check_keeps (rtcChange_periodic _) (plays statuscode)

theorem tearDown_reporting (locals : Locals) (w : World) (other : locals.disableAck ≠ ack) :
    Silences System.reporting (tearDown locals w) := by
  have removes (hook : Hook) :
      Keeps System.reporting (unsubscribeInt hook : Program Proj.Message Nat) :=
    unsubscribeInt_keeps hook (fun _ _ => rfl)
  refine .check <| .check <| .check <| .kept (disable_silences other) ?_
  exact check_keeps (removes .mouse) <| check_keeps (removes .kbd) <|
    vgExit_keeps (fun _ _ _ => rfl)

theorem gameLoopProgram_silences (cfg : Config) (locals : Locals) {part : System → Bool}
    (ends : ∀ w, Silences part (tearDown locals w)) :
    Silences part (gameLoopProgram cfg locals) := by
  refine .later (fun info => ?_)
  cases info with
  | none => exact Dialogue.Yields.pure (fun zero => by cases zero)
  | some info =>
      refine .check <| .check <| .later (fun result => ?_)
      dsimp only
      split
      · exact Dialogue.Yields.pure (fun zero => by cases zero)
      · exact .check <| .check <| .check <| .check <| .later (fun _ => .later ends)

/-- Whatever `game_loop` returns, the RTC interrupts as before. A return of 0 means that the screen
is back in text mode, and that the mouse does not report any more unless `DISABLE_MOUSE` was taken
for acknowledged before it was sent. -/
theorem devices_off (cfg : Config) (locals : Locals) (answers : List (Answer (Reply Proj.Message)))
    (ended : Ended (Reply Proj.Message) Nat)
    (ran : gameLoopProgram cfg locals answers = some ended) :
    (∀ s : System, (s.after ended.trace).periodic = s.periodic) ∧
      (ended.value = 0 → ∀ s : System, (s.after ended.trace).graphics = false ∧
        (locals.disableAck ≠ ack → (s.after ended.trace).reporting = false)) := by
  refine ⟨gameLoopProgram_periodic cfg locals answers ended ran, fun zero s => ⟨?_, fun other => ?_⟩⟩
  · exact gameLoopProgram_silences cfg locals (tearDown_graphics locals) answers ended ran zero s
  · exact gameLoopProgram_silences cfg locals (fun w => tearDown_reporting locals w other) answers
      ended ran zero s

/-- A run from a system whose RTC interrupts periodically. -/
theorem devices_off_obliging : ∃ ended,
    gameLoopProgram sampleConfig sampleLocals (List.replicate 35 obliging) = some ended ∧
    ended.value = 0 ∧
    ({ System.idle with periodic := true }.after ended.trace).periodic = true ∧
    (System.idle.after ended.trace).graphics = false ∧
    (System.idle.after ended.trace).reporting = false := by
  have evaluated : (gameLoopProgram sampleConfig sampleLocals (List.replicate 35 obliging)).any
      (fun ended => decide (ended.value = 0)) = true := by decide +kernel
  obtain ⟨ended, ran, returned⟩ := (Option.any_eq_true _ _).mp evaluated
  have zero := of_decide_eq_true returned
  obtain ⟨periodic, off⟩ := devices_off sampleConfig sampleLocals _ ended ran
  obtain ⟨graphics, reporting⟩ := off zero System.idle
  exact ⟨ended, ran, zero, periodic _, graphics, reporting (by decide)⟩

end Lcom.Proj
