import Lcom.Lab4.Mouse
import Lcom.Proj.Commands

/-! `send_mouse_command` and the acknowledgement of the mouse. -/

namespace Lcom.Proj

open Lcom.Lib Lcom.Minix

variable {Message : Type}

/-- The run ends with the command byte as an argument of `MOUSE_COMMAND` and a reply to it. -/
def Replied (cmd reply : UInt8) (trace : List (Event (Reply Message))) : Prop :=
  ∃ before status aux, trace = before ++
      [⟨.sysOutb statReg mouseCommand, true⟩, ⟨.sysInb statReg, some status⟩,
        ⟨.sysOutb argsReg cmd, true⟩, ⟨.tickdelay 20000, ()⟩, ⟨.sysInb outBuf, some aux⟩] ∧
    aux.toUInt8 = reply

def Busy (aux : Option UInt32) : Prop := ∃ stat, aux = some stat ∧ stat.toUInt8 &&& ibfBit ≠ 0

def Ready (aux : Option UInt32) : Prop := ∃ stat, aux = some stat ∧ stat.toUInt8 &&& ibfBit = 0

theorem busy_some {stat : UInt32} : Busy (some stat) ↔ stat.toUInt8 &&& ibfBit ≠ 0 := by
  simp [Busy]

theorem ready_some {stat : UInt32} : Ready (some stat) ↔ stat.toUInt8 &&& ibfBit = 0 := by
  simp [Ready]

/-- The controller is found busy before the command byte is written for the first time. -/
def FirstRoundBusy : List (Answer (Reply Message)) → Prop
  | [] => False
  | first :: rest => Busy (first (.sysInb statReg)) ∨
      Ready (first (.sysInb statReg)) ∧ ∃ second third later, rest = second :: third :: later ∧
        second (.sysOutb statReg mouseCommand) = true ∧ Busy (third (.sysInb statReg))

theorem firstRoundBusy_ready {first : Answer (Reply Message)} {stat : UInt32}
    (rest : List (Answer (Reply Message))) (reply : first (.sysInb statReg) = some stat)
    (clear : stat.toUInt8 &&& ibfBit = 0) :
    FirstRoundBusy (first :: rest) ↔ ∃ second third later, rest = second :: third :: later ∧
      second (.sysOutb statReg mouseCommand) = true ∧ Busy (third (.sysInb statReg)) := by
  rw [FirstRoundBusy, reply, busy_some, ready_some]
  simp only [clear, ne_eq, not_true_eq_false, false_or, true_and]

/-- How a round ends: with a failure, with a busy controller, or with a reply. -/
inductive RoundEnd (cmd : UInt8) (s : Sending) (answers : List (Answer (Reply Message))) :
    Dialogue.Round Sending (Nat × UInt8) → List (Event (Reply Message)) → Prop where
  | failed (statuscode : UInt8) (trace : List (Event (Reply Message)))
      (free : ¬ FirstRoundBusy answers) :
      RoundEnd cmd s answers (.done (1, statuscode)) trace
  | busy (statuscode : UInt8) (trace : List (Event (Reply Message)))
      (busy : FirstRoundBusy answers) (short : trace.length ≤ 3) :
      RoundEnd cmd s answers (Sending.test ⟨s.ack, statuscode⟩) trace
  | replied (statuscode reply : UInt8) (trace : List (Event (Reply Message)))
      (free : ¬ FirstRoundBusy answers) (replied : Replied cmd reply trace) :
      RoundEnd cmd s answers (Sending.test ⟨reply, statuscode⟩) trace

theorem argument_ends {cmd : UInt8} {s : Sending} {answers : List (Answer (Reply Message))}
    {ended : Ended (Reply Message) (Dialogue.Round Sending (Nat × UInt8))}
    (ran : (do
      if (← sysOutb argsReg cmd) ≠ 0 then return s.fail
      else
        tickdelay 20000
        match ← utilSysInb outBuf with
        | none => return s.fail
        | some reply =>
            let s := { s with ack := reply }
            if s.ack = ackError then return s.fail
            else if s.ack = nack then return s.test
            else return s.test : Program Message _) answers = some ended) :
    ended.value = s.fail ∨ ∃ aux, ended.value = Sending.test ⟨aux.toUInt8, s.statuscode⟩ ∧
      ended.trace = [⟨.sysOutb argsReg cmd, true⟩, ⟨.tickdelay 20000, ()⟩,
        ⟨.sysInb outBuf, some aux⟩] := by
  obtain ⟨value, trace, left⟩ := ended
  obtain ⟨_, done, _, said, rfl, _, ran, rfl⟩ := sysOutb_bind ran
  cases done with
  | false =>
      cases ran
      exact .inl rfl
  | true =>
      rw [if_neg (by simp)] at ran
      obtain ⟨_, _, said, rfl, ran, rfl⟩ := tickdelay_bind ran
      obtain ⟨_, aux, _, said, rfl, _, ran, rfl⟩ := utilSysInb_bind ran
      cases aux with
      | none =>
          cases ran
          exact .inl rfl
      | some aux =>
          simp only [Option.map_some, ite_self] at ran
          split at ran
          · cases ran
            exact .inl rfl
          · cases ran
            exact .inr ⟨aux, rfl, rfl⟩

theorem sendRound_ends {cmd : UInt8} {s : Sending} {answers : List (Answer (Reply Message))}
    {ended : Ended (Reply Message) (Dialogue.Round Sending (Nat × UInt8))}
    (ran : sendRound cmd s answers = some ended) :
    RoundEnd cmd s answers ended.value ended.trace := by
  obtain ⟨value, trace, left⟩ := ended
  unfold sendRound at ran
  obtain ⟨first, aux, rest, said, rfl, firstReply, ran, rfl⟩ := utilSysInb_bind ran
  cases aux with
  | none =>
      cases ran
      refine .failed _ _ ?_
      rw [FirstRoundBusy, firstReply]
      simp [Busy, Ready]
  | some stat =>
      simp only [Option.map_some] at ran
      by_cases full : stat.toUInt8 &&& ibfBit ≠ 0
      · rw [if_pos full] at ran
        cases ran
        refine .busy _ _ (.inl ?_) (by simp)
        rw [firstReply]
        exact busy_some.mpr full
      · rw [if_neg full] at ran
        have ready := firstRoundBusy_ready rest firstReply (not_not.mp full)
        obtain ⟨second, done, rest, said, rfl, secondReply, ran, rfl⟩ := sysOutb_bind ran
        cases done with
        | false =>
            cases ran
            refine .failed _ _ ?_
            rw [ready]
            rintro ⟨_, _, _, same, written, _⟩
            cases same
            exact absurd (written.symm.trans secondReply) (by simp)
        | true =>
            rw [if_neg (by simp)] at ran
            obtain ⟨third, aux, rest, said, rfl, thirdReply, ran, rfl⟩ := utilSysInb_bind ran
            -- after a successful write only the second status can show a busy controller
            have again : FirstRoundBusy (first :: second :: third :: rest) ↔
                Busy (third (.sysInb statReg)) := by
              rw [ready]
              constructor
              · rintro ⟨_, _, _, same, _, busy⟩
                cases same
                exact busy
              · exact fun busy => ⟨second, third, rest, rfl, secondReply, busy⟩
            rw [thirdReply] at again
            cases aux with
            | none =>
                cases ran
                refine .failed _ _ ?_
                rw [again]
                simp [Busy]
            | some stat =>
                simp only [Option.map_some] at ran
                by_cases full : stat.toUInt8 &&& ibfBit ≠ 0
                · rw [if_pos full] at ran
                  cases ran
                  exact .busy _ _ (again.mpr (busy_some.mpr full)) (by simp)
                · rw [if_neg full] at ran
                  have free : ¬ FirstRoundBusy (first :: second :: third :: rest) :=
                    fun busy => full (busy_some.mp (again.mp busy))
                  rcases argument_ends ran with failed | ⟨aux, tested, said⟩
                  · dsimp only at failed
                    rw [failed]
                    exact .failed _ _ free
                  · dsimp only at tested said
                    rw [tested, said]
                    exact .replied _ _ _ free ⟨[_], _, aux, rfl, rfl⟩

theorem sendRound_busy (cmd : UInt8) (s : Sending) {answers : List (Answer (Reply Message))}
    (busy : FirstRoundBusy answers) :
    ∃ statuscode trace rest, trace.length ≤ 3 ∧
      sendRound cmd s answers = some ⟨Sending.test ⟨s.ack, statuscode⟩, trace, rest⟩ := by
  cases answers with
  | nil => cases busy
  | cons first rest =>
      rcases busy with ⟨stat, reply, full⟩ |
        ⟨⟨stat, reply, clear⟩, second, third, later, rfl, written, other, thirdReply, full⟩
      · refine ⟨stat.toUInt8, [⟨.sysInb statReg, some stat⟩], rest, by simp, ?_⟩
        rw [sendRound, utilSysInb_cons _ _ _ _ _ reply, Option.map_some]
        dsimp only
        rw [if_pos full]
        rfl
      · refine ⟨other.toUInt8, [⟨.sysInb statReg, some stat⟩,
          ⟨.sysOutb statReg mouseCommand, true⟩, ⟨.sysInb statReg, some other⟩], later, by simp, ?_⟩
        rw [sendRound, utilSysInb_cons _ _ _ _ _ reply, Option.map_some]
        dsimp only
        rw [if_neg (not_not.mpr clear), sysOutb_cons _ _ _ _ _ _ written, if_neg (by simp),
          utilSysInb_cons _ _ _ _ _ thirdReply, Option.map_some]
        dsimp only
        rw [if_pos full]
        rfl

theorem sendRound_takes (cmd : UInt8) (s : Sending) :
    Dialogue.Takes (sendRound cmd s : Program Message _) := by
  refine .bind (utilSysInb_takes statReg) (fun status => ?_)
  cases status with
  | none => exact .pure _
  | some stat =>
      dsimp only
      split
      · exact .pure _
      · refine .bind (sysOutb_takes _ _).shrinks (fun code => ?_)
        split
        · exact .pure _
        · refine .bind (utilSysInb_takes _).shrinks (fun status => ?_)
          cases status with
          | none => exact .pure _
          | some stat =>
              dsimp only
              split
              · exact .pure _
              · refine .bind (sysOutb_takes _ _).shrinks (fun code => ?_)
                split
                · exact .pure _
                · refine .bind (Dialogue.Takes.ask _).shrinks (fun _ => ?_)
                  refine .bind (utilSysInb_takes _).shrinks (fun reply => ?_)
                  cases reply with
                  | none => exact .pure _
                  | some reply =>
                      simp only [ite_self]
                      split
                      · exact .pure _
                      · exact .pure _

theorem sendRound_productive (cmd : UInt8) :
    Dialogue.Productive (sendRound cmd : Sending → Program Message _) :=
  fun s answers ended _ ran _ => sendRound_takes cmd s answers ended ran

theorem Replied.after {cmd reply : UInt8} {trace : List (Event (Reply Message))}
    (replied : Replied cmd reply trace) (said : List (Event (Reply Message))) :
    Replied cmd reply (said ++ trace) := by
  obtain ⟨before, status, aux, rfl, same⟩ := replied
  exact ⟨said ++ before, status, aux, by rw [List.append_assoc], same⟩

theorem test_ack (statuscode : UInt8) :
    Sending.test ⟨ack, statuscode⟩ = .done (0, statuscode) := rfl

theorem test_again {s : Sending} (other : s.ack ≠ ack) : s.test = .again s := if_pos other

theorem sendMouseCommand_later (cmd : UInt8) (s : Sending) (other : s.ack ≠ ack) :
    Dialogue.Yields (sendMouseCommand cmd s : Program Message _)
      (fun result trace => result.1 = 0 → Replied cmd ack trace) := by
  refine Dialogue.Yields.loop (fun s _ => s.ack ≠ ack) other ?_
  intro s said other answers ended ran
  have ends := sendRound_ends ran
  generalize ended.value = value at ends ⊢
  generalize ended.trace = trace at ends ⊢
  cases ends with
  | failed statuscode _ free =>
      intro zero
      cases zero
  | busy statuscode _ busy short =>
      rw [test_again (s := ⟨s.ack, statuscode⟩) other]
      exact other
  | replied statuscode reply _ free replied =>
      by_cases good : reply = ack
      · rw [good, test_ack]
        rw [good] at replied
        exact fun _ => replied.after said
      · rw [test_again (s := ⟨reply, statuscode⟩) good]
        exact good

/-- The command is acknowledged whenever 0 is returned exactly if `ack` does not happen to hold
`ACK` at first while the controller is found busy. -/
theorem sendMouseCommand_acknowledged (cmd : UInt8) (s : Sending)
    (answers : List (Answer (Reply Message))) :
    (∀ ended, sendMouseCommand cmd s answers = some ended → ended.value.1 = 0 →
        Replied cmd ack ended.trace) ↔ ¬ (s.ack = ack ∧ FirstRoundBusy answers) := by
  rw [sendMouseCommand, Dialogue.loop_eq (sendRound_productive cmd)]
  constructor
  · rintro acknowledged ⟨lucky, busy⟩
    obtain ⟨statuscode, trace, rest, short, ran⟩ := sendRound_busy cmd s busy
    rw [lucky, test_ack] at ran
    obtain ⟨before, status, aux, long, _⟩ := acknowledged ⟨(0, statuscode), trace ++ [], rest⟩
      (Dialogue.bind_eq_some.mpr ⟨_, _, ran, rfl, rfl⟩) rfl
    have lengths := congrArg List.length long
    simp only [List.length_append, List.length_cons, List.length_nil] at lengths
    omega
  · intro safe ended ran zero
    obtain ⟨round, last, begun, finished, rfl⟩ := Dialogue.bind_eq_some.mp ran
    have ends := sendRound_ends begun
    generalize round.value = value at ends finished
    generalize round.trace = trace at ends ⊢
    cases ends with
    | failed statuscode _ free =>
        cases finished
        cases zero
    | busy statuscode _ busy short =>
        have other : s.ack ≠ ack := fun lucky => safe ⟨lucky, busy⟩
        rw [test_again (s := ⟨s.ack, statuscode⟩) other] at finished
        exact (sendMouseCommand_later cmd ⟨s.ack, statuscode⟩ other _ _ finished zero).after _
    | replied statuscode reply _ free replied =>
        by_cases good : reply = ack
        · rw [good, test_ack] at finished
          rw [good] at replied
          cases finished
          rw [List.append_nil]
          exact replied
        · rw [test_again (s := ⟨reply, statuscode⟩) good] at finished
          exact (sendMouseCommand_later cmd ⟨reply, statuscode⟩ good _ _ finished zero).after _

/-- `send_mouse_command` and its copy in `lab4` return 0 only after an acknowledgement exactly if
`ack` does not happen to hold `ACK` at first while the controller is found busy. -/
theorem command_acknowledged_iff (cmd : UInt8) (s : Sending)
    (answers : List (Answer (Reply Message))) :
    ((∀ ended, sendMouseCommand cmd s answers = some ended → ended.value.1 = 0 →
        Replied cmd ack ended.trace) ↔ ¬ (s.ack = ack ∧ FirstRoundBusy answers)) ∧
    ((∀ ended, Lab4.sendMouseCommand cmd s answers = some ended → ended.value.1 = 0 →
        Replied cmd ack ended.trace) ↔ ¬ (s.ack = ack ∧ FirstRoundBusy answers)) := by
  rw [Lab4.sendMouseCommand_eq]
  exact ⟨sendMouseCommand_acknowledged cmd s answers, sendMouseCommand_acknowledged cmd s answers⟩

/-- An answer that gives `inb` for a read, `ok` for a call that can fail, and `message`. -/
def scripted {Message : Type} (inb : Nat → Option UInt32) (ok : Bool) (message : Message) :
    Answer (Reply Message)
  | .sysInb port => inb port
  | .sysOutb _ _ => ok
  | .tickdelay _ => ()
  | .sysIrqsetpolicy _ _ _ => ok
  | .sysIrqrmpolicy _ => ok
  | .vbeGetModeInfo _ => if ok then some ⟨1024, 768, 8, 4, 0xE0000000⟩ else none
  | .sysPrivctl _ _ => ok
  | .vmMapPhys _ _ => ok
  | .sysInt86 _ _ _ => if ok then some (0x00, 0x4F) else none
  | .vgExit => ok
  | .sleep _ => ()
  | .driverReceive => message

/-- The local variable happens to hold `ACK` and the controller is busy: nothing is sent. -/
theorem command_not_sent : ∃ ended,
    sendMouseCommand enableMouse ⟨0xFA, 0⟩
        [scripted (fun _ => some 0x02) true Proj.Message.failedReceive] = some ended ∧
    ended.value.1 = 0 ∧ ended.trace.length = 1 ∧
    ¬ Replied enableMouse ack ended.trace := by
  refine ⟨_, rfl, rfl, rfl, ?_⟩
  rintro ⟨before, status, aux, long, _⟩
  have lengths := congrArg List.length long
  simp only [List.length_append, List.length_cons, List.length_nil] at lengths
  have one : (1 : Nat) = before.length + 5 := lengths
  omega

end Lcom.Proj
