import Lcom.Lab3.Poll
import Lcom.Minix.Triples

/-! What `kbd_test_poll` does to the command byte of the keyboard controller. -/

namespace Lcom.Lab3

open Lcom.Lib Lcom.Minix Lcom.Proj

variable {Message : Type} {α : Type}

/-- The command byte, the reply to the command `0x20` until it is read, and whether the command
`0x60` waits for its argument. -/
structure Kbc where
  commandByte : UInt8
  reply : Option UInt8
  awaiting : Bool
  deriving DecidableEq, Repr

def Kbc.written (kbc : Kbc) (port : Nat) (value : UInt8) : Kbc :=
  if port = statReg then
    { kbc with
      reply := if value = readCommand then some kbc.commandByte else kbc.reply
      awaiting := value == writeCommand }
  else if port = argsReg ∧ kbc.awaiting then { kbc with commandByte := value, awaiting := false }
  else kbc

def Kbc.read (kbc : Kbc) (byte : Option UInt8) : Option Kbc :=
  if byte = none ∨ kbc.reply = none then some kbc
  else if byte = kbc.reply then some { kbc with reply := none }
  else none

def kbcDevice : Device (Reply Message) Kbc
  | ⟨.sysOutb port value, done⟩, kbc =>
      let done : Bool := done
      some (if done then kbc.written port value else kbc)
  | ⟨.sysInb port, aux⟩, kbc =>
      let aux : Option UInt32 := aux
      if port = outBuf then kbc.read (aux.map UInt32.toUInt8) else some kbc
  | _, kbc => some kbc

def HasByte (commandByte : UInt8) (kbc : Kbc) : Prop := kbc.commandByte = commandByte

theorem kbcDevice_utilSysInb {port : Nat} (other : port ≠ outBuf) :
    kbcDevice.Unaware (utilSysInb port : Program Message (Option UInt8)) :=
  utilSysInb_unaware (fun _ _ => if_neg other)

theorem kbcDevice_written {pre : Kbc → Prop} (port : Nat) (value : UInt8) :
    kbcDevice.Triple pre (sysOutb port value : Program Message Nat) (fun code last =>
      ∃ kbc, pre kbc ∧ last = if code = 0 then kbc.written port value else kbc) := by
  refine sysOutb_triple (fun kbc done last begins moved => ⟨kbc, begins, ?_⟩)
  rw [← Option.some.inj moved]
  cases done with
  | false => rfl
  | true => rfl

theorem kbcDevice_read {byte : UInt8} :
    kbcDevice.Triple (HasByte byte) (utilSysInb outBuf : Program Message (Option UInt8))
      (fun _ => HasByte byte) := by
  refine utilSysInb_triple (fun kbc aux last same moved => ?_)
  change kbc.read (aux.map UInt32.toUInt8) = some last at moved
  unfold Kbc.read at moved
  split at moved
  · cases moved
    exact same
  · split at moved
    · cases moved
      exact same
    · cases moved

theorem kbcDevice_reply (byte : UInt8) :
    kbcDevice.Triple (fun kbc => HasByte byte kbc ∧ kbc.reply = some byte)
      (utilSysInb outBuf : Program Message (Option UInt8))
      (fun read last => HasByte byte last ∧ ∀ got ∈ read, got = byte) := by
  refine utilSysInb_triple (fun kbc aux last begins moved => ?_)
  obtain ⟨same, waits⟩ := begins
  change kbc.read (aux.map UInt32.toUInt8) = some last at moved
  unfold Kbc.read at moved
  rw [waits] at moved
  split at moved
  · rename_i none
    cases moved
    refine ⟨same, fun got read => ?_⟩
    rw [none.resolve_right nofun] at read
    cases read
  · split at moved
    · rename_i agrees
      cases moved
      refine ⟨same, fun got read => ?_⟩
      rw [agrees] at read
      exact (Option.some.inj read).symm
    · cases moved

theorem retry_triple {command : Program Message (Option α)} {pre : Kbc → Prop}
    {post : Option α → Kbc → Prop} (commands : kbcDevice.Triple pre command post)
    (exhausted : ∀ kbc, pre kbc → post none kbc) :
    kbcDevice.Triple pre (retry command) post := by
  let left (attempted : Attempted α) (last : Kbc) : Prop :=
    match attempted with
    | none => post none last
    | some (tries, none) => tries = 0 ∧ post none last
    | some (tries, some value) => tries ≠ 0 ∧ post (some value) last
  have looped : kbcDevice.Triple pre (Dialogue.loop (attempt command) 10) left := by
    refine .loop (fun _ => pre) 10 (fun _ begins => begins) (fun tries => ?_)
    rw [attempt]
    split
    · rename_i spent
      exact .pure (fun kbc begins => ⟨spent, exhausted kbc begins⟩)
    · rename_i positive
      refine (kbcDevice_utilSysInb (by decide)).andThen (fun status => ?_)
      cases status with
      | none => exact .pure (fun _ begins => begins)
      | some stat =>
          dsimp only
          split
          · exact .pure (fun _ begins => begins)
          · refine .bind commands (fun value => ?_)
            cases value with
            | none => exact .pure (fun _ failed => failed)
            | some value => exact .pure (fun _ done => ⟨positive, done⟩)
  rw [retry]
  refine .bind looped (fun attempted => ?_)
  match attempted with
  | none => exact .pure (fun _ failed => failed)
  | some (tries, none) =>
      dsimp only
      rw [ite_self]
      exact .pure (fun _ spent => spent.2)
  | some (tries, some value) =>
      intro kbc reached
      dsimp only
      rw [if_neg reached.1]
      exact Device.Triple.pure (fun _ done => done) kbc reached.2

theorem readcommand_triple (byte : UInt8) :
    kbcDevice.Triple (HasByte byte) (readcommand : Program Message (Option UInt8))
      (fun read last => HasByte byte last ∧ ∀ got ∈ read, got = byte) := by
  refine retry_triple ?_ (fun kbc same => ⟨same, nofun⟩)
  refine check_triple (kbcDevice_written statReg readCommand) ((kbcDevice_reply byte).mono ?_ ?_) ?_
  · rintro last ⟨kbc, same, rfl⟩
    exact ⟨same, congrArg some same⟩
  · exact fun _ _ reached => reached
  · rintro code last failed ⟨kbc, same, rfl⟩
    rw [if_neg failed]
    exact ⟨same, nofun⟩

theorem writecommand_triple (byte commandbyte : UInt8) :
    kbcDevice.Triple (HasByte byte) (writecommand commandbyte : Program Message (Option Unit))
      (fun result last => match result with
        | none => HasByte byte last
        | some _ => HasByte commandbyte last ∧ last.awaiting = false) := by
  refine retry_triple ?_ (fun _ same => same)
  refine check_triple (kbcDevice_written statReg writeCommand) ?_ ?_
  · refine check_triple (kbcDevice_written argsReg commandbyte) (.pure ?_) ?_
    · rintro last ⟨_, ⟨kbc, same, rfl⟩, rfl⟩
      exact ⟨rfl, rfl⟩
    · rintro code last failed ⟨_, ⟨kbc, same, rfl⟩, rfl⟩
      rw [if_neg failed]
      exact same
  · rintro code last failed ⟨kbc, same, rfl⟩
    rw [if_neg failed]
    exact same

def Reenabled (byte : UInt8) (code : Nat) (last : Kbc) : Prop :=
  if code = 0 then HasByte (byte ||| enableKbd) last ∧ last.awaiting = false else HasByte byte last

theorem kbdReenableInt_triple (byte : UInt8) :
    kbcDevice.Triple (HasByte byte) (kbdReenableInt : Program Message Nat) (Reenabled byte) := by
  refine .bind (readcommand_triple byte) (fun read => ?_)
  cases read with
  | none => exact .pure (fun _ kept => kept.1)
  | some got =>
      intro kbc begins
      rw [begins.2 got rfl]
      refine Device.Triple.bind (writecommand_triple byte (byte ||| enableKbd)) (fun result => ?_)
        kbc begins.1
      cases result with
      | none => exact .pure (fun _ kept => kept)
      | some _ => exact .pure (fun _ written => written)

theorem pollRound_triple (byte statuscode : UInt8) (s : Decoder) :
    kbcDevice.Triple (HasByte byte) (pollRound utilSysInb statuscode s : Program Message _)
      (fun outcome last => HasByte byte last ∧
        ∀ s, outcome = .done (0, s) → s.scancode = escBreak) := by
  unfold pollRound
  split
  · rename_i escape
    refine .pure (fun kbc same => ⟨same, fun s left => ?_⟩)
    cases left
    exact escape
  · refine (kbcDevice_utilSysInb (by decide)).andThen (fun status => ?_)
    cases status with
    | none => exact .pure (fun kbc same => ⟨same, nofun⟩)
    | some status =>
        dsimp only
        split
        · exact .pure (fun kbc same => ⟨same, nofun⟩)
        · have byteRead : kbcDevice.Triple (HasByte byte)
              (kbcIh utilSysInb statuscode s.scancode : Program Message UInt8)
              (fun _ => HasByte byte) := by
            refine (kbcDevice_utilSysInb (by decide)).andThen (fun status => ?_)
            dsimp only
            split
            · exact .pure (fun _ same => same)
            · exact .bind kbcDevice_read (fun _ => .pure (fun _ same => same))
          exact .bind byteRead (fun _ => .pure (fun kbc same => ⟨same, nofun⟩))

def PollLeft (byte : UInt8) (result : Nat × Decoder) (last : Kbc) : Prop :=
  Reenabled byte result.1 last ∧ (result.1 = 0 → result.2.scancode = escBreak)

theorem kbdTestPoll_triple (byte : UInt8) (bytes : UInt8 × UInt8) (statuscode : UInt8) :
    kbcDevice.Triple (HasByte byte) (kbdTestPoll bytes statuscode : Program Message _)
      (PollLeft byte) := by
  have polls : kbcDevice.Triple (HasByte byte)
      (Dialogue.loop (pollRound utilSysInb statuscode) (.start bytes) : Program Message _)
      (fun result last => HasByte byte last ∧ (result.1 = 0 → result.2.scancode = escBreak)) := by
    refine .loop (fun _ => HasByte byte) _ (fun _ same => same) (fun s => ?_)
    refine (pollRound_triple byte statuscode s).mono (fun _ same => same) ?_
    intro outcome last ends
    cases outcome with
    | again next => exact ends.1
    | done result =>
        obtain ⟨code, s⟩ := result
        refine ⟨ends.1, fun zero => ends.2 s ?_⟩
        rw [show code = 0 from zero]
  refine .bind polls (fun result => ?_)
  obtain ⟨code, s⟩ := result
  dsimp only
  by_cases left : code = 0
  · rw [if_neg (not_not.mpr left)]
    have enables : kbcDevice.Triple (HasByte byte)
        (check kbdReenableInt (pure 0) : Program Message Nat) (Reenabled byte) := by
      refine check_triple (kbdReenableInt_triple byte) (.pure (fun _ enabled => enabled)) ?_
      intro code last failed kept
      rw [Reenabled, if_neg failed] at kept
      exact kept
    intro kbc begins
    have escape : s.scancode = escBreak := begins.2 left
    exact enables.bind (fun code => .pure (fun last ends => ⟨ends, fun _ => escape⟩)) kbc begins.1
  · rw [if_pos left]
    exact .pure (fun kbc kept => ⟨kept.1, nofun⟩)

/-- With a controller that answers the command `0x20` by its command byte, and takes the argument of
`0x60` for the new one, a run of `kbd_test_poll` switches the interrupts of the keyboard on and
changes nothing else when it returns 0, and nothing at all when it returns 1. -/
theorem command_byte_restored (bytes : UInt8 × UInt8) (statuscode : UInt8)
    (answers : List (Answer (Reply Message))) (ended : Ended (Reply Message) (Nat × Decoder))
    (ran : kbdTestPoll bytes statuscode answers = some ended) (kbc last : Kbc)
    (answered : kbcDevice.after ended.trace kbc = some last) :
    (ended.value.1 = 0 → last.commandByte = kbc.commandByte ||| enableKbd ∧
      last.awaiting = false ∧ ended.value.2.scancode = escBreak) ∧
    (ended.value.1 ≠ 0 → last.commandByte = kbc.commandByte) := by
  obtain ⟨left, escape⟩ := kbdTestPoll_triple kbc.commandByte bytes statuscode kbc rfl answers ended
    ran last answered
  refine ⟨fun zero => ?_, fun failed => ?_⟩
  · rw [Reenabled, if_pos zero] at left
    exact ⟨left.1, left.2, escape zero⟩
  · rw [Reenabled, if_neg failed] at left
    exact left

def giving (byte : UInt32) : Answer (Reply Unit) :=
  answering (fun port => if port = statReg then some 0 else some byte) true ()

/-- The escape key, and a command byte `0x44` of which bit 0 is clear. -/
theorem command_byte_restored_escape : ∃ ended last,
    kbdTestPoll (0, 0) 0 (List.replicate 3 (giving 0x81) ++ List.replicate 6 (giving 0x44)) =
      some ended ∧
    kbcDevice.after ended.trace ⟨0x44, none, false⟩ = some last ∧ ended.value.1 = 0 ∧
    last.commandByte = 0x45 := by
  have evaluated : (kbdTestPoll (0, 0) 0
      (List.replicate 3 (giving 0x81) ++ List.replicate 6 (giving 0x44))).any (fun ended =>
        (kbcDevice.after ended.trace ⟨0x44, none, false⟩).any (fun _ =>
          decide (ended.value.1 = 0))) = true := by decide +kernel
  obtain ⟨ended, ran, answers⟩ := (Option.any_eq_true _ _).mp evaluated
  obtain ⟨last, answered, returned⟩ := (Option.any_eq_true _ _).mp answers
  have zero := of_decide_eq_true returned
  have restored := command_byte_restored (0, 0) 0 _ ended ran _ last answered
  exact ⟨ended, last, ran, answered, zero, (restored.1 zero).1⟩

end Lcom.Lab3
