import Lcom.Lab3.Scan
import Lcom.Lib.Environment
import Mathlib.Logic.Function.Iterate

/-! `kbd_test_poll` of `lab3/lab3.c`, and the controller that it polls. -/

namespace Lcom.Lab3

open Lcom.Lib Lcom.Minix Lcom.Proj

/-- The body of the loop; `return 1` gives 1, and 0 stands for a loop that is left. The local of
`kbc_ih` holds `statuscode` before it is assigned. -/
def pollRound {m : Type → Type} [Monad m] (inb : Nat → m (Option UInt8)) (statuscode : UInt8)
    (s : Decoder) : m (Dialogue.Round Decoder (Nat × Decoder)) := do
  if s.scancode = escBreak then return .done (0, s)
  else
    match ← inb statReg with
    | none => return .done (1, s)
    | some status =>
        if status &&& (obfBit ||| auxBit) ≠ 0 then return .again s
        else return .again (s.handle (← kbcIh inb statuscode s.scancode))

/-- The function, for what its array and the local of `kbc_ih` hold before they are assigned. -/
def kbdTestPoll {Message : Type} (bytes : UInt8 × UInt8) (statuscode : UInt8) :
    Program Message (Nat × Decoder) := do
  let (code, s) ← Dialogue.loop (pollRound utilSysInb statuscode) (.start bytes)
  if code ≠ 0 then return (1, s)
  else return (← check kbdReenableInt (pure 0), s)

/-- A byte of the keyboard: what the status register shows at the reads of the ports until it is
there, and at those while it waits. -/
structure Arrival where
  idle : List UInt8
  pending : Nat → UInt8
  byte : UInt8
  idleClear : ∀ status ∈ idle, status &&& obfBit = 0
  pendingSet : ∀ k, pending k &&& (obfBit ||| auxBit ||| parityBit ||| timeoutBit) = obfBit

namespace Arrival

def steady (idle : List UInt8) (status byte : UInt8)
    (idleClear : idle.all (fun status => status &&& obfBit == 0) = true)
    (set : status &&& (obfBit ||| auxBit ||| parityBit ||| timeoutBit) = obfBit) : Arrival where
  idle := idle
  pending := fun _ => status
  byte := byte
  idleClear := by simpa using idleClear
  pendingSet := fun _ => set

def pass (arrival : Arrival) (count : Nat) : Arrival :=
  { arrival with
    idle := arrival.idle.drop count
    idleClear := fun status member => arrival.idleClear status (List.mem_of_mem_drop member) }

def hold (arrival : Arrival) : Arrival :=
  { arrival with
    pending := fun k => arrival.pending (k + 1)
    pendingSet := fun k => arrival.pendingSet (k + 1) }

end Arrival

structure Controller where
  last : UInt8
  arrivals : List Arrival

/-- `util_sys_inb` of the status register and of the output buffer. Each read is a moment in which
the next byte gets nearer; without a byte the last one is read again. -/
def Controller.inb (port : Nat) : StateM Controller (Option UInt8) := fun c =>
  match c.arrivals with
  | [] => (some (if port = statReg then 0 else c.last), c)
  | next :: later =>
      match next.idle with
      | [] =>
          if port = statReg then (some (next.pending 0), ⟨c.last, next.hold :: later⟩)
          else (some next.byte, ⟨next.byte, later⟩)
      | status :: _ =>
          (some (if port = statReg then status else c.last), ⟨c.last, next.pass 1 :: later⟩)

def pollStep (statuscode : UInt8) (x : Decoder × Controller) : Decoder × Controller :=
  match pollRound Controller.inb statuscode x.1 x.2 with
  | (.again s, c) => (s, c)
  | (.done (_, s), c) => (s, c)

def polled (statuscode : UInt8) (bytes : UInt8 × UInt8) (last : UInt8) (arrivals : List Arrival)
    (rounds : Nat) : Decoder × Controller :=
  (pollStep statuscode)^[rounds] (.start bytes, ⟨last, arrivals⟩)

inductive Glance where
  | stuck | skip | byte | error | stale
  deriving DecidableEq, Repr

/-- Two reads of the status and one of the data: the loop skips a status with `OBF` or `AUX`, so
that the byte is read if it is there by the second or by the third of them. -/
def glance : List UInt8 → Glance
  | [] => .stuck
  | first :: rest =>
      if first &&& auxBit ≠ 0 then .skip
      else match rest with
        | [] => .byte
        | second :: rest =>
            if second &&& (parityBit ||| timeoutBit) ≠ 0 then .error
            else match rest with
              | [] => .byte
              | _ :: _ => .stale

variable (statuscode : UInt8)

theorem pollStep_left {s : Decoder} (left : s.scancode = escBreak) (c : Controller) :
    pollStep statuscode (s, c) = (s, c) := by
  rw [pollStep, pollRound, if_pos left]
  rfl

theorem pending_bits {status : UInt8}
    (set : status &&& (obfBit ||| auxBit ||| parityBit ||| timeoutBit) = obfBit) :
    status &&& (obfBit ||| auxBit) ≠ 0 ∧ status &&& (parityBit ||| timeoutBit) = 0 := by
  have bytes : ∀ status : BitVec 8,
      UInt8.ofBitVec status &&& (obfBit ||| auxBit ||| parityBit ||| timeoutBit) = obfBit →
      UInt8.ofBitVec status &&& (obfBit ||| auxBit) ≠ 0 ∧
        UInt8.ofBitVec status &&& (parityBit ||| timeoutBit) = 0 := by
    decide +kernel
  exact bytes status.toBitVec set

theorem idle_bits {status : UInt8} (clear : status &&& obfBit = 0) :
    status &&& (obfBit ||| auxBit) = status &&& auxBit := by
  have bytes : ∀ status : BitVec 8, UInt8.ofBitVec status &&& obfBit = 0 →
      UInt8.ofBitVec status &&& (obfBit ||| auxBit) = UInt8.ofBitVec status &&& auxBit := by
    decide +kernel
  exact bytes status.toBitVec clear

theorem kbcIh_read {c after : Controller} (status : UInt8)
    (read : Controller.inb statReg c = (some status, after)) (scancode : UInt8) :
    kbcIh Controller.inb statuscode scancode c =
      if status &&& (parityBit ||| timeoutBit) ≠ 0 then (0, after)
      else ((Controller.inb outBuf after).1.getD scancode, (Controller.inb outBuf after).2) := by
  rw [kbcIh]
  change (if (Controller.inb statReg c).1.getD statuscode &&& (parityBit ||| timeoutBit) ≠ 0
    then pure 0 else _ : StateM Controller UInt8) (Controller.inb statReg c).2 = _
  rw [read, Option.getD_some]
  split
  · rfl
  · rfl

theorem pollRound_read {s : Decoder} (goes : s.scancode ≠ escBreak) {c after : Controller}
    (status : UInt8) (read : Controller.inb statReg c = (some status, after)) :
    pollRound Controller.inb statuscode s c =
      if status &&& (obfBit ||| auxBit) ≠ 0 then (.again s, after)
      else (.again (s.handle (kbcIh Controller.inb statuscode s.scancode after).1),
        (kbcIh Controller.inb statuscode s.scancode after).2) := by
  rw [pollRound, if_neg goes]
  change (match (Controller.inb statReg c).1 with
    | none => pure (.done (1, s))
    | some status =>
        if status &&& (obfBit ||| auxBit) ≠ 0 then pure (.again s)
        else kbcIh Controller.inb statuscode s.scancode >>= fun scancode =>
          pure (.again (s.handle scancode)) :
    StateM Controller (Dialogue.Round Decoder (Nat × Decoder))) (Controller.inb statReg c).2 = _
  rw [read]
  dsimp only
  split
  · rfl
  · rfl

theorem pollStep_read {s : Decoder} (goes : s.scancode ≠ escBreak) {c after : Controller}
    (status : UInt8) (read : Controller.inb statReg c = (some status, after)) :
    pollStep statuscode (s, c) =
      if status &&& (obfBit ||| auxBit) ≠ 0 then (s, after)
      else (s.handle (kbcIh Controller.inb statuscode s.scancode after).1,
        (kbcIh Controller.inb statuscode s.scancode after).2) := by
  rw [pollStep, pollRound_read statuscode goes status read]
  by_cases skip : status &&& (obfBit ||| auxBit) = 0
  · rw [if_neg (not_not.mpr skip), if_neg (not_not.mpr skip)]
  · rw [if_pos skip, if_pos skip]

theorem inb_some (c : Controller) :
    ∃ status after, Controller.inb statReg c = (some status, after) := by
  obtain ⟨last, arrivals⟩ := c
  match arrivals with
  | [] => exact ⟨_, _, rfl⟩
  | ⟨[], _, _, _, _⟩ :: _ => exact ⟨_, _, rfl⟩
  | ⟨_ :: _, _, _, _, _⟩ :: _ => exact ⟨_, _, rfl⟩

theorem pollStep_spec {s : Decoder} (goes : s.scancode ≠ escBreak) (last : UInt8)
    (next : Arrival) (later : List Arrival) :
    pollStep statuscode (s, ⟨last, next :: later⟩) = match glance next.idle with
      | .stuck => (s, ⟨last, next.hold :: later⟩)
      | .skip => (s, ⟨last, next.pass 1 :: later⟩)
      | .byte => (s.handle next.byte, ⟨next.byte, later⟩)
      | .error => (s.handle 0, ⟨last, next.pass 2 :: later⟩)
      | .stale => (s.handle last, ⟨last, next.pass 3 :: later⟩) := by
  obtain ⟨idle, pending, byte, idleClear, pendingSet⟩ := next
  match idle with
  | [] =>
      rw [pollStep_read statuscode goes (pending 0) rfl, if_pos (pending_bits (pendingSet 0)).1]
      rfl
  | first :: rest =>
      rw [pollStep_read statuscode goes first rfl, idle_bits (idleClear first List.mem_cons_self)]
      dsimp only [glance]
      by_cases skip : first &&& auxBit = 0
      · rw [if_neg (not_not.mpr skip), if_neg (not_not.mpr skip)]
        match rest with
        | [] =>
            rw [kbcIh_read statuscode (pending 0) rfl,
              if_neg (not_not.mpr (pending_bits (pendingSet 0)).2)]
            rfl
        | second :: rest =>
            rw [kbcIh_read statuscode second rfl]
            dsimp only
            by_cases error : second &&& (parityBit ||| timeoutBit) = 0
            · rw [if_neg (not_not.mpr error), if_neg (not_not.mpr error)]
              match rest with
              | [] => rfl
              | third :: rest => rfl
            · rw [if_pos error, if_pos error]
              rfl
      · rw [if_pos skip, if_pos skip]

/-- The controller as what answers the calls. Only the reads of the ports change it. -/
def Controller.environment {Message : Type} (message : Message) :
    Environment (Reply Message) Controller := fun request c =>
  (answering (fun port => (Controller.inb port c).1.map UInt8.toUInt32) false message request,
    match request with
    | .sysInb port => (Controller.inb port c).2
    | _ => c)

section Function

variable {Message : Type} (message : Message)

theorem utilSysInb_runs (port : Nat) :
    (Controller.environment message).Runs (utilSysInb port) (Controller.inb port) := by
  have byte : (Controller.environment message (.sysInb port) >>= fun aux : Option UInt32 =>
      pure (aux.map UInt32.toUInt8) : StateM Controller _) = Controller.inb port := by
    funext c
    change (((Controller.inb port c).1.map UInt8.toUInt32).map UInt32.toUInt8, _) = _
    rw [Option.map_map]
    simp [Function.comp_def]
  rw [← byte]
  exact .bind (.ask _) (fun _ => .pure _)

theorem kbcIh_runs (scancode : UInt8) : (Controller.environment message).Runs
    (kbcIh utilSysInb statuscode scancode) (kbcIh Controller.inb statuscode scancode) := by
  refine .bind (utilSysInb_runs message statReg) (fun status => ?_)
  dsimp only
  split
  · exact .pure _
  · exact .bind (utilSysInb_runs message outBuf) (fun _ => .pure _)

theorem pollRound_runs (s : Decoder) : (Controller.environment message).Runs
    (pollRound utilSysInb statuscode s) (pollRound Controller.inb statuscode s) := by
  rw [pollRound, pollRound]
  split
  · exact .pure _
  · refine .bind (utilSysInb_runs message statReg) (fun status => ?_)
    cases status with
    | none => exact .pure _
    | some status =>
        dsimp only
        split
        · exact .pure _
        · exact .bind (kbcIh_runs statuscode message s.scancode) (fun _ => .pure _)

theorem kbcIh_takes (scancode : UInt8) :
    Dialogue.Takes (kbcIh utilSysInb statuscode scancode : Program Message UInt8) := by
  refine .bind (utilSysInb_takes statReg) (fun status => ?_)
  dsimp only
  split
  · exact .pure _
  · exact (Dialogue.Takes.bind (utilSysInb_takes outBuf) (fun _ => .pure _)).shrinks

theorem pollRound_productive : Dialogue.Productive
    (pollRound utilSysInb statuscode : Decoder → Program Message _) := by
  intro s answers ended next ran round
  by_cases left : s.scancode = escBreak
  · rw [pollRound, if_pos left] at ran
    cases ran
    cases round
  · rw [pollRound, if_neg left] at ran
    refine Dialogue.Takes.bind (utilSysInb_takes statReg) (fun status => ?_) answers ended ran
    cases status with
    | none => exact .pure _
    | some status =>
        dsimp only
        split
        · exact .pure _
        · exact (Dialogue.Takes.bind (kbcIh_takes statuscode s.scancode) (fun _ => .pure _)).shrinks

theorem pollStep_ends {rounds : Nat} {x : Decoder × Controller}
    (left : ((pollStep statuscode)^[rounds] x).1.scancode = escBreak) :
    Environment.Ends (pollRound Controller.inb statuscode) x.1 x.2
      (0, ((pollStep statuscode)^[rounds] x).1) ((pollStep statuscode)^[rounds] x).2 := by
  induction rounds generalizing x with
  | zero =>
      refine .done ?_
      rw [pollRound]
      exact congrFun (if_pos left) x.2
  | succ rounds ih =>
      obtain ⟨s, c⟩ := x
      by_cases finished : s.scancode = escBreak
      · rw [Function.iterate_fixed (pollStep_left statuscode finished c)]
        refine .done ?_
        rw [pollRound]
        exact congrFun (if_pos finished) c
      · rw [Function.iterate_succ_apply] at left ⊢
        refine .again ?_ (ih left)
        obtain ⟨status, after, read⟩ := inb_some c
        rw [pollRound_read statuscode finished status read,
          pollStep_read statuscode finished status read]
        split
        · rfl
        · rfl

/-- With the controller the function ends after rounds that leave its loop. -/
theorem kbdTestPoll_ends {bytes : UInt8 × UInt8} {last : UInt8} {arrivals : List Arrival}
    {rounds : Nat} (left : (polled statuscode bytes last arrivals rounds).1.scancode = escBreak) :
    ∃ answers trace c, (Controller.environment message).Allows ⟨last, arrivals⟩ trace c ∧
      ∀ after ended, kbdReenableInt after = some ended →
        kbdTestPoll bytes statuscode (answers ++ after) =
          some ⟨(if ended.value ≠ 0 then 1 else 0, (polled statuscode bytes last arrivals rounds).1),
            trace ++ ended.trace, ended.rest⟩ := by
  obtain ⟨answers, trace, ran, allowed⟩ := Environment.Runs.loop
    (pollRound_productive statuscode) (pollRound_runs statuscode message)
    (pollStep_ends statuscode left)
  refine ⟨answers, trace, _, allowed, fun after ended enabled => ?_⟩
  rw [kbdTestPoll, Dialogue.bind_run (ran after)]
  dsimp only
  rw [if_neg (not_not.mpr rfl), Dialogue.bind_run (check_last enabled)]
  change some (Ended.mk _ (trace ++ (ended.trace ++ [])) _) = _
  rw [List.append_nil]
  rfl

end Function

end Lcom.Lab3
