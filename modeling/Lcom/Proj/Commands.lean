import Lcom.Minix.Calls
import Lcom.Proj.Game

/-! The functions of `mouse.c`, `keyboard.c`, `timer.c`, `rtc.c` and `graphic.c` that set the
devices up, and `game_loop` around its main loop. -/

namespace Lcom.Proj

open Lcom.Lib Lcom.Minix

def outBuf : Nat := 0x60
def statReg : Nat := 0x64
def argsReg : Nat := 0x60

def ibfBit : UInt8 := 0x02

def enableMouse : UInt8 := 0xF4
def disableMouse : UInt8 := 0xF5
def ack : UInt8 := 0xFA
def nack : UInt8 := 0xFE
def ackError : UInt8 := 0xFC
def mouseCommand : UInt8 := 0xD4

def mouseIrq : Nat := 12
def kbdIrq : Nat := 1
def timer0Irq : Nat := 0
def irqRtc : Nat := 8

def rtcAddrReg : Nat := 0x70
def rtcDataReg : Nat := 0x71
def pie : UInt8 := 0x40
def regB : UInt8 := 0x11

variable {Message : Type}

/-- The variables of `send_mouse_command`: its local `ack` and the global `mouse_statuscode`. -/
structure Sending where
  ack : UInt8
  statuscode : UInt8
  deriving DecidableEq, Repr

/-- The condition of the `do while`, which is also where `continue` goes. A result is the value
that is returned with the last status. -/
def Sending.test (s : Sending) : Dialogue.Round Sending (Nat × UInt8) :=
  if s.ack ≠ Proj.ack then .again s else .done (0, s.statuscode)

def Sending.fail (s : Sending) : Dialogue.Round Sending (Nat × UInt8) := .done (1, s.statuscode)

def sendRound (cmd : UInt8) (s : Sending) :
    Program Message (Dialogue.Round Sending (Nat × UInt8)) := do
  match ← utilSysInb statReg with
  | none => return s.fail
  | some statuscode =>
      let s := { s with statuscode := statuscode }
      if statuscode &&& ibfBit ≠ 0 then return s.test
      else if (← sysOutb statReg mouseCommand) ≠ 0 then return s.fail
      else
        match ← utilSysInb statReg with
        | none => return s.fail
        | some statuscode =>
            let s := { s with statuscode := statuscode }
            if statuscode &&& ibfBit ≠ 0 then return s.test
            else if (← sysOutb argsReg cmd) ≠ 0 then return s.fail
            else
              tickdelay 20000
              match ← utilSysInb outBuf with
              | none => return s.fail
              | some reply =>
                  let s := { s with ack := reply }
                  if s.ack = ackError then return s.fail
                  else if s.ack = nack then return s.test
                  else return s.test

def sendMouseCommand (cmd : UInt8) (s : Sending) : Program Message (Nat × UInt8) :=
  Dialogue.loop (sendRound cmd) s

def subscribeInt (irq : Nat) (exclusive : Bool) (hook : Hook) : Program Message Nat := do
  let done : Bool ← call (.sysIrqsetpolicy irq exclusive hook)
  return if done then 0 else 1

def unsubscribeInt (hook : Hook) : Program Message Nat := do
  let done : Bool ← call (.sysIrqrmpolicy hook)
  return if done then 0 else 1

def mouseSubscribeInt : Program Message Nat := subscribeInt mouseIrq true .mouse
def mouseUnsubscribeInt : Program Message Nat := unsubscribeInt .mouse
def kbdSubscribeInt : Program Message Nat := subscribeInt kbdIrq true .kbd
def kbdUnsubscribeInt : Program Message Nat := unsubscribeInt .kbd
def timerSubscribeInt : Program Message Nat := subscribeInt timer0Irq false .timer
def timerUnsubscribeInt : Program Message Nat := unsubscribeInt .timer
def rtcSubscribeInt : Program Message Nat := subscribeInt irqRtc false .rtc
def rtcUnsubscribeInt : Program Message Nat := unsubscribeInt .rtc

def check (step rest : Program Message Nat) : Program Message Nat := do
  if (← step) ≠ 0 then return 1 else rest

theorem subscribeInt_cons {irq : Nat} {exclusive : Bool} {hook : Hook}
    {answer : Answer (Reply Message)} (installed : answer (.sysIrqsetpolicy irq exclusive hook) = true)
    (rest : List (Answer (Reply Message))) :
    subscribeInt irq exclusive hook (answer :: rest) =
      some ⟨0, [⟨.sysIrqsetpolicy irq exclusive hook, true⟩], rest⟩ := by
  have installs : subscribeInt irq exclusive hook (answer :: rest) =
      some ⟨if (show Bool from answer (.sysIrqsetpolicy irq exclusive hook)) then 0 else 1,
        [⟨.sysIrqsetpolicy irq exclusive hook, answer (.sysIrqsetpolicy irq exclusive hook)⟩],
        rest⟩ := rfl
  rw [installs, installed]
  rfl

theorem unsubscribeInt_cons {hook : Hook} {answer : Answer (Reply Message)}
    (removed : answer (.sysIrqrmpolicy hook) = true) (rest : List (Answer (Reply Message))) :
    unsubscribeInt hook (answer :: rest) = some ⟨0, [⟨.sysIrqrmpolicy hook, true⟩], rest⟩ := by
  have removes : unsubscribeInt hook (answer :: rest) =
      some ⟨if (show Bool from answer (.sysIrqrmpolicy hook)) then 0 else 1,
        [⟨.sysIrqrmpolicy hook, answer (.sysIrqrmpolicy hook)⟩], rest⟩ := rfl
  rw [removes, removed]
  rfl

theorem check_run {step : Program Message Nat} {answers : List (Answer (Reply Message))}
    {first : Ended (Reply Message) Nat} (ran : step answers = some first)
    (rest : Program Message Nat) :
    check step rest answers = ((if first.value ≠ 0 then pure 1 else rest) first.rest).map
      (fun second => ⟨second.value, first.trace ++ second.trace, second.rest⟩) := by
  rw [check]
  change (step answers).bind _ = _
  rw [ran]
  rfl

theorem check_subscribeInt {irq : Nat} {exclusive : Bool} {hook : Hook}
    {answer : Answer (Reply Message)} (installed : answer (.sysIrqsetpolicy irq exclusive hook) = true)
    (rest : Program Message Nat) (answers : List (Answer (Reply Message))) :
    check (subscribeInt irq exclusive hook) rest (answer :: answers) = (rest answers).map
      (fun ended => ⟨ended.value, ⟨.sysIrqsetpolicy irq exclusive hook, true⟩ :: ended.trace,
        ended.rest⟩) := by
  rw [check_run (subscribeInt_cons installed answers)]
  rfl

theorem check_returns {step rest : Program Message Nat} {answers : List (Answer (Reply Message))}
    {first second : Ended (Reply Message) Nat} (ran : step answers = some first)
    (next : rest first.rest = some second) : ∃ ended, check step rest answers = some ended := by
  rw [check_run ran]
  split
  · exact ⟨_, rfl⟩
  · rw [next]
    exact ⟨_, rfl⟩

theorem check_last {step : Program Message Nat} {answers : List (Answer (Reply Message))}
    {ended : Ended (Reply Message) Nat} (ran : step answers = some ended) :
    check step (pure 0) answers =
      some ⟨if ended.value ≠ 0 then 1 else 0, ended.trace, ended.rest⟩ := by
  rw [check_run ran]
  split
  · change some (Ended.mk 1 (ended.trace ++ []) _) = _
    rw [List.append_nil]
  · change some (Ended.mk 0 (ended.trace ++ []) _) = _
    rw [List.append_nil]

theorem check_unsubscribeInt (hook : Hook) (answer : Answer (Reply Message))
    (rest : List (Answer (Reply Message))) :
    ∃ code, check (unsubscribeInt hook) (pure 0) (answer :: rest) =
      some ⟨code, [⟨.sysIrqrmpolicy hook, answer (.sysIrqrmpolicy hook)⟩], rest⟩ := by
  have removes : unsubscribeInt hook (answer :: rest) =
      some ⟨_, [⟨.sysIrqrmpolicy hook, answer (.sysIrqrmpolicy hook)⟩], rest⟩ := rfl
  exact ⟨_, check_last removes⟩

def rtcRead (reg : UInt8) : Program Message (Option UInt8) := do
  if (← sysOutb rtcAddrReg reg) ≠ 0 then return none
  else utilSysInb rtcDataReg

def rtcWrite (data reg : UInt8) : Program Message Nat :=
  check (sysOutb rtcAddrReg reg) (check (sysOutb rtcDataReg data) (pure 0))

/-- `rtc_enable` and `rtc_disable`: register B is read, changed and written back. -/
def rtcChange (change : UInt8 → UInt8) : Program Message Nat := do
  match ← rtcRead regB with
  | none => return 1
  | some data => check (rtcWrite (change data) regB) (pure 0)

def rtcEnable : Program Message Nat := rtcChange (· ||| pie)
def rtcDisable : Program Message Nat := rtcChange (· &&& ~~~pie)

/-- The globals of `vg_get_mode_info` that the drawing reads; nothing reads `color_mode`. -/
structure VideoMode where
  xRes : Nat
  yRes : Nat
  bitsPerPixel : Nat
  deriving DecidableEq, Repr

/-- The resolution of the mode, if it is known; the memory of the screen is mapped, or the
function does not return. -/
def vgGetModeInfo (mode : UInt16) : Program Message (Option VideoMode) := do
  let info : Option ModeInfo ← call (.vbeGetModeInfo mode)
  match info with
  | none => return none
  | some info =>
      let vramBase := info.physBasePtr.toNat
      let vramSize := info.xResolution.toNat * info.yResolution.toNat *
        (info.bitsPerPixel.toNat / 8)
      let added : Bool ← call (.sysPrivctl vramBase (vramBase + vramSize))
      if added then
        let mapped : Bool ← call (.vmMapPhys vramBase vramSize)
        if mapped then
          return some ⟨info.xResolution.toNat, info.yResolution.toNat, info.bitsPerPixel.toNat⟩
        else Dialogue.halt
      else Dialogue.halt

def vgSetMode (mode : UInt16) : Program Message Nat := do
  if mode ≠ 0x105 ∧ mode ≠ 0x110 ∧ mode ≠ 0x115 ∧ mode ≠ 0x11A ∧ mode ≠ 0x14C then return 1
  else
    let regs : Option (UInt8 × UInt8) ← call (.sysInt86 0x4F 0x02 (0x4000 ||| mode))
    return if regs = some (0x00, 0x4F) then 0 else 1

def vgExit : Program Message Nat := do
  let done : Bool ← call .vgExit
  return if done then 0 else 1

def mainRound (cfg : Config) (w : World) : Program Proj.Message (Dialogue.Round World World) :=
  if w.game.gameState = .exit then return .done w
  else do
    let message : Proj.Message ← call .driverReceive
    match gameStep cfg w message with
    | none => Dialogue.halt
    | some w => return .again w

def mainLoop (cfg : Config) (w : World) : Program Proj.Message World :=
  Dialogue.loop (mainRound cfg) w

/-- What the locals of `game_loop` and of its two calls of `send_mouse_command` hold before they
are assigned. -/
structure Locals where
  memory : Uninitialised
  enableAck : UInt8
  disableAck : UInt8

def tearDown (locals : Locals) (w : World) : Program Proj.Message Nat :=
  check rtcDisable <| check rtcUnsubscribeInt <| check timerUnsubscribeInt <|
  check (Prod.fst <$> sendMouseCommand disableMouse
    ⟨locals.disableAck, w.mouseGlobals.statuscode⟩) <|
  check mouseUnsubscribeInt <| check kbdUnsubscribeInt <| check vgExit <| pure 0

def play (cfg : Config) (locals : Locals) (statuscode : UInt8) : Program Proj.Message Nat := do
  let _ : Unit ← call (.sleep 4)
  let w ← mainLoop cfg (start cfg { locals.memory with mouseStatuscode := statuscode })
  tearDown locals w

def setUp (cfg : Config) (locals : Locals) : Program Proj.Message Nat :=
  check mouseSubscribeInt <| do
    let (code, statuscode) ← sendMouseCommand enableMouse ⟨locals.enableAck, 0⟩
    if code ≠ 0 then return 1
    else check kbdSubscribeInt <| check timerSubscribeInt <| check rtcSubscribeInt <|
      check rtcEnable <| play cfg locals statuscode

def gameLoopProgram (cfg : Config) (locals : Locals) : Program Proj.Message Nat := do
  match ← vgGetModeInfo 0x105 with
  | none => return 1
  | some _ => check (vgSetMode 0x105) (setUp cfg locals)

end Lcom.Proj
