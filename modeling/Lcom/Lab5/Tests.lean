import Lcom.Lab5.Move
import Lcom.Minix.Receive
import Lcom.Proj.Commands

/-! The tests of `lab5/lab5.c` with their calls to the system, and `wait_esckey` of `lab5/vg.c`. A
test gives its result and the calls of `vg_drawpixel` that it has made. -/

namespace Lcom.Lab5

open Lcom.Lib Lcom.Minix Lcom.Proj

/-- What the tests take from files that the repository does not have: the functions of `kbc.c`, and
the fields of the mode information that are not needed elsewhere. -/
structure Missing where
  platform : Platform
  macros : VbeMacros
  kbdSubscribeInt : Program Message Nat
  kbdUnsubscribeInt : Program Message Nat
  info : Minix.ModeInfo → ModeInfo

def waitLoop (platform : Platform) : EventLoop UInt8 Message where
  running scancode := scancode != platform.escBreak
  body scancode
    | .interrupts true _ read => read
    | _ => scancode

def moveLoop (platform : Platform) (move : Move) (plan : Plan) : EventLoop State Message where
  running s := s.scancode != platform.escBreak
  body s message := (move.round platform plan s message).getD s

section Tests

variable (missing : Missing)

def waitEsckey (scancode : UInt8) : Program Message (Nat × UInt8) :=
  session missing.kbdSubscribeInt (waitLoop missing.platform) scancode
    (check missing.kbdUnsubscribeInt (pure 0))

/-- `vg_get_mode_info` with its calls; `none` for 1. It does not return if the memory cannot be
mapped. -/
def vgGetModeInfoCalls (mode : UInt16) : Program Message (Option Vg) := do
  let info : Option Minix.ModeInfo ← call (.vbeGetModeInfo mode)
  match vgGetModeInfo (info.map missing.info) with
  | none => return none
  | some (vg, mapping) =>
      let added : Bool ← call (.sysPrivctl mapping.base mapping.limit)
      if added then
        let mapped : Bool ← call (.vmMapPhys mapping.base mapping.vramSize)
        if mapped then return some vg else Dialogue.halt
      else Dialogue.halt

def vgInitialize (mode : UInt16) : Program Message (Option Vg) := do
  match ← vgGetModeInfoCalls missing mode with
  | none => return none
  | some vg => return if (← vgSetMode mode) ≠ 0 then none else some vg

def videoTestInit (mode : UInt16) (delay : UInt8) : Program Message (Nat × List PixelCall) := do
  match ← vgInitialize missing mode with
  | none => return (1, [])
  | some _ =>
      let _ : Unit ← call (.sleep delay.toNat)
      return (← check vgExit (pure 0), [])

/-- The tests that draw, wait for the escape key and leave the mode, for what they draw; the
program ends where that is nothing. -/
def videoTest (mode : UInt16) (scancode : UInt8) (draw : Vg → Option (Nat × List PixelCall)) :
    Program Message (Nat × List PixelCall) := do
  match ← vgInitialize missing mode with
  | none => return (1, [])
  | some vg =>
      match draw vg with
      | none => Dialogue.halt
      | some (code, pixels) =>
          if code ≠ 0 then return (1, pixels)
          else return (← check (Prod.fst <$> waitEsckey missing scancode) (check vgExit (pure 0)),
            pixels)

def videoTestRectangle (mode : UInt16) (rectangle : RectangleCall) (scancode : UInt8) :
    Program Message (Nat × List PixelCall) :=
  videoTest missing mode scancode (fun vg => some (0, vg.drawrectangle rectangle))

def videoTestPattern (mode : UInt16) (noRectangles : UInt8) (first : UInt32) (step : UInt8)
    (scancode : UInt8) : Program Message (Nat × List PixelCall) :=
  videoTest missing mode scancode (fun vg =>
    (vg.drawpattern missing.macros noRectangles first step).map (fun drawn =>
      (drawn.1, drawn.2.flatMap vg.drawrectangle)))

def videoTestXpm (alien1 : XpmImage) (x y : UInt16) (scancode : UInt8) :
    Program Message (Nat × List PixelCall) :=
  videoTest missing 0x14C scancode (fun _ => some (0, drawXpm x y alien1))

/-- `video_test_move`. The division by 0 ends the program. -/
def videoTestMove (move : Move) (img : XpmImage) (scancode : UInt8) :
    Program Message (Nat × List PixelCall) :=
  if move.frRate = 0 then Dialogue.halt
  else match move.plan missing.platform with
  | none => return (1, [])
  | some plan => do
      match ← vgInitialize missing 0x105 with
      | none => return (1, [])
      | some vg =>
          let drawn := drawXpm move.xi move.yi img
          if (← timerSubscribeInt) ≠ 0 then return (1, drawn)
          else if (← missing.kbdSubscribeInt) ≠ 0 then return (1, drawn)
          else
            let s ← (moveLoop missing.platform move plan).program (call .driverReceive)
              ⟨⟨move.xi, move.yi, true, []⟩, 0, scancode⟩
            return (← check vgExit (check missing.kbdUnsubscribeInt
              (check timerUnsubscribeInt (pure 0))),
              drawn ++ s.sprite.drawn.flatMap (fun call =>
                drawNextXpm vg img call.prevX call.prevY call.x call.y))

end Tests

end Lcom.Lab5
