import Lcom.Minix.Receive
import Lcom.Proj.Commands

/-! `kbc.c` of `lab3`. The constants of its `i8042.h` are those of the project. -/

namespace Lcom.Lab3

open Lcom.Lib Lcom.Minix Lcom.Proj

def auxBit : UInt8 := 0x20
def makeBit : UInt8 := 0x80

def readCommand : UInt8 := 0x20
def writeCommand : UInt8 := 0x60
def enableKbd : UInt8 := 0x01

def kbdHookid : Nat := 1

/-- `kbc_ih`: the new `scancode`. `inb` is `util_sys_inb`, and `statuscode` is what the local
variable that shadows the global holds before it is assigned. -/
def kbcIh {m : Type → Type} [Monad m] (inb : Nat → m (Option UInt8)) (statuscode scancode : UInt8) :
    m UInt8 := do
  let statuscode := (← inb statReg).getD statuscode
  if statuscode &&& (parityBit ||| timeoutBit) ≠ 0 then return 0
  else return (← inb outBuf).getD scancode

def makecode (scanCode : UInt8) : Bool := (scanCode &&& makeBit) >>> 7 = 0

/-- A call of `kbd_print_scancode`, with the elements of `bytes` that it may read. -/
structure Printed where
  make : Bool
  size : Nat
  bytes : List UInt8
  deriving DecidableEq, Repr

/-- The global `scancode`, the locals of the tests, and the calls of `kbd_print_scancode`. -/
structure Decoder where
  scancode : UInt8
  size : Nat
  bytes : UInt8 × UInt8
  printed : List Printed
  deriving DecidableEq, Repr

def Decoder.start (bytes : UInt8 × UInt8) : Decoder := ⟨0, 1, bytes, []⟩

def Decoder.handle (s : Decoder) (scancode : UInt8) : Decoder :=
  if twoBytes scancode then { s with scancode := scancode, size := 2 }
  else
    let bytes := if s.size = 1 then (scancode, s.bytes.2) else (0xE0, scancode)
    { scancode := scancode
      size := 1
      bytes := bytes
      printed := s.printed ++ [⟨makecode scancode, s.size, [bytes.1, bytes.2].take s.size⟩] }

/-- What the tests are for: the bytes one after the other, until the escape key is released. -/
def decodeLoop : EventLoop Decoder UInt8 where
  running s := s.scancode != escBreak
  body := Decoder.handle

variable {Message : Type}

/-- How the loop of `readcommand` and of `writecommand` ends: with `return 1`, or with `tries`. -/
abbrev Attempted (α : Type) := Option (Nat × Option α)

/-- The body of the two loops. `command` is what follows the test of the status; it fails with
`return 1`, else it ends with `break`. -/
def attempt {α : Type} (command : Program Message (Option α)) (tries : Nat) :
    Program Message (Dialogue.Round Nat (Attempted α)) := do
  if tries = 0 then return .done (some (tries, none))
  else
    match ← utilSysInb statReg with
    | none => return .again tries
    | some statuscode =>
        if statuscode &&& (ibfBit ||| obfBit) ≠ 0 then return .again (tries - 1)
        else
          match ← command with
          | none => return .done none
          | some value => return .done (some (tries, some value))

/-- `int tries = 10; while (tries) { .. } if (tries == 0) return 1; return 0;`, with the value that
the command has got if the result is 0. -/
def retry {α : Type} (command : Program Message (Option α)) : Program Message (Option α) := do
  match ← Dialogue.loop (attempt command) 10 with
  | none => return none
  | some (tries, value) => return if tries = 0 then none else value

def readcommand : Program Message (Option UInt8) := retry do
  if (← sysOutb statReg readCommand) ≠ 0 then return none
  else utilSysInb outBuf

def writecommand (commandbyte : UInt8) : Program Message (Option Unit) := retry do
  if (← sysOutb statReg writeCommand) ≠ 0 then return none
  else if (← sysOutb argsReg commandbyte) ≠ 0 then return none
  else return some ()

def kbdReenableInt : Program Message Nat := do
  match ← readcommand with
  | none => return 1
  | some commandByte =>
      match ← writecommand (commandByte ||| enableKbd) with
      | none => return 1
      | some _ => return 0

end Lcom.Lab3
