import Lcom.Proj.Commands

/-! The packet decoder and `send_mouse_command` of `lab4/mouse.c`. The constants of its `i8042.h`
are those of the project. -/

namespace Lcom.Lab4

open Lcom.Lib Lcom.Minix Lcom.Proj

/-- It shifts the bits of the right and the middle button down before they become `bool`. -/
def mouseGetPacket (bytes : MouseBytes) : Packet :=
  { bytes := bytes
    lb := bytes.first &&& mouseLeft != 0
    rb := (bytes.first &&& mouseRight) >>> 1 != 0
    mb := (bytes.first &&& mouseMiddle) >>> 2 != 0
    deltaY := displacement (bytes.first &&& ySign) bytes.third
    deltaX := displacement (bytes.first &&& xSign) bytes.second
    xOv := (bytes.first &&& xOvfl) >>> 6 != 0
    yOv := (bytes.first &&& yOvfl) >>> 7 != 0 }

theorem mouseGetPacket_eq (bytes : MouseBytes) : mouseGetPacket bytes = getMousePacket bytes := by
  have shifted : ∀ first : BitVec 8,
      ((UInt8.ofBitVec first &&& mouseRight) >>> 1 != 0) =
          (UInt8.ofBitVec first &&& mouseRight != 0) ∧
        ((UInt8.ofBitVec first &&& mouseMiddle) >>> 2 != 0) =
          (UInt8.ofBitVec first &&& mouseMiddle != 0) := by
    decide +kernel
  have buttons := shifted bytes.first.toBitVec
  simp only [UInt8.ofBitVec_toBitVec] at buttons
  rw [mouseGetPacket, getMousePacket, buttons.1, buttons.2]

def sendRound {Message : Type} (cmd : UInt8) (s : Sending) :
    Program Message (Dialogue.Round Sending (Nat × UInt8)) := do
  match ← utilSysInb statReg with
  | none => return s.fail
  | some statuscode =>
      let s := { s with statuscode := statuscode }
      if statuscode &&& ibfBit ≠ 0 then return s.test
      else if (← sysOutb statReg mouseCommand) ≠ 0 then return s.fail
      else
        match ← utilSysInb statReg with
        | none => return s.fail
        | some statuscode =>
            let s := { s with statuscode := statuscode }
            if statuscode &&& ibfBit ≠ 0 then return s.test
            else if (← sysOutb argsReg cmd) ≠ 0 then return s.fail
            else
              tickdelay 20000
              match ← utilSysInb outBuf with
              | none => return s.fail
              | some reply =>
                  let s := { s with ack := reply }
                  if s.ack = ackError then return s.fail else return s.test

def sendMouseCommand {Message : Type} (cmd : UInt8) (s : Sending) :
    Program Message (Nat × UInt8) :=
  Dialogue.loop (sendRound cmd) s

/-- `NACK` goes to the condition of the loop with and without the test for it. -/
theorem sendMouseCommand_eq {Message : Type} (cmd : UInt8) (s : Sending) :
    (sendMouseCommand cmd s : Program Message _) = Proj.sendMouseCommand cmd s := by
  have body : (sendRound cmd : Sending → Program Message _) = Proj.sendRound cmd := by
    funext s
    rw [Proj.sendRound]
    simp only [ite_self]
    rfl
  rw [sendMouseCommand, Proj.sendMouseCommand, body]

end Lcom.Lab4
