import Lcom.Proj.Game

/-! Scripts of messages for runs on concrete inputs. -/

namespace Lcom.Proj

open Lcom.Lib

def sampleConfig : Config := ⟨XpmLoader.blank, 60⟩

def sampleMemory : Uninitialised :=
  { alienBullet := { x := 0, y := 0, speed := 0, img := XpmImage.zeroed, active := false }
    mouseBytes := ⟨0, 0, 0⟩
    kbdBytes := (0, 0)
    mouseStatuscode := 0x20 }

def noInputs : Inputs :=
  { mouse := ⟨none, none⟩, keyboard := ⟨none, none⟩, statuscode := 0, rand := [],
    live := XpmImage.zeroed }

def mouseByte (byte : UInt8) : Message :=
  .hardware mouseBit { noInputs with mouse := ⟨some 0x21, some byte⟩ }

def packetBytes (first second third : UInt8) : List Message :=
  [mouseByte first, mouseByte second, mouseByte third]

def keyByte (byte : UInt8) : Message :=
  .hardware kbdBit { noInputs with keyboard := ⟨some 0x01, some byte⟩ }

def timerTick (rand : List Nat) : Message := .hardware timerBit { noInputs with rand := rand }

/-- Two packets that move the cursor from `(50, 700)` to `(450, 320)` and click there. -/
def clickStart : List Message := packetBytes 0x08 200 200 ++ packetBytes 0x09 200 180

def clickShoot : List Message := packetBytes 0x09 0 0

def played (messages : List Message) : Option World :=
  (gameLoop sampleConfig).runList (fun _ _ => True) (start sampleConfig sampleMemory) messages

theorem reachable_of_played (messages : List Message) (P : World → Prop) [DecidablePred P]
    (evaluated : (played messages).any (fun w => decide (P w)) = true) :
    ∃ w, (gameLoop sampleConfig).Reachable w ∧ P w := by
  obtain ⟨w, same, holds⟩ := (Option.any_eq_true _ _).mp evaluated
  exact ⟨w, ⟨_, ⟨sampleMemory, rfl⟩, Machine.run_of_runList messages same⟩, of_decide_eq_true holds⟩

end Lcom.Proj
