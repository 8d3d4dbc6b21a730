import Lcom.Lib.EventLoop
import Lcom.Minix.Calls

/-! What `driver_receive` gives to the tests of the labs. -/

namespace Lcom.Minix

open Lcom.Lib

/-- A failed call, a message that is no notification, or a notification: whether it is from
`HARDWARE`, its `interrupts`, and what the interrupt handlers find while it is handled. -/
inductive Receipt (Found : Type) where
  | failed
  | message
  | notify (hardware : Bool) (interrupts : BitVec 64) (found : Found)
  deriving DecidableEq, Repr

def bit (n : Nat) : BitVec 64 := 1#64 <<< n

namespace Receipt

variable {Found State : Type}

def dispatch (s : State) (hardware : BitVec 64 → Found → State) : Receipt Found → State
  | .notify true interrupts found => hardware interrupts found
  | _ => s

def raises (bitNo : Nat) : Receipt Found → Bool
  | .notify true interrupts _ => interrupts &&& bit bitNo != 0
  | _ => false

variable {receipt : Receipt Found} {bitNo : Nat} {s : State} {hardware : BitVec 64 → Found → State}

theorem dispatch_quiet (quiet : receipt.raises bitNo = false)
    (nothing : ∀ interrupts found, interrupts &&& bit bitNo = 0 → hardware interrupts found = s) :
    receipt.dispatch s hardware = s := by
  cases receipt with
  | failed => rfl
  | message => rfl
  | notify fromHardware interrupts found =>
      cases fromHardware with
      | false => rfl
      | true => exact nothing interrupts found (bne_eq_false_iff_eq.mp quiet)

theorem raises_true (raised : receipt.raises bitNo = true) :
    ∃ interrupts found, receipt = .notify true interrupts found ∧
      interrupts &&& bit bitNo ≠ 0 := by
  cases receipt with
  | failed => cases raised
  | message => cases raised
  | notify fromHardware interrupts found =>
      cases fromHardware with
      | false => cases raised
      | true => exact ⟨interrupts, found, rfl, bne_iff_ne.mp raised⟩

end Receipt

variable {Message State : Type}

/-- An answer that gives `inb` for a read, `ok` for a write and a policy, and `message`. -/
def answering (inb : Nat → Option UInt32) (ok : Bool) (message : Message) : Answer (Reply Message)
  | .sysInb port => inb port
  | .sysOutb _ _ => ok
  | .tickdelay _ => ()
  | .sysIrqsetpolicy _ _ _ => ok
  | .sysIrqrmpolicy _ => ok
  | .vbeGetModeInfo _ => (none : Option ModeInfo)
  | .sysPrivctl _ _ => false
  | .vmMapPhys _ _ => false
  | .sysInt86 _ _ _ => (none : Option (UInt8 × UInt8))
  | .vgExit => false
  | .sleep _ => ()
  | .driverReceive => message

/-- `if (setUp()) return 1; while (running) { driver_receive; body } return tearDown();`. The result
has the last state of the loop as well. -/
def session (setUp : Program Message Nat) (loop : EventLoop State Message) (s : State)
    (tearDown : Program Message Nat) : Program Message (Nat × State) := do
  if (← setUp) ≠ 0 then return (1, s)
  else
    let s ← loop.program (call .driverReceive) s
    return (← tearDown, s)

theorem session_leaves {setUp tearDown : Program Message Nat} {loop : EventLoop State Message}
    {s final : State} {before received after : List (Answer (Reply Message))}
    {begun : List (Event (Reply Message))} {ended : Ended (Reply Message) Nat}
    (begins : setUp before = some ⟨0, begun, received ++ after⟩)
    (leaves : loop.Leaves s (received.map (fun answer => answer .driverReceive)) final)
    (ends : tearDown after = some ended) :
    session setUp loop s tearDown before = some ⟨(ended.value, final),
      begun ++ (received.map (fun answer => ⟨.driverReceive, answer .driverReceive⟩) ++ ended.trace),
      ended.rest⟩ := by
  have ran : loop.program (call .driverReceive) s (received ++ after) = some ⟨final, _, after⟩ :=
    EventLoop.program_leaves rfl (fun _ _ => rfl) received after leaves
  change (setUp before).bind _ = _
  rw [begins, Option.bind_some]
  change ((loop.program (call .driverReceive) s (received ++ after)).bind _).map _ = _
  rw [ran, Option.bind_some]
  change (((tearDown after).bind _).map _).map _ = _
  rw [ends]
  change some (Ended.mk _ (begun ++ (_ ++ (ended.trace ++ []))) _) = _
  rw [List.append_nil]

end Lcom.Minix
