import Lcom.Lib.Dialogue

/-! The calls that the programs make to the system, and what it replies. -/

namespace Lcom.Minix

open Lcom.Lib

structure ModeInfo where
  xResolution : UInt16
  yResolution : UInt16
  bitsPerPixel : UInt8
  memoryModel : UInt8
  physBasePtr : UInt32
  deriving DecidableEq, Repr

/-- The variables whose addresses are passed as hook ids. Each one stands for the policy that was
installed with it. -/
inductive Hook where
  | mouse | kbd | timer | rtc
  deriving DecidableEq, Repr

inductive Request where
  | sysInb (port : Nat)
  | sysOutb (port : Nat) (value : UInt8)
  | tickdelay (micros : Nat)
  | sysIrqsetpolicy (irq : Nat) (exclusive : Bool) (hook : Hook)
  | sysIrqrmpolicy (hook : Hook)
  | vbeGetModeInfo (mode : UInt16)
  | sysPrivctl (base limit : Nat)
  | vmMapPhys (base size : Nat)
  | sysInt86 (ah al : UInt8) (bx : UInt16)
  | vgExit
  | sleep (seconds : Nat)
  | driverReceive
  deriving DecidableEq, Repr

/-- The reply to each call; `none` and `false` are failures. `sys_int86` gives back the registers
`ah` and `al`, and `driver_receive` a message with all that the devices say until the next one. -/
def Reply (Message : Type) : Request → Type
  | .sysInb _ => Option UInt32
  | .sysOutb _ _ => Bool
  | .tickdelay _ => Unit
  | .sysIrqsetpolicy _ _ _ => Bool
  | .sysIrqrmpolicy _ => Bool
  | .vbeGetModeInfo _ => Option ModeInfo
  | .sysPrivctl _ _ => Bool
  | .vmMapPhys _ _ => Bool
  | .sysInt86 _ _ _ => Option (UInt8 × UInt8)
  | .vgExit => Bool
  | .sleep _ => Unit
  | .driverReceive => Message

abbrev Program (Message α : Type) := Dialogue (Reply Message) α

variable {Message : Type}

def call (request : Request) : Program Message (Reply Message request) := Dialogue.ask request

def sysInb (port : Nat) : Program Message (Option UInt32) := call (.sysInb port)

def sysOutb (port : Nat) (value : UInt8) : Program Message Nat := do
  let done : Bool ← call (.sysOutb port value)
  return if done then 0 else 1

def tickdelay (micros : Nat) : Program Message Unit := call (.tickdelay micros)

def utilSysInb (port : Nat) : Program Message (Option UInt8) := do
  let aux ← sysInb port
  return aux.map UInt32.toUInt8

section Calls

variable {α : Type}

theorem utilSysInb_cons (port : Nat) (next : Option UInt8 → Program Message α)
    (answer : Answer (Reply Message)) (rest : List (Answer (Reply Message))) (aux : Option UInt32)
    (reply : answer (.sysInb port) = aux) :
    (utilSysInb port >>= next) (answer :: rest) = (next (aux.map UInt32.toUInt8) rest).map
      (fun ended => { ended with trace := ⟨.sysInb port, aux⟩ :: ended.trace }) := by
  rw [← reply]
  rfl

theorem sysOutb_cons (port : Nat) (value : UInt8) (next : Nat → Program Message α)
    (answer : Answer (Reply Message)) (rest : List (Answer (Reply Message))) (done : Bool)
    (reply : answer (.sysOutb port value) = done) :
    (sysOutb port value >>= next) (answer :: rest) = (next (if done then 0 else 1) rest).map
      (fun ended => { ended with trace := ⟨.sysOutb port value, done⟩ :: ended.trace }) := by
  rw [← reply]
  rfl

theorem utilSysInb_takes (port : Nat) :
    Dialogue.Takes (utilSysInb port : Program Message (Option UInt8)) :=
  .bind (.ask _) (fun _ => .pure _)

theorem sysOutb_takes (port : Nat) (value : UInt8) :
    Dialogue.Takes (sysOutb port value : Program Message Nat) :=
  .bind (.ask _) (fun _ => .pure _)

theorem utilSysInb_yields (port : Nat) :
    Dialogue.Yields (utilSysInb port : Program Message (Option UInt8)) (fun byte trace =>
      ∃ aux, byte = aux.map UInt32.toUInt8 ∧ trace = [⟨.sysInb port, aux⟩]) := by
  have asked : Dialogue.Yields (sysInb port : Program Message (Option UInt32))
      (fun aux trace => trace = [⟨.sysInb port, aux⟩]) := Dialogue.Yields.ask (fun _ => rfl)
  refine Dialogue.Yields.bind asked ?_
  rintro aux said rfl
  exact Dialogue.Yields.pure ⟨aux, rfl, rfl⟩

theorem sysOutb_yields (port : Nat) (value : UInt8) :
    Dialogue.Yields (sysOutb port value : Program Message Nat) (fun code trace =>
      ∃ done : Bool, code = (if done then 0 else 1) ∧ trace = [⟨.sysOutb port value, done⟩]) := by
  have asked : Dialogue.Yields (call (.sysOutb port value) : Program Message Bool)
      (fun done trace => trace = [⟨.sysOutb port value, done⟩]) :=
    Dialogue.Yields.ask (fun _ => rfl)
  refine Dialogue.Yields.bind asked ?_
  rintro done said rfl
  exact Dialogue.Yields.pure ⟨done, rfl, rfl⟩

variable {answers : List (Answer (Reply Message))} {ended : Ended (Reply Message) α}

theorem utilSysInb_bind {port : Nat} {next : Option UInt8 → Program Message α}
    (ran : (utilSysInb port >>= next) answers = some ended) :
    ∃ (answer : Answer (Reply Message)) (aux : Option UInt32) (rest : List _) (trace : List _),
      answers = answer :: rest ∧ answer (.sysInb port) = aux ∧
      next (aux.map UInt32.toUInt8) rest = some ⟨ended.value, trace, ended.rest⟩ ∧
      ended.trace = ⟨.sysInb port, aux⟩ :: trace := by
  obtain ⟨first, second, begun, finished, rfl⟩ := Dialogue.bind_eq_some.mp ran
  cases answers with
  | nil => cases begun
  | cons answer rest =>
      cases begun
      exact ⟨answer, _, rest, second.trace, rfl, rfl, finished, rfl⟩

theorem sysOutb_bind {port : Nat} {value : UInt8} {next : Nat → Program Message α}
    (ran : (sysOutb port value >>= next) answers = some ended) :
    ∃ (answer : Answer (Reply Message)) (done : Bool) (rest : List _) (trace : List _),
      answers = answer :: rest ∧ answer (.sysOutb port value) = done ∧
      next (if done then 0 else 1) rest = some ⟨ended.value, trace, ended.rest⟩ ∧
      ended.trace = ⟨.sysOutb port value, done⟩ :: trace := by
  obtain ⟨first, second, begun, finished, rfl⟩ := Dialogue.bind_eq_some.mp ran
  cases answers with
  | nil => cases begun
  | cons answer rest =>
      cases begun
      exact ⟨answer, _, rest, second.trace, rfl, rfl, finished, rfl⟩

theorem tickdelay_bind {micros : Nat} {next : Unit → Program Message α}
    (ran : (tickdelay micros >>= next) answers = some ended) :
    ∃ (answer : Answer (Reply Message)) (rest : List _) (trace : List _),
      answers = answer :: rest ∧ next () rest = some ⟨ended.value, trace, ended.rest⟩ ∧
      ended.trace = ⟨.tickdelay micros, ()⟩ :: trace := by
  obtain ⟨first, second, begun, finished, rfl⟩ := Dialogue.bind_eq_some.mp ran
  cases answers with
  | nil => cases begun
  | cons answer rest =>
      cases begun
      exact ⟨answer, rest, second.trace, rfl, finished, rfl⟩

end Calls

end Lcom.Minix
