import Lcom.Lib.Device
import Lcom.Minix.Calls

/-! Port operations on a device. -/

namespace Lcom.Minix

open Lcom.Lib

variable {Message δ : Type} {device : Device (Reply Message) δ} {pre : δ → Prop}

theorem sysOutb_triple {port : Nat} {value : UInt8} {post : Nat → δ → Prop}
    (holds : ∀ d (done : Bool) last, pre d → device ⟨.sysOutb port value, done⟩ d = some last →
      post (if done then 0 else 1) last) :
    device.Triple pre (sysOutb port value : Program Message Nat) post := by
  have asks : device.Triple pre (call (.sysOutb port value) : Program Message Bool)
      (fun (done : Bool) last => post (if done then 0 else 1) last) :=
    .ask (fun d done last begins moved => holds d done last begins moved)
  exact asks.bind (fun done => .pure (fun last reached => reached))

theorem utilSysInb_triple {port : Nat} {post : Option UInt8 → δ → Prop}
    (holds : ∀ d (aux : Option UInt32) last, pre d → device ⟨.sysInb port, aux⟩ d = some last →
      post (aux.map UInt32.toUInt8) last) :
    device.Triple pre (utilSysInb port : Program Message (Option UInt8)) post := by
  have asks : device.Triple pre (call (.sysInb port) : Program Message (Option UInt32))
      (fun (aux : Option UInt32) last => post (aux.map UInt32.toUInt8) last) :=
    .ask (fun d aux last begins moved => holds d aux last begins moved)
  exact asks.bind (fun aux => .pure (fun last reached => reached))

theorem sysOutb_unaware {port : Nat} {value : UInt8}
    (unnoticed : ∀ d (done : Bool), device ⟨.sysOutb port value, done⟩ d = some d) :
    device.Unaware (sysOutb port value : Program Message Nat) := by
  intro d
  refine sysOutb_triple (fun e done last same moved => ?_)
  rw [unnoticed] at moved
  exact (Option.some.inj moved).symm.trans same

theorem utilSysInb_unaware {port : Nat}
    (unnoticed : ∀ d (aux : Option UInt32), device ⟨.sysInb port, aux⟩ d = some d) :
    device.Unaware (utilSysInb port : Program Message (Option UInt8)) := by
  intro d
  refine utilSysInb_triple (fun e aux last same moved => ?_)
  rw [unnoticed] at moved
  exact (Option.some.inj moved).symm.trans same

theorem check_triple {α : Type} {step : Program Message Nat} {rest : Program Message α} {value : α}
    {middle : Nat → δ → Prop} {post : α → δ → Prop} (first : device.Triple pre step middle)
    (goes : device.Triple (middle 0) rest post)
    (fails : ∀ code d, code ≠ 0 → middle code d → post value d) :
    device.Triple pre (step >>= fun code => if code ≠ 0 then Pure.pure value else rest) post := by
  refine first.bind (fun code => ?_)
  by_cases fine : code = 0
  · rw [if_neg (not_not.mpr fine), fine]
    exact goes
  · rw [if_pos fine]
    exact .pure (fun d reached => fails code d fine reached)

end Lcom.Minix
