import Mathlib.Logic.Basic

/-! Arguments that are evaluated before they are passed on, so that a long computation in the
kernel does not carry unevaluated terms from step to step. -/

namespace Lcom.Lib

variable {β : Type*}

def strictNat (n : Nat) (next : Nat → β) : β :=
  match n with
  | 0 => next 0
  | m + 1 => next (m + 1)

def strictBool (b : Bool) (next : Bool → β) : β :=
  match b with
  | false => next false
  | true => next true

def strictPoint (point : Option (Nat × Nat)) (next : Option (Nat × Nat) → β) : β :=
  match point with
  | none => next none
  | some (x, y) => strictNat x (fun x => strictNat y (fun y => next (some (x, y))))

@[simp] theorem strictNat_eq (n : Nat) (next : Nat → β) : strictNat n next = next n := by
  cases n <;> rfl

@[simp] theorem strictBool_eq (b : Bool) (next : Bool → β) : strictBool b next = next b := by
  cases b <;> rfl

@[simp] theorem strictPoint_eq (point : Option (Nat × Nat)) (next : Option (Nat × Nat) → β) :
    strictPoint point next = next point := by
  cases point with
  | none => rfl
  | some place => simp [strictPoint]

end Lcom.Lib
