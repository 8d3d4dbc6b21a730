import Lcom.Lib.Transition

/-! Runs that stay in a set of states, and how many steps of one kind they can have. -/

namespace Lcom.Lib

namespace Machine

variable {State Message : Type*} (machine : Machine State Message)

/-- A run that does not leave `stays`, and how many of its steps are `fair`. -/
inductive Stay (stays : State → Prop) (fair : State → Message → Bool) :
    State → Nat → State → Prop where
  | refl (s : State) : Stay stays fair s 0 s
  | step {s middle after : State} {count : Nat} (message : Message)
      (before : Stay stays fair s count middle) (moved : machine.step middle message = some after)
      (within : stays after) : Stay stays fair s (count + (fair middle message).toNat) after

variable {machine} {stays : State → Prop} {fair : State → Message → Bool}

/-- The rule for such runs: a bound that no step raises and that every fair step lowers is a bound
for the fair steps. -/
theorem Stay.bounded (Bound : Nat → State → Prop)
    (lowers : ∀ bound before message after, Bound bound before → stays before →
      machine.step before message = some after → stays after →
      ∃ later, later + (fair before message).toNat ≤ bound ∧ Bound later after)
    {s after : State} {count bound : Nat} (stay : machine.Stay stays fair s count after)
    (begins : stays s) (holds : Bound bound s) :
    stays after ∧ ∃ later, later + count ≤ bound ∧ Bound later after := by
  induction stay with
  | refl => exact ⟨begins, bound, Nat.le_refl _, holds⟩
  | step message before moved within ih =>
      obtain ⟨still, middle, left, bounded⟩ := ih
      obtain ⟨later, lower, kept⟩ := lowers middle _ message _ bounded still moved within
      exact ⟨within, later, by omega, kept⟩

variable (machine) in
def only (allowed : State → Message → Prop) [∀ state message, Decidable (allowed state message)] :
    Machine State Message where
  init := machine.init
  step state message := if allowed state message then machine.step state message else none

theorem only_step {allowed : State → Message → Prop}
    [∀ state message, Decidable (allowed state message)] {before after : State} {message : Message} :
    (machine.only allowed).step before message = some after ↔
      allowed before message ∧ machine.step before message = some after :=
  Option.ite_none_right_eq_some

end Machine

end Lcom.Lib
