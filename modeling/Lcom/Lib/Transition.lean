import Mathlib.Logic.Function.Iterate
import Mathlib.Logic.Relation

/-! Runs of a message-driven machine whose step may fail to return. -/

namespace Lcom.Lib

/-- A machine that handles one message at a time. `step s m = none` means that
handling `m` in `s` does not come back to the point between two messages. -/
structure Machine (State Message : Type*) where
  init : State → Prop
  step : State → Message → Option State

namespace Machine

variable {State Message : Type*} (machine : Machine State Message)

def Next (allowed : State → Message → Prop) (before after : State) : Prop :=
  ∃ message, allowed before message ∧ machine.step before message = some after

/-- Finite runs all of whose steps meet `allowed` in the state they start from. -/
def Run (allowed : State → Message → Prop) : State → State → Prop :=
  Relation.ReflTransGen (machine.Next allowed)

def ReachableVia (allowed : State → Message → Prop) (state : State) : Prop :=
  ∃ start, machine.init start ∧ machine.Run allowed start state

def Reachable (state : State) : Prop := machine.ReachableVia (fun _ _ => True) state

/-- The state after a list of messages, if each of them is allowed and handled. -/
def runList (allowed : State → Message → Prop) [∀ state message, Decidable (allowed state message)] :
    State → List Message → Option State
  | state, [] => some state
  | state, message :: rest =>
      if allowed state message then
        (machine.step state message).bind (fun next => runList allowed next rest)
      else none

variable {machine} {allowed : State → Message → Prop}

theorem Run.invariant {start state : State} (run : machine.Run allowed start state)
    (Inv : State → Prop) (base : Inv start)
    (preserved : ∀ before message after, Inv before → allowed before message →
      machine.step before message = some after → Inv after) : Inv state := by
  induction run with
  | refl => exact base
  | tail _ next ih =>
      rcases next with ⟨message, permitted, moved⟩
      exact preserved _ message _ ih permitted moved

theorem ReachableVia.invariant {state : State} (reached : machine.ReachableVia allowed state)
    (Inv : State → Prop) (base : ∀ start, machine.init start → Inv start)
    (preserved : ∀ before message after, Inv before → allowed before message →
      machine.step before message = some after → Inv after) : Inv state := by
  rcases reached with ⟨start, initial, run⟩
  exact run.invariant Inv (base start initial) preserved

theorem ReachableVia.step {before after : State} {message : Message}
    (reached : machine.ReachableVia allowed before) (permitted : allowed before message)
    (moved : machine.step before message = some after) : machine.ReachableVia allowed after := by
  rcases reached with ⟨start, initial, run⟩
  exact ⟨start, initial, run.tail ⟨message, permitted, moved⟩⟩

theorem Run.weaken {start state : State} (run : machine.Run allowed start state) :
    machine.Run (fun _ _ => True) start state := by
  refine Relation.ReflTransGen.mono ?_ start state run
  intro before after next
  rcases next with ⟨message, _, moved⟩
  exact ⟨message, trivial, moved⟩

theorem run_of_runList [∀ state message, Decidable (allowed state message)] {start state : State}
    (messages : List Message) (played : machine.runList allowed start messages = some state) :
    machine.Run allowed start state := by
  induction messages generalizing start with
  | nil =>
      cases played
      exact Relation.ReflTransGen.refl
  | cons message rest ih =>
      rw [runList] at played
      split at played
      · rename_i permitted
        cases moved : machine.step start message with
        | none => simp [moved] at played
        | some next =>
            rw [moved, Option.bind_some] at played
            exact Relation.ReflTransGen.head ⟨message, permitted, moved⟩ (ih played)
      · cases played

end Machine

/-- The rule for `while (Running s) s = step s;`: a round ends the loop with `Post`, or it keeps
the invariant and decreases the variant. -/
theorem iterate_until {State : Type*} {step : State → State} (Running Inv Post : State → Prop)
    (variant : State → Nat)
    (round : ∀ state, Inv state → Running state →
      (¬ Running (step state) ∧ Post (step state)) ∨
        (Running (step state) ∧ Inv (step state) ∧ variant (step state) < variant state))
    (start : State) (base : Inv start) (running : Running start) :
    ∃ rounds, (∀ earlier < rounds, Running (step^[earlier] start)) ∧
      ¬ Running (step^[rounds] start) ∧ Post (step^[rounds] start) := by
  have general : ∀ bound start, variant start < bound → Inv start → Running start →
      ∃ rounds, (∀ earlier < rounds, Running (step^[earlier] start)) ∧
        ¬ Running (step^[rounds] start) ∧ Post (step^[rounds] start) := by
    intro bound
    induction bound with
    | zero => intro start small; exact absurd small (Nat.not_lt_zero _)
    | succ bound ih =>
        intro start small base running
        rcases round start base running with ⟨stopped, ends⟩ | ⟨goes, kept, smaller⟩
        · refine ⟨1, ?_, stopped, ends⟩
          intro earlier first
          rw [Nat.lt_one_iff.mp first]
          exact running
        · obtain ⟨rounds, before, stopped, ends⟩ := ih (step start) (by omega) kept goes
          refine ⟨rounds + 1, ?_, stopped, ends⟩
          intro earlier bounded
          cases earlier with
          | zero => exact running
          | succ earlier => exact before earlier (Nat.lt_of_succ_lt_succ bounded)
  exact general (variant start + 1) start (Nat.lt_succ_self _) base running

end Lcom.Lib
