import Lcom.Lib.Dialogue

/-! Environments that answer by a state of their own, and what a program computes with one. -/

namespace Lcom.Lib

variable {Request : Type} {Reply : Request → Type}

abbrev Environment (Reply : Request → Type) (ε : Type) := ∀ request, StateM ε (Reply request)

namespace Environment

variable {ε α β σ : Type} (env : Environment Reply ε)

inductive Allows : ε → List (Event Reply) → ε → Prop where
  | nil (e : ε) : Allows e [] e
  | cons {e after : ε} {request : Request} {trace : List (Event Reply)}
      (later : Allows (env request e).2 trace after) :
      Allows e (⟨request, (env request e).1⟩ :: trace) after

def Runs (program : Dialogue Reply α) (computes : StateM ε α) : Prop :=
  ∀ e, ∃ answers trace,
    (∀ rest, program (answers ++ rest) = some ⟨(computes e).1, trace, rest⟩) ∧
      env.Allows e trace (computes e).2

inductive Ends (body : σ → StateM ε (Dialogue.Round σ α)) : σ → ε → α → ε → Prop where
  | done {state : σ} {e after : ε} {value : α} (last : body state e = (.done value, after)) :
      Ends body state e value after
  | again {state next : σ} {e middle after : ε} {value : α}
      (round : body state e = (.again next, middle)) (later : Ends body next middle value after) :
      Ends body state e value after

variable {env}

theorem Allows.append {e middle after : ε} {first second : List (Event Reply)}
    (begun : env.Allows e first middle) (later : env.Allows middle second after) :
    env.Allows e (first ++ second) after := by
  induction begun with
  | nil => exact later
  | cons _ ih => exact .cons (ih later)

namespace Runs

theorem pure (value : α) : env.Runs (Pure.pure value : Dialogue Reply α) (Pure.pure value) :=
  fun e => ⟨[], [], fun _ => rfl, .nil e⟩

theorem ask (request : Request) : env.Runs (Dialogue.ask request) (env request) :=
  fun e => ⟨[fun request => (env request e).1], _, fun _ => rfl, .cons (.nil _)⟩

theorem bind {program : Dialogue Reply α} {computes : StateM ε α} (first : env.Runs program computes)
    {next : α → Dialogue Reply β} {continues : α → StateM ε β}
    (second : ∀ value, env.Runs (next value) (continues value)) :
    env.Runs (program >>= next) (computes >>= continues) := by
  intro e
  obtain ⟨answers, trace, ran, allowed⟩ := first e
  obtain ⟨others, more, later, allowed'⟩ := second (computes e).1 (computes e).2
  refine ⟨answers ++ others, trace ++ more, fun rest => ?_, allowed.append allowed'⟩
  rw [List.append_assoc, Dialogue.bind_run (ran _), later]
  rfl

theorem loop {body : σ → Dialogue Reply (Dialogue.Round σ α)}
    (productive : Dialogue.Productive body) {computes : σ → StateM ε (Dialogue.Round σ α)}
    (rounds : ∀ state, env.Runs (body state) (computes state)) {state : σ} {e after : ε} {value : α}
    (ends : Ends computes state e value after) :
    ∃ answers trace, (∀ rest, Dialogue.loop body state (answers ++ rest) =
      some ⟨value, trace, rest⟩) ∧ env.Allows e trace after := by
  induction ends with
  | @done state e after value last =>
      obtain ⟨answers, trace, ran, allowed⟩ := rounds state e
      rw [last] at allowed
      refine ⟨answers, trace, fun rest => ?_, allowed⟩
      have ended := ran rest
      rw [last] at ended
      rw [Dialogue.loop_eq productive, Dialogue.bind_run ended]
      change some (Ended.mk value (trace ++ []) rest) = _
      rw [List.append_nil]
  | @again state next e middle after value round _ ih =>
      obtain ⟨answers, trace, ran, allowed⟩ := rounds state e
      obtain ⟨others, more, later, allowed'⟩ := ih
      rw [round] at allowed
      refine ⟨answers ++ others, trace ++ more, fun rest => ?_, allowed.append allowed'⟩
      have ended := ran (others ++ rest)
      rw [round] at ended
      rw [List.append_assoc, Dialogue.loop_eq productive, Dialogue.bind_run ended]
      change (Dialogue.loop body next (others ++ rest)).map _ = _
      rw [later]
      rfl

end Runs

end Environment

end Lcom.Lib
