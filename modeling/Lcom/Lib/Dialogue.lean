import Mathlib.Data.List.Basic

/-! Programs that talk to an environment: every request gets a reply, and the requests and
replies of a run are its trace. A run without enough replies has not returned yet. -/

namespace Lcom.Lib

variable {Request : Type} {Reply : Request → Type}

abbrev Answer (Reply : Request → Type) := ∀ request, Reply request

abbrev Event (Reply : Request → Type) := Σ request, Reply request

/-- What a run returns, what was said, and the replies that are left. -/
structure Ended (Reply : Request → Type) (α : Type) where
  value : α
  trace : List (Event Reply)
  rest : List (Answer Reply)

def Dialogue (Reply : Request → Type) (α : Type) := List (Answer Reply) → Option (Ended Reply α)

namespace Dialogue

variable {α β σ : Type}

instance : Monad (Dialogue Reply) where
  pure value := fun answers => some ⟨value, [], answers⟩
  bind program next := fun answers => (program answers).bind (fun first =>
    (next first.value first.rest).map (fun second =>
      { second with trace := first.trace ++ second.trace }))

def ask (request : Request) : Dialogue Reply (Reply request)
  | [] => none
  | answer :: rest => some ⟨answer request, [⟨request, answer request⟩], rest⟩

def halt : Dialogue Reply α := fun _ => none

theorem bind_eq_some {program : Dialogue Reply α} {next : α → Dialogue Reply β}
    {answers : List (Answer Reply)} {ended : Ended Reply β} :
    (program >>= next) answers = some ended ↔ ∃ first second, program answers = some first ∧
      next first.value first.rest = some second ∧
      ended = { second with trace := first.trace ++ second.trace } := by
  constructor
  · intro ran
    obtain ⟨first, begun, later⟩ := Option.bind_eq_some_iff.mp ran
    obtain ⟨second, finished, same⟩ := Option.map_eq_some_iff.mp later
    exact ⟨first, second, begun, finished, same.symm⟩
  · rintro ⟨first, second, begun, finished, same⟩
    apply Option.bind_eq_some_iff.mpr
    exact ⟨first, begun, Option.map_eq_some_iff.mpr ⟨second, finished, same.symm⟩⟩

theorem bind_run {program : Dialogue Reply α} {answers : List (Answer Reply)} {first : Ended Reply α}
    (begun : program answers = some first) (next : α → Dialogue Reply β) :
    (program >>= next) answers = (next first.value first.rest).map (fun second =>
      { second with trace := first.trace ++ second.trace }) := by
  change (program answers).bind _ = _
  rw [begun]
  rfl

def Yields (program : Dialogue Reply α) (post : α → List (Event Reply) → Prop) : Prop :=
  ∀ answers ended, program answers = some ended → post ended.value ended.trace

namespace Yields

variable {post : α → List (Event Reply) → Prop} {program : Dialogue Reply α}

theorem pure {value : α} (holds : post value []) :
    Yields (Pure.pure value : Dialogue Reply α) post := by
  intro answers ended ran
  cases ran
  exact holds

theorem ask {request : Request} {post : Reply request → List (Event Reply) → Prop}
    (holds : ∀ reply, post reply [⟨request, reply⟩]) :
    Yields (Dialogue.ask request) post := by
  intro answers ended ran
  cases answers with
  | nil => cases ran
  | cons answer rest =>
      cases ran
      exact holds (answer request)

theorem halt : Yields (Dialogue.halt : Dialogue Reply α) post := by
  intro answers ended ran
  cases ran

theorem mono (yields : Yields program post) {weaker : α → List (Event Reply) → Prop}
    (weaken : ∀ value trace, post value trace → weaker value trace) : Yields program weaker :=
  fun answers ended ran => weaken _ _ (yields answers ended ran)

theorem and (first : Yields program post) {other : α → List (Event Reply) → Prop}
    (second : Yields program other) :
    Yields program (fun value trace => post value trace ∧ other value trace) :=
  fun answers ended ran => ⟨first answers ended ran, second answers ended ran⟩

theorem bind {middle : α → List (Event Reply) → Prop} (yields : Yields program middle)
    {next : α → Dialogue Reply β} {post : β → List (Event Reply) → Prop}
    (continues : ∀ value said, middle value said →
      Yields (next value) (fun result trace => post result (said ++ trace))) :
    Yields (program >>= next) post := by
  intro answers ended ran
  obtain ⟨first, second, begun, finished, rfl⟩ := bind_eq_some.mp ran
  exact continues _ _ (yields answers first begun) first.rest second finished

end Yields

inductive Round (σ α : Type) where
  | again (state : σ)
  | done (value : α)

def rounds (body : σ → Dialogue Reply (Round σ α)) : Nat → σ → Dialogue Reply α
  | 0, _ => halt
  | fuel + 1, state => body state >>= fun round =>
      match round with
      | .again state => rounds body fuel state
      | .done value => pure value

/-- A loop each of whose rounds asks for something: there are not more rounds than replies. -/
def loop (body : σ → Dialogue Reply (Round σ α)) (state : σ) : Dialogue Reply α :=
  fun answers => rounds body (answers.length + 1) state answers

/-- The loop rule: `Inv state said` before each round. -/
theorem Yields.loop {body : σ → Dialogue Reply (Round σ α)} {state : σ}
    (Inv : σ → List (Event Reply) → Prop) {post : α → List (Event Reply) → Prop}
    (begins : Inv state [])
    (round : ∀ state said, Inv state said → Yields (body state) (fun round trace =>
      match round with
      | .again state => Inv state (said ++ trace)
      | .done value => post value (said ++ trace))) :
    Yields (Dialogue.loop body state) post := by
  have general : ∀ fuel state said, Inv state said →
      Yields (rounds body fuel state) (fun value trace => post value (said ++ trace)) := by
    intro fuel
    induction fuel with
    | zero => exact fun _ _ _ => Yields.halt
    | succ fuel ih =>
        intro state said holds
        rw [rounds]
        refine Yields.bind (round state said holds) ?_
        intro outcome trace ended
        cases outcome with
        | again state =>
            refine (ih state (said ++ trace) ended).mono ?_
            intro value later yields
            rwa [← List.append_assoc]
        | done value =>
            refine Yields.pure ?_
            rwa [List.append_nil]
  intro answers ended ran
  exact general _ state [] begins answers ended ran

def Shrinks (program : Dialogue Reply α) : Prop :=
  ∀ answers ended, program answers = some ended → ended.rest.length ≤ answers.length

theorem Shrinks.pure (value : α) : Shrinks (Pure.pure value : Dialogue Reply α) := by
  intro answers ended ran
  cases ran
  exact Nat.le_refl _

theorem Shrinks.bind {program : Dialogue Reply α} {next : α → Dialogue Reply β}
    (first : Shrinks program) (second : ∀ value, Shrinks (next value)) :
    Shrinks (program >>= next) := by
  intro answers ended ran
  obtain ⟨middle, last, begun, finished, rfl⟩ := bind_eq_some.mp ran
  have left := second middle.value middle.rest last finished
  exact Nat.le_trans left (first answers middle begun)

def Takes (program : Dialogue Reply α) : Prop :=
  ∀ answers ended, program answers = some ended → ended.rest.length < answers.length

theorem Takes.bind {program : Dialogue Reply α} {next : α → Dialogue Reply β}
    (first : Takes program) (second : ∀ value, Shrinks (next value)) : Takes (program >>= next) := by
  intro answers ended ran
  obtain ⟨middle, last, begun, finished, rfl⟩ := bind_eq_some.mp ran
  have left := second middle.value middle.rest last finished
  exact Nat.lt_of_le_of_lt left (first answers middle begun)

theorem Takes.ask (request : Request) : Takes (Dialogue.ask request : Dialogue Reply _) := by
  intro answers ended ran
  cases answers with
  | nil => cases ran
  | cons answer rest =>
      cases ran
      exact Nat.lt_succ_self _

theorem Takes.shrinks {program : Dialogue Reply α} (takes : Takes program) : Shrinks program :=
  fun answers ended ran => Nat.le_of_lt (takes answers ended ran)

def Productive (body : σ → Dialogue Reply (Round σ α)) : Prop :=
  ∀ state answers ended next, body state answers = some ended → ended.value = .again next →
    ended.rest.length < answers.length

theorem rounds_enough {body : σ → Dialogue Reply (Round σ α)} (productive : Productive body)
    (fuel : Nat) (state : σ) (answers : List (Answer Reply)) (enough : answers.length < fuel) :
    rounds body fuel state answers = loop body state answers := by
  have general : ∀ fuel other state answers, answers.length < fuel → answers.length < other →
      rounds body fuel state answers = rounds body other state answers := by
    intro fuel
    induction fuel with
    | zero => exact fun other state answers none => absurd none (Nat.not_lt_zero _)
    | succ fuel ih =>
        intro other state answers first second
        obtain ⟨other, rfl⟩ := Nat.exists_eq_succ_of_ne_zero (Nat.ne_of_gt (Nat.zero_lt_of_lt second))
        change (body state answers).bind _ = (body state answers).bind _
        cases ran : body state answers with
        | none => rfl
        | some ended =>
            rw [Option.bind_some, Option.bind_some]
            cases round : ended.value with
            | again next =>
                have fewer := productive state answers ended next ran round
                dsimp only
                rw [ih other next ended.rest (by omega) (by omega)]
            | done value => rfl
  exact general fuel _ state answers enough (Nat.lt_succ_self _)

theorem loop_eq {body : σ → Dialogue Reply (Round σ α)} (productive : Productive body) (state : σ) :
    loop body state = body state >>= fun round =>
      match round with
      | .again state => loop body state
      | .done value => pure value := by
  funext answers
  change (body state answers).bind _ = (body state answers).bind _
  cases ran : body state answers with
  | none => rfl
  | some ended =>
      rw [Option.bind_some, Option.bind_some]
      cases round : ended.value with
      | again next =>
          have fewer := productive state answers ended next ran round
          dsimp only
          rw [rounds_enough productive _ next ended.rest fewer]
      | done value => rfl

end Dialogue

end Lcom.Lib
