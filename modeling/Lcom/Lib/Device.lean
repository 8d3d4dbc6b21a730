import Lcom.Lib.EventLoop

/-! Devices with a state of their own that take part in the runs of a program, and triples about the
programs that use one. -/

namespace Lcom.Lib

variable {Request : Type} {Reply : Request → Type}

abbrev Device (Reply : Request → Type) (δ : Type) := Event Reply → δ → Option δ

namespace Device

variable {δ α β σ : Type} (device : Device Reply δ)

def after : List (Event Reply) → δ → Option δ
  | [], d => some d
  | event :: later, d => (device event d).bind (after later)

variable {device} in
theorem after_append (said trace : List (Event Reply)) (d : δ) :
    device.after (said ++ trace) d = (device.after said d).bind (device.after trace) := by
  induction said generalizing d with
  | nil => rfl
  | cons event said ih =>
      rw [List.cons_append, after, after, Option.bind_assoc]
      exact congrArg _ (funext ih)

/-- From a state with `pre`, a run that the device takes part in ends with `post`. -/
def Triple (pre : δ → Prop) (program : Dialogue Reply α) (post : α → δ → Prop) : Prop :=
  ∀ d, pre d → Dialogue.Yields program (fun value trace =>
    ∀ last, device.after trace d = some last → post value last)

variable {device} {pre : δ → Prop} {post : α → δ → Prop} {program : Dialogue Reply α}

namespace Triple

theorem pure {value : α} (holds : ∀ d, pre d → post value d) :
    device.Triple pre (Pure.pure value : Dialogue Reply α) post := by
  intro d begins
  refine Dialogue.Yields.pure (fun last ended => ?_)
  cases ended
  exact holds d begins

theorem ask {request : Request} {post : Reply request → δ → Prop}
    (holds : ∀ d reply last, pre d → device ⟨request, reply⟩ d = some last → post reply last) :
    device.Triple pre (Dialogue.ask request) post := by
  intro d begins
  refine Dialogue.Yields.ask (fun reply last ended => ?_)
  rw [after] at ended
  obtain ⟨middle, moved, same⟩ := Option.bind_eq_some_iff.mp ended
  cases same
  exact holds d reply last begins moved

theorem halt : device.Triple pre (Dialogue.halt : Dialogue Reply α) post :=
  fun _ _ => Dialogue.Yields.halt

theorem mono (triple : device.Triple pre program post) {stronger : δ → Prop}
    {weaker : α → δ → Prop} (before : ∀ d, stronger d → pre d)
    (later : ∀ value d, post value d → weaker value d) : device.Triple stronger program weaker :=
  fun d begins => (triple d (before d begins)).mono
    (fun value _ ends last ended => later value last (ends last ended))

theorem bind {middle : α → δ → Prop} (first : device.Triple pre program middle)
    {next : α → Dialogue Reply β} {post : β → δ → Prop}
    (second : ∀ value, device.Triple (middle value) (next value) post) :
    device.Triple pre (program >>= next) post := by
  intro d begins
  refine Dialogue.Yields.bind (first d begins) ?_
  intro value said reached answers ended ran last total
  rw [after_append] at total
  obtain ⟨state, earlier, later⟩ := Option.bind_eq_some_iff.mp total
  exact second value state (reached state earlier) answers ended ran last later

/-- The loop rule: `inv state` before each round. -/
theorem loop {body : σ → Dialogue Reply (Dialogue.Round σ α)} (inv : σ → δ → Prop) (state : σ)
    (begins : ∀ d, pre d → inv state d)
    (round : ∀ state, device.Triple (inv state) (body state) (fun outcome d =>
      match outcome with
      | .again next => inv next d
      | .done value => post value d)) :
    device.Triple pre (Dialogue.loop body state) post := by
  intro d holds
  refine Dialogue.Yields.loop
    (fun state said => ∀ reached, device.after said d = some reached → inv state reached) ?_ ?_
  · intro reached same
    cases same
    exact begins d holds
  · intro state said earlier answers ended ran
    have ends : ∀ last, device.after (said ++ ended.trace) d = some last → ∃ reached,
        inv state reached ∧ device.after ended.trace reached = some last := by
      intro last total
      rw [after_append] at total
      obtain ⟨reached, first, later⟩ := Option.bind_eq_some_iff.mp total
      exact ⟨reached, earlier reached first, later⟩
    cases outcome : ended.value with
    | again next =>
        intro last total
        obtain ⟨reached, holds, later⟩ := ends last total
        have kept := round state reached holds answers ended ran last later
        rw [outcome] at kept
        exact kept
    | done value =>
        intro last total
        obtain ⟨reached, holds, later⟩ := ends last total
        have kept := round state reached holds answers ended ran last later
        rw [outcome] at kept
        exact kept

end Triple

def Unaware (device : Device Reply δ) (program : Dialogue Reply α) : Prop :=
  ∀ d, device.Triple (· = d) program (fun _ last => last = d)

namespace Unaware

theorem pure (value : α) : device.Unaware (Pure.pure value : Dialogue Reply α) :=
  fun _ => Triple.pure (fun _ same => same)

theorem ask {request : Request} (unnoticed : ∀ d reply, device ⟨request, reply⟩ d = some d) :
    device.Unaware (Dialogue.ask request) := by
  intro d
  refine Triple.ask (fun e reply last same moved => ?_)
  rw [unnoticed] at moved
  exact (Option.some.inj moved).symm.trans same

theorem halt : device.Unaware (Dialogue.halt : Dialogue Reply α) := fun _ => Triple.halt

theorem bind (first : device.Unaware program) {next : α → Dialogue Reply β}
    (second : ∀ value, device.Unaware (next value)) : device.Unaware (program >>= next) :=
  fun d => (first d).bind (fun value => second value d)

theorem loop {body : σ → Dialogue Reply (Dialogue.Round σ α)} (state : σ)
    (round : ∀ state, device.Unaware (body state)) : device.Unaware (Dialogue.loop body state) := by
  intro d
  refine Triple.loop (fun _ reached => reached = d) state (fun _ same => same) (fun state => ?_)
  refine (round state d).mono (fun _ same => same) (fun outcome last same => ?_)
  cases outcome with
  | again next => exact same
  | done value => exact same

theorem eventLoop {State Message : Type} {waits : EventLoop State Message}
    {receive : Dialogue Reply Message} (unaware : device.Unaware receive) (s : State) :
    device.Unaware (waits.program receive s) := by
  refine .loop s (fun s => ?_)
  rw [EventLoop.ask]
  split
  · exact .bind unaware (fun _ => .pure _)
  · exact .pure _

theorem keeps (unaware : device.Unaware program) (inv : δ → Prop) :
    device.Triple inv program (fun _ => inv) := by
  intro d holds
  refine (unaware d d rfl).mono (fun value trace same last ended => ?_)
  rw [same last ended]
  exact holds

theorem andThen (unaware : device.Unaware program) {next : α → Dialogue Reply β}
    {post : β → δ → Prop} (second : ∀ value, device.Triple pre (next value) post) :
    device.Triple pre (program >>= next) post := (unaware.keeps pre).bind second

end Unaware

end Device

end Lcom.Lib
