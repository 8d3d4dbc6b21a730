import Lcom.Lib.Dialogue
import Mathlib.Data.List.Infix

/-! Loops that wait for a message in every round: `while (running) { receive; body }`. -/

namespace Lcom.Lib

theorem countP_snoc {α : Type} (holds : α → Bool) (list : List α) (last : α) :
    (list ++ [last]).countP holds = list.countP holds + (holds last).toNat := by
  rw [List.countP_append, List.countP_singleton]
  cases holds last <;> rfl

structure EventLoop (State Message : Type) where
  running : State → Bool
  body : State → Message → State

namespace EventLoop

variable {State Message : Type} (loop : EventLoop State Message)

def round (s : State) (message : Message) : Option State :=
  if loop.running s then some (loop.body s message) else none

def received (s : State) (messages : List Message) : Option State :=
  messages.foldlM loop.round s

def Leaves (s : State) (messages : List Message) (final : State) : Prop :=
  loop.received s messages = some final ∧ loop.running final = false

variable {loop} {s final : State} {messages : List Message}

theorem round_eq_some {message : Message} :
    loop.round s message = some final ↔ loop.running s = true ∧ loop.body s message = final := by
  rw [round]
  cases loop.running s <;> simp

@[simp] theorem received_nil : loop.received s [] = some s := rfl

theorem received_cons (message : Message) (goes : loop.running s = true) :
    loop.received s (message :: messages) = loop.received (loop.body s message) messages := by
  rw [received, List.foldlM_cons, round, if_pos goes]
  rfl

theorem received_append (later : List Message) :
    loop.received s (messages ++ later) =
      (loop.received s messages).bind (fun s => loop.received s later) :=
  List.foldlM_append

theorem received_snoc (message : Message) :
    loop.received s (messages ++ [message]) = some final ↔
      ∃ before, loop.received s messages = some before ∧ loop.running before = true ∧
        loop.body before message = final := by
  rw [received_append, Option.bind_eq_some_iff]
  constructor
  · rintro ⟨before, earlier, last⟩
    rw [received, List.foldlM_cons] at last
    obtain ⟨after, rounded, same⟩ := Option.bind_eq_some_iff.mp last
    cases same
    exact ⟨before, earlier, round_eq_some.mp rounded⟩
  · rintro ⟨before, earlier, goes, rounded⟩
    refine ⟨before, earlier, ?_⟩
    rw [received_cons message goes, rounded]
    rfl

theorem received_prefix {earlier : List Message} (begins : earlier <+: messages)
    (reached : loop.received s messages = some final) :
    ∃ before, loop.received s earlier = some before := by
  obtain ⟨later, rfl⟩ := begins
  rw [received_append] at reached
  obtain ⟨before, first, -⟩ := Option.bind_eq_some_iff.mp reached
  exact ⟨before, first⟩

/-- The rule for runs: `Inv` relates the state to the messages so far. -/
theorem received_invariant (Inv : List Message → State → Prop) (begins : Inv [] s)
    (round : ∀ earlier before message, Inv earlier before → loop.running before = true →
      Inv (earlier ++ [message]) (loop.body before message))
    (reached : loop.received s messages = some final) : Inv messages final := by
  induction messages using List.reverseRecOn generalizing final with
  | nil =>
      cases reached
      exact begins
  | append_singleton earlier message ih =>
      obtain ⟨before, first, goes, rfl⟩ := (received_snoc message).mp reached
      exact round earlier before message (ih first) goes

theorem leaves_nil : loop.Leaves s [] final ↔ s = final ∧ loop.running s = false := by
  rw [Leaves, received_nil, Option.some.injEq]
  constructor
  · rintro ⟨rfl, left⟩
    exact ⟨rfl, left⟩
  · rintro ⟨rfl, left⟩
    exact ⟨rfl, left⟩

theorem leaves_cons (message : Message) : loop.Leaves s (message :: messages) final ↔
    loop.running s = true ∧ loop.Leaves (loop.body s message) messages final := by
  cases goes : loop.running s with
  | true => simp only [Leaves, received_cons message goes, true_and]
  | false => simp [Leaves, received, List.foldlM_cons, round, goes]

theorem Leaves.after {earlier seen rest more : List Message} {middle : State}
    (leaves : loop.Leaves s seen final) (reached : loop.received s earlier = some middle)
    (same : earlier ++ rest = seen ++ more) :
    ∃ later, seen = earlier ++ later ∧ rest = later ++ more ∧ loop.Leaves middle later final := by
  induction earlier generalizing s seen with
  | nil =>
      cases reached
      exact ⟨seen, rfl, same, leaves⟩
  | cons message earlier ih =>
      have goes : loop.running s = true := by
        cases running : loop.running s with
        | true => rfl
        | false => simp [received, List.foldlM_cons, round, running] at reached
      rw [received_cons message goes] at reached
      cases seen with
      | nil =>
          have left := (leaves_nil.mp leaves).2
          rw [left] at goes
          cases goes
      | cons head seen =>
          obtain ⟨rfl, tail⟩ := List.cons.inj same
          obtain ⟨later, rfl, rest, left⟩ := ih ((leaves_cons message).mp leaves).2 reached tail
          exact ⟨later, rfl, rest, left⟩

theorem Leaves.append {middle : State} {later : List Message}
    (reached : loop.received s messages = some middle) (leaves : loop.Leaves middle later final) :
    loop.Leaves s (messages ++ later) final := by
  refine ⟨?_, leaves.2⟩
  rw [received_append, reached]
  exact leaves.1

variable (loop) in
theorem exists_received (s : State) (messages : List Message) :
    ∃ earlier later final, messages = earlier ++ later ∧ loop.received s earlier = some final ∧
      (later = [] ∨ loop.running final = false) := by
  induction messages generalizing s with
  | nil => exact ⟨[], [], s, rfl, rfl, Or.inl rfl⟩
  | cons message messages ih =>
      cases goes : loop.running s with
      | false => exact ⟨[], message :: messages, s, rfl, rfl, Or.inr goes⟩
      | true =>
          obtain ⟨earlier, later, final, rfl, reached, ends⟩ := ih (loop.body s message)
          refine ⟨message :: earlier, later, final, rfl, ?_, ends⟩
          rw [received_cons message goes, reached]

theorem exists_leaves {s : State} {messages : List Message}
    (stops : ∀ final, loop.received s messages = some final → loop.running final = false) :
    ∃ earlier later final, messages = earlier ++ later ∧ loop.Leaves s earlier final := by
  obtain ⟨earlier, later, final, rfl, reached, ends⟩ := exists_received loop s messages
  refine ⟨earlier, later, final, rfl, reached, ?_⟩
  rcases ends with rfl | left
  · rw [List.append_nil] at stops
    exact stops final reached
  · exact left

section Simulation

variable {Spec Item : Type} {spec : EventLoop Spec Item} {view : State → Spec}
  {brings : Message → Option Item → Prop} {items : List Item}

/-- The items that come with the messages: `brings` says which one a message has, if any. -/
inductive Brings (brings : Message → Option Item → Prop) : List Message → List Item → Prop where
  | nil : Brings brings [] []
  | idle {message : Message} {messages : List Message} {items : List Item}
      (nothing : brings message none) (later : Brings brings messages items) :
      Brings brings (message :: messages) items
  | item {message : Message} {item : Item} {messages : List Message} {items : List Item}
      (something : brings message (some item)) (later : Brings brings messages items) :
      Brings brings (message :: messages) (item :: items)

/-- The loop does with the messages what `spec` does with the items. -/
structure Simulates (loop : EventLoop State Message) (spec : EventLoop Spec Item)
    (view : State → Spec) (brings : Message → Option Item → Prop) : Prop where
  running : ∀ s, loop.running s = spec.running (view s)
  idle : ∀ s message, brings message none → view (loop.body s message) = view s
  item : ∀ s message item, brings message (some item) →
    view (loop.body s message) = spec.body (view s) item

theorem Simulates.leaves (simulates : Simulates loop spec view brings)
    (delivered : Brings brings messages items) {seen more : List Item} (split : items = seen ++ more)
    {last : Spec} (leaves : spec.Leaves (view s) seen last) :
    ∃ received later final, messages = received ++ later ∧ loop.Leaves s received final ∧
      view final = last := by
  have done : ∀ s messages, spec.Leaves (view s) [] last →
      ∃ received later final, messages = received ++ later ∧ loop.Leaves s received final ∧
        view final = last := by
    intro s messages leaves
    obtain ⟨same, left⟩ := leaves_nil.mp leaves
    exact ⟨[], messages, s, rfl, leaves_nil.mpr ⟨rfl, (simulates.running s).trans left⟩, same⟩
  induction delivered generalizing s seen with
  | nil =>
      obtain ⟨rfl, -⟩ := List.append_eq_nil_iff.mp split.symm
      exact done s [] leaves
  | @idle message messages items nothing _ ih =>
      cases seen with
      | nil => exact done s _ leaves
      | cons item seen =>
          have goes := ((leaves_cons item).mp leaves).1
          rw [← simulates.running] at goes
          rw [← simulates.idle s message nothing] at leaves
          obtain ⟨received, later, final, rfl, left, same⟩ := ih split leaves
          exact ⟨message :: received, later, final, rfl, (leaves_cons message).mpr ⟨goes, left⟩, same⟩
  | @item message item messages items something _ ih =>
      cases seen with
      | nil => exact done s _ leaves
      | cons head seen =>
          obtain ⟨rfl, rest⟩ := List.cons.inj split
          obtain ⟨goes, next⟩ := (leaves_cons item).mp leaves
          rw [← simulates.running] at goes
          rw [← simulates.item s message item something] at next
          obtain ⟨received, later, final, rfl, left, same⟩ := ih rest next
          exact ⟨message :: received, later, final, rfl, (leaves_cons message).mpr ⟨goes, left⟩, same⟩

theorem Simulates.left (simulates : Simulates loop spec view brings)
    (delivered : Brings brings messages items) {received later : List Message}
    (split : messages = received ++ later) (leaves : loop.Leaves s received final) :
    ∃ seen more, items = seen ++ more ∧ spec.Leaves (view s) seen (view final) := by
  induction delivered generalizing s received with
  | nil =>
      obtain ⟨rfl, -⟩ := List.append_eq_nil_iff.mp split.symm
      obtain ⟨rfl, left⟩ := leaves_nil.mp leaves
      exact ⟨[], [], rfl, leaves_nil.mpr ⟨rfl, (simulates.running s).symm.trans left⟩⟩
  | @idle message messages items nothing _ ih =>
      cases received with
      | nil =>
          obtain ⟨rfl, left⟩ := leaves_nil.mp leaves
          exact ⟨[], items, rfl, leaves_nil.mpr ⟨rfl, (simulates.running s).symm.trans left⟩⟩
      | cons head received =>
          obtain ⟨rfl, rest⟩ := List.cons.inj split
          obtain ⟨-, next⟩ := (leaves_cons message).mp leaves
          rw [← simulates.idle s message nothing]
          exact ih rest next
  | @item message item messages items something _ ih =>
      cases received with
      | nil =>
          obtain ⟨rfl, left⟩ := leaves_nil.mp leaves
          exact ⟨[], item :: items, rfl,
            leaves_nil.mpr ⟨rfl, (simulates.running s).symm.trans left⟩⟩
      | cons head received =>
          obtain ⟨rfl, rest⟩ := List.cons.inj split
          obtain ⟨goes, next⟩ := (leaves_cons message).mp leaves
          obtain ⟨seen, more, rfl, left⟩ := ih rest next
          rw [simulates.running] at goes
          rw [simulates.item s message item something] at left
          exact ⟨item :: seen, more, rfl, (leaves_cons item).mpr ⟨goes, left⟩⟩

end Simulation

variable {Request : Type} {Reply : Request → Type}

variable (loop) in
def ask (receive : Dialogue Reply Message) (s : State) :
    Dialogue Reply (Dialogue.Round State State) :=
  if loop.running s then (fun message => .again (loop.body s message)) <$> receive
  else pure (.done s)

variable (loop) in
def program (receive : Dialogue Reply Message) (s : State) : Dialogue Reply State :=
  Dialogue.loop (loop.ask receive) s

/-- The program and the loop: it takes the messages of a run that leaves the loop, and no others. -/
theorem program_leaves {receive : Dialogue Reply Message} {decode : Answer Reply → Message}
    {event : Answer Reply → Event Reply} (waits : receive [] = none)
    (receives : ∀ answer rest, receive (answer :: rest) = some ⟨decode answer, [event answer], rest⟩)
    (answers rest : List (Answer Reply)) (leaves : loop.Leaves s (answers.map decode) final) :
    loop.program receive s (answers ++ rest) = some ⟨final, answers.map event, rest⟩ := by
  have again : ∀ s answers, (loop.ask receive s) answers =
      if loop.running s then
        (receive answers).map (fun ended =>
          ⟨.again (loop.body s ended.value), ended.trace, ended.rest⟩)
      else some ⟨.done s, [], answers⟩ := by
    intro s answers
    rw [ask]
    split
    · change (receive answers).bind _ = _
      cases receive answers with
      | none => rfl
      | some ended =>
          change some (Ended.mk _ (ended.trace ++ []) _) = _
          rw [List.append_nil]
          rfl
    · rfl
  have productive : Dialogue.Productive (loop.ask receive) := by
    intro s answers ended next ran round
    rw [again] at ran
    split at ran
    · cases answers with
      | nil => simp [waits] at ran
      | cons answer answers =>
          rw [receives] at ran
          cases ran
          exact Nat.lt_succ_self _
    · cases ran
      cases round
  induction answers generalizing s with
  | nil =>
      obtain ⟨rfl, left⟩ := leaves_nil.mp leaves
      rw [program, Dialogue.loop_eq productive, ask, left]
      rfl
  | cons answer answers ih =>
      obtain ⟨goes, later⟩ := (leaves_cons (decode answer)).mp leaves
      rw [program, Dialogue.loop_eq productive]
      change ((loop.ask receive s) (answer :: (answers ++ rest))).bind _ = _
      rw [again, if_pos goes, receives]
      change (loop.program receive (loop.body s (decode answer)) (answers ++ rest)).map _ = _
      rw [ih later]
      rfl

end EventLoop

end Lcom.Lib
