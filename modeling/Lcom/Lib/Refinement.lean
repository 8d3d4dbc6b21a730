import Lcom.Lib.Transition

/-! What a machine does when it is seen through a view of its state. -/

namespace Lcom.Lib

inductive Path {View Label : Type*} (Moves : Label → View → View → Prop) :
    View → List Label → View → Prop where
  | nil (view : View) : Path Moves view [] view
  | cons {label : Label} {first second last : View} {labels : List Label}
      (move : Moves label first second) (rest : Path Moves second labels last) :
      Path Moves first (label :: labels) last

namespace Path

variable {View Label : Type*} {Moves : Label → View → View → Prop}

theorem single {label : Label} {first second : View} (move : Moves label first second) :
    Path Moves first [label] second := .cons move (.nil second)

theorem append {first second last : View} {labels more : List Label}
    (path : Path Moves first labels second) (rest : Path Moves second more last) :
    Path Moves first (labels ++ more) last := by
  induction path with
  | nil => exact rest
  | cons move _ ih => exact .cons move (ih rest)

theorem invariant (Within : View → Prop)
    (closed : ∀ label before after, Within before → Moves label before after → Within after)
    {first last : View} {labels : List Label} (path : Path Moves first labels last)
    (begins : Within first) : Within last := by
  induction path with
  | nil => exact begins
  | cons move _ ih => exact ih (closed _ _ _ begins move)

theorem flatten {first last : View} {labels : List (List Label)}
    (path : Path (fun parts first last => Path Moves first parts last) first labels last) :
    Path Moves first labels.flatten last := by
  induction path with
  | nil => exact .nil _
  | cons move _ ih => exact move.append ih

end Path

namespace Machine

variable {State Message View Label : Type*} {machine : Machine State Message}

def Labelled (machine : Machine State Message) (label : State → Message → State → Label)
    (name : Label) (before after : State) : Prop :=
  ∃ message, machine.step before message = some after ∧ label before message after = name

theorem Run.labelled (label : State → Message → State → Label) {s after : State}
    (run : machine.Run (fun _ _ => True) s after) :
    ∃ labels, Path (machine.Labelled label) s labels after := by
  induction run with
  | refl => exact ⟨[], .nil s⟩
  | tail _ next ih =>
      obtain ⟨labels, path⟩ := ih
      obtain ⟨message, _, moved⟩ := next
      exact ⟨labels ++ [_], path.append (.single ⟨message, moved, rfl⟩)⟩

def Refines (machine : Machine State Message) (Inv : State → Prop) (view : State → View)
    (label : State → Message → State → Label) (Moves : Label → View → View → Prop) : Prop :=
  ∀ before message after, Inv before → machine.step before message = some after →
    Inv after ∧ Moves (label before message after) (view before) (view after)

variable {Inv : State → Prop} {view : State → View} {label : State → Message → State → Label}
  {Moves : Label → View → View → Prop}

/-- What holds of steps holds of runs: the labels of a run are those of a path along the view. -/
theorem Refines.run (refines : machine.Refines Inv view label Moves) {s after : State}
    {labels : List Label} (holds : Inv s) (run : Path (machine.Labelled label) s labels after) :
    Inv after ∧ Path Moves (view s) labels (view after) := by
  induction run with
  | nil => exact ⟨holds, .nil _⟩
  | cons step _ ih =>
      obtain ⟨message, moved, rfl⟩ := step
      obtain ⟨still, move⟩ := refines _ message _ holds moved
      obtain ⟨last, path⟩ := ih still
      exact ⟨last, .cons move path⟩

def pair (machine : Machine State Message) : Machine (State × State) (Message × Message) where
  init both := machine.init both.1 ∧ machine.init both.2
  step both messages := (machine.step both.1 messages.1).bind (fun left =>
    (machine.step both.2 messages.2).map (fun right => (left, right)))

/-- From states that are alike, a message and an altered one lead to states that are alike. -/
def Overlooks (machine : Machine State Message) (Alike : State → State → Prop)
    (Altered : State → Message → Message → Prop) : Prop :=
  ∀ s t message other, Alike s t → Altered s message other →
    Option.Rel Alike (machine.step s message) (machine.step t other)

variable {Alike : State → State → Prop} {Altered : State → Message → Message → Prop}

theorem Overlooks.run (overlooks : machine.Overlooks Alike Altered) {s t after other : State}
    (alike : Alike s t)
    (run : machine.pair.Run (fun both messages => Altered both.1 messages.1 messages.2) (s, t)
      (after, other)) : Alike after other := by
  refine run.invariant (fun both => Alike both.1 both.2) alike ?_
  rintro ⟨s, t⟩ ⟨message, altered⟩ ⟨after, other⟩ alike permitted moved
  have steps := overlooks s t message altered alike permitted
  obtain ⟨left, first, moved⟩ := Option.bind_eq_some_iff.mp moved
  obtain ⟨right, second, same⟩ := Option.map_eq_some_iff.mp moved
  change machine.step s message = some left at first
  change machine.step t altered = some right at second
  rw [first, second] at steps
  cases same
  cases steps with
  | some alike => exact alike

end Machine

end Lcom.Lib
