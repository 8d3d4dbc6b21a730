import Mathlib.Logic.Function.Basic

/-! A heap of objects of one type with `malloc` and `free`. Freed objects keep their
contents; every access to a freed object and every second `free` is recorded. -/

namespace Lcom.Lib

abbrev Ref := Nat

structure Cell (α : Type*) where
  value : α
  removed : Bool

inductive Fault where
  | access (ref : Ref)
  | free (ref : Ref)
  deriving DecidableEq, Repr

/-- References below `next` have been handed out by `alloc`. -/
structure Heap (α : Type*) where
  cell : Ref → Cell α
  next : Ref
  faults : List Fault

namespace Heap

variable {α : Type*} (heap : Heap α)

def empty [Inhabited α] : Heap α := ⟨fun _ => ⟨default, false⟩, 0, []⟩

def read (ref : Ref) : α := (heap.cell ref).value

def Removed (ref : Ref) : Prop := (heap.cell ref).removed = true

instance (ref : Ref) : Decidable (heap.Removed ref) :=
  inferInstanceAs (Decidable (_ = true))

/-- `malloc` followed by the initialisation of every field: the object is fresh. -/
def alloc (value : α) : Heap α :=
  { heap with cell := Function.update heap.cell heap.next ⟨value, false⟩, next := heap.next + 1 }

def touch (ref : Ref) : Heap α :=
  if heap.Removed ref then { heap with faults := heap.faults ++ [.access ref] } else heap

def write (ref : Ref) (value : α) : Heap α :=
  { heap with cell := Function.update heap.cell ref ⟨value, (heap.cell ref).removed⟩ }

def free (ref : Ref) : Heap α :=
  if heap.Removed ref then { heap with faults := heap.faults ++ [.free ref] }
  else { heap with cell := Function.update heap.cell ref ⟨heap.read ref, true⟩ }

variable {heap}

@[simp] theorem touch_cell (ref : Ref) : (heap.touch ref).cell = heap.cell := by
  unfold touch
  split <;> rfl

@[simp] theorem touch_next (ref : Ref) : (heap.touch ref).next = heap.next := by
  unfold touch
  split <;> rfl

@[simp] theorem touch_read (ref : Ref) : (heap.touch ref).read = heap.read := by
  funext other
  simp only [read, touch_cell]

@[simp] theorem write_next (ref : Ref) (value : α) : (heap.write ref value).next = heap.next := rfl

@[simp] theorem free_next (ref : Ref) : (heap.free ref).next = heap.next := by
  unfold free
  split <;> rfl

@[simp] theorem alloc_next (value : α) : (heap.alloc value).next = heap.next + 1 := rfl

theorem write_read (ref : Ref) (value : α) :
    (heap.write ref value).read = Function.update heap.read ref value := by
  funext other
  by_cases same : other = ref
  · subst other
    simp [read, write]
  · simp [read, write, same]

theorem alloc_read (value : α) :
    (heap.alloc value).read = Function.update heap.read heap.next value := by
  funext other
  by_cases same : other = heap.next
  · subst other
    simp [read, alloc]
  · simp [read, alloc, same]

@[simp] theorem free_read (ref : Ref) : (heap.free ref).read = heap.read := by
  funext other
  unfold free
  split
  · rfl
  · by_cases same : other = ref
    · subst other
      simp [read]
    · simp [read, same]

@[simp] theorem touch_removed (ref other : Ref) :
    (heap.touch ref).Removed other ↔ heap.Removed other := by
  simp only [Removed, touch_cell]

theorem touch_of_live {ref : Ref} (live : ¬ heap.Removed ref) : heap.touch ref = heap :=
  if_neg live

theorem touch_faults {ref : Ref} (removed : heap.Removed ref) : (heap.touch ref).faults ≠ [] := by
  rw [touch, if_pos removed]
  simp

@[simp] theorem write_removed (ref other : Ref) (value : α) :
    (heap.write ref value).Removed other ↔ heap.Removed other := by
  by_cases same : other = ref
  · subst other
    simp [Removed, write]
  · simp [Removed, write, same]

theorem free_removed (ref : Ref) : (heap.free ref).Removed ref := by
  unfold free
  split
  · assumption
  · simp [Removed]

theorem alloc_live (value : α) : ¬ (heap.alloc value).Removed heap.next := by
  simp [Removed, alloc]

theorem alloc_removed {ref : Ref} (old : ref < heap.next) (value : α) :
    (heap.alloc value).Removed ref ↔ heap.Removed ref := by
  simp [Removed, alloc, Nat.ne_of_lt old]

structure Later (heap after : Heap α) : Prop where
  faults : heap.faults ≠ [] → after.faults ≠ []
  removed : ∀ ref, heap.Removed ref → after.Removed ref

theorem Later.refl (heap : Heap α) : Later heap heap := ⟨id, fun _ => id⟩

theorem Later.trans {first second third : Heap α} (front : Later first second)
    (back : Later second third) : Later first third :=
  ⟨fun faults => back.faults (front.faults faults),
    fun ref removed => back.removed ref (front.removed ref removed)⟩

theorem touch_later (ref : Ref) : Later heap (heap.touch ref) := by
  constructor
  · intro faults
    unfold touch
    split
    · simp
    · exact faults
  · intro other removed
    exact (touch_removed ref other).mpr removed

theorem write_later (ref : Ref) (value : α) : Later heap (heap.write ref value) :=
  ⟨id, fun other removed => (write_removed ref other value).mpr removed⟩

theorem free_later (ref : Ref) : Later heap (heap.free ref) := by
  unfold free
  split
  · exact ⟨fun _ => by simp, fun _ removed => removed⟩
  · refine ⟨id, ?_⟩
    intro other removed
    by_cases same : other = ref
    · subst other
      simp [Removed]
    · simpa [Removed, same] using removed

end Heap

end Lcom.Lib
