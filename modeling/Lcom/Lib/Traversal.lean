import Mathlib.Data.List.Basic

/-! One pass over an array that rewrites each element and threads an accumulator,
the shape of a C `for` loop over `a[0 .. n-1]`. -/

namespace Lcom.Lib

variable {α σ : Type*}

def traverse (body : α → σ → α × σ) : List α → σ → List α × σ
  | [], acc => ([], acc)
  | item :: rest, acc =>
      let visited := body item acc
      let tail := traverse body rest visited.2
      (visited.1 :: tail.1, tail.2)

@[simp] theorem traverse_nil (body : α → σ → α × σ) (acc : σ) :
    traverse body [] acc = ([], acc) := rfl

theorem traverse_cons (body : α → σ → α × σ) (item : α) (rest : List α) (acc : σ) :
    traverse body (item :: rest) acc =
      ((body item acc).1 :: (traverse body rest (body item acc).2).1,
        (traverse body rest (body item acc).2).2) := rfl

@[simp] theorem traverse_length (body : α → σ → α × σ) (items : List α) (acc : σ) :
    (traverse body items acc).1.length = items.length := by
  induction items generalizing acc with
  | nil => rfl
  | cons item rest ih => simp [traverse_cons, ih]

theorem traverse_append (body : α → σ → α × σ) (front back : List α) (acc : σ) :
    (traverse body (front ++ back) acc).2 =
      (traverse body back (traverse body front acc).2).2 := by
  induction front generalizing acc with
  | nil => rfl
  | cons item rest ih => exact ih (body item acc).2

/-- The loop rule: `Inv done todo acc` relates the elements already rewritten, the
elements still to visit and the accumulator. -/
theorem traverse_rule (body : α → σ → α × σ) (Inv : List α → List α → σ → Prop)
    (visit : ∀ done item rest acc, Inv done (item :: rest) acc →
      Inv (done ++ [(body item acc).1]) rest (body item acc).2)
    (items : List α) (acc : σ) (start : Inv [] items acc) :
    Inv (traverse body items acc).1 [] (traverse body items acc).2 := by
  have general : ∀ todo done acc, Inv done todo acc →
      Inv (done ++ (traverse body todo acc).1) [] (traverse body todo acc).2 := by
    intro todo
    induction todo with
    | nil =>
        intro done acc holds
        simpa using holds
    | cons item rest ih =>
        intro done acc holds
        have next := ih _ _ (visit done item rest acc holds)
        simpa [traverse_cons] using next
  simpa using general items [] acc start

theorem traverse_acc (body : α → σ → α × σ) (Inv : σ → Prop)
    (visit : ∀ item acc, Inv acc → Inv (body item acc).2)
    (items : List α) (acc : σ) (start : Inv acc) : Inv (traverse body items acc).2 :=
  traverse_rule body (fun _ _ acc => Inv acc) (fun _ item _ acc holds => visit item acc holds)
    items acc start

/-- A traversal does not depend on a part of the accumulator that `view` hides if no visit does. -/
theorem traverse_congr {τ : Type*} (body : α → σ → α × σ) (view : σ → τ)
    (visit : ∀ item acc other, view acc = view other →
      (body item acc).1 = (body item other).1 ∧ view (body item acc).2 = view (body item other).2)
    (items : List α) (acc other : σ) (same : view acc = view other) :
    (traverse body items acc).1 = (traverse body items other).1 ∧
      view (traverse body items acc).2 = view (traverse body items other).2 := by
  induction items generalizing acc other with
  | nil => exact ⟨rfl, same⟩
  | cons item rest ih =>
      have head := visit item acc other same
      have tail := ih (body item acc).2 (body item other).2 head.2
      rw [traverse_cons, traverse_cons]
      exact ⟨by rw [head.1, tail.1], tail.2⟩

end Lcom.Lib
