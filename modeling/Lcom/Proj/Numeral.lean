import Lcom.Proj.Objects
import Mathlib.Data.Nat.Digits.Lemmas

/-! The score as `drawScore` draws it, and the decimal numeral. -/

namespace Lcom.Proj

/-- `while (count != 0)` with the array: an entry is `none` until it is written, and a store
outside the array fails. -/
def storeDigits : (count div : Nat) → (score : List (Option XpmMap)) →
    Option (List (Option XpmMap))
  | 0, _, score => some score
  | count + 1, div, score =>
      if count < score.length then
        storeDigits count (div / 10) (score.set count (some (digitXpm (div % 10))))
      else none

/-- `for (i = 0; i < aux; i++)`: a read outside the array or of an entry that was not written
fails. -/
def drawDigits (score : List (Option XpmMap)) : (left i : Nat) → (x : Int) →
    Option (List (Int × Int × XpmMap))
  | 0, _, _ => some []
  | left + 1, i, x => do
      let digit ← (score[i]?).join
      let rest ← drawDigits score left (i + 1) (x + 24)
      return (x, 735, digit) :: rest

def drawScoreInArray (score : Int) : Option (List (Int × Int × XpmMap)) :=
  if score = 0 then some [(120, 735, .zero)]
  else do
    let count := countDigits score.toNat
    let array ← storeDigits count score.toNat (List.replicate count none)
    drawDigits array count 0 120

theorem fillScore_length (count div : Nat) : (fillScore count div).length = count := by
  induction count generalizing div with
  | zero => rfl
  | succ count ih => simp [fillScore, ih]

theorem storeDigits_fills (count div : Nat) (tail : List (Option XpmMap)) :
    storeDigits count div (List.replicate count none ++ tail) =
      some ((fillScore count div).map some ++ tail) := by
  induction count generalizing div tail with
  | zero => rfl
  | succ count ih =>
      have inside : count < (List.replicate (count + 1) none ++ tail).length := by simp; omega
      have stored : (List.replicate (count + 1) none ++ tail).set count
          (some (digitXpm (div % 10))) =
          List.replicate count none ++ some (digitXpm (div % 10)) :: tail := by
        rw [List.replicate_succ', List.append_assoc, List.set_append_right _ _ (by simp)]
        simp
      rw [storeDigits, if_pos inside, stored, ih, fillScore, List.map_append, List.append_assoc]
      rfl

theorem drawDigits_draws (front digits : List XpmMap) (x : Int) :
    drawDigits ((front ++ digits).map some) digits.length front.length x =
      some (digits.mapIdx (fun k digit => (x + 24 * (k : Int), 735, digit))) := by
  induction digits generalizing front x with
  | nil => rfl
  | cons digit rest ih =>
      have entry : (((front ++ digit :: rest).map some)[front.length]?).join = some digit := by
        simp
      have later := ih (front ++ [digit]) (x + 24)
      rw [List.append_assoc, List.singleton_append, List.length_append] at later
      rw [List.length_cons, drawDigits, entry]
      change (drawDigits _ rest.length (front.length + 1) (x + 24)).bind _ = _
      rw [show front.length + 1 = front.length + [digit].length from rfl, later, Option.bind_some,
        List.mapIdx_cons]
      have shifted : (fun (k : Nat) (digit : XpmMap) => (x + 24 + 24 * (k : Int), (735 : Int), digit)) =
          fun k digit => (x + 24 * ((k + 1 : Nat) : Int), 735, digit) := by
        funext k digit
        rw [show x + 24 + 24 * (k : Int) = x + 24 * ((k + 1 : Nat) : Int) by push_cast; ring]
      rw [shifted, show x + 24 * ((0 : Nat) : Int) = x by simp]
      rfl

/-- No access leaves the array, and nothing is read before it is written. -/
theorem drawScoreInArray_eq (score : Int) : drawScoreInArray score = some (drawScore score) := by
  unfold drawScoreInArray drawScore
  split
  · rfl
  · have filled := storeDigits_fills (countDigits score.toNat) score.toNat []
    rw [List.append_nil, List.append_nil] at filled
    have drawn := drawDigits_draws [] (fillScore (countDigits score.toNat) score.toNat) 120
    rw [fillScore_length] at drawn
    change (storeDigits _ _ _).bind _ = _
    rw [filled]
    exact drawn

theorem countDigits_eq (n : Nat) : countDigits n = (Nat.digits 10 n).length := by
  induction n using Nat.strong_induction_on with
  | _ n ih =>
      rw [countDigits]
      split
      · rename_i positive
        rw [Nat.digits_def' (by decide) positive, List.length_cons,
          ih (n / 10) (Nat.div_lt_self positive (by decide))]
      · rename_i zero
        rw [Nat.eq_zero_of_not_pos zero]
        rfl

theorem fillScore_digits (n : Nat) :
    fillScore (Nat.digits 10 n).length n = (Nat.digits 10 n).reverse.map digitXpm := by
  induction n using Nat.strong_induction_on with
  | _ n ih =>
      by_cases zero : n = 0
      · rw [zero]
        rfl
      · have positive := Nat.pos_of_ne_zero zero
        rw [Nat.digits_def' (by decide) positive, List.length_cons, fillScore,
          ih (n / 10) (Nat.div_lt_self positive (by decide)), List.reverse_cons, List.map_append]
        rfl

def numeral (n : Nat) : List Nat := if n = 0 then [0] else (Nat.digits 10 n).reverse

theorem numeral_head {n first : Nat} {rest : List Nat} (positive : 0 < n)
    (shape : numeral n = first :: rest) : first ≠ 0 := by
  rw [numeral, if_neg positive.ne'] at shape
  have last := Nat.getLast_digit_ne_zero 10 positive.ne'
  have digits : Nat.digits 10 n = rest.reverse ++ [first] := by
    rw [← List.reverse_reverse (Nat.digits 10 n), shape, List.reverse_cons]
  simp only [digits, List.getLast_append_singleton] at last
  exact last

theorem numeral_lt (n : Nat) : ∀ digit ∈ numeral n, digit < 10 := by
  intro digit member
  rw [numeral] at member
  split at member
  · rw [List.mem_singleton.mp member]
    decide
  · exact Nat.digits_lt_base (by decide) (List.mem_reverse.mp member)

theorem numeral_value (n : Nat) : (numeral n).foldl (fun value digit => 10 * value + digit) 0 = n := by
  rw [numeral]
  split
  · rename_i zero
    rw [zero]
    rfl
  · calc (Nat.digits 10 n).reverse.foldl (fun value digit => 10 * value + digit) 0
        = (Nat.digits 10 n).foldr (fun digit value => 10 * value + digit) 0 := List.foldl_reverse
      _ = (Nat.digits 10 n).foldr (fun digit value => digit + 10 * value) 0 := by
          simp only [Nat.add_comm]
      _ = Nat.ofDigits 10 (Nat.digits 10 n) := (Nat.ofDigits_eq_foldr 10 _).symm
      _ = n := Nat.ofDigits_digits 10 n

theorem drawScore_numeral {score : Int} (count : 0 ≤ score) :
    drawScore score = (numeral score.toNat).mapIdx
      (fun k digit => (120 + 24 * (k : Int), 735, digitXpm digit)) := by
  rw [drawScore, numeral]
  split
  · rename_i zero
    rw [zero]
    rfl
  · rename_i nonzero
    rw [if_neg (by omega), countDigits_eq, fillScore_digits]
    apply List.ext_getElem?
    intro k
    simp only [List.getElem?_mapIdx, List.getElem?_map, Option.map_map]
    rfl

/-- The score is drawn as its decimal numeral, one image for each digit, and every access to the
array is inside it. -/
theorem score_numeral (score : Int) (count : 0 ≤ score) :
    drawScoreInArray score = some ((numeral score.toNat).mapIdx
      (fun k digit => (120 + 24 * (k : Int), 735, digitXpm digit))) ∧
    (numeral score.toNat).foldl (fun value digit => 10 * value + digit) 0 = score.toNat ∧
    (∀ digit ∈ numeral score.toNat, digit < 10) ∧
    (score = 0 → numeral score.toNat = [0]) ∧
    (0 < score → (numeral score.toNat).head? ≠ some 0) := by
  refine ⟨?_, numeral_value _, numeral_lt _, ?_, ?_⟩
  · rw [drawScoreInArray_eq, drawScore_numeral count]
  · intro zero
    rw [zero]
    rfl
  · intro positive leading
    obtain ⟨rest, shape⟩ := List.head?_eq_some_iff.mp leading
    exact numeral_head (by omega) shape rfl

theorem score_numeral_480 : drawScoreInArray 480 =
    some [(120, 735, .four), (144, 735, .eight), (168, 735, .zero)] := by
  have digits : numeral (480 : Int).toNat = [4, 8, 0] := by simp [numeral]
  rw [(score_numeral 480 (by decide)).1, digits]
  rfl

end Lcom.Proj
