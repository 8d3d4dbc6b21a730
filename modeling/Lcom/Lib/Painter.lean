import Mathlib.Data.List.Basic
import Mathlib.Data.Option.Basic

/-! Pictures that are painted layer by layer, the last layer uppermost. -/

namespace Lcom.Lib

abbrev Layer (Pixel Color : Type*) := Pixel → Option Color

namespace Layer

variable {Pixel Color : Type*}

def onto (layer : Layer Pixel Color) (picture : Pixel → Color) : Pixel → Color :=
  fun pixel => (layer pixel).getD (picture pixel)

def merge : List (Layer Pixel Color) → Layer Pixel Color
  | [] => fun _ => none
  | layer :: later => fun pixel => (merge later pixel).or (layer pixel)

variable {front back layers : List (Layer Pixel Color)} {layer : Layer Pixel Color} {pixel : Pixel}
  {color : Color}

theorem merge_cons (layer : Layer Pixel Color) (later : List (Layer Pixel Color)) (pixel : Pixel) :
    merge (layer :: later) pixel = (merge later pixel).or (layer pixel) := rfl

theorem merge_append (front back : List (Layer Pixel Color)) (pixel : Pixel) :
    merge (front ++ back) pixel = (merge back pixel).or (merge front pixel) := by
  induction front with
  | nil => simp [merge]
  | cons layer front ih => rw [List.cons_append, merge_cons, merge_cons, ih, Option.or_assoc]

theorem merge_append_some (front : List (Layer Pixel Color))
    (covered : merge back pixel = some color) :
    merge (front ++ back) pixel = some color := by
  rw [merge_append, covered, Option.some_or]

theorem exists_merge (member : layer ∈ layers) (covers : layer pixel ≠ none) :
    ∃ color, merge layers pixel = some color := by
  obtain ⟨front, back, rfl⟩ := List.append_of_mem member
  obtain ⟨color, here⟩ := Option.ne_none_iff_exists'.mp covers
  rw [merge_append, merge_cons, here]
  cases merge back pixel with
  | none => exact ⟨color, rfl⟩
  | some later => exact ⟨later, rfl⟩

theorem merge_agree
    (agree : ∀ layer ∈ layers, layer pixel = none ∨ layer pixel = some color) :
    merge layers pixel = none ∨ merge layers pixel = some color := by
  induction layers with
  | nil => exact .inl rfl
  | cons layer later ih =>
      rw [merge_cons]
      rcases ih (fun other inside => agree other (List.mem_cons_of_mem _ inside)) with free | same
      · rw [free, Option.none_or]
        exact agree layer List.mem_cons_self
      · rw [same, Option.some_or]
        exact .inr rfl

theorem merge_eq_none (free : ∀ layer ∈ layers, layer pixel = none) :
    merge layers pixel = none := by
  induction layers with
  | nil => rfl
  | cons layer later ih =>
      rw [merge_cons, ih (fun other inside => free other (List.mem_cons_of_mem _ inside)),
        free layer List.mem_cons_self]
      rfl

theorem merge_of_agree (member : layer ∈ layers) (covers : layer pixel ≠ none)
    (agree : ∀ layer ∈ layers, layer pixel = none ∨ layer pixel = some color) :
    merge layers pixel = some color := by
  obtain ⟨top, found⟩ := exists_merge member covers
  rcases merge_agree agree with free | same
  · rw [found] at free
    cases free
  · exact same

theorem onto_some {picture : Pixel → Color} (covers : layer pixel = some color) :
    layer.onto picture pixel = color := by
  rw [onto, covers, Option.getD_some]

theorem merge_cons_onto (layer : Layer Pixel Color) (later : List (Layer Pixel Color))
    (picture : Pixel → Color) :
    (merge (layer :: later)).onto picture = (merge later).onto (layer.onto picture) := by
  funext pixel
  rw [onto, onto, onto, merge_cons]
  cases merge later pixel with
  | none => rfl
  | some color => rfl

variable {Canvas Call : Type*} {view : Canvas → Pixel → Color} {draw : Call → Canvas → Canvas}
  {layerOf : Call → Layer Pixel Color}

/-- Calls each of which paints its layer paint the merged layer. -/
theorem foldl_onto (calls : List Call)
    (paints : ∀ call ∈ calls, ∀ canvas, view (draw call canvas) = (layerOf call).onto (view canvas))
    (canvas : Canvas) :
    view (calls.foldl (fun canvas call => draw call canvas) canvas) =
      (merge (calls.map layerOf)).onto (view canvas) := by
  induction calls generalizing canvas with
  | nil => rfl
  | cons call later ih =>
      rw [List.foldl_cons, ih (fun other inside => paints other (List.mem_cons_of_mem _ inside)),
        paints call List.mem_cons_self, List.map_cons, merge_cons_onto]

section Journey

variable {Place : Type*} (image wipe : Place → Layer Pixel Color)

/-- A sprite that is painted at each of its places, and wiped before it is painted at the next. -/
def journey : List Place → List (Layer Pixel Color)
  | [] => []
  | [place] => [image place]
  | place :: next :: later => image place :: wipe place :: journey (next :: later)

variable {image wipe} {front later : List Place} {place : Place}

theorem journey_cons (some : later ≠ []) :
    journey image wipe (place :: later) = image place :: wipe place :: journey image wipe later := by
  cases later with
  | nil => exact absurd rfl some
  | cons next later => rfl

theorem journey_append (some : later ≠ []) :
    ∃ before, journey image wipe (front ++ later) = before ++ journey image wipe later := by
  induction front with
  | nil => exact ⟨[], rfl⟩
  | cons first front ih =>
      obtain ⟨before, same⟩ := ih
      refine ⟨image first :: wipe first :: before, ?_⟩
      rw [List.cons_append, journey_cons (by simp [some]), same]
      rfl

theorem journey_free
    (free : ∀ place ∈ later, image place pixel = none ∧ wipe place pixel = none) :
    merge (journey image wipe later) pixel = none := by
  induction later with
  | nil => rfl
  | cons place later ih =>
      obtain ⟨first, others⟩ := List.forall_mem_cons.mp free
      by_cases empty : later = []
      · rw [empty, journey, merge_cons, first.1]
        rfl
      · rw [journey_cons empty, merge_cons, merge_cons, ih others, first.1, first.2]
        rfl

/-- The last place whose image covers a pixel decides: what is wiped of it, and else the image. -/
theorem journey_last (covers : image place pixel = some color)
    (free : ∀ other ∈ later, image other pixel = none ∧ wipe other pixel = none) :
    merge (journey image wipe (front ++ place :: later)) pixel =
      if later = [] then some color else (wipe place pixel).or (some color) := by
  obtain ⟨before, same⟩ : ∃ before, journey image wipe (front ++ place :: later) =
      before ++ journey image wipe (place :: later) := journey_append (List.cons_ne_nil place later)
  rw [same]
  by_cases empty : later = []
  · rw [if_pos empty, empty]
    refine merge_append_some before ?_
    rw [journey, merge_cons, covers]
    rfl
  · have reached : merge (journey image wipe (place :: later)) pixel =
        (wipe place pixel).or (some color) := by
      rw [journey_cons empty, merge_cons, merge_cons, journey_free free, covers, Option.none_or]
    rw [if_neg empty]
    cases wiped : wipe place pixel with
    | none =>
        rw [wiped] at reached
        exact merge_append_some before reached
    | some gone =>
        rw [wiped] at reached
        exact merge_append_some before reached

end Journey

end Layer

end Lcom.Lib
