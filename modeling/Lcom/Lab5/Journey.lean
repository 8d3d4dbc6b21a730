import Lcom.Lab5.Move

/-! The journey of a sprite that is moved by `video_test_move` along the coordinate that changes. -/

namespace Lcom.Lab5

namespace Move

variable (move : Move)

def stride : Nat := if move.speed.toInt < 0 then 1 else move.speed.toInt.toNat

def start : UInt16 := if move.xi = move.xf then move.yi else move.xi

def target : UInt16 := if move.xi = move.xf then move.yf else move.xf

def place (coordinate : Int) : Int × Int :=
  if move.xi = move.xf then (move.xi.toNat, coordinate) else (coordinate, move.yi.toNat)

/-- The coordinate so many pixels from the beginning in the direction of the end. -/
def along (pixels : Nat) : Int :=
  if move.target < move.start then move.start.toNat - pixels else move.start.toNat + pixels

def distance : Nat := ((move.target.toNat : Int) - move.start.toNat).natAbs

/-- The frames until the end is reached; a journey of no pixels takes one as well. -/
def frames : Nat := max 1 (move.distance ⌈/⌉ move.stride)

def travel (k : Nat) : Int := move.along (min (k * move.stride) move.distance)

/-- The whole steps that reach the end do not leave the range of `uint16_t`. -/
def NoWrap : Prop :=
  0 ≤ move.along (move.frames * move.stride) ∧ move.along (move.frames * move.stride) < 65536

instance : Decidable move.NoWrap := inferInstanceAs (Decidable (_ ∧ _))

end Move

structure Slide where
  position : UInt16
  moving : Bool
  drawn : List UInt16

namespace Move

variable (move : Move)

def slide (s : Slide) : Slide :=
  if s.moving then
    let position : UInt16 := .ofInt (s.position.toNat +
      if move.target < move.start then -(move.stride : Int) else move.stride)
    if if move.target < move.start then position ≤ move.target else move.target ≤ position then
      ⟨position, false, s.drawn ++ [move.target]⟩
    else ⟨position, true, s.drawn ++ [position]⟩
  else s

def slid (k : Nat) : Slide := move.slide^[k] ⟨move.start, true, []⟩

variable {move}

theorem ofInt_toNat (value : Int) : ((UInt16.ofInt value).toNat : Int) = value % 65536 := by
  rw [UInt16.ofInt, UInt16.toNat_ofNat']
  omega

theorem short_of_target (moves : 1 ≤ move.stride) {k : Nat} (positive : 1 ≤ k)
    (before : k < move.frames) : k * move.stride < move.distance := by
  have less : ¬ move.distance ⌈/⌉ move.stride ≤ k := by
    rw [frames] at before
    omega
  rw [ceilDiv_le_iff_le_mul moves, Nat.mul_comm] at less
  exact Nat.lt_of_not_le less

theorem reaches_target (moves : 1 ≤ move.stride) :
    move.distance ≤ move.frames * move.stride := by
  rw [Nat.mul_comm, ← ceilDiv_le_iff_le_mul moves]
  exact Nat.le_max_right _ _

theorem overshoot_le (moves : 1 ≤ move.stride) :
    move.frames * move.stride ≤ move.distance + move.stride := by
  have some : 1 ≤ move.frames := Nat.le_max_left _ _
  obtain ⟨k, last⟩ := Nat.exists_eq_add_of_le' some
  rw [last, Nat.add_mul, Nat.one_mul]
  cases k with
  | zero => omega
  | succ k =>
      have short := short_of_target moves (by omega : 1 ≤ k + 1)
        (by omega : k + 1 < move.frames)
      omega

theorem stride_le (move : Move) : move.stride ≤ 32767 := by
  have upper := move.speed.toInt_lt
  rw [stride]
  split <;> omega

theorem along_cases (move : Move) :
    (move.target < move.start ∧ move.target.toNat < move.start.toNat ∧
      ∀ pixels, move.along pixels = move.start.toNat - pixels) ∨
    (¬ move.target < move.start ∧ move.start.toNat ≤ move.target.toNat ∧
      ∀ pixels, move.along pixels = move.start.toNat + pixels) := by
  by_cases back : move.target < move.start
  · exact .inl ⟨back, UInt16.lt_iff_toNat_lt.mp back, fun _ => if_pos back⟩
  · exact .inr ⟨back, Nat.le_of_not_lt (mt UInt16.lt_iff_toNat_lt.mpr back), fun _ => if_neg back⟩

theorem along_bounds {pixels : Nat} (inside : pixels ≤ move.distance) :
    (min move.start.toNat move.target.toNat : Nat) ≤ move.along pixels ∧
      move.along pixels ≤ (max move.start.toNat move.target.toNat : Nat) := by
  rw [distance] at inside
  rcases along_cases move with ⟨_, back, value⟩ | ⟨_, forth, value⟩
  · rw [value]
    omega
  · rw [value]
    omega

theorem along_between {pixels : Nat} (inside : pixels ≤ move.distance) :
    0 ≤ move.along pixels ∧ move.along pixels < 65536 := by
  have bounds := along_bounds inside
  have first := move.start.toNat_lt
  have last := move.target.toNat_lt
  omega

theorem along_add (pixels : Nat) : move.along (pixels + move.stride) = move.along pixels +
    if move.target < move.start then -(move.stride : Int) else move.stride := by
  rw [along, along]
  split <;> omega

theorem not_reached {pixels : Nat} (short : pixels < move.distance) :
    ¬ if move.target < move.start then UInt16.ofInt (move.along pixels) ≤ move.target
      else move.target ≤ UInt16.ofInt (move.along pixels) := by
  have exact := ofInt_toNat (move.along pixels)
  have range := along_between (Nat.le_of_lt short)
  rw [distance] at short
  rcases along_cases move with ⟨way, back, value⟩ | ⟨way, forth, value⟩
  · rw [if_pos way, UInt16.le_iff_toNat_le]
    have here := value pixels
    omega
  · rw [if_neg way, UInt16.le_iff_toNat_le]
    have here := value pixels
    omega

theorem slide_position {k : Nat} (inside : k * move.stride ≤ move.distance) :
    UInt16.ofInt ((UInt16.ofInt (move.along (k * move.stride))).toNat +
      if move.target < move.start then -(move.stride : Int) else move.stride) =
    .ofInt (move.along ((k + 1) * move.stride)) := by
  have range := along_between inside
  rw [ofInt_toNat, Int.emod_eq_of_lt range.1 range.2, Nat.add_mul, Nat.one_mul, along_add]

theorem slid_before (moves : 1 ≤ move.stride) {k : Nat} (before : k < move.frames) :
    move.slid k = ⟨.ofInt (move.along (k * move.stride)), true,
      (List.range k).map (fun i => .ofInt (move.along ((i + 1) * move.stride)))⟩ := by
  induction k with
  | zero =>
      have begins : UInt16.ofInt (move.along (0 * move.stride)) = move.start := by
        have value : move.along (0 * move.stride) = move.start.toNat := by
          rw [along, Nat.zero_mul]
          split <;> omega
        have exact := ofInt_toNat (move.along (0 * move.stride))
        have bound := move.start.toNat_lt
        rw [← UInt16.toNat_inj]
        omega
      rw [begins]
      rfl
  | succ k ih =>
      have earlier := ih (by omega)
      have inside : k * move.stride ≤ move.distance := by
        have short := short_of_target moves (by omega : 1 ≤ k + 1) before
        rw [Nat.add_mul] at short
        omega
      rw [slid, Function.iterate_succ_apply', ← slid, earlier, slide, if_pos rfl]
      dsimp only
      rw [slide_position inside, if_neg (not_reached (short_of_target moves (by omega) before)),
        List.range_succ, List.map_append]
      rfl

theorem reached_iff (moves : 1 ≤ move.stride) :
    (if move.target < move.start then
        UInt16.ofInt (move.along (move.frames * move.stride)) ≤ move.target
      else move.target ≤ UInt16.ofInt (move.along (move.frames * move.stride))) ↔
      move.NoWrap := by
  have exact := ofInt_toNat (move.along (move.frames * move.stride))
  have least := reaches_target moves
  have most := overshoot_le moves
  have few := move.stride_le
  have first := move.start.toNat_lt
  have last := move.target.toNat_lt
  rw [distance] at least most
  rw [NoWrap]
  rcases along_cases move with ⟨way, back, value⟩ | ⟨way, forth, value⟩
  · rw [if_pos way, UInt16.le_iff_toNat_le]
    have here := value (move.frames * move.stride)
    omega
  · rw [if_neg way, UInt16.le_iff_toNat_le]
    have here := value (move.frames * move.stride)
    omega

/-- The last frame: the target is drawn and the sprite stops, unless the coordinate has wrapped. -/
theorem slid_last (moves : 1 ≤ move.stride) :
    move.slid move.frames =
      if move.NoWrap then
        ⟨.ofInt (move.along (move.frames * move.stride)), false,
          (List.range (move.frames - 1)).map (fun i => .ofInt (move.along ((i + 1) * move.stride)))
            ++ [move.target]⟩
      else
        ⟨.ofInt (move.along (move.frames * move.stride)), true,
          (List.range (move.frames - 1)).map (fun i => .ofInt (move.along ((i + 1) * move.stride)))
            ++ [.ofInt (move.along (move.frames * move.stride))]⟩ := by
  have some : 1 ≤ move.frames := Nat.le_max_left _ _
  obtain ⟨k, last⟩ := Nat.exists_eq_add_of_le' some
  have reached := reached_iff moves
  have inside : k * move.stride ≤ move.distance := by
    cases k with
    | zero => omega
    | succ k => exact Nat.le_of_lt (short_of_target moves (by omega) (by omega))
  rw [last] at reached ⊢
  rw [slid, Function.iterate_succ_apply', ← slid, slid_before moves (by omega), slide, if_pos rfl,
    Nat.add_sub_cancel]
  dsimp only
  rw [slide_position inside]
  exact if_congr reached rfl rfl

theorem travel_frames (moves : 1 ≤ move.stride) : move.travel move.frames = move.target.toNat := by
  rw [travel, Nat.min_eq_right (reaches_target moves), distance]
  rcases along_cases move with ⟨_, back, value⟩ | ⟨_, forth, value⟩
  · rw [value]
    omega
  · rw [value]
    omega

theorem travel_before (moves : 1 ≤ move.stride) {k : Nat} (positive : 1 ≤ k)
    (before : k < move.frames) :
    ((UInt16.ofInt (move.along (k * move.stride))).toNat : Int) = move.travel k := by
  have short := short_of_target moves positive before
  have range := along_between (Nat.le_of_lt short)
  rw [ofInt_toNat, Int.emod_eq_of_lt range.1 range.2, travel, Nat.min_eq_left (Nat.le_of_lt short)]

theorem earlier_drawn (moves : 1 ≤ move.stride) {k : Nat} (before : k < move.frames) :
    ((List.range k).map (fun i => UInt16.ofInt (move.along ((i + 1) * move.stride)))).map
      (fun c => (c.toNat : Int)) = (List.range k).map (fun i => move.travel (i + 1)) := by
  rw [List.map_map]
  apply List.map_congr_left
  intro i member
  have bound := List.mem_range.mp member
  exact travel_before moves (by omega) (by omega)

theorem travel_all (moves : 1 ≤ move.stride) :
    (List.range move.frames).map (fun i => move.travel (i + 1)) =
      (List.range (move.frames - 1)).map (fun i => move.travel (i + 1)) ++
        [(move.target.toNat : Int)] := by
  have some : 1 ≤ move.frames := Nat.le_max_left _ _
  rw [← travel_frames moves]
  obtain ⟨k, last⟩ := Nat.exists_eq_add_of_le' some
  rw [last, List.range_succ, List.map_append]
  rfl

theorem slid_after (moves : 1 ≤ move.stride) (noWrap : move.NoWrap) {k : Nat}
    (after : move.frames ≤ k) : move.slid k = move.slid move.frames := by
  obtain ⟨more, later⟩ := Nat.exists_eq_add_of_le' after
  have arrived := slid_last moves
  rw [if_pos noWrap] at arrived
  rw [later, slid, Function.iterate_add_apply, ← slid]
  apply Function.iterate_fixed
  rw [arrived]
  rfl

theorem slid_drawn (moves : 1 ≤ move.stride) (noWrap : move.NoWrap) (k : Nat) :
    (move.slid k).drawn.map (fun c => (c.toNat : Int)) =
      ((List.range move.frames).map (fun i => move.travel (i + 1))).take k := by
  have some : 1 ≤ move.frames := Nat.le_max_left _ _
  by_cases before : k < move.frames
  · rw [slid_before moves before, earlier_drawn moves before, ← List.map_take, List.take_range,
      Nat.min_eq_left (Nat.le_of_lt before)]
  · have after := Nat.le_of_not_lt before
    rw [slid_after moves noWrap after, slid_last moves, if_pos noWrap, List.map_append,
      earlier_drawn moves (by omega), List.take_of_length_le
      (by rw [List.length_map, List.length_range]; exact after), travel_all moves]
    rfl

/-- If the coordinate wraps, the last frame is not drawn at the end. -/
theorem slid_wrapped (moves : 1 ≤ move.stride) (wraps : ¬ move.NoWrap) :
    (move.slid move.frames).drawn.map (fun c => (c.toNat : Int)) ≠
      ((List.range move.frames).map (fun i => move.travel (i + 1))).take move.frames := by
  have some : 1 ≤ move.frames := Nat.le_max_left _ _
  have missed := mt (reached_iff moves).mp wraps
  rw [slid_last moves, if_neg wraps, List.map_append, earlier_drawn moves (by omega),
    List.take_of_length_le (by rw [List.length_map, List.length_range]), travel_all moves]
  intro same
  have position : UInt16.ofInt (move.along (move.frames * move.stride)) = move.target := by
    have ends := List.append_cancel_left same
    simpa [UInt16.toNat_inj] using ends
  rw [position] at missed
  exact missed (by split <;> exact UInt16.le_refl _)

end Move

end Lcom.Lab5
