import Lcom.Lab5.Journey
import Lcom.Lab5.Rectangles

/-! Where a sprite that is moved by `video_test_move` stops. -/

namespace Lcom.Lab5

namespace Move

variable {move : Move}

def period (platform : Platform) (move : Move) : Nat :=
  platform.sysHz / move.frRate.toNat *
    if move.speed.toInt < 0 then (-move.speed.toInt).toNat else 1

theorem period_lt (platform : Platform) (move : Move) : move.period platform < 2 ^ 31 := by
  have lower := move.speed.le_toInt
  have few : (if move.speed.toInt < 0 then (-move.speed.toInt).toNat else 1) ≤ 32768 := by
    split <;> omega
  calc move.period platform
      ≤ platform.sysHz * 32768 := Nat.mul_le_mul (Nat.div_le_self _ _) few
    _ ≤ 65535 * 32768 := Nat.mul_le_mul_right _ (Nat.le_of_lt_succ platform.bounded)
    _ < 2 ^ 31 := by decide

def path (move : Move) (k : Nat) : Int × Int := move.place (move.travel k)

structure Planned (platform : Platform) (move : Move) (plan : Plan) : Prop where
  interval : plan.ipf = move.period platform
  negative : plan.negativeMov = decide (move.target < move.start)
  steps : (plan.movX, plan.movY) =
    if move.xi = move.xf then
      (0, if move.target < move.start then -(move.stride : Int) else move.stride)
    else (if move.target < move.start then -(move.stride : Int) else move.stride, 0)

theorem plan_eq (platform : Platform) (rate : move.frRate ≠ 0)
    (straight : move.xi = move.xf ∨ move.yi = move.yf) :
    ∃ plan, move.plan platform = some plan ∧ Planned platform move plan := by
  have steps : (if move.speed.toInt < 0 then 1 else move.speed.toInt) = (move.stride : Int) := by
    rw [stride]
    split <;> omega
  have interval : (if move.speed.toInt < 0 then
      ((platform.sysHz / move.frRate.toNat : Nat) : Int) * -move.speed.toInt
      else (platform.sysHz / move.frRate.toNat : Nat)) = move.period platform := by
    rw [period]
    split
    · push_cast
      rw [Int.toNat_of_nonneg (by omega)]
    · rw [Nat.mul_one]
  have diagonal : ¬ (move.xi ≠ move.xf ∧ move.yi ≠ move.yf) := by
    rcases straight with same | same
    · exact fun both => both.1 same
    · exact fun both => both.2 same
  refine ⟨_, by rw [plan, if_neg rate, if_neg diagonal], interval, ?_, ?_⟩
  · rw [start, target]
    by_cases column : move.xi = move.xf
    · simp [column]
    · have row := straight.resolve_left column
      simp [column, row]
  · rw [steps, start, target]
    by_cases column : move.xi = move.xf
    · simp [column]
    · simp [column]

end Move

def NextXpm.position (call : NextXpm) : Int × Int := (call.x.toNat, call.y.toNat)

structure Follows (move : Move) (sprite : Sprite) (slide : Slide) : Prop where
  place : ((sprite.xi.toNat : Int), (sprite.yi.toNat : Int)) = move.place slide.position.toNat
  moving : sprite.moving = slide.moving
  drawn : sprite.drawn.map NextXpm.position = slide.drawn.map (fun c => move.place c.toNat)

section Follows

variable {move : Move} {plan : Plan} {sprite : Sprite} {slide : Slide}

theorem ofInt_same (value : UInt16) : UInt16.ofInt ((value.toNat : Int) + 0) = value := by
  have exact := Move.ofInt_toNat ((value.toNat : Int) + 0)
  have bound := value.toNat_lt
  rw [← UInt16.toNat_inj]
  omega

theorem test_iff (back : Prop) [Decidable back] (other position target : UInt16) :
    ((other ≤ other ∧ target ≤ position ∧ ¬ decide back = true ∨
        other ≤ other ∧ position ≤ target ∧ decide back = true) ↔
      if back then position ≤ target else target ≤ position) ∧
    ((target ≤ position ∧ other ≤ other ∧ ¬ decide back = true ∨
        position ≤ target ∧ other ≤ other ∧ decide back = true) ↔
      if back then position ≤ target else target ≤ position) := by
  by_cases going : back
  · simp [going]
  · simp [going]

theorem place_target (straight : move.xi = move.xf ∨ move.yi = move.yf) :
    move.place move.target.toNat = ((move.xf.toNat : Int), (move.yf.toNat : Int)) := by
  rw [Move.place, Move.target]
  by_cases column : move.xi = move.xf
  · rw [if_pos column, if_pos column, column]
  · rw [if_neg column, if_neg column, straight.resolve_left column]

theorem follows_drawn
    (drawn : sprite.drawn.map NextXpm.position = slide.drawn.map (fun c => move.place c.toNat))
    {x y position xf yf : UInt16}
    (place : ((x.toNat : Int), (y.toNat : Int)) = move.place position.toNat)
    (ends : ((xf.toNat : Int), (yf.toNat : Int)) = move.place move.target.toNat)
    {tested reached : Prop} [Decidable tested] [Decidable reached] (test : tested ↔ reached) :
    Follows move
      (if tested then ⟨x, y, false, sprite.drawn ++ [⟨sprite.xi, sprite.yi, xf, yf⟩]⟩
      else ⟨x, y, true, sprite.drawn ++ [⟨sprite.xi, sprite.yi, x, y⟩]⟩)
      (if reached then ⟨position, false, slide.drawn ++ [move.target]⟩
      else ⟨position, true, slide.drawn ++ [position]⟩) := by
  rw [if_congr test rfl rfl]
  split
  · refine ⟨place, rfl, ?_⟩
    rw [List.map_append, List.map_append, drawn, List.map_singleton, List.map_singleton, ← ends]
    rfl
  · refine ⟨place, rfl, ?_⟩
    rw [List.map_append, List.map_append, drawn, List.map_singleton, List.map_singleton, ← place]
    rfl

theorem Follows.next {platform : Platform} (straight : move.xi = move.xf ∨ move.yi = move.yf)
    (planned : move.Planned platform plan) (follows : Follows move sprite slide) :
    Follows move (move.next plan sprite) (move.slide slide) := by
  obtain ⟨place, moving, drawn⟩ := follows
  obtain ⟨_, negative, steps⟩ := planned
  rw [Move.next, Move.slide, moving]
  split
  · generalize (if move.target < move.start then -(move.stride : Int) else move.stride) = mov
      at steps ⊢
    by_cases column : move.xi = move.xf
    · have target : move.target = move.yf := if_pos column
      rw [if_pos column] at steps
      obtain ⟨movX, movY⟩ := Prod.mk.inj steps
      rw [Move.place, if_pos column, Prod.mk.injEq, Int.natCast_inj, Int.natCast_inj,
        UInt16.toNat_inj, UInt16.toNat_inj] at place
      have stays : UInt16.ofInt (sprite.xi.toNat + 0) = move.xf := by
        rw [ofInt_same, place.1, column]
      have moved : UInt16.ofInt (sprite.yi.toNat + mov) = .ofInt (slide.position.toNat + mov) := by
        rw [place.2]
      have across : ∀ c : UInt16, ((move.xf.toNat : Int), (c.toNat : Int)) = move.place c.toNat := by
        intro c
        rw [Move.place, if_pos column, column]
      rw [Move.frame, movX, movY, negative, stays, moved, ← target]
      exact follows_drawn drawn (across _) (across _) (test_iff _ move.xf _ move.target).1
    · have target : move.target = move.xf := if_neg column
      rw [if_neg column] at steps
      obtain ⟨movX, movY⟩ := Prod.mk.inj steps
      rw [Move.place, if_neg column, Prod.mk.injEq, Int.natCast_inj, Int.natCast_inj,
        UInt16.toNat_inj, UInt16.toNat_inj] at place
      have stays : UInt16.ofInt (sprite.yi.toNat + 0) = move.yf := by
        rw [ofInt_same, place.2, straight.resolve_left column]
      have moved : UInt16.ofInt (sprite.xi.toNat + mov) = .ofInt (slide.position.toNat + mov) := by
        rw [place.1]
      have across : ∀ c : UInt16, ((c.toNat : Int), (move.yf.toNat : Int)) = move.place c.toNat := by
        intro c
        rw [Move.place, if_neg column, straight.resolve_left column]
      rw [Move.frame, movX, movY, negative, stays, moved, ← target]
      exact follows_drawn drawn (across _) (across _) (test_iff _ move.yf _ move.target).2
  · exact ⟨place, moving, drawn⟩

end Follows

def Between (move : Move) (x y : UInt16) : Prop :=
  (min move.xi.toNat move.xf.toNat ≤ x.toNat ∧ x.toNat ≤ max move.xi.toNat move.xf.toNat) ∧
  min move.yi.toNat move.yf.toNat ≤ y.toNat ∧ y.toNat ≤ max move.yi.toNat move.yf.toNat

/-- In every run the images that are drawn are those of the path, as many as there was time for. The
last one is at the end of the journey. -/
def Arrives (platform : Platform) (move : Move) : Prop :=
  ∃ plan, move.plan platform = some plan ∧ ∀ scancode messages s,
    move.received platform plan scancode messages = some s →
    s.sprite.drawn.map NextXpm.position =
      ((List.range move.frames).map (fun i => move.path (i + 1))).take
        (frameCount platform (move.period platform) messages) ∧
    (move.frames ≤ frameCount platform (move.period platform) messages →
      (s.sprite.drawn.map NextXpm.position).getLast? =
        some ((move.xf.toNat : Int), (move.yf.toNat : Int))) ∧
    ∀ call ∈ s.sprite.drawn, Between move call.x call.y

section Arrival

variable {platform : Platform} {move : Move}

def ticks (count : Nat) : List Message := List.replicate count (.interrupts false true 0)

theorem ticks_received (platform : Platform) (move : Move) (plan : Plan) (count : Nat)
    {scancode : UInt8} (other : scancode ≠ platform.escBreak) :
    ∃ s, move.received platform plan scancode (ticks count) = some s := by
  have general : ∀ count (s : State), s.scancode ≠ platform.escBreak →
      ∃ later, (ticks count).foldlM (move.round platform plan) s = some later := by
    intro count
    induction count with
    | zero => exact fun s _ => ⟨s, rfl⟩
    | succ count ih =>
        intro s other
        have ticked : move.round platform plan s (.interrupts false true 0) =
            some (move.advance plan { s with timerCounter := s.timerCounter + 1 }) := by
          unfold Move.round
          rw [if_neg other]
          rfl
        have kept : (move.advance plan { s with timerCounter := s.timerCounter + 1 }).scancode =
            s.scancode := by
          rw [Move.advance]
          split <;> rfl
        obtain ⟨later, ran⟩ := ih (move.advance plan { s with timerCounter := s.timerCounter + 1 })
          (by rw [kept]; exact other)
        refine ⟨later, ?_⟩
        rw [ticks, List.replicate_succ, List.foldlM_cons, ticked]
        exact ran
  exact general count _ other

theorem frameCount_ticks (platform : Platform) (ipf frames : Nat) :
    frameCount platform ipf (ticks (frames * max 1 ipf)) = frames := by
  have counted : ∀ count, (ticks count).countP (Message.handled platform) = count ∧
      (ticks count).countP (Message.tick platform) = count := by
    intro count
    simp [ticks, List.countP_replicate, Message.handled, Message.tick]
  rw [frameCount, (counted _).1, (counted _).2]
  split
  · rename_i none
    rw [none, Nat.max_eq_left (Nat.zero_le 1), Nat.mul_one]
  · rename_i positive
    rw [Nat.max_eq_right (by omega), Nat.mul_div_cancel _ (by omega)]

theorem place_injective (move : Move) : Function.Injective move.place := by
  intro c c' same
  rw [Move.place, Move.place] at same
  split at same
  · exact (Prod.mk.inj same).2
  · exact (Prod.mk.inj same).1

theorem between_of_place (straight : move.xi = move.xf ∨ move.yi = move.yf) {x y : UInt16}
    {pixels : Nat} (inside : pixels ≤ move.distance)
    (there : ((x.toNat : Int), (y.toNat : Int)) = move.place (move.along pixels)) :
    Between move x y := by
  have range := Move.along_bounds inside
  rw [Move.place] at there
  rw [Move.start, Move.target] at range
  rw [Between]
  by_cases column : move.xi = move.xf
  · rw [if_pos column, Prod.mk.injEq] at there
    rw [if_pos column, if_pos column] at range
    rw [column] at there ⊢
    omega
  · rw [if_neg column, Prod.mk.injEq] at there
    rw [if_neg column, if_neg column] at range
    rw [straight.resolve_left column] at there ⊢
    omega

theorem stride_pos (moves : move.speed ≠ 0) : 1 ≤ move.stride := by
  have nonzero : move.speed.toInt ≠ 0 := fun zero => moves (Int16.toInt_inj.mp zero)
  rw [Move.stride]
  split <;> omega

theorem follows_slid {plan : Plan} (straight : move.xi = move.xf ∨ move.yi = move.yf)
    (planned : move.Planned platform plan) (k : Nat) :
    Follows move ((move.next plan)^[k] ⟨move.xi, move.yi, true, []⟩) (move.slid k) := by
  induction k with
  | zero =>
      refine ⟨?_, rfl, rfl⟩
      change ((move.xi.toNat : Int), (move.yi.toNat : Int)) = move.place move.start.toNat
      rw [Move.place, Move.start]
      by_cases column : move.xi = move.xf
      · rw [if_pos column, if_pos column]
      · rw [if_neg column, if_neg column]
  | succ k ih =>
      rw [Move.slid, Function.iterate_succ_apply', Function.iterate_succ_apply']
      exact ih.next straight planned

section Received

variable {plan : Plan} (straight : move.xi = move.xf ∨ move.yi = move.yf)
  (planned : move.Planned platform plan)

include straight planned

theorem received_drawn {scancode : UInt8} {messages : List Message} {s : State}
    (ran : move.received platform plan scancode messages = some s) :
    s.sprite.drawn.map NextXpm.position =
      ((move.slid (frameCount platform (move.period platform) messages)).drawn.map
        (fun c => (c.toNat : Int))).map move.place := by
  rw [(Move.received_sprite planned.interval scancode messages ran).1,
    (follows_slid straight planned _).drawn, List.map_map]
  rfl

theorem received_path (moves : 1 ≤ move.stride) (noWrap : move.NoWrap) {scancode : UInt8}
    {messages : List Message} {s : State}
    (ran : move.received platform plan scancode messages = some s) :
    s.sprite.drawn.map NextXpm.position =
      ((List.range move.frames).map (fun i => move.path (i + 1))).take
        (frameCount platform (move.period platform) messages) := by
  rw [received_drawn straight planned ran, Move.slid_drawn moves noWrap, List.map_take, List.map_map]
  rfl

theorem received_between (moves : 1 ≤ move.stride) (noWrap : move.NoWrap) {scancode : UInt8}
    {messages : List Message} {s : State}
    (ran : move.received platform plan scancode messages = some s) {call : NextXpm}
    (member : call ∈ s.sprite.drawn) : Between move call.x call.y := by
  have listed : call.position ∈ s.sprite.drawn.map NextXpm.position := List.mem_map_of_mem member
  rw [received_path straight planned moves noWrap ran] at listed
  obtain ⟨i, _, there⟩ := List.mem_map.mp (List.mem_of_mem_take listed)
  exact between_of_place straight (Nat.min_le_right _ _) there.symm

end Received

end Arrival

/-- A sprite on a row or a column arrives at its target and stops there, if the whole steps that
reach it stay within the range of the coordinates. -/
theorem move_arrives_iff (platform : Platform) (move : Move) (rate : move.frRate ≠ 0)
    (moves : move.speed ≠ 0) (straight : move.xi = move.xf ∨ move.yi = move.yf) :
    Arrives platform move ↔ move.NoWrap := by
  obtain ⟨plan, known, planned⟩ := Move.plan_eq platform rate straight
  have positive := stride_pos moves
  have path : (List.range move.frames).map (fun i => move.path (i + 1)) =
      ((List.range move.frames).map (fun i => move.travel (i + 1))).map move.place := by
    rw [List.map_map]
    rfl
  constructor
  · rintro ⟨other, same, arrives⟩
    cases known.symm.trans same
    by_contra wraps
    obtain ⟨s, ran⟩ := ticks_received platform move plan
      (move.frames * max 1 (move.period platform))
      (show platform.escBreak + 1 ≠ platform.escBreak by simp)
    have positions := (arrives _ _ s ran).1
    rw [received_drawn straight planned ran, frameCount_ticks, path, ← List.map_take] at positions
    exact Move.slid_wrapped positive wraps
      ((List.map_injective_iff.mpr (place_injective move)) positions)
  · intro noWrap
    refine ⟨plan, known, ?_⟩
    intro scancode messages s ran
    have positions := received_path straight planned positive noWrap ran
    refine ⟨positions, ?_, fun call member =>
      received_between straight planned positive noWrap ran member⟩
    intro enough
    rw [positions, List.take_of_length_le (by simpa using enough), path, Move.travel_all positive,
      List.map_append, List.map_singleton, place_target straight]
    simp

/-- Ten pixels to the right, four at a time. -/
theorem move_arrives_right : Arrives sixtyHz ⟨100, 50, 110, 50, 4, 60⟩ :=
  (move_arrives_iff sixtyHz ⟨100, 50, 110, 50, 4, 60⟩ (by decide) (by decide) (.inr rfl)).mpr
    (by decide +kernel)

/-- Five pixels to the left border, four at a time: the last image is drawn at the right. -/
theorem move_left_border :
    (∃ s, Move.received sixtyHz ⟨5, 0, 0, 0, 4, 60⟩ ⟨1, -4, 0, true⟩ 0 (ticks 2) = some s ∧
      s.sprite.drawn.map NextXpm.position = [(1, 0), (65533, 0)] ∧ s.sprite.moving = true) ∧
    ¬ Arrives sixtyHz ⟨5, 0, 0, 0, 4, 60⟩ := by
  have run : Move.received sixtyHz ⟨5, 0, 0, 0, 4, 60⟩ ⟨1, -4, 0, true⟩ 0 (ticks 2) =
      some ⟨⟨65533, 0, true, [⟨5, 0, 1, 0⟩, ⟨1, 0, 65533, 0⟩]⟩, 0, 0⟩ := by
    decide +kernel
  refine ⟨⟨_, run, by decide, rfl⟩, ?_⟩
  rintro ⟨plan, planned, arrives⟩
  have known : Move.plan sixtyHz ⟨5, 0, 0, 0, 4, 60⟩ = some ⟨1, -4, 0, true⟩ := by decide +kernel
  cases planned.symm.trans known
  exact absurd (arrives 0 (ticks 2) _ run).1 (by decide +kernel)

def Fits (vg : Vg) (img : Proj.XpmImage) (x y : UInt16) : Prop :=
  x.toNat + img.width ≤ vg.xRes.toNat ∧ y.toNat + img.height ≤ vg.yRes.toNat

def NextXpm.pixels (vg : Vg) (img : Proj.XpmImage) (call : NextXpm) : List PixelCall :=
  drawNextXpm vg img call.prevX call.prevY call.x call.y

section Pixels

variable {platform : Platform} {move : Move} {plan : Plan} {vg : Vg} {img : Proj.XpmImage}

theorem drawNextXpm_inside {xi yi xf yf : UInt16} (erased : Fits vg img xi yi)
    (shown : Fits vg img xf yf) {pixel : PixelCall}
    (member : pixel ∈ drawNextXpm vg img xi yi xf yf) :
    pixel.x.toNat < vg.xRes.toNat ∧ pixel.y.toNat < vg.yRes.toNat := by
  have wide := vg.xRes.toNat_lt
  have high := vg.yRes.toNat_lt
  obtain ⟨right, bottom⟩ := erased
  rcases List.mem_append.mp member with first | second
  · have width : (UInt16.ofNat img.width).toNat = img.width :=
      UInt16.toNat_ofNat_of_lt' (Nat.lt_of_le_of_lt (by omega) wide)
    have height : (UInt16.ofNat img.height).toNat = img.height :=
      UInt16.toNat_ofNat_of_lt' (Nat.lt_of_le_of_lt (by omega) high)
    have placed : (⟨xi, yi, .ofNat img.width, .ofNat img.height, 0⟩ : RectangleCall).OnScreen vg := by
      refine ⟨?_, ?_⟩
      · dsimp only
        omega
      · dsimp only
        omega
    exact Vg.drawrectangle_inside placed first
  · exact drawXpm_inside shown.1 shown.2 second

theorem Between.fits {x y : UInt16} (between : Between move x y)
    (first : Fits vg img move.xi move.yi) (last : Fits vg img move.xf move.yf) : Fits vg img x y := by
  rw [Between] at between
  rw [Fits] at first last ⊢
  omega

theorem moving_between (straight : move.xi = move.xf ∨ move.yi = move.yf)
    (planned : move.Planned platform plan) (moves : 1 ≤ move.stride) (noWrap : move.NoWrap) {k : Nat}
    (moving : ((move.next plan)^[k] ⟨move.xi, move.yi, true, []⟩).moving = true) :
    Between move ((move.next plan)^[k] ⟨move.xi, move.yi, true, []⟩).xi
      ((move.next plan)^[k] ⟨move.xi, move.yi, true, []⟩).yi := by
  obtain ⟨place, same, _⟩ := follows_slid straight planned k
  rw [moving] at same
  have before : k < move.frames := by
    by_contra after
    rw [Move.slid_after moves noWrap (Nat.le_of_not_lt after), Move.slid_last moves,
      if_pos noWrap] at same
    cases same
  have inside : k * move.stride ≤ move.distance := by
    cases k with
    | zero => omega
    | succ k => exact Nat.le_of_lt (Move.short_of_target moves (by omega) before)
  have range := Move.along_between inside
  rw [Move.slid_before moves before, Move.ofInt_toNat, Int.emod_eq_of_lt range.1 range.2] at place
  exact between_of_place straight inside place

theorem frame_drawn (move : Move) (plan : Plan) (sprite : Sprite) :
    ∃ x y, (move.frame plan sprite).drawn = sprite.drawn ++ [⟨sprite.xi, sprite.yi, x, y⟩] := by
  unfold Move.frame
  dsimp only
  split
  · exact ⟨_, _, rfl⟩
  · exact ⟨_, _, rfl⟩

theorem erased_between (straight : move.xi = move.xf ∨ move.yi = move.yf)
    (planned : move.Planned platform plan) (moves : 1 ≤ move.stride) (noWrap : move.NoWrap)
    (k : Nat) : ∀ call ∈ ((move.next plan)^[k] ⟨move.xi, move.yi, true, []⟩).drawn,
      Between move call.prevX call.prevY := by
  induction k with
  | zero => intro call member; cases member
  | succ k ih =>
      rw [Function.iterate_succ_apply', Move.next]
      split
      · rename_i moving
        obtain ⟨x, y, drawn⟩ := frame_drawn move plan
          ((move.next plan)^[k] ⟨move.xi, move.yi, true, []⟩)
        rw [drawn]
        intro call member
        rcases List.mem_append.mp member with earlier | last
        · exact ih call earlier
        · rw [List.mem_singleton.mp last]
          exact moving_between straight planned moves noWrap moving
      · exact ih

end Pixels

/-- In every run of a journey that does not wrap, between two positions where the image fits on the
screen, no pixel outside of the screen is drawn. -/
theorem move_pixels_inside (platform : Platform) (move : Move) (rate : move.frRate ≠ 0)
    (moves : move.speed ≠ 0) (straight : move.xi = move.xf ∨ move.yi = move.yf)
    (noWrap : move.NoWrap) (vg : Vg) (img : Proj.XpmImage) (first : Fits vg img move.xi move.yi)
    (last : Fits vg img move.xf move.yf) :
    ∃ plan, move.plan platform = some plan ∧ ∀ scancode messages s,
      move.received platform plan scancode messages = some s →
      ∀ call ∈ s.sprite.drawn, ∀ pixel ∈ call.pixels vg img,
        pixel.x.toNat < vg.xRes.toNat ∧ pixel.y.toNat < vg.yRes.toNat := by
  obtain ⟨plan, known, planned⟩ := Move.plan_eq platform rate straight
  have positive := stride_pos moves
  refine ⟨plan, known, ?_⟩
  intro scancode messages s ran call member pixel drawn
  have shown := received_between straight planned positive noWrap ran member
  rw [(Move.received_sprite planned.interval scancode messages ran).1] at member
  have erased := erased_between straight planned positive noWrap _ call member
  exact drawNextXpm_inside (erased.fits first last) (shown.fits first last) drawn

end Lcom.Lab5
