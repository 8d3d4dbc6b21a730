import Lcom.Lib.Painter
import Lcom.Proj.Blit
import Lcom.Proj.Deadline
import Lcom.Proj.FrameBuffer

/-! What the player sees: the pictures that `game_loop` leaves in `video_mem` and those that
`displayScreen` copies to `display_mem`. -/

namespace Lcom.Proj

open Lcom.Lib

def mode105 : VideoMode := ⟨1024, 768, 8⟩

theorem mode105_eightBit : EightBit mode105 := ⟨rfl, by decide, by decide, by decide⟩

structure Pixel where
  column : Fin 1024
  row : Fin 768
  deriving DecidableEq, Repr

def Pixel.address (pixel : Pixel) : Nat := pixel.row * 1024 + pixel.column

theorem Pixel.address_lt (pixel : Pixel) : pixel.address < 1024 * 768 := by
  have column := pixel.column.2
  have row := pixel.row.2
  rw [Pixel.address]
  omega

def frame (memory : Memory) (pixel : Pixel) : UInt8 := memory pixel.address

def drawBackground (img : XpmImage) (videoMem : Memory) : Memory :=
  videoMem.store 0 ((List.range (img.height * img.width)).map img.byte)

def Call.draw : Call → Memory → Memory
  | .drawBackground img => Lcom.Proj.drawBackground img
  | call => drawPixels mode105 call.pixels

def backgroundLayer (img : XpmImage) : Layer Pixel UInt8 := fun pixel =>
  if pixel.address < img.height * img.width then some (img.byte pixel.address) else none

def spriteLayer (x y : Int) (img : XpmImage) : Layer Pixel UInt8 := fun pixel =>
  if Covers x y img pixel.column pixel.row then
    some (img.byte (sourceIndex x y img pixel.column pixel.row))
  else none

def cursorLayer (mouse : Mouse) : Layer Pixel UInt8 := fun pixel =>
  (spriteLayer mouse.x mouse.y mouse.img pixel).filter (fun color => color != 0)

def Call.layer : Call → Layer Pixel UInt8
  | .drawBackground img => backgroundLayer img
  | .drawXpm x y img => spriteLayer x y img
  | .drawMouse mouse => cursorLayer mouse
  | _ => fun _ => none

theorem frame_drawBackground (img : XpmImage) (videoMem : Memory) :
    frame (drawBackground img videoMem) = (backgroundLayer img).onto (frame videoMem) := by
  have length : ((List.range (img.height * img.width)).map img.byte).length =
    img.height * img.width := by rw [List.length_map, List.length_range]
  funext pixel
  rw [frame, drawBackground, Layer.onto, backgroundLayer]
  by_cases inside : pixel.address < img.height * img.width
  · have stored : videoMem.store 0 ((List.range (img.height * img.width)).map img.byte)
        (0 + pixel.address) = _ := videoMem.store_inside (inside.trans_eq length.symm)
    rw [Nat.zero_add] at stored
    rw [stored, if_pos inside]
    simp [inside]
  · rw [if_neg inside, videoMem.store_outside (.inr (by omega))]
    rfl

def PixelCall.layer (call : PixelCall) : Layer Pixel UInt8 := fun pixel =>
  if call.x = pixel.column ∧ call.y = pixel.row then some call.color else none

theorem frame_drawPixel {call : PixelCall} (inside : call.InFrame) (videoMem : Memory) :
    frame (drawPixel mode105 videoMem call) = call.layer.onto (frame videoMem) := by
  obtain ⟨x, y, color⟩ := call
  obtain ⟨⟨left, right⟩, top, bottom⟩ := inside
  dsimp only at left right top bottom
  obtain ⟨j, rfl⟩ := Int.eq_ofNat_of_zero_le left
  obtain ⟨i, rfl⟩ := Int.eq_ofNat_of_zero_le top
  have start : (⟨j, i, color⟩ : PixelCall).start mode105 = i * 1024 + j :=
    start_eightBit mode105_eightBit (by change j < 1024; omega) (by change i < 768; omega) color
  funext pixel
  have column := pixel.column.2
  rw [frame, drawPixel, bytes_eightBit mode105_eightBit, start, Layer.onto, PixelCall.layer]
  by_cases same : (j : Int) = pixel.column ∧ (i : Int) = pixel.row
  · have here : pixel.address = i * 1024 + j + 0 := by
      rw [Pixel.address]
      omega
    rw [if_pos same, here, videoMem.store_inside (by simp)]
    rfl
  · rw [if_neg same, videoMem.store_outside]
    · rfl
    · simp only [Pixel.address, List.length_singleton]
      omega

theorem merge_pixels {x y : Int} {img : XpmImage} {calls : List PixelCall}
    (some : ∀ call ∈ calls, call ∈ drawXpm x y img) (pixel : Pixel) :
    Layer.merge (calls.map PixelCall.layer) pixel =
      if (⟨pixel.column, pixel.row,
          img.byte (sourceIndex x y img pixel.column pixel.row)⟩ : PixelCall) ∈ calls then
        Option.some (img.byte (sourceIndex x y img pixel.column pixel.row))
      else none := by
  have only : ∀ call ∈ calls, call.x = pixel.column ∧ call.y = pixel.row →
      call = ⟨pixel.column, pixel.row,
        img.byte (sourceIndex x y img pixel.column pixel.row)⟩ := by
    rintro call member ⟨column, row⟩
    obtain ⟨r, _, c, _, rfl⟩ := (mem_drawXpm x y img call).mp (some call member)
    dsimp only at column row
    rw [sourceIndex, ← column, ← row, show (y + (r : Int) - y).toNat = r by omega,
      show (x + (c : Int) - x).toNat = c by omega]
  split
  · rename_i member
    refine Layer.merge_of_agree (List.mem_map_of_mem member) ?_ ?_
    · simp [PixelCall.layer]
    · intro layer inside
      obtain ⟨call, drawn, rfl⟩ := List.mem_map.mp inside
      by_cases here : call.x = pixel.column ∧ call.y = pixel.row
      · right
        rw [only call drawn here]
        simp [PixelCall.layer]
      · exact .inl (if_neg here)
  · rename_i missing
    refine Layer.merge_eq_none (fun layer inside => ?_)
    obtain ⟨call, drawn, rfl⟩ := List.mem_map.mp inside
    refine if_neg (fun here => missing ?_)
    rw [← only call drawn here]
    exact drawn

theorem drawXpm_covers_iff {x y : Int} {img : XpmImage} (pixel : Pixel) :
    (⟨pixel.column, pixel.row,
      img.byte (sourceIndex x y img pixel.column pixel.row)⟩ : PixelCall) ∈ drawXpm x y img ↔
      Covers x y img pixel.column pixel.row := by
  refine ⟨fun member => ?_, drawXpm_covers⟩
  obtain ⟨r, row, c, column, same⟩ := (mem_drawXpm x y img _).mp member
  obtain ⟨left, top, _⟩ := PixelCall.mk.inj same
  exact ⟨⟨by omega, by omega⟩, by omega, by omega⟩

theorem merge_drawXpm (x y : Int) (img : XpmImage) :
    Layer.merge ((drawXpm x y img).map PixelCall.layer) = spriteLayer x y img := by
  funext pixel
  rw [merge_pixels (fun _ member => member)]
  simp only [drawXpm_covers_iff]
  rfl

theorem merge_drawMouse (mouse : Mouse) :
    Layer.merge ((drawMouse mouse.x mouse.y mouse.img).map PixelCall.layer) = cursorLayer mouse := by
  funext pixel
  have drawn : ∀ call ∈ drawMouse mouse.x mouse.y mouse.img,
      call ∈ drawXpm mouse.x mouse.y mouse.img := fun _ member => List.mem_of_mem_filter member
  rw [merge_pixels drawn]
  simp only [drawMouse, List.mem_filter, drawXpm_covers_iff, cursorLayer, spriteLayer]
  by_cases covers : Covers mouse.x mouse.y mouse.img pixel.column pixel.row
  · rw [if_pos covers, Option.filter_some]
    simp only [covers, true_and]
  · rw [if_neg covers, if_neg (fun both => covers both.1)]
    rfl

theorem Call.Safe.paints {call : Call} (safe : call.Safe) (videoMem : Memory) :
    frame (call.draw videoMem) = call.layer.onto (frame videoMem) := by
  have pixels : frame (drawPixels mode105 call.pixels videoMem) =
      (Layer.merge (call.pixels.map PixelCall.layer)).onto (frame videoMem) :=
    Layer.foldl_onto call.pixels (fun pixel inside => frame_drawPixel (safe pixel inside)) videoMem
  cases call with
  | drawBackground img => exact frame_drawBackground img videoMem
  | drawXpm x y img => exact pixels.trans (by rw [Call.pixels, merge_drawXpm]; rfl)
  | drawMouse mouse => exact pixels.trans (by rw [Call.pixels, merge_drawMouse]; rfl)
  | _ => exact pixels

def Whole (calls : List Call) : Prop := ∃ call ∈ calls, ∀ pixel, call.layer pixel ≠ none

def Call.draws : Call → Bool
  | .drawBackground _ | .drawXpm _ _ _ | .drawMouse _ => true
  | _ => false

def Complete (calls : List Call) : Prop := calls.any Call.draws = true → Whole calls

theorem Whole.append {calls : List Call} (whole : Whole calls) (later : List Call) :
    Whole (calls ++ later) := by
  obtain ⟨call, member, covers⟩ := whole
  exact ⟨call, List.mem_append_left _ member, covers⟩

theorem whole_of_background (cfg : Config) {calls : List Call} {xpm : XpmMap}
    (size : xpm.size = (1024, 768)) (member : .drawBackground (cfg.loader.load xpm) ∈ calls) :
    Whole calls := by
  refine ⟨_, member, fun pixel => ?_⟩
  have inside := pixel.address_lt
  rw [Call.layer, backgroundLayer, cfg.loader.width_eq, cfg.loader.height_eq, size,
    if_pos (by rw [Nat.mul_comm]; exact inside)]
  exact Option.some_ne_none _

theorem menuXpm_size (button : Button) : (menuXpm button).size = (1024, 768) := by
  cases button <;> rfl

theorem instructionsXpm_size (button : Bool) : (instructionsXpm button).size = (1024, 768) := by
  cases button <;> rfl

theorem Whole.complete {calls : List Call} (whole : Whole calls) : Complete calls := fun _ => whole

theorem Complete.blank {calls : List Call} (complete : Complete calls) {call : Call}
    (blank : call.draws = false) : Complete (calls ++ [call]) := by
  intro draws
  rw [List.any_append, List.any_cons, blank, Bool.false_or, List.any_nil, Bool.or_false] at draws
  exact (complete draws).append _

theorem initGame_whole (cfg : Config) (g : Game) : Whole (initGame cfg g).calls := by
  have size : XpmMap.background.size = (1024, 768) := rfl
  exact whole_of_background cfg size (List.mem_append_right _ List.mem_cons_self)

theorem menuPacket_whole (cfg : Config) (w : World) : Whole (menuPacket cfg w).game.calls := by
  have drawn : Whole (w.game.calls ++
      [.drawBackground (cfg.loader.load (menuXpm (getButton w.mouse.x w.mouse.y))),
        .drawMouse w.mouse]) :=
    whole_of_background cfg (menuXpm_size _) (List.mem_append_right _ List.mem_cons_self)
  unfold menuPacket
  dsimp only
  split
  · split
    · exact initGame_whole cfg _
    · exact drawn.append _
    · exact drawn
    · exact drawn
  · exact drawn

theorem instructionsPacket_whole (cfg : Config) (w : World) :
    Whole (instructionsPacket cfg w).game.calls := by
  have drawn : Whole (w.game.calls ++
      [.drawBackground (cfg.loader.load
        (instructionsXpm (getInstructionButton w.mouse.x w.mouse.y))), .drawMouse w.mouse]) :=
    whole_of_background cfg (instructionsXpm_size _)
      (List.mem_append_right _ List.mem_cons_self)
  unfold instructionsPacket
  dsimp only
  split
  · exact drawn.append _
  · exact drawn

theorem handlePacket_complete (cfg : Config) {w : World} (complete : Complete w.game.calls) :
    Complete (handlePacket cfg w).game.calls := by
  unfold handlePacket
  split
  · exact (menuPacket_whole cfg w).complete
  · exact (instructionsPacket_whole cfg w).complete
  · unfold playingPacket
    split
    · exact complete
    · exact complete
  · exact complete
  · exact complete

theorem decodePacket_complete (scancode : UInt8) {w : World} (complete : Complete w.game.calls) :
    Complete (decodePacket scancode w).game.calls := by
  have decoded : Complete (w.game.calls ++
      [.getMousePacket { w.mouseBytes with third := scancode }]) := complete.blank rfl
  exact decoded

theorem mousePart_complete (cfg : Config) (inputs : Inputs) {w : World}
    (complete : Complete w.game.calls) : Complete (mousePart cfg inputs w).world.game.calls := by
  unfold mousePart
  dsimp only
  split
  · exact complete
  · split
    · split
      · exact complete
      · exact complete
    · split
      · exact complete
      · split
        · exact handlePacket_complete cfg (decodePacket_complete _ complete)
        · exact complete

theorem keyboardPart_complete (inputs : Inputs) {w : World} (complete : Complete w.game.calls) :
    Complete (keyboardPart inputs w).world.game.calls := by
  unfold keyboardPart
  dsimp only
  split
  · exact complete
  · split
    · exact complete
    · split
      · exact complete
      · exact complete

theorem inputParts_complete (cfg : Config) (interrupts : BitVec 64) (inputs : Inputs) {w : World}
    (complete : Complete w.game.calls) :
    Complete (inputParts cfg interrupts inputs w).world.game.calls := by
  have first : Complete
      ((Flow.next w).part interrupts mouseBit (mousePart cfg inputs)).world.game.calls := by
    unfold Flow.part
    dsimp only
    split
    · exact mousePart_complete cfg inputs complete
    · exact complete
  unfold inputParts
  generalize (Flow.next w).part interrupts mouseBit (mousePart cfg inputs) = flow at first ⊢
  cases flow with
  | leave v => exact first
  | next v =>
      unfold Flow.part
      dsimp only
      split
      · exact keyboardPart_complete inputs first
      · exact first

theorem drawFrame_whole (cfg : Config) (inputs : Inputs) (g : Game) :
    Whole (drawFrame cfg inputs g).calls := by
  have size : XpmMap.background.size = (1024, 768) := rfl
  refine whole_of_background cfg size (List.mem_append_right _ ?_)
  simp [frameCalls]

theorem tickEnd_calls {cfg : Config} {g after : Game} (ends : TickEnd cfg g after) :
    ∃ later, after.calls = g.calls ++ later := by
  cases ends with
  | fired index idle alive =>
      obtain ⟨made, calls, _⟩ := moveAliens_calls cfg (fireAlienBullet cfg index g)
      exact ⟨_, calls.trans (List.append_assoc _ _ _)⟩
  | lost active dead =>
      rcases moveAlienBullet_cases g with ⟨_, same⟩ | ⟨_, same⟩
      · exact ⟨[.loseLife], by rw [same]; rfl⟩
      · exact ⟨[], by rw [same, List.append_nil]; rfl⟩
  | flown active left =>
      obtain ⟨made, calls, _⟩ := moveAliens_calls cfg (moveAlienBullet g)
      rcases moveAlienBullet_cases g with ⟨_, same⟩ | ⟨_, same⟩
      · exact ⟨[.loseLife] ++ made, by rw [calls, same, List.append_assoc]⟩
      · exact ⟨made, by rw [calls, same]⟩

theorem timerPart_complete (cfg : Config) (inputs : Inputs) {w after : World}
    (complete : Complete w.game.calls) (ticked : timerPart cfg inputs w = some after) :
    Complete after.game.calls := by
  unfold timerPart at ticked
  dsimp only at ticked
  split at ticked
  · obtain ⟨game, moved, rfl⟩ := Option.map_eq_some_iff.mp ticked
    obtain ⟨later, calls⟩ := tickEnd_calls (playingTick_ends inputs _ _ moved)
    rw [calls]
    exact ((drawFrame_whole cfg inputs _).append later).complete
  · cases ticked
    exact (initGame_whole cfg _).complete
  · cases ticked
    have drawn : Whole (w.game.calls ++
        [.drawBackground (cfg.loader.load (menuXpm (getButton w.mouse.x w.mouse.y))),
          .drawMouse w.mouse]) :=
      whole_of_background cfg (menuXpm_size _) (List.mem_append_right _ List.mem_cons_self)
    exact drawn.complete
  all_goals
    cases ticked
    exact complete

/-- A message that draws anything paints the whole screen. -/
theorem gameStep_complete {cfg : Config} {w after : World} {message : Message}
    (stepped : gameStep cfg w message = some after) : Complete after.game.calls := by
  have blank : Complete w.clear.game.calls := by
    intro draws
    cases draws
  cases message with
  | failedReceive =>
      rw [gameStep_quiet (.inl rfl) stepped]
      exact blank
  | notFromHardware =>
      rw [gameStep_quiet (.inr rfl) stepped]
      exact blank
  | hardware interrupts inputs =>
      have parts := inputParts_complete cfg interrupts inputs blank
      rcases gameStep_hardware stepped with flow | ⟨flow, _⟩ | ⟨v, flow, _, ticked⟩
      · rw [flow] at parts
        exact parts
      · rw [flow] at parts
        exact parts
      · rw [flow] at parts
        exact timerPart_complete cfg inputs parts ticked

/-- What the main loop changes, with the two buffers. `drawn` are the calls of the last message that
drew something, and `shown` those that had been made when the screen was last displayed. -/
structure Shown where
  world : World
  videoMem : Memory
  displayMem : Memory
  drawn : List Call
  shown : List Call

def shownStep (cfg : Config) (s : Shown) (message : Message) : Option Shown :=
  (gameStep cfg s.world message).map (fun w =>
    { world := w
      videoMem := w.game.calls.foldl (fun videoMem call => call.draw videoMem) s.videoMem
      displayMem := displayScreen mode105 s.displayMem s.videoMem
      drawn := if w.game.calls.any Call.draws then w.game.calls else s.drawn
      shown := s.drawn })

/-- The initial screen is displayed for four seconds, and then the menu is drawn. -/
def shownStart (cfg : Config) (memory : Uninitialised) (videoMem displayMem : Memory) : Shown :=
  let initialScreen := Call.drawBackground (cfg.loader.load .initialScreen)
  let menu := Call.drawBackground (cfg.loader.load (menuXpm .initial))
  { world := start cfg memory
    videoMem := menu.draw (initialScreen.draw videoMem)
    displayMem := displayScreen mode105 displayMem (initialScreen.draw videoMem)
    drawn := [menu]
    shown := [initialScreen] }

def shownLoop (cfg : Config) : Machine Shown Message where
  init s := ∃ memory videoMem displayMem, s = shownStart cfg memory videoMem displayMem
  step := shownStep cfg

def Composed (calls : List Call) (memory : Memory) : Prop :=
  ∀ pixel, Layer.merge (calls.map Call.layer) pixel = some (frame memory pixel)

theorem frame_displayScreen (displayMem videoMem : Memory) :
    frame (displayScreen mode105 displayMem videoMem) = frame videoMem := by
  funext pixel
  exact (displayScreen_eq mode105 displayMem videoMem pixel.address).trans
    (if_pos pixel.address_lt)

/-- Safe calls that cover the screen leave nothing of what was there before. -/
theorem composed_of_whole {calls : List Call} (safe : SafeCalls calls) (whole : Whole calls)
    (videoMem : Memory) :
    Composed calls (calls.foldl (fun videoMem call => call.draw videoMem) videoMem) := by
  intro pixel
  obtain ⟨call, member, covers⟩ := whole
  obtain ⟨color, covered⟩ := Layer.exists_merge (List.mem_map_of_mem member) (covers pixel)
  have painted := congrFun
    (Layer.foldl_onto calls (fun call inside => (safe call inside).paints) videoMem) pixel
  rw [painted, Layer.onto_some covered, covered]

theorem foldl_draw_blank {calls : List Call} (blank : calls.any Call.draws = false)
    (videoMem : Memory) :
    calls.foldl (fun videoMem call => call.draw videoMem) videoMem = videoMem := by
  induction calls with
  | nil => rfl
  | cons call later ih =>
      rw [List.any_cons, Bool.or_eq_false_iff] at blank
      have kept : call.draw videoMem = videoMem := by
        cases call <;> first | rfl | cases blank.1
      rw [List.foldl_cons, kept, ih blank.2]

/-- No game starts while an alien bullet is in the air off the screen, and no round is later
than 20. -/
def FitsScreen (s : Shown) (message : Message) : Prop :=
  KeepsBulletVisible s.world message ∧ s.world.game.roundNum ≤ 20

instance (s : Shown) (message : Message) : Decidable (FitsScreen s message) :=
  inferInstanceAs (Decidable (_ ∧ _))

/-- The game goes on as if nothing was drawn, and both buffers are composed. -/
structure ShownInv (cfg : Config) (s : Shown) : Prop where
  world : (gameLoop cfg).ReachableVia KeepsBulletVisible s.world
  video : Composed s.drawn s.videoMem
  display : Composed s.shown s.displayMem

theorem Composed.displayed {calls : List Call} {videoMem : Memory} (composed : Composed calls videoMem)
    (displayMem : Memory) : Composed calls (displayScreen mode105 displayMem videoMem) := by
  intro pixel
  rw [frame_displayScreen]
  exact composed pixel

theorem background_composed (cfg : Config) {xpm : XpmMap} (size : xpm.size = (1024, 768))
    (videoMem : Memory) : Composed [.drawBackground (cfg.loader.load xpm)]
      ((Call.drawBackground (cfg.loader.load xpm)).draw videoMem) := by
  have safe : SafeCalls [.drawBackground (cfg.loader.load xpm)] := by
    intro call member pixel inside
    rw [List.mem_singleton.mp member] at inside
    cases inside
  have composed := composed_of_whole safe (whole_of_background cfg size List.mem_cons_self) videoMem
  rw [List.foldl_cons, List.foldl_nil] at composed
  exact composed

theorem shownStart_inv (cfg : Config) (memory : Uninitialised) (videoMem displayMem : Memory) :
    ShownInv cfg (shownStart cfg memory videoMem displayMem) := by
  have size : XpmMap.initialScreen.size = (1024, 768) := rfl
  have menu := background_composed cfg (menuXpm_size .initial)
    ((Call.drawBackground (cfg.loader.load .initialScreen)).draw videoMem)
  have screen := (background_composed cfg size videoMem).displayed displayMem
  refine ⟨⟨_, ⟨memory, rfl⟩, .refl⟩, ?_, ?_⟩
  · dsimp only [shownStart]
    exact menu
  · dsimp only [shownStart]
    exact screen

theorem shownStep_inv {cfg : Config} {s after : Shown} {message : Message} (inv : ShownInv cfg s)
    (fits : FitsScreen s message) (stepped : shownStep cfg s message = some after) :
    ShownInv cfg after := by
  obtain ⟨w, moved, rfl⟩ := Option.map_eq_some_iff.mp stepped
  have safe : SafeCalls w.game.calls :=
    frame_buffer_safety cfg s.world w message inv.world fits.1 fits.2 moved
  have displayed := inv.video.displayed s.displayMem
  refine ⟨inv.world.step fits.1 moved, ?_, ?_⟩
  · dsimp only
    by_cases draws : w.game.calls.any Call.draws = true
    · rw [if_pos draws]
      exact composed_of_whole safe (gameStep_complete moved draws) s.videoMem
    · rw [if_neg draws, foldl_draw_blank (by simpa using draws)]
      exact inv.video
  · dsimp only
    exact displayed

theorem shown_reachable {cfg : Config} {s : Shown}
    (reached : (shownLoop cfg).ReachableVia FitsScreen s) : ShownInv cfg s := by
  refine reached.invariant (ShownInv cfg) ?_ ?_
  · rintro _ ⟨memory, videoMem, displayMem, rfl⟩
    exact shownStart_inv cfg memory videoMem displayMem
  · intro before message after inv fits stepped
    exact shownStep_inv inv fits stepped

/-- Between two messages `video_mem` holds what the last message that drew something has painted,
and the display what had been painted when it was last copied: no pixel is left over from an earlier
picture. -/
theorem frames_composed (cfg : Config) {s : Shown}
    (reached : (shownLoop cfg).ReachableVia FitsScreen s) :
    Composed s.drawn s.videoMem ∧ Composed s.shown s.displayMem :=
  ⟨(shown_reachable reached).video, (shown_reachable reached).display⟩

theorem frames_composed_first_tick : ∃ s, (shownLoop sampleConfig).ReachableVia FitsScreen s ∧
    s.world.game.gameState = .playing ∧ Composed s.drawn s.videoMem ∧
    Composed s.shown s.displayMem := by
  have evaluated : ((shownLoop sampleConfig).runList FitsScreen
      (shownStart sampleConfig sampleMemory (fun _ => 7) (fun _ => 9))
      (clickStart ++ [timerTick [5]])).any (fun s =>
        decide (s.world.game.gameState = .playing)) = true := by decide +kernel
  obtain ⟨s, played, playing⟩ := (Option.any_eq_true _ _).mp evaluated
  have reached : (shownLoop sampleConfig).ReachableVia FitsScreen s :=
    ⟨_, ⟨sampleMemory, _, _, rfl⟩, Machine.run_of_runList _ played⟩
  exact ⟨s, reached, of_decide_eq_true playing, frames_composed sampleConfig reached⟩

def marchCall (rightMov movImg : Bool) (speed : Int) (a : Alien) : Call :=
  .drawXpm (advanceAlien rightMov movImg speed a).x a.y (if movImg then a.imgMov else a.img)

def marchCalls (g : Game) : List Call :=
  (g.aliens.toList.filter Alien.alive).map (marchCall g.rightMov g.movImg g.speed)

/-- A pass that leaves `gameState` at `PLAYING` draws the living aliens at the same speed. -/
theorem marchPass_drawn (cfg : Config) (g : Game)
    (playing : (marchPass cfg g).2.gameState = .playing) :
    (marchPass cfg g).2.calls = g.calls ++ marchCalls g := by
  have result := marchPass_rule cfg g
    (fun _ todo m => m.gameState = .playing → m.speed = g.speed ∧ ∃ front,
      g.aliens.toList = front ++ todo ∧ m.calls = g.calls ++
        (front.filter Alien.alive).map (marchCall g.rightMov g.movImg g.speed)) ?_
    (fun _ => ⟨rfl, [], rfl, (List.append_nil _).symm⟩)
  · obtain ⟨_, front, all, calls⟩ := result playing
    rw [List.append_nil] at all
    rw [calls, marchCalls, all]
  · intro done a rest m a' m' holds visit after
    have extend : ∀ moved : Alien, a.alive = true →
        moved = advanceAlien g.rightMov g.movImg m.speed a → m.gameState = .playing →
        m.speed = g.speed ∧ ∃ front, g.aliens.toList = front ++ rest ∧
          (m.drawn g.rightMov g.movImg moved).calls = g.calls ++
            (front.filter Alien.alive).map (marchCall g.rightMov g.movImg g.speed) := by
      rintro moved alive rfl before
      obtain ⟨speed, front, all, calls⟩ := holds before
      refine ⟨speed, front ++ [a], by simp [all], ?_⟩
      rw [March.drawn, calls, speed, List.filter_append, List.map_append, List.append_assoc]
      simp [alive, marchCall, advanceAlien, changeAlienXCoordinates]
    cases visit with
    | skipped dead =>
        obtain ⟨speed, front, all, calls⟩ := holds after
        refine ⟨speed, front ++ [a], by simp [all], ?_⟩
        rw [calls, List.filter_append, List.filter_cons_of_neg (by simp [dead]), List.filter_nil,
          List.append_nil]
    | missed heap _ alive place read next misses =>
        obtain ⟨same, _⟩ := settleAlien_playing cfg _ _ after
        rw [same] at after ⊢
        exact extend _ alive place after
    | killed heap ref moved alive place read next member hit =>
        obtain ⟨same, _⟩ := settleAlien_playing cfg _ _ after
        rw [same] at after ⊢
        exact extend _ alive place after

theorem Marched.advanced {rightMov movImg turned : Bool} {speed : Int} {a after : Alien}
    (marched : Marched rightMov movImg turned speed a after) (alive : after.alive = true) :
    a.alive = true ∧ after = advanceAlien rightMov movImg speed a := by
  cases marched with
  | dead dead => exact absurd (alive.symm.trans dead) (by decide)
  | moved before moved _ place outcome above border =>
      rcases outcome with rfl | rfl
      · exact ⟨before, place⟩
      · cases alive

def Alien.shownImg (movImg : Bool) (a : Alien) : XpmImage := if movImg then a.imgMov else a.img

/-- What a tick with a pass draws and leaves, as long as the game goes on. -/
structure PassShown (g after : Game) : Prop where
  calls : ∃ front, after.calls = front ++ marchCalls g
  survivor : ∀ i, (after.aliens.get i).alive = true → (g.aliens.get i).alive = true ∧
    after.aliens.get i = changeAlienYCoordinates
      (advanceAlien g.rightMov g.movImg g.speed (g.aliens.get i))
      (descent (g.rightMov != after.rightMov))

theorem moveAliens_shown {cfg : Config} {g : Game} (due : cfg.ipf ≤ g.timerCounter)
    (playing : (moveAliens cfg g).gameState = .playing) : PassShown g (moveAliens cfg g) := by
  rcases moveAliens_cases cfg g with ⟨early, _⟩ | ⟨_, movImg, frameCounter, same⟩
  · omega
  · rw [same] at playing ⊢
    refine ⟨⟨g.calls, marchPass_drawn cfg { g with frameCounter := g.frameCounter + 1 } playing⟩, ?_⟩
    intro i alive
    obtain ⟨marched, moved, place⟩ :=
      marchAliens_get cfg { g with frameCounter := g.frameCounter + 1 } playing i
    have turned : (g.rightMov != (marchAliens cfg
        { g with frameCounter := g.frameCounter + 1 }).rightMov) =
        (marchPass cfg { g with frameCounter := g.frameCounter + 1 }).2.changeDir := by
      change (g.rightMov != if (marchPass cfg { g with frameCounter := g.frameCounter + 1 }).2.changeDir
        then !g.rightMov else g.rightMov) = _
      cases (marchPass cfg { g with frameCounter := g.frameCounter + 1 }).2.changeDir <;>
        cases g.rightMov <;> rfl
    dsimp only at alive ⊢
    rw [turned, place]
    rw [place] at alive
    obtain ⟨before, rfl⟩ := moved.advanced alive
    exact ⟨before, rfl⟩

theorem tick_shown {cfg : Config} {seen : Mouse → Prop} {g after : Game}
    (playing : g.gameState = .playing) (due : cfg.ipf ≤ g.timerCounter + 1)
    (move : TimerMove cfg seen g after) (still : after.gameState = .playing) :
    PassShown g after := by
  cases move with
  | count made menus idle => exact absurd playing idle.1
  | nextRound cleared => rw [playing] at cleared; cases cleared
  | tick _ inputs _ ends =>
      cases ends with
      | fired index idle alive =>
          have shown : PassShown (fireAlienBullet cfg index (drawFrame cfg inputs
            (timerIntHandler g))) _ := moveAliens_shown due still
          exact ⟨shown.calls, shown.survivor⟩
      | lost active dead => cases still
      | flown active left =>
          obtain ⟨lives, active, calls, same⟩ :=
            moveAlienBullet_eq (drawFrame cfg inputs (timerIntHandler g))
          rw [same] at still ⊢
          have shown := moveAliens_shown due still
          exact ⟨shown.calls, shown.survivor⟩

theorem Rigid.apart {aliens : Aliens} (rigid : Rigid aliens) {rightMov movImg : Bool} {speed : Int}
    {i j : Fin sizeOfAliens} (alive : (aliens.get i).alive = true)
    (other : (aliens.get j).alive = true) {column row : Nat}
    (covers : Covers (advanceAlien rightMov movImg speed (aliens.get i)).x (aliens.get i).y
      ((aliens.get i).shownImg movImg) column row)
    (again : Covers (advanceAlien rightMov movImg speed (aliens.get j)).x (aliens.get j).y
      ((aliens.get j).shownImg movImg) column row) : i = j := by
  obtain ⟨sized, columns, rows⟩ := rigid
  have size : ∀ k, ((aliens.get k).shownImg movImg).width = 60 ∧
      ((aliens.get k).shownImg movImg).height = 40 := by
    intro k
    cases movImg with
    | false => exact (sized k).2.1
    | true => exact (sized k).2.2
  have besides := columns i j alive other
  have above := rows i j
  obtain ⟨⟨left, right⟩, top, bottom⟩ := covers
  obtain ⟨⟨left', right'⟩, top', bottom'⟩ := again
  simp only [advanceAlien, changeAlienXCoordinates, (size _).1] at left right left' right'
  rw [(size _).2] at bottom bottom'
  apply grid_injective
  · omega
  · omega

theorem reachable_of_via {cfg : Config} {w : World}
    (reached : (gameLoop cfg).ReachableVia KeepsBulletVisible w) : (gameLoop cfg).Reachable w := by
  obtain ⟨start, initial, run⟩ := reached
  exact ⟨start, initial, run.weaken⟩

theorem marchCalls_merge {g : Game} (rigid : Rigid g.aliens) {i : Fin sizeOfAliens}
    (alive : (g.aliens.get i).alive = true) {pixel : Pixel}
    (covers : Covers (advanceAlien g.rightMov g.movImg g.speed (g.aliens.get i)).x
      (g.aliens.get i).y ((g.aliens.get i).shownImg g.movImg) pixel.column pixel.row) :
    Layer.merge ((marchCalls g).map Call.layer) pixel = some (((g.aliens.get i).shownImg
      g.movImg).byte (sourceIndex (advanceAlien g.rightMov g.movImg g.speed (g.aliens.get i)).x
        (g.aliens.get i).y ((g.aliens.get i).shownImg g.movImg) pixel.column pixel.row)) := by
  have painted : (marchCall g.rightMov g.movImg g.speed (g.aliens.get i)).layer pixel = _ :=
    if_pos covers
  have drawn : (marchCall g.rightMov g.movImg g.speed (g.aliens.get i)).layer ∈
      (marchCalls g).map Call.layer :=
    List.mem_map_of_mem (List.mem_map_of_mem
      (List.mem_filter.mpr ⟨List.Vector.get_mem i g.aliens, alive⟩))
  refine Layer.merge_of_agree drawn ?_ ?_
  · rw [painted]
    exact Option.some_ne_none _
  · intro layer member
    obtain ⟨call, made, rfl⟩ := List.mem_map.mp member
    obtain ⟨a, inside, rfl⟩ := List.mem_map.mp made
    obtain ⟨among, other⟩ := List.mem_filter.mp inside
    obtain ⟨j, rfl⟩ := (List.Vector.mem_iff_get a g.aliens).mp among
    by_cases again : Covers (advanceAlien g.rightMov g.movImg g.speed (g.aliens.get j)).x
        (g.aliens.get j).y ((g.aliens.get j).shownImg g.movImg) pixel.column pixel.row
    · obtain rfl := rigid.apart alive other covers again
      exact .inr painted
    · exact .inl (if_neg again)

/-- After a tick with a pass, if the game goes on, every alien that is left alive is on the screen as a
whole: where it stands, or above if the formation has just gone down. -/
theorem formation_shown (cfg : Config) {s after : Shown} {message : Message}
    (reached : (shownLoop cfg).ReachableVia FitsScreen s) (fits : FitsScreen s message)
    (stepped : shownStep cfg s message = some after)
    (playing : s.world.game.gameState = .playing)
    (still : after.world.game.gameState = .playing)
    (ticked : reachesTimer cfg s.world message = true)
    (due : cfg.ipf ≤ s.world.game.timerCounter + 1) (i : Fin sizeOfAliens)
    (alive : (after.world.game.aliens.get i).alive = true) :
    let a := after.world.game.aliens.get i
    let y := a.y - descent (s.world.game.rightMov != after.world.game.rightMov)
    let img := a.shownImg s.world.game.movImg
    OnScreen a.x y img ∧ ∀ pixel : Pixel, Covers a.x y img pixel.column pixel.row →
      frame after.videoMem pixel = img.byte (sourceIndex a.x y img pixel.column pixel.row) := by
  have inv := shown_reachable reached
  have world := place_reachable inv.world
  have composed := (shownStep_inv inv fits stepped).video
  obtain ⟨w, moved, rfl⟩ := Option.map_eq_some_iff.mp stepped
  dsimp only at still alive composed ⊢
  obtain ⟨middle, moves, timer⟩ := gameStep_ticks moved
  rw [ticked, if_pos rfl] at timer
  have input : middle.gameState = .exit ∨ SameMarch s.world.clear.game middle :=
    inputMoves_sameMarch playing moves
  rcases input with exit | same
  · rw [timerMove_exit exit timer] at still
    cases still
  · have count : cfg.ipf ≤ middle.timerCounter + 1 := by
      rw [same.timerCounter]
      exact due
    have shown := tick_shown same.playing count timer still
    obtain ⟨before, place⟩ := shown.survivor i alive
    obtain ⟨front, calls⟩ := shown.calls
    have rightMov : s.world.game.rightMov = middle.rightMov := same.rightMov.symm
    have movImg : s.world.game.movImg = middle.movImg := same.movImg.symm
    have ranked : Ranked middle.aliens middle.speed middle.roundNum middle.rightMov := by
      rw [same.aliens, same.speed, same.roundNum, same.rightMov]
      exact world.place.formation.2 playing
    have rigid : Rigid middle.aliens := by
      rw [same.aliens]
      exact rigid_reachable s.world (reachable_of_via inv.world) playing
    have early : middle.roundNum ≤ 20 := by
      rw [same.roundNum]
      exact fits.2
    have forward : 1 ≤ middle.speed := by
      rw [ranked.1.1.1]
      have positive := ranked.1.1.2.1
      simp only [initialAlienSpeed]
      omega
    have made : w.game.calls.any Call.draws = true := by
      rw [List.any_eq_true]
      refine ⟨marchCall middle.rightMov middle.movImg middle.speed (middle.aliens.get i), ?_, rfl⟩
      rw [calls]
      refine List.mem_append_right _ (List.mem_map_of_mem ?_)
      exact List.mem_filter.mpr ⟨List.Vector.get_mem i middle.aliens, before⟩
    rw [if_pos made] at composed
    rw [rightMov, movImg, place]
    have row : ∀ turned, (changeAlienYCoordinates (advanceAlien middle.rightMov middle.movImg
        middle.speed (middle.aliens.get i)) (descent turned)).y - descent turned =
        (middle.aliens.get i).y := fun turned => Int.add_sub_cancel _ _
    rw [row]
    refine ⟨advanceAlien_onScreen ranked early forward (le_refl _) i before, ?_⟩
    intro pixel covers
    have uppermost := Layer.merge_append_some (front.map Call.layer)
      (marchCalls_merge rigid before covers)
    have painted := composed pixel
    rw [← List.map_append, ← calls] at uppermost
    rw [uppermost] at painted
    exact (Option.some.inj painted).symm

/-- The first tick of a game, and the first alien. -/
theorem formation_shown_first_tick : ∃ s after : Shown,
    shownStep sampleConfig s (timerTick [5]) = some after ∧
    let a := after.world.game.aliens.get 0
    a.alive = true ∧ OnScreen a.x a.y a.img ∧
      ∀ pixel : Pixel, Covers a.x a.y a.img pixel.column pixel.row →
        frame after.videoMem pixel =
          a.img.byte (sourceIndex a.x a.y a.img pixel.column pixel.row) := by
  have evaluated : ((shownLoop sampleConfig).runList FitsScreen
      (shownStart sampleConfig sampleMemory (fun _ => 7) (fun _ => 9)) clickStart).any (fun s =>
        decide (s.world.game.gameState = .playing ∧ FitsScreen s (timerTick [5]) ∧
          reachesTimer sampleConfig s.world (timerTick [5]) = true ∧
          sampleConfig.ipf ≤ s.world.game.timerCounter + 1) &&
        (shownStep sampleConfig s (timerTick [5])).any (fun after =>
          decide (after.world.game.gameState = .playing ∧
            (after.world.game.aliens.get 0).alive = true ∧ s.world.game.movImg = false ∧
            s.world.game.rightMov = after.world.game.rightMov))) = true := by decide +kernel
  obtain ⟨s, played, checked⟩ := (Option.any_eq_true _ _).mp evaluated
  obtain ⟨before, moves⟩ := Bool.and_eq_true_iff.mp checked
  obtain ⟨playing, fits, ticked, due⟩ := of_decide_eq_true before
  obtain ⟨after, stepped, ends⟩ := (Option.any_eq_true _ _).mp moves
  obtain ⟨still, alive, first, ahead⟩ := of_decide_eq_true ends
  have reached : (shownLoop sampleConfig).ReachableVia FitsScreen s :=
    ⟨_, ⟨sampleMemory, _, _, rfl⟩, Machine.run_of_runList _ played⟩
  have shown := formation_shown sampleConfig reached fits stepped playing still ticked due 0 alive
  dsimp only at shown
  rw [ahead, bne_self_eq_false, first, descent, if_neg (by decide), Int.sub_zero] at shown
  exact ⟨s, after, stepped, alive, shown⟩

end Lcom.Proj
