import Lcom.Proj.March

/-! The assembly of mouse packets in `game_loop`: the bytes that `mouse_ih` reads, one for each
interrupt, and the packets that they form. -/

namespace Lcom.Proj

open Lcom.Lib

structure Assembler where
  currentByte : Nat
  mouseBytes : MouseBytes
  deriving DecidableEq, Repr

/-- What an interrupt does to the assembly: `none` is an interrupt for which `mouse_ih` reports an
error. The result comes with the bytes passed to `getMousePacket`. -/
def Assembler.take (asm : Assembler) : Option UInt8 → Assembler × List MouseBytes
  | none => (asm, [])
  | some byte =>
      if asm.currentByte = 1 then
        if byte &&& 0x08 = 0 then (asm, [])
        else (⟨2, { asm.mouseBytes with first := byte }⟩, [])
      else if asm.currentByte = 2 then (⟨3, { asm.mouseBytes with second := byte }⟩, [])
      else if asm.currentByte = 3 then
        (⟨1, { asm.mouseBytes with third := byte }⟩, [{ asm.mouseBytes with third := byte }])
      else (asm, [])

theorem take_second {asm : Assembler} (second : asm.currentByte = 2) (byte : UInt8) :
    asm.take (some byte) = (⟨3, { asm.mouseBytes with second := byte }⟩, []) := by
  simp [Assembler.take, second]

theorem take_third {asm : Assembler} (third : asm.currentByte = 3) (byte : UInt8) :
    asm.take (some byte) =
      (⟨1, { asm.mouseBytes with third := byte }⟩, [{ asm.mouseBytes with third := byte }]) := by
  simp [Assembler.take, third]

def World.assembler (w : World) : Assembler := ⟨w.currentByte, w.mouseBytes⟩

def World.received (w : World) (inputs : Inputs) : Option UInt8 :=
  if (mouseIh inputs.mouse w.mouseGlobals).ihError then none
  else some (mouseIh inputs.mouse w.mouseGlobals).scancode

theorem mouseIh_fine {stat : UInt8} (clean : stat &&& (parityBit ||| timeoutBit) = 0)
    (full : stat &&& obfBit ≠ 0) (out : Option UInt8) (globals : MouseGlobals) :
    mouseIh ⟨some stat, out⟩ globals =
      { globals with scancode := out.getD globals.scancode, statuscode := stat } :=
  if_neg (fun broken => broken ⟨clean, full⟩)

theorem received_fine {w : World} {inputs : Inputs} {stat : UInt8} {out : Option UInt8}
    (fine : w.mouseGlobals.ihError = false) (reads : inputs.mouse = ⟨some stat, out⟩)
    (clean : stat &&& (parityBit ||| timeoutBit) = 0) (full : stat &&& obfBit ≠ 0) :
    w.received inputs = some (out.getD w.mouseGlobals.scancode) := by
  rw [World.received, reads, mouseIh_fine clean full]
  exact if_neg (by rw [fine]; decide)

def Call.packet : Call → Option MouseBytes
  | .getMousePacket bytes => some bytes
  | _ => none

def Game.packets (g : Game) : List MouseBytes := g.calls.filterMap Call.packet

theorem packets_call (g : Game) (made : List Call) :
    (g.call made).packets = g.packets ++ made.filterMap Call.packet :=
  List.filterMap_append

theorem handlePacket_keeps (cfg : Config) (w : World) :
    (handlePacket cfg w).assembler = w.assembler ∧
      (handlePacket cfg w).mouseGlobals = w.mouseGlobals ∧
      (handlePacket cfg w).game.packets = w.game.packets := by
  unfold handlePacket
  split
  · unfold menuPacket
    dsimp only
    split
    · split
      all_goals
        refine ⟨rfl, rfl, ?_⟩
        simp [Game.packets, World.call, World.enter, Game.call, initGame, Call.packet]
    · refine ⟨rfl, rfl, ?_⟩
      simp [Game.packets, World.call, Game.call, Call.packet]
  · unfold instructionsPacket
    dsimp only
    split
    all_goals
      refine ⟨rfl, rfl, ?_⟩
      simp [Game.packets, World.call, World.enter, Game.call, Call.packet]
  · unfold playingPacket
    split <;> exact ⟨rfl, rfl, rfl⟩
  all_goals exact ⟨rfl, rfl, rfl⟩

theorem mousePart_takes (cfg : Config) (inputs : Inputs) (w : World) :
    (mousePart cfg inputs w).world.assembler = (w.assembler.take (w.received inputs)).1 ∧
      (mousePart cfg inputs w).world.game.packets =
        w.game.packets ++ (w.assembler.take (w.received inputs)).2 ∧
      (mousePart cfg inputs w).world.mouseGlobals.ihError = false := by
  unfold mousePart
  dsimp only
  split
  · rename_i error
    have dropped : w.received inputs = none := if_pos error
    rw [dropped]
    exact ⟨rfl, (List.append_nil _).symm, rfl⟩
  · rename_i fine
    have clean : (mouseIh inputs.mouse w.mouseGlobals).ihError = false := eq_false_of_ne_true fine
    have heard : w.received inputs = some (mouseIh inputs.mouse w.mouseGlobals).scancode :=
      if_neg fine
    rw [heard]
    simp only [Assembler.take]
    split
    · rename_i first
      rw [if_pos (show w.assembler.currentByte = 1 from first)]
      split
      · rename_i sync
        rw [if_pos (show (mouseIh inputs.mouse w.mouseGlobals).scancode &&& 0x08 = 0 from sync)]
        exact ⟨rfl, (List.append_nil _).symm, clean⟩
      · rename_i sync
        rw [if_neg (show ¬ (mouseIh inputs.mouse w.mouseGlobals).scancode &&& 0x08 = 0 from sync)]
        exact ⟨rfl, (List.append_nil _).symm, clean⟩
    · rename_i first
      rw [if_neg (show ¬ w.assembler.currentByte = 1 from first)]
      split
      · rename_i second
        rw [if_pos (show w.assembler.currentByte = 2 from second)]
        exact ⟨rfl, (List.append_nil _).symm, clean⟩
      · rename_i second
        rw [if_neg (show ¬ w.assembler.currentByte = 2 from second)]
        split
        · rename_i third
          rw [if_pos (show w.assembler.currentByte = 3 from third)]
          have kept := handlePacket_keeps cfg
            (decodePacket (readMouse inputs w).mouseGlobals.scancode (readMouse inputs w))
          refine ⟨kept.1, kept.2.2.trans (packets_call _ _), ?_⟩
          rw [Flow.world, kept.2.1]
          exact clean
        · rename_i third
          rw [if_neg (show ¬ w.assembler.currentByte = 3 from third)]
          exact ⟨rfl, (List.append_nil _).symm, clean⟩

structure SameAssembly (before after : World) : Prop where
  assembler : after.assembler = before.assembler
  globals : after.mouseGlobals = before.mouseGlobals
  packets : after.game.packets = before.game.packets

theorem keyboardPart_assembly (inputs : Inputs) (w : World) :
    SameAssembly w (keyboardPart inputs w).world := by
  unfold keyboardPart
  dsimp only
  split
  · exact ⟨rfl, rfl, rfl⟩
  · split
    · exact ⟨rfl, rfl, rfl⟩
    · split <;> exact ⟨rfl, rfl, rfl⟩

theorem packets_append (g after : Game) (made : List Call) (calls : after.calls = g.calls ++ made)
    (other : ∀ call ∈ made, call.packet = none) : after.packets = g.packets := by
  have none : made.filterMap Call.packet = [] := List.filterMap_eq_nil_iff.mpr other
  rw [Game.packets, calls, List.filterMap_append, none, List.append_nil]
  rfl

theorem moveAliens_packets (cfg : Config) (g : Game) : (moveAliens cfg g).packets = g.packets := by
  obtain ⟨made, calls, drawings⟩ := moveAliens_calls cfg g
  apply packets_append g _ made calls
  intro call member
  obtain ⟨x, y, img, rfl⟩ := drawings call member
  rfl

theorem moveAlienBullet_packets (g : Game) : (moveAlienBullet g).packets = g.packets := by
  rcases moveAlienBullet_cases g with ⟨_, same⟩ | ⟨_, same⟩
  · rw [same]
    exact packets_append g _ [.loseLife] rfl (by simp [Call.packet])
  · rw [same]
    rfl

theorem drawFrame_packets (cfg : Config) (inputs : Inputs) (g : Game) :
    (drawFrame cfg inputs g).packets = g.packets := by
  apply packets_append g _ (frameCalls cfg inputs
    { g with bullets := updateShipBulletPosition g.bullets }) rfl
  exact forall_frameCalls rfl rfl (fun _ _ => rfl) (fun _ => rfl) rfl rfl (fun _ _ => rfl)

theorem playingTick_packets {cfg : Config} {inputs : Inputs} {g after : Game}
    (ticked : playingTick cfg inputs g = some after) : after.packets = g.packets := by
  have drawn := drawFrame_packets cfg inputs g
  cases playingTick_ends inputs g after ticked with
  | fired index idle alive =>
      rw [moveAliens_packets, ← drawn]
      exact packets_append _ _ [.generateAlienBullet _, .createAlienBullet index] rfl
        (by simp [Call.packet])
  | lost active dead => exact (moveAlienBullet_packets _).trans drawn
  | flown active left => exact ((moveAliens_packets cfg _).trans (moveAlienBullet_packets _)).trans drawn

theorem timerPart_assembly {cfg : Config} {inputs : Inputs} {w after : World}
    (ticked : timerPart cfg inputs w = some after) : SameAssembly w after := by
  unfold timerPart at ticked
  dsimp only at ticked
  split at ticked
  · obtain ⟨game, moved, rfl⟩ := Option.map_eq_some_iff.mp ticked
    have counted : (timerIntHandler w.game).packets = w.game.packets := by
      simp only [Game.packets, timerIntHandler]
    exact ⟨rfl, rfl, (playingTick_packets moved).trans counted⟩
  · cases ticked
    refine ⟨rfl, rfl, ?_⟩
    exact packets_append w.game _ [.drawBackground (cfg.loader.load .background),
      .drawXpm w.game.ship.x w.game.ship.y w.game.ship.img] rfl (by simp [Call.packet])
  · cases ticked
    refine ⟨rfl, rfl, ?_⟩
    exact packets_append w.game _ [.drawBackground _, .drawMouse w.mouse] rfl
      (by simp [Call.packet])
  all_goals
    cases ticked
    exact ⟨rfl, rfl, rfl⟩

def World.taken (w : World) : Message → Option UInt8
  | .failedReceive | .notFromHardware => none
  | .hardware interrupts inputs =>
      if interrupts &&& mouseBit ≠ 0 then w.received inputs else none

theorem inputParts_takes (cfg : Config) (interrupts : BitVec 64) (inputs : Inputs) (w : World)
    (fine : w.mouseGlobals.ihError = false) :
    (inputParts cfg interrupts inputs w).world.assembler =
        (w.assembler.take (w.taken (.hardware interrupts inputs))).1 ∧
      (inputParts cfg interrupts inputs w).world.game.packets =
        w.game.packets ++ (w.assembler.take (w.taken (.hardware interrupts inputs))).2 ∧
      (inputParts cfg interrupts inputs w).world.mouseGlobals.ihError = false := by
  have mouse : ((Flow.next w).part interrupts mouseBit (mousePart cfg inputs)).world.assembler =
        (w.assembler.take (w.taken (.hardware interrupts inputs))).1 ∧
      ((Flow.next w).part interrupts mouseBit (mousePart cfg inputs)).world.game.packets =
        w.game.packets ++ (w.assembler.take (w.taken (.hardware interrupts inputs))).2 ∧
      ((Flow.next w).part interrupts mouseBit (mousePart cfg inputs)).world.mouseGlobals.ihError =
        false := by
    unfold Flow.part World.taken
    dsimp only
    split
    · exact mousePart_takes cfg inputs w
    · exact ⟨rfl, (List.append_nil _).symm, fine⟩
  unfold inputParts
  cases flow : (Flow.next w).part interrupts mouseBit (mousePart cfg inputs) with
  | leave v =>
      rw [flow] at mouse
      exact mouse
  | next v =>
      rw [flow] at mouse
      have keyboard := keyboardPart_assembly inputs v
      unfold Flow.part
      dsimp only
      split
      · rw [keyboard.assembler, keyboard.packets, keyboard.globals]
        exact mouse
      · exact mouse

theorem gameStep_takes {cfg : Config} {w after : World} {message : Message}
    (fine : w.mouseGlobals.ihError = false) (stepped : gameStep cfg w message = some after) :
    after.assembler = (w.assembler.take (w.taken message)).1 ∧
      after.game.packets = (w.assembler.take (w.taken message)).2 ∧
      after.mouseGlobals.ihError = false := by
  cases message with
  | failedReceive =>
      rw [gameStep_quiet (.inl rfl) stepped]
      exact ⟨rfl, rfl, fine⟩
  | notFromHardware =>
      rw [gameStep_quiet (.inr rfl) stepped]
      exact ⟨rfl, rfl, fine⟩
  | hardware interrupts inputs =>
      have parts := inputParts_takes cfg interrupts inputs w.clear fine
      rcases gameStep_hardware stepped with flow | ⟨flow, _⟩ | ⟨v, flow, _, ticked⟩
      · rw [flow] at parts
        exact parts
      · rw [flow] at parts
        exact parts
      · rw [flow] at parts
        have timer := timerPart_assembly ticked
        rw [timer.assembler, timer.packets, timer.globals]
        exact parts

theorem take_phase (asm : Assembler) (byte : Option UInt8)
    (phase : asm.currentByte = 1 ∨ asm.currentByte = 2 ∨ asm.currentByte = 3) :
    (asm.take byte).1.currentByte = 1 ∨ (asm.take byte).1.currentByte = 2 ∨
      (asm.take byte).1.currentByte = 3 := by
  cases byte with
  | none => exact phase
  | some byte =>
      rw [Assembler.take]
      split
      · split
        · exact phase
        · exact .inr (.inl rfl)
      · split
        · exact .inr (.inr rfl)
        · split
          · exact .inl rfl
          · exact phase

/-- The assembly waits for one of three bytes, and no error is pending. -/
theorem assembly_reachable {cfg : Config} {w : World} (reached : (gameLoop cfg).Reachable w) :
    w.mouseGlobals.ihError = false ∧
      (w.currentByte = 1 ∨ w.currentByte = 2 ∨ w.currentByte = 3) := by
  apply reached.invariant (fun w => w.mouseGlobals.ihError = false ∧
    (w.currentByte = 1 ∨ w.currentByte = 2 ∨ w.currentByte = 3))
  · rintro _ ⟨memory, rfl⟩
    exact ⟨rfl, .inl rfl⟩
  · rintro before message after ⟨fine, phase⟩ _ stepped
    obtain ⟨assembler, _, still⟩ := gameStep_takes fine stepped
    have next := take_phase before.assembler (before.taken message) phase
    rw [← assembler] at next
    exact ⟨still, next⟩

end Lcom.Proj
