import Lcom.Proj.Assembler
import Lcom.Proj.Coalescing
import Lcom.Proj.Placement
import Lcom.Proj.Play

/-! Interrupts during which a port cannot be read or the status shows a transmission error. -/

namespace Lcom.Proj

open Lcom.Lib

/-- A read of `mouse_ih` fails, or the status it reads has an error bit. The data register is read
only if the status is fine. -/
def PortReads.MouseFails (reads : PortReads) : Prop :=
  match reads.stat with
  | none => True
  | some stat =>
      stat &&& (parityBit ||| timeoutBit) ≠ 0 ∨ (stat &&& obfBit ≠ 0 ∧ reads.out = none)

def PortReads.KeyboardFails (reads : PortReads) : Prop :=
  match reads.stat with
  | none => True
  | some stat => stat &&& (parityBit ||| timeoutBit) ≠ 0 ∨ reads.out = none

/-- No key event and no packet byte has been consumed. `kbdBytes`, `size` and the two scancode
variables are not compared: `kbc_ih` stores a zero for an erroneous byte, and the loop keeps it. -/
def Unaffected (before after : World) : Prop :=
  (after.game.ship.x = before.game.ship.x ∧ after.game.ship.y = before.game.ship.y) ∧
    after.game.gameState = before.game.gameState ∧ after.currentByte = before.currentByte ∧
    after.mouseBytes = before.mouseBytes

def World.withMouseByte (byte : UInt8) (w : World) : World :=
  { w with mouseGlobals := { w.mouseGlobals with scancode := byte } }

def World.withKeyByte (byte : UInt8) (w : World) : World := { w with keyboardScancode := byte }

/-- The byte that `store` has put into the state is not processed: with any other byte there the
step has the same result, apart from the place of the byte itself. -/
def ByteUnused (store : UInt8 → World → World) (cfg : Config) (message : Message) (w : World) :
    Prop :=
  ∀ byte, (gameStep cfg (store byte w) message).map (store 0) =
    (gameStep cfg w message).map (store 0)

/-- A notification with a failed read changes nothing and does not process the byte of the
notification before again. -/
def NoEffect (store : UInt8 → World → World) (cfg : Config) (message : Message) (w : World) :
    Prop :=
  (∃ after, gameStep cfg w message = some after ∧ Unaffected w after) ∧
    ByteUnused store cfg message w

def PortReads.StatusFails (reads : PortReads) : Prop :=
  match reads.stat with
  | none => True
  | some stat => stat &&& (parityBit ||| timeoutBit) ≠ 0

theorem take_currentByte (asm : Assembler) (byte : UInt8)
    (phase : asm.currentByte = 1 ∨ asm.currentByte = 2 ∨ asm.currentByte = 3) :
    (asm.take (some byte)).1.currentByte = asm.currentByte ↔
      asm.currentByte = 1 ∧ byte &&& 0x08 = 0 := by
  rcases phase with first | second | third
  · by_cases sync : byte &&& 0x08 = 0
    · simp [Assembler.take, first, sync]
    · simp [Assembler.take, first, sync]
  · simp [take_second second, second]
  · simp [take_third third, third]

theorem mousePart_error (cfg : Config) {inputs : Inputs} {w : World}
    (error : (mouseIh inputs.mouse w.mouseGlobals).ihError = true) :
    mousePart cfg inputs w = .leave { w with
      mouseGlobals := { mouseIh inputs.mouse w.mouseGlobals with ihError := false } } :=
  if_pos error

theorem mouseIh_error {reads : PortReads} (fails : reads.StatusFails) (globals : MouseGlobals) :
    (mouseIh reads globals).ihError = true := by
  rw [PortReads.StatusFails] at fails
  rw [mouseIh]
  cases stat : reads.stat with
  | none => rfl
  | some status =>
      rw [stat] at fails
      exact congrArg MouseGlobals.ihError (if_pos (fun fine => fails fine.1))

theorem mouseIh_unused {reads : PortReads} (fails : reads.StatusFails) (globals : MouseGlobals)
    (byte : UInt8) :
    { mouseIh reads { globals with scancode := byte } with scancode := 0 } =
      { mouseIh reads globals with scancode := 0 } := by
  rw [PortReads.StatusFails] at fails
  unfold mouseIh
  cases stat : reads.stat with
  | none => rfl
  | some status =>
      rw [stat] at fails
      have broken : ¬ (status &&& (parityBit ||| timeoutBit) = 0 ∧ status &&& obfBit ≠ 0) :=
        fun fine => fails fine.1
      simp only [if_pos broken]

theorem mouse_byte_unused (cfg : Config) {inputs : Inputs} (fails : inputs.mouse.StatusFails)
    {w : World} (running : w.game.gameState ≠ .exit) :
    ByteUnused World.withMouseByte cfg (.hardware mouseBit inputs) w := by
  intro byte
  have stored : (w.withMouseByte byte).game.gameState ≠ .exit := running
  rw [gameStep_mouse cfg inputs w running, gameStep_mouse cfg inputs _ stored,
    mousePart_error cfg (mouseIh_error fails _), mousePart_error cfg (mouseIh_error fails _)]
  have unused := mouseIh_unused fails w.mouseGlobals byte
  have globals : { mouseIh inputs.mouse { w.mouseGlobals with scancode := byte } with
        scancode := 0, ihError := false } =
      { mouseIh inputs.mouse w.mouseGlobals with scancode := 0, ihError := false } :=
    congrArg (fun read : MouseGlobals => { read with ihError := false }) unused
  exact congrArg (fun read => some { w.clear with mouseGlobals := read }) globals

/-- A mouse interrupt with a failed read is without effect exactly if `mouse_ih` notices it at
the status. Otherwise the byte of the interrupt before is assembled, or tested for bit 3, again. -/
theorem failed_mouse {cfg : Config} {w : World} (reached : (gameLoop cfg).Reachable w)
    (running : w.game.gameState ≠ .exit) {inputs : Inputs} (fails : inputs.mouse.MouseFails) :
    NoEffect World.withMouseByte cfg (.hardware mouseBit inputs) w ↔
      inputs.mouse.StatusFails := by
  constructor
  · rintro ⟨⟨after, same, unaffected⟩, unused⟩
    rw [PortReads.MouseFails] at fails
    rw [PortReads.StatusFails]
    cases stat : inputs.mouse.stat with
    | none => trivial
    | some status =>
        rw [stat] at fails
        rcases fails with fault | ⟨full, out⟩
        · exact fault
        intro clean
        have reads : inputs.mouse = ⟨some status, none⟩ := by rw [← stat, ← out]
        obtain ⟨fine, phase⟩ := assembly_reachable reached
        have taken : w.taken (.hardware mouseBit inputs) = some w.mouseGlobals.scancode :=
          received_fine fine reads clean full
        have takes := (gameStep_takes fine same).1
        rw [taken] at takes
        obtain ⟨first, _⟩ := (take_currentByte w.assembler w.mouseGlobals.scancode phase).mp
          ((congrArg Assembler.currentByte takes).symm.trans unaffected.2.2.1)
        -- a byte with bit 3 in the place of the old one would begin a packet
        obtain ⟨other, stepped, view⟩ : ∃ other,
            gameStep cfg (w.withMouseByte 0x08) (.hardware mouseBit inputs) = some other ∧
              other.withMouseByte 0 = after.withMouseByte 0 := by
          have result := unused 0x08
          rw [same] at result
          exact Option.map_eq_some_iff.mp result
        have took : (w.withMouseByte 0x08).taken (.hardware mouseBit inputs) = some 0x08 :=
          received_fine (w := w.withMouseByte 0x08) fine reads clean full
        have takes := (gameStep_takes (w := w.withMouseByte 0x08) fine stepped).1
        rw [took] at takes
        have still : other.currentByte = w.currentByte :=
          (congrArg World.currentByte view).trans unaffected.2.2.1
        have sync := (take_currentByte w.assembler 0x08 phase).mp
          ((congrArg Assembler.currentByte takes).symm.trans still)
        exact absurd sync.2 (by decide)
  · intro noticed
    refine ⟨?_, mouse_byte_unused cfg noticed running⟩
    have stepped := gameStep_mouse cfg inputs w running
    rw [mousePart_error cfg (mouseIh_error noticed _)] at stepped
    exact ⟨_, stepped, ⟨rfl, rfl⟩, rfl, rfl, rfl⟩

def ActingByte (w : World) (byte : UInt8) : Prop :=
  byte = escBreak ∨
    (w.game.gameState = .playing ∧
      ((byte = 0x1E ∧ xMin < w.game.ship.x) ∨ (byte = 0x20 ∧ w.game.ship.x < xMax - 75)))

theorem not_acting (w : World) {byte : UInt8}
    (other : byte ≠ escBreak ∧ byte ≠ 0x1E ∧ byte ≠ 0x20) : ¬ ActingByte w byte := by
  rintro (escape | ⟨_, ⟨pressed, _⟩ | ⟨pressed, _⟩⟩)
  · exact other.1 escape
  · exact other.2.1 pressed
  · exact other.2.2 pressed

theorem keyboardPart_unaffected {w : World} (place : ShipPlace w.game.ship)
    (running : w.game.gameState ≠ .exit) (inputs : Inputs) :
    Unaffected w (keyboardPart inputs w.clear).world ↔ ¬ ActingByte w (w.nextScancode inputs) := by
  have same : w.clear.nextScancode inputs = w.nextScancode inputs := rfl
  rw [keyboardPart_eq, same]
  split
  · rename_i two
    have code : w.nextScancode inputs = 0xE0 := by simpa [twoBytes] using two
    rw [code]
    exact iff_of_true ⟨⟨rfl, rfl⟩, rfl, rfl, rfl⟩ (not_acting w (by decide))
  · split
    · rename_i escape
      refine iff_of_false ?_ (fun inert => inert (.inl escape))
      intro unaffected
      exact running unaffected.2.1.symm
    · rename_i stays
      rw [Flow.world, World.keyed]
      by_cases playing : w.game.gameState = .playing
      · rw [if_pos (show w.clear.game.gameState = .playing from playing), same]
        have still := keyActivity_still place (w.nextScancode inputs)
        have row : (updateShipPosition w.game.ship (keyActivity (w.nextScancode inputs))).y =
            w.game.ship.y := by
          cases keyActivity (w.nextScancode inputs) <;> rfl
        constructor
        · rintro ⟨⟨x, _⟩, _⟩ (escape | ⟨_, moves⟩)
          · exact stays escape
          · exact still.mp x moves
        · intro inert
          have x := still.mpr (fun moves => inert (.inr ⟨playing, moves⟩))
          exact ⟨⟨x, row⟩, rfl, rfl, rfl⟩
      · rw [if_neg (show w.clear.game.gameState ≠ .playing from playing)]
        refine iff_of_true ⟨⟨rfl, rfl⟩, rfl, rfl, rfl⟩ ?_
        rintro (escape | ⟨under, _⟩)
        · exact stays escape
        · exact playing under

/-- The status that `kbc_ih` tests has an error bit: the one it read, or else what its local
variable held before. -/
def ErroneousStatus (inputs : Inputs) : Prop :=
  inputs.keyboard.stat.getD inputs.statuscode &&& (parityBit ||| timeoutBit) ≠ 0

theorem nextScancode_read {w : World} {inputs : Inputs} {byte : UInt8}
    (fine : ¬ ErroneousStatus inputs) (out : inputs.keyboard.out = some byte) :
    w.nextScancode inputs = byte := by
  rw [World.nextScancode, kbcIh, out]
  exact if_neg fine

theorem nextScancode_stale {w : World} {inputs : Inputs} (fine : ¬ ErroneousStatus inputs)
    (out : inputs.keyboard.out = none) : w.nextScancode inputs = w.keyboardScancode := by
  rw [World.nextScancode, kbcIh, out]
  exact if_neg fine

theorem nextScancode_unused {w : World} {inputs : Inputs} (byte : UInt8)
    (replaced : ErroneousStatus inputs ∨ inputs.keyboard.out ≠ none) :
    (w.withKeyByte byte).nextScancode inputs = w.nextScancode inputs := by
  by_cases erroneous : ErroneousStatus inputs
  · exact (if_pos erroneous).trans (if_pos erroneous).symm
  · obtain ⟨read, out⟩ := Option.ne_none_iff_exists'.mp (replaced.resolve_left erroneous)
    rw [nextScancode_read erroneous out, nextScancode_read erroneous out]

theorem key_byte_unused (cfg : Config) {inputs : Inputs}
    (replaced : ErroneousStatus inputs ∨ inputs.keyboard.out ≠ none) {w : World}
    (running : w.game.gameState ≠ .exit) :
    ByteUnused World.withKeyByte cfg (.hardware kbdBit inputs) w := by
  intro byte
  have stored : (w.withKeyByte byte).game.gameState ≠ .exit := running
  have code := nextScancode_unused (w := w.clear) byte replaced
  rw [gameStep_kbd cfg inputs w running, gameStep_kbd cfg inputs _ stored]
  change some ((keyboardPart inputs (w.clear.withKeyByte byte)).world.withKeyByte 0) =
    some ((keyboardPart inputs w.clear).world.withKeyByte 0)
  have same : keyboardPart inputs (w.clear.withKeyByte byte) = keyboardPart inputs w.clear := by
    rw [keyboardPart_eq, keyboardPart_eq, World.keyed, World.keyed, World.typed, World.typed,
      World.awaitByte, World.awaitByte, code]
    rfl
  rw [same]

theorem stale_key_used (cfg : Config) {inputs : Inputs} (fine : ¬ ErroneousStatus inputs)
    (out : inputs.keyboard.out = none) {w : World} (running : w.game.gameState ≠ .exit) :
    ¬ ByteUnused World.withKeyByte cfg (.hardware kbdBit inputs) w := by
  intro unused
  -- the escape break code ends the program, a zero does not
  have ended : ∀ byte, ((keyboardPart inputs (w.clear.withKeyByte byte)).world.game.gameState =
      .exit ↔ byte = escBreak) := by
    intro byte
    have code : (w.clear.withKeyByte byte).nextScancode inputs = byte :=
      nextScancode_stale fine out
    have kept : (w.clear.withKeyByte byte).game.gameState ≠ .exit := running
    rw [keyboardPart_eq, code]
    split
    · rename_i two
      refine iff_of_false kept ?_
      rintro rfl
      exact absurd two (by decide)
    · split
      · rename_i escape
        exact iff_of_true rfl escape
      · rename_i other
        refine iff_of_false ?_ other
        rw [Flow.world, World.keyed]
        split <;> exact kept
  have result : ∀ byte, (gameStep cfg (w.withKeyByte byte) (.hardware kbdBit inputs)).map
      (fun v => v.game.gameState) =
        some (keyboardPart inputs (w.clear.withKeyByte byte)).world.game.gameState := by
    intro byte
    have stored : (w.withKeyByte byte).game.gameState ≠ .exit := running
    rw [gameStep_kbd cfg inputs _ stored]
    rfl
  have same : (gameStep cfg (w.withKeyByte escBreak) (.hardware kbdBit inputs)).map
        (fun v => v.game.gameState) =
      (gameStep cfg (w.withKeyByte 0) (.hardware kbdBit inputs)).map
        (fun v => v.game.gameState) := by
    have views := congrArg (Option.map (fun v : World => v.game.gameState))
      ((unused escBreak).trans (unused 0).symm)
    rw [Option.map_map, Option.map_map] at views
    exact views
  rw [result, result, (ended escBreak).mpr rfl] at same
  exact absurd ((ended 0).mp (Option.some.inj same).symm) (by decide)

/-- A keyboard interrupt with a failed read is without effect exactly if the status is found
erroneous or the byte is new and does nothing. -/
theorem failed_keyboard {cfg : Config} {w : World} (reached : (gameLoop cfg).Reachable w)
    (running : w.game.gameState ≠ .exit) (inputs : Inputs) :
    NoEffect World.withKeyByte cfg (.hardware kbdBit inputs) w ↔
      ErroneousStatus inputs ∨ ∃ byte, inputs.keyboard.out = some byte ∧ ¬ ActingByte w byte := by
  have unaffected := keyboardPart_unaffected (ship_reachable w reached) running inputs
  have result : (∃ after, gameStep cfg w (.hardware kbdBit inputs) = some after ∧
      Unaffected w after) ↔ ¬ ActingByte w (w.nextScancode inputs) := by
    rw [gameStep_kbd cfg inputs w running, ← unaffected]
    simp
  rw [NoEffect, result]
  by_cases erroneous : ErroneousStatus inputs
  · have code : w.nextScancode inputs = 0 := if_pos erroneous
    rw [code]
    exact iff_of_true ⟨not_acting w (by decide), key_byte_unused cfg (.inl erroneous) running⟩
      (.inl erroneous)
  · cases out : inputs.keyboard.out with
    | none =>
        refine iff_of_false (fun none => stale_key_used cfg erroneous out running none.2) ?_
        rintro (broken | ⟨byte, read, _⟩)
        · exact erroneous broken
        · exact absurd read (by simp)
    | some byte =>
        have replaced : inputs.keyboard.out ≠ none := by simp [out]
        rw [nextScancode_read erroneous out]
        constructor
        · rintro ⟨inert, _⟩
          exact .inr ⟨byte, rfl, inert⟩
        · rintro (broken | ⟨read, same, inert⟩)
          · exact absurd broken erroneous
          · rw [Option.some.inj same]
            exact ⟨inert, key_byte_unused cfg (.inr replaced) running⟩

/-- An interrupt with a failed read is without effect exactly if the handler notices the failure
at the status, or the keyboard's data read succeeds all the same and its byte does nothing.
`kbdBytes`, `size` and `keyboardScancode` are not compared. -/
theorem failed_reads_iff (cfg : Config) (w : World) (reached : (gameLoop cfg).Reachable w)
    (running : w.game.gameState ≠ .exit) (inputs : Inputs) :
    (inputs.mouse.MouseFails →
      (NoEffect World.withMouseByte cfg (.hardware mouseBit inputs) w ↔
        inputs.mouse.StatusFails)) ∧
    (inputs.keyboard.KeyboardFails →
      (NoEffect World.withKeyByte cfg (.hardware kbdBit inputs) w ↔
        ErroneousStatus inputs ∨
          ∃ byte, inputs.keyboard.out = some byte ∧ ¬ ActingByte w byte)) :=
  ⟨failed_mouse reached running, fun _ => failed_keyboard reached running inputs⟩

def unreadKey : Inputs := { noInputs with keyboard := ⟨some 0x01, none⟩ }

def garbledKey : Inputs := { noInputs with keyboard := ⟨some 0x81, some 0x1E⟩ }

theorem failed_reads_iff_garbled : ∃ w, (gameLoop sampleConfig).Reachable w ∧
    w.game.gameState = .playing ∧ garbledKey.keyboard.KeyboardFails ∧
    NoEffect World.withKeyByte sampleConfig (.hardware kbdBit garbledKey) w := by
  obtain ⟨w, reached, playing⟩ := reachable_of_played clickStart
    (fun w => w.game.gameState = .playing) (by decide +kernel)
  have running : w.game.gameState ≠ .exit := by
    rw [playing]
    decide
  have fails : garbledKey.keyboard.KeyboardFails := .inl (by decide)
  have erroneous : ErroneousStatus garbledKey := show _ ≠ _ by decide
  exact ⟨w, reached, playing, fails,
    ((failed_reads_iff sampleConfig w reached running garbledKey).2 fails).mpr (.inl erroneous)⟩

/-- The make code of A is processed again when the next byte cannot be read. -/
theorem failed_read_moves_again : ∃ w, (gameLoop sampleConfig).Reachable w ∧
    w.game.gameState = .playing ∧ unreadKey.keyboard.KeyboardFails ∧
    ¬ NoEffect World.withKeyByte sampleConfig (.hardware kbdBit unreadKey) w := by
  obtain ⟨w, reached, playing, moved⟩ := reachable_of_played (clickStart ++ [keyByte 0x1E])
    (fun w => w.game.gameState = .playing ∧
      (gameStep sampleConfig w (.hardware kbdBit unreadKey)).all
        (fun after => decide (after.game.ship.x ≠ w.game.ship.x)) = true) (by decide +kernel)
  refine ⟨w, reached, playing, .inr rfl, ?_⟩
  rintro ⟨⟨after, stepped, unaffected⟩, _⟩
  rw [stepped] at moved
  exact of_decide_eq_true moved unaffected.1.1

end Lcom.Proj
