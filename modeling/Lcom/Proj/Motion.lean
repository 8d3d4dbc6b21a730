import Lcom.Lib.Refinement
import Lcom.Proj.Coalescing

/-! During a fight the cursor is not drawn, and only the left button of the mouse is used: two runs
whose packets differ in the movement alone. -/

namespace Lcom.Proj

open Lcom.Lib

def Call.shown : Call → Bool
  | .getMousePacket _ => false
  | _ => true

/-- The states agree up to the cursor, the bytes of its movement and the buttons of the menus. In the
record of calls, which has what was drawn, only the packets may differ. -/
structure Alike (w v : World) : Prop where
  game : w.game.only Call.shown = v.game.only Call.shown
  pressed : w.mouse.lbPressed = v.mouse.lbPressed
  ihError : w.mouseGlobals.ihError = v.mouseGlobals.ihError
  statuscode : w.mouseGlobals.statuscode = v.mouseGlobals.statuscode
  currentByte : w.currentByte = v.currentByte
  first : w.mouseBytes.first = v.mouseBytes.first
  keyboardScancode : w.keyboardScancode = v.keyboardScancode
  size : w.size = v.size
  kbdBytes : w.kbdBytes = v.kbdBytes

/-- The same message, but for what the mouse sends, unless that is the first byte of a packet: that
one can be read and is the same. -/
def Redirected (w : World) : Message → Message → Prop
  | .failedReceive, .failedReceive => True
  | .notFromHardware, .notFromHardware => True
  | .hardware interrupts inputs, .hardware bits others =>
      bits = interrupts ∧
        others = { inputs with mouse := { inputs.mouse with out := others.mouse.out } } ∧
        (interrupts &&& mouseBit ≠ 0 → w.currentByte = 1 →
          inputs.mouse.out ≠ none ∧ inputs.mouse.out = others.mouse.out)
  | _, _ => False

deriving instance DecidableEq for Inputs

instance (w : World) : (message other : Message) → Decidable (Redirected w message other)
  | .failedReceive, .failedReceive => inferInstanceAs (Decidable True)
  | .notFromHardware, .notFromHardware => inferInstanceAs (Decidable True)
  | .hardware _ _, .hardware _ _ => inferInstanceAs (Decidable (_ ∧ _))
  | .failedReceive, .notFromHardware | .failedReceive, .hardware _ _
  | .notFromHardware, .failedReceive | .notFromHardware, .hardware _ _
  | .hardware _ _, .failedReceive | .hardware _ _, .notFromHardware =>
      inferInstanceAs (Decidable False)

namespace Alike

variable {w v : World}

theorem gameState (alike : Alike w v) : w.game.gameState = v.game.gameState := by
  obtain ⟨calls, same, _⟩ := Game.only_eq alike.game
  rw [same]

theorem clear (alike : Alike w v) : Alike w.clear v.clear := by
  obtain ⟨calls, same, _⟩ := Game.only_eq alike.game
  refine { alike with game := ?_ }
  rw [World.clear, World.clear, same]

end Alike

inductive Flow.Rel (related : World → World → Prop) : Flow → Flow → Prop where
  | next {w v : World} (holds : related w v) : Flow.Rel related (.next w) (.next v)
  | leave {w v : World} (holds : related w v) : Flow.Rel related (.leave w) (.leave v)

variable {w v : World} {cfg : Config}

theorem shoot_only {kept : Call → Bool} {g other : Game} (same : g.only kept = other.only kept) :
    (shoot cfg g).only kept = (shoot cfg other).only kept := by
  obtain ⟨calls, rfl, made⟩ := Game.only_eq same
  exact Game.only_congr rfl made.symm

theorem steer_only {kept : Call → Bool} (key : KeyActivity) {g other : Game}
    (same : g.only kept = other.only kept) :
    (steer key g).only kept = (steer key other).only kept := by
  obtain ⟨calls, rfl, made⟩ := Game.only_eq same
  exact Game.only_congr rfl made.symm

theorem playingPacket_alike (alike : Alike w v) : Alike (playingPacket cfg w) (playingPacket cfg v) := by
  unfold playingPacket
  by_cases pressed : w.mouse.lbPressed = true
  · have other : v.mouse.lbPressed = true := alike.pressed ▸ pressed
    rw [if_pos pressed, if_pos other]
    exact { alike with game := shoot_only alike.game, pressed := rfl }
  · have other : ¬ v.mouse.lbPressed = true := alike.pressed ▸ pressed
    rw [if_neg pressed, if_neg other]
    exact alike

theorem handlePacket_alike (alike : Alike w v) (fighting : Fighting w) :
    Alike (handlePacket cfg w) (handlePacket cfg v) := by
  unfold handlePacket
  rw [← alike.gameState]
  rcases fighting with playing | cleared
  · rw [playing]
    exact playingPacket_alike alike
  · rw [cleared]
    exact alike

theorem decodePacket_alike (alike : Alike w v) (byte other : UInt8) :
    Alike (decodePacket byte w) (decodePacket other v) := by
  refine { alike with game := ?_, pressed := ?_, currentByte := rfl }
  · obtain ⟨calls, same, made⟩ := Game.only_eq alike.game
    change Game.only Call.shown (w.game.call _) = Game.only Call.shown (v.game.call _)
    rw [same]
    refine Game.only_congr rfl ?_
    change (w.game.calls ++ _).filter Call.shown = (calls ++ _).filter Call.shown
    rw [List.filter_append, List.filter_append, made]
    rfl
  · change (w.mouseBytes.first &&& mouseLeft != 0) = (v.mouseBytes.first &&& mouseLeft != 0)
    rw [alike.first]

theorem mouseIh_alike {reads others : PortReads} {globals other : MouseGlobals}
    (stat : reads.stat = others.stat) (ihError : globals.ihError = other.ihError)
    (statuscode : globals.statuscode = other.statuscode) :
    (mouseIh reads globals).ihError = (mouseIh others other).ihError ∧
      (mouseIh reads globals).statuscode = (mouseIh others other).statuscode ∧
      ((mouseIh reads globals).ihError = false → reads.out ≠ none → reads.out = others.out →
        (mouseIh reads globals).scancode = (mouseIh others other).scancode) := by
  unfold mouseIh
  rw [← stat]
  cases reads.stat with
  | none => exact ⟨rfl, statuscode, fun fine => by cases fine⟩
  | some stat =>
      dsimp only
      split
      · exact ⟨rfl, rfl, fun fine => by cases fine⟩
      · refine ⟨ihError, rfl, fun _ read same => ?_⟩
        obtain ⟨byte, out⟩ := Option.ne_none_iff_exists'.mp read
        rw [← same, out]
        rfl

def takeByte (cfg : Config) (w : World) : Flow :=
  if w.mouseGlobals.ihError then
    .leave { w with mouseGlobals := { w.mouseGlobals with ihError := false } }
  else if w.currentByte = 1 then
    if w.mouseGlobals.scancode &&& 0x08 = 0 then .leave w
    else .next { w with
      currentByte := 2, mouseBytes := { w.mouseBytes with first := w.mouseGlobals.scancode } }
  else if w.currentByte = 2 then
    .next { w with
      currentByte := 3, mouseBytes := { w.mouseBytes with second := w.mouseGlobals.scancode } }
  else if w.currentByte = 3 then .next (handlePacket cfg (decodePacket w.mouseGlobals.scancode w))
  else .next w

theorem mousePart_eq (inputs : Inputs) (w : World) :
    mousePart cfg inputs w = takeByte cfg (readMouse inputs w) := rfl

theorem takeByte_alike (alike : Alike w v) (fighting : Fighting w)
    (scancode : w.mouseGlobals.ihError = false → w.currentByte = 1 →
      w.mouseGlobals.scancode = v.mouseGlobals.scancode) :
    Flow.Rel Alike (takeByte cfg w) (takeByte cfg v) := by
  unfold takeByte
  rw [← alike.ihError, ← alike.currentByte]
  by_cases error : w.mouseGlobals.ihError = true
  · rw [if_pos error, if_pos error]
    exact .leave { alike with ihError := rfl, currentByte := rfl }
  · rw [if_neg error, if_neg error]
    by_cases one : w.currentByte = 1
    · rw [if_pos one, if_pos one, ← scancode (eq_false_of_ne_true error) one]
      by_cases clear : w.mouseGlobals.scancode &&& 0x08 = 0
      · rw [if_pos clear, if_pos clear]
        exact .leave alike
      · rw [if_neg clear, if_neg clear]
        exact .next { alike with currentByte := rfl, first := rfl }
    · rw [if_neg one, if_neg one]
      by_cases two : w.currentByte = 2
      · rw [if_pos two, if_pos two]
        exact .next { alike with currentByte := rfl }
      · rw [if_neg two, if_neg two]
        by_cases three : w.currentByte = 3
        · rw [if_pos three, if_pos three]
          exact .next (handlePacket_alike (decodePacket_alike alike _ _) fighting)
        · rw [if_neg three, if_neg three]
          exact .next alike

theorem mousePart_alike (alike : Alike w v) (fighting : Fighting w) {inputs others : Inputs}
    (stat : inputs.mouse.stat = others.mouse.stat) (first : w.currentByte = 1 →
      inputs.mouse.out ≠ none ∧ inputs.mouse.out = others.mouse.out) :
    Flow.Rel Alike (mousePart cfg inputs w) (mousePart cfg others v) := by
  obtain ⟨ihError, statuscode, scancode⟩ := mouseIh_alike stat alike.ihError alike.statuscode
  rw [mousePart_eq, mousePart_eq]
  refine takeByte_alike ?_ fighting (fun fine one => scancode fine (first one).1 (first one).2)
  exact { alike with ihError := ihError, statuscode := statuscode }

theorem keyboardPart_alike (alike : Alike w v) (inputs : Inputs) :
    Flow.Rel Alike (keyboardPart inputs w) (keyboardPart inputs v) := by
  unfold keyboardPart
  dsimp only
  rw [← alike.keyboardScancode, ← alike.size, ← alike.kbdBytes]
  split
  · exact .leave { alike with keyboardScancode := rfl, size := rfl, kbdBytes := rfl }
  · split
    · refine .leave { alike with game := ?_, keyboardScancode := rfl, size := rfl, kbdBytes := rfl }
      obtain ⟨calls, same, made⟩ := Game.only_eq alike.game
      change Game.only _ { w.game with gameState := .exit } =
        Game.only _ { v.game with gameState := .exit }
      rw [same]
      exact Game.only_congr rfl made.symm
    · change Flow.Rel Alike (if w.game.gameState = .playing then _ else _)
        (if v.game.gameState = .playing then _ else _)
      rw [← alike.gameState]
      split
      · exact .next { alike with
          game := steer_only _ alike.game, keyboardScancode := rfl, size := rfl, kbdBytes := rfl }
      · exact .next { alike with keyboardScancode := rfl, size := rfl, kbdBytes := rfl }

theorem nextRoundTick_only {kept : Call → Bool} {g other : Game}
    (same : g.only kept = other.only kept) :
    (nextRoundTick cfg g).only kept = (nextRoundTick cfg other).only kept := by
  obtain ⟨calls, rfl, made⟩ := Game.only_eq same
  exact Game.only_congr rfl (filter_append_congr _ made.symm)

theorem timerPart_alike (alike : Alike w v) (left : w.game.gameState ≠ .menuDisplay)
    (inputs : Inputs) :
    Option.Rel Alike (timerPart cfg inputs w) (timerPart cfg inputs v) := by
  have counted : (timerIntHandler w.game).only Call.shown =
      (timerIntHandler v.game).only Call.shown := by
    obtain ⟨calls, same, made⟩ := Game.only_eq alike.game
    rw [same]
    exact Game.only_congr rfl made.symm
  cases state : w.game.gameState with
  | playing =>
      have left : (timerIntHandler w.game).gameState = .playing := state
      have right : (timerIntHandler v.game).gameState = .playing := alike.gameState.symm.trans state
      have ticked := playingTick_only cfg inputs _ _ counted
      simp only [timerPart, left, right]
      cases first : playingTick cfg inputs (timerIntHandler w.game) with
      | none =>
          rw [first] at ticked
          rw [Option.map_eq_none_iff.mp ticked.symm]
          exact .none
      | some g =>
          rw [first] at ticked
          obtain ⟨other, second, same⟩ := Option.map_eq_some_iff.mp ticked.symm
          rw [second]
          exact .some { alike with game := same.symm }
  | nextRound =>
      have left : (timerIntHandler w.game).gameState = .nextRound := state
      have right : (timerIntHandler v.game).gameState = .nextRound :=
        alike.gameState.symm.trans state
      simp only [timerPart, left, right]
      exact .some { alike with game := nextRoundTick_only counted }
  | menuDisplay => exact absurd state left
  | instructionsDisplay =>
      have left : (timerIntHandler w.game).gameState = .instructionsDisplay := state
      have right : (timerIntHandler v.game).gameState = .instructionsDisplay :=
        alike.gameState.symm.trans state
      simp only [timerPart, left, right]
      exact .some { alike with game := counted }
  | exit =>
      have left : (timerIntHandler w.game).gameState = .exit := state
      have right : (timerIntHandler v.game).gameState = .exit := alike.gameState.symm.trans state
      simp only [timerPart, left, right]
      exact .some { alike with game := counted }

theorem Flow.Rel.part {related : World → World → Prop} {left right : Flow}
    (flows : Flow.Rel related left right) (interrupts bit : BitVec 64) {handler other : World → Flow}
    (handles : ∀ w v, related w v → Flow.Rel related (handler w) (other v)) :
    Flow.Rel related (left.part interrupts bit handler) (right.part interrupts bit other) := by
  cases flows with
  | leave holds => exact .leave holds
  | next holds =>
      unfold Flow.part
      dsimp only
      split
      · exact handles _ _ holds
      · exact .next holds

theorem hardware_alike (alike : Alike w v) (fighting : Fighting w) (interrupts : BitVec 64)
    {inputs others : Inputs}
    (rest : others = { inputs with mouse := others.mouse })
    (mouse : interrupts &&& mouseBit ≠ 0 →
      Flow.Rel Alike (mousePart cfg inputs w) (mousePart cfg others v)) :
    Option.Rel Alike (hardware cfg interrupts inputs w) (hardware cfg interrupts others v) := by
  have keyboard : keyboardPart others = keyboardPart inputs := by rw [rest]; rfl
  have timer : timerPart cfg others = timerPart cfg inputs := by rw [rest]; rfl
  have first : Flow.Rel Alike ((Flow.next w).part interrupts mouseBit (mousePart cfg inputs))
      ((Flow.next v).part interrupts mouseBit (mousePart cfg others)) := by
    unfold Flow.part
    dsimp only
    split
    · exact mouse ‹_›
    · exact .next alike
  have second : Flow.Rel Alike (inputParts cfg interrupts inputs w)
      (inputParts cfg interrupts others v) := by
    unfold inputParts
    rw [keyboard]
    exact first.part interrupts kbdBit (fun _ _ holds => keyboardPart_alike holds inputs)
  have arrives : Arrived cfg (fun _ => True) _ w.game (inputParts cfg interrupts inputs w).world :=
    inputParts_arrives Tracks.always interrupts inputs w trivial
  have under := arrives.moves.under fighting.under
  unfold hardware
  rw [timer]
  generalize inputParts cfg interrupts inputs w = left at second under
  generalize inputParts cfg interrupts others v = right at second
  cases second with
  | leave holds => exact .some holds
  | next holds =>
      dsimp only
      split
      · exact timerPart_alike holds under.1 inputs
      · exact .some holds

theorem gameLoop_overlooks (cfg : Config) : (gameLoop cfg).Overlooks Alike
    (fun w message other => Fighting w ∧ Redirected w message other) := by
  rintro w v message other alike ⟨fighting, redirected⟩
  change Option.Rel Alike (gameStep cfg w message) (gameStep cfg v other)
  have left : w.game.gameState ≠ .exit := by
    rcases fighting with state | state
    · rw [state]; decide
    · rw [state]; decide
  have right : v.game.gameState ≠ .exit := alike.gameState ▸ left
  rw [gameStep, gameStep, if_neg left, if_neg right]
  cases message with
  | failedReceive =>
      cases other with
      | failedReceive => exact .some alike.clear
      | notFromHardware => cases redirected
      | hardware bits others => cases redirected
  | notFromHardware =>
      cases other with
      | failedReceive => cases redirected
      | notFromHardware => exact .some alike.clear
      | hardware bits others => cases redirected
  | hardware interrupts inputs =>
      cases other with
      | failedReceive => cases redirected
      | notFromHardware => cases redirected
      | hardware bits others =>
          obtain ⟨rfl, rest, bytes⟩ := redirected
          have stat : inputs.mouse.stat = others.mouse.stat := by rw [rest]
          have same : others = { inputs with mouse := others.mouse } := by
            rw [rest]
          refine hardware_alike alike.clear fighting bits same (fun bit => ?_)
          exact mousePart_alike alike.clear fighting stat (bytes bit)

def sampleShots : List (Message × Message) :=
  [(mouseByte 0x09, mouseByte 0x09), (mouseByte 0, mouseByte 17), (mouseByte 0, mouseByte 200),
    (timerTick [5], timerTick [5])]

end Lcom.Proj
