import Lcom.Proj.Coalescing
import Lcom.Proj.Placement
import Lcom.Proj.Play

/-! The keys of a game under way: the bytes from the keyboard and the place of the ship. -/

namespace Lcom.Proj

open Lcom.Lib

/-- A scancode of one byte, or one of two bytes whose first byte is `0xE0`. -/
inductive Scancode where
  | plain (byte : UInt8)
  | extended (byte : UInt8)
  deriving DecidableEq, Repr

def scancodesFrom : (prefixed : Bool) → List UInt8 → List Scancode
  | _, [] => []
  | true, byte :: rest => .extended byte :: scancodesFrom false rest
  | false, byte :: rest =>
      if byte = 0xE0 then scancodesFrom true rest else .plain byte :: scancodesFrom false rest

def prefixedAfter : (prefixed : Bool) → List UInt8 → Bool
  | prefixed, [] => prefixed
  | prefixed, byte :: rest => prefixedAfter (!prefixed && byte == 0xE0) rest

theorem scancodesFrom_snoc (prefixed : Bool) (bytes : List UInt8) (byte : UInt8) :
    scancodesFrom prefixed (bytes ++ [byte]) =
      scancodesFrom prefixed bytes ++ scancodesFrom (prefixedAfter prefixed bytes) [byte] := by
  induction bytes generalizing prefixed with
  | nil => rfl
  | cons first rest ih =>
      cases prefixed with
      | true =>
          change .extended first :: scancodesFrom false (rest ++ [byte]) = _
          rw [ih]
          rfl
      | false =>
          by_cases two : first = 0xE0
          · have next : prefixedAfter false (first :: rest) = prefixedAfter true rest := by
              rw [two]
              rfl
            rw [next, List.cons_append, scancodesFrom, if_pos two, ih, scancodesFrom, if_pos two]
          · have next : prefixedAfter false (first :: rest) = prefixedAfter false rest := by
              have differs : (first == 0xE0) = false := beq_eq_false_iff_ne.mpr two
              simp [prefixedAfter, differs]
            rw [next, List.cons_append, scancodesFrom, if_neg two, ih, scancodesFrom, if_neg two]
            rfl

def scancodes (bytes : List UInt8) : List Scancode := scancodesFrom false bytes

/-- The place of the ship after a scancode: only the make codes of A and D move it. -/
def Scancode.steer (speed x : Int) : Scancode → Int
  | .plain byte =>
      if byte = 0x1E then clamp xMin (xMax - 75) (x - speed)
      else if byte = 0x20 then clamp xMin (xMax - 75) (x + speed)
      else x
  | .extended _ => x

def steered (speed x : Int) (bytes : List UInt8) : Int :=
  (scancodes bytes).foldl (Scancode.steer speed) x

theorem steered_snoc (speed x : Int) (bytes : List UInt8) (byte : UInt8) :
    steered speed x (bytes ++ [byte]) =
      (scancodesFrom (prefixedAfter false bytes) [byte]).foldl (Scancode.steer speed)
        (steered speed x bytes) := by
  rw [steered, scancodes, scancodesFrom_snoc, List.foldl_append]
  rfl

theorem marchAliens_steady (cfg : Config) (g : Game)
    (playing : (marchAliens cfg g).gameState = .playing) :
    (marchAliens cfg g).ship.x = g.ship.x := by
  have steady : (marchPass cfg g).2.gameState = .playing →
      (marchPass cfg g).2.ship.x = g.ship.x := by
    apply marchPass_rule cfg g (fun _ _ m => m.gameState = .playing → m.ship.x = g.ship.x)
    · intro done a rest m a' m' before visit
      cases visit with
      | skipped dead => exact before
      | missed heap _ alive place read next misses =>
          intro goes_on
          have same := (settleAlien_playing cfg _ _ goes_on).1
          rw [same] at goes_on ⊢
          exact before goes_on
      | killed heap ref moved alive place read next member hit =>
          intro goes_on
          have same := (settleAlien_playing cfg _ _ goes_on).1
          rw [same] at goes_on ⊢
          exact before goes_on
    · exact fun _ => rfl
  exact steady playing

theorem moveAliens_steady (cfg : Config) (g : Game)
    (playing : (moveAliens cfg g).gameState = .playing) :
    (moveAliens cfg g).ship.x = g.ship.x := by
  rcases moveAliens_cases cfg g with ⟨_, same⟩ | ⟨_, movImg, frameCounter, same⟩
  · rw [same]
  · rw [same] at playing ⊢
    exact marchAliens_steady cfg { g with frameCounter := g.frameCounter + 1 } playing

theorem tick_steady {cfg : Config} {g after : Game} (ends : TickEnd cfg g after)
    (playing : after.gameState = .playing) : after.ship.x = g.ship.x := by
  cases ends with
  | fired index idle alive => exact moveAliens_steady cfg (fireAlienBullet cfg index g) playing
  | lost active dead => cases playing
  | flown active left =>
      obtain ⟨lives, still, calls, same⟩ := moveAlienBullet_eq g
      rw [moveAliens_steady cfg (moveAlienBullet g) playing, same]

theorem timerPart_steady {cfg : Config} {inputs : Inputs} {w after : World}
    (playing : w.game.gameState = .playing) (ticked : timerPart cfg inputs w = some after)
    (goes_on : after.game.gameState = .playing) : after.game.ship.x = w.game.ship.x := by
  have move : TimerMove cfg (fun _ => True) w.game after.game :=
    (timerPart_moves inputs w after trivial ticked).1
  generalize after.game = g at move goes_on ⊢
  cases move with
  | count made menus still => exact absurd playing still.1
  | tick _ inputs under ends =>
      exact tick_steady (g := drawFrame cfg inputs (timerIntHandler w.game)) ends goes_on
  | nextRound cleared =>
      rw [playing] at cleared
      cases cleared

theorem mousePart_playing (cfg : Config) (inputs : Inputs) {w : World}
    (playing : w.game.gameState = .playing) :
    (mousePart cfg inputs w).world.game.gameState = .playing ∧
      (mousePart cfg inputs w).world.game.ship = w.game.ship := by
  unfold mousePart
  dsimp only
  split
  · exact ⟨playing, rfl⟩
  · split
    · split
      · exact ⟨playing, rfl⟩
      · exact ⟨playing, rfl⟩
    · split
      · exact ⟨playing, rfl⟩
      · split
        · have state : (decodePacket (readMouse inputs w).mouseGlobals.scancode
              (readMouse inputs w)).game.gameState = .playing := playing
          rw [Flow.world, handlePacket, state]
          dsimp only [playingPacket]
          split
          · exact ⟨state, rfl⟩
          · exact ⟨state, rfl⟩
        · exact ⟨playing, rfl⟩

def World.keyReads (w : World) : Message → List PortReads
  | .failedReceive | .notFromHardware => []
  | .hardware interrupts inputs =>
      if interrupts &&& kbdBit ≠ 0 ∧ ¬ (interrupts &&& mouseBit ≠ 0 ∧ MouseLeaves inputs w) then
        [inputs.keyboard]
      else []

def PortReads.CleanKey (reads : PortReads) : Prop :=
  ∃ stat byte, reads = ⟨some stat, some byte⟩ ∧ stat &&& (parityBit ||| timeoutBit) = 0 ∧
    byte ≠ escBreak

def World.typedBytes (w : World) (message : Message) : List UInt8 :=
  (w.keyReads message).filterMap PortReads.out

theorem updateShipPosition_plain {ship : Ship} (place : ShipPlace ship) (byte : UInt8) :
    (updateShipPosition ship (keyActivity byte)).x =
      Scancode.steer ship.speed ship.x (.plain byte) := by
  have bound : xMax - (ship.img.width : Int) = xMax - 75 := by rw [place.width]; rfl
  unfold keyActivity
  rw [Scancode.steer]
  by_cases left : byte = 0x1E
  · rw [if_pos left, if_pos left, updateShipPosition, bound]
  · rw [if_neg left, if_neg left]
    by_cases right : byte = 0x20
    · rw [if_neg (by rw [right]; decide), if_pos right, if_pos right, updateShipPosition, bound]
    · rw [if_neg right, if_neg right]
      split
      · rfl
      · split <;> rfl

theorem keyboardPart_plain {inputs : Inputs} {w : World} {stat byte : UInt8}
    (place : ShipPlace w.game.ship) (playing : w.game.gameState = .playing)
    (reads : inputs.keyboard = ⟨some stat, some byte⟩)
    (clean : stat &&& (parityBit ||| timeoutBit) = 0) (stays : byte ≠ escBreak) :
    (keyboardPart inputs w).world.game.gameState = .playing ∧
      (keyboardPart inputs w).world.game.ship.x =
        Scancode.steer w.game.ship.speed w.game.ship.x (.plain byte) := by
  have code : w.nextScancode inputs = byte := by
    rw [World.nextScancode, kbcIh, reads]
    exact if_neg (not_not.mpr clean)
  rw [keyboardPart_eq, code]
  by_cases two : twoBytes byte = true
  · have prefixed : byte = 0xE0 := by simpa [twoBytes] using two
    rw [if_pos two, prefixed]
    exact ⟨playing, rfl⟩
  · rw [if_neg two, if_neg stays, Flow.world, World.keyed, if_pos playing, code]
    exact ⟨playing, updateShipPosition_plain place byte⟩

theorem mouse_stays (cfg : Config) {interrupts : BitVec 64} {inputs : Inputs} {w : World}
    (playing : w.game.gameState = .playing)
    (stays : ¬ (interrupts &&& mouseBit ≠ 0 ∧ MouseLeaves inputs w)) :
    ∃ v, (Flow.next w).part interrupts mouseBit (mousePart cfg inputs) = .next v ∧
      v.game.gameState = .playing ∧ v.game.ship = w.game.ship := by
  have running : w.game.gameState ≠ .exit := by
    rw [playing]
    decide
  rw [Flow.part]
  split
  · rename_i bit
    obtain ⟨v, next, _⟩ := mousePart_next cfg inputs w running (fun leaves => stays ⟨bit, leaves⟩)
    have kept := mousePart_playing cfg inputs playing
    rw [next] at kept
    exact ⟨v, next, kept⟩
  · exact ⟨w, rfl, playing, rfl⟩

theorem inputParts_plain (cfg : Config) {interrupts : BitVec 64} {inputs : Inputs} {w : World}
    (place : ShipPlace w.game.ship) (playing : w.game.gameState = .playing)
    (clean : ∀ reads ∈ w.keyReads (.hardware interrupts inputs), reads.CleanKey) :
    (inputParts cfg interrupts inputs w).world.game.gameState = .playing ∧
      (inputParts cfg interrupts inputs w).world.game.ship.x =
        (w.typedBytes (.hardware interrupts inputs)).foldl
          (fun x byte => Scancode.steer w.game.ship.speed x (.plain byte)) w.game.ship.x := by
  unfold inputParts
  by_cases left : interrupts &&& mouseBit ≠ 0 ∧ MouseLeaves inputs w
  · obtain ⟨globals, leaves⟩ := mousePart_leaves cfg inputs w left.2
    have unread : w.typedBytes (.hardware interrupts inputs) = [] := by
      rw [World.typedBytes, World.keyReads, if_neg (fun handled => handled.2 left)]
      rfl
    rw [Flow.part, if_pos left.1, leaves, unread]
    exact ⟨playing, rfl⟩
  · obtain ⟨v, next, state, ship⟩ := mouse_stays cfg playing left
    rw [next, Flow.part]
    split
    · rename_i bit
      have handled : w.keyReads (.hardware interrupts inputs) = [inputs.keyboard] :=
        if_pos ⟨bit, left⟩
      obtain ⟨stat, byte, reads, fine, stays⟩ := clean inputs.keyboard (by simp [handled])
      have typed : w.typedBytes (.hardware interrupts inputs) = [byte] := by
        rw [World.typedBytes, handled, reads]
        rfl
      rw [typed, List.foldl_cons, List.foldl_nil, ← ship]
      rw [← ship] at place
      exact keyboardPart_plain place state reads fine stays
    · rename_i bit
      have unread : w.typedBytes (.hardware interrupts inputs) = [] := by
        rw [World.typedBytes, World.keyReads, if_neg (fun handled => bit handled.1)]
        rfl
      rw [unread]
      exact ⟨state, congrArg Ship.x ship⟩

theorem gameStep_plain {cfg : Config} {w after : World} {message : Message}
    (place : ShipPlace w.game.ship) (playing : w.game.gameState = .playing)
    (clean : ∀ reads ∈ w.keyReads message, reads.CleanKey)
    (stepped : gameStep cfg w message = some after) (goes_on : after.game.gameState = .playing) :
    after.game.ship.x = (w.typedBytes message).foldl
      (fun x byte => Scancode.steer w.game.ship.speed x (.plain byte)) w.game.ship.x := by
  cases message with
  | failedReceive =>
      rw [gameStep_quiet (.inl rfl) stepped]
      rfl
  | notFromHardware =>
      rw [gameStep_quiet (.inr rfl) stepped]
      rfl
  | hardware interrupts inputs =>
      have parts := inputParts_plain cfg (w := w.clear) place playing clean
      rcases gameStep_hardware stepped with flow | ⟨flow, _⟩ | ⟨v, flow, _, ticked⟩
      · rw [flow] at parts
        exact parts.2
      · rw [flow] at parts
        exact parts.2
      · rw [flow] at parts
        rw [timerPart_steady parts.1 ticked goes_on]
        exact parts.2

/-- A game under way, with the bytes typed since some point of it. -/
structure Typing where
  world : World
  bytes : List UInt8

def typingLoop (cfg : Config) : Machine Typing Message where
  init typing := (gameLoop cfg).Reachable typing.world ∧
    typing.world.game.gameState = .playing ∧ typing.bytes = []
  step typing message := (gameStep cfg typing.world message).map
    (fun after => ⟨after, typing.bytes ++ typing.world.typedBytes message⟩)

def CleanTyping (typing : Typing) (message : Message) : Prop :=
  typing.world.game.gameState = .playing ∧
    ∀ reads ∈ typing.world.keyReads message, reads.CleanKey

/-- A byte after `0xE0` is not one of the make codes of A and D, or the ship is at the border. -/
def NoExtendedMove (typing : Typing) (message : Message) : Prop :=
  prefixedAfter false typing.bytes = true → ∀ byte ∈ typing.world.typedBytes message,
    ¬ ((byte = 0x1E ∧ xMin < typing.world.game.ship.x) ∨
      (byte = 0x20 ∧ typing.world.game.ship.x < xMax - 75))

theorem typedBytes_cases (w : World) (message : Message) :
    w.typedBytes message = [] ∨ ∃ byte, w.typedBytes message = [byte] := by
  unfold World.typedBytes World.keyReads
  split
  · exact .inl rfl
  · exact .inl rfl
  · rename_i interrupts inputs
    split
    · cases out : inputs.keyboard.out with
      | none => exact .inl (by simp [out])
      | some byte => exact .inr ⟨byte, by simp [out]⟩
    · exact .inl rfl

theorem steer_alone (speed x : Int) (byte : UInt8) :
    (scancodesFrom false [byte]).foldl (Scancode.steer speed) x =
      Scancode.steer speed x (.plain byte) := by
  rw [scancodesFrom]
  split
  · rename_i two
    rw [two]
    rfl
  · rfl

theorem steer_still {ship : Ship} (place : ShipPlace ship) (byte : UInt8) :
    Scancode.steer ship.speed ship.x (.plain byte) = ship.x ↔
      ¬ ((byte = 0x1E ∧ xMin < ship.x) ∨ (byte = 0x20 ∧ ship.x < xMax - 75)) := by
  rw [← updateShipPosition_plain place]
  exact keyActivity_still place byte

/-- One message: the ship is where the scancodes typed so far take it exactly if the message is
no two-byte scancode that the dispatch takes for A or D. -/
theorem typing_step {cfg : Config} {typing after : Typing} {message : Message} {x : Int}
    (reached : (gameLoop cfg).Reachable typing.world) (clean : CleanTyping typing message)
    (stepped : (typingLoop cfg).step typing message = some after)
    (goes_on : after.world.game.gameState = .playing)
    (same : typing.world.game.ship.x = steered 15 x typing.bytes) :
    after.world.game.ship.x = steered 15 x after.bytes ↔ NoExtendedMove typing message := by
  obtain ⟨world, moved, rfl⟩ := Option.map_eq_some_iff.mp stepped
  have place := ship_reachable typing.world reached
  have moves := gameStep_plain place clean.1 clean.2 moved goes_on
  have still := steer_still place
  rw [place.speed] at moves still
  rw [NoExtendedMove, moves]
  rcases typedBytes_cases typing.world message with none | ⟨byte, one⟩
  · rw [none, List.append_nil]
    simp [same]
  · rw [one, steered_snoc, ← same]
    cases prefixedAfter false typing.bytes with
    | false =>
        rw [steer_alone]
        simp
    | true => simpa [scancodesFrom, Scancode.steer] using still byte

/-- As long as no byte after `0xE0` moves the ship, the ship is where the scancodes take it. The
first such byte takes it elsewhere. -/
theorem plain_keys_steer (cfg : Config) (first : Typing) (initial : (typingLoop cfg).init first) :
    (∀ last, (typingLoop cfg).Run (fun typing message =>
        CleanTyping typing message ∧ NoExtendedMove typing message) first last →
      last.world.game.gameState = .playing →
      last.world.game.ship.x =
        steered first.world.game.ship.speed first.world.game.ship.x last.bytes) ∧
    ∀ before message after, (typingLoop cfg).Run (fun typing message =>
        CleanTyping typing message ∧ NoExtendedMove typing message) first before →
      CleanTyping before message → ¬ NoExtendedMove before message →
      (typingLoop cfg).step before message = some after →
      after.world.game.gameState = .playing →
      after.world.game.ship.x ≠
        steered first.world.game.ship.speed first.world.game.ship.x after.bytes := by
  obtain ⟨reached, playing, none⟩ := initial
  rw [(ship_reachable first.world reached).speed]
  have steers : ∀ last, (typingLoop cfg).Run (fun typing message =>
      CleanTyping typing message ∧ NoExtendedMove typing message) first last →
      (gameLoop cfg).Reachable last.world ∧ (last.world.game.gameState = .playing →
        last.world.game.ship.x = steered 15 first.world.game.ship.x last.bytes) := by
    intro last run
    apply run.invariant (fun typing => (gameLoop cfg).Reachable typing.world ∧
      (typing.world.game.gameState = .playing →
        typing.world.game.ship.x = steered 15 first.world.game.ship.x typing.bytes))
    · refine ⟨reached, fun _ => ?_⟩
      rw [none]
      rfl
    · rintro before message after ⟨earlier, same⟩ ⟨clean, plain⟩ stepped
      constructor
      · obtain ⟨world, moved, rfl⟩ := Option.map_eq_some_iff.mp stepped
        exact earlier.step trivial moved
      · intro goes_on
        exact (typing_step earlier clean stepped goes_on (same clean.1)).mpr plain
  constructor
  · exact fun last run => (steers last run).2
  · intro before message after run clean extended stepped goes_on same
    obtain ⟨earlier, steered⟩ := steers before run
    exact extended ((typing_step earlier clean stepped goes_on (steered clean.1)).mp same)

instance (reads : PortReads) : Decidable reads.CleanKey :=
  decidable_of_iff (∃ stat ∈ reads.stat, ∃ byte ∈ reads.out,
      stat &&& (parityBit ||| timeoutBit) = 0 ∧ byte ≠ escBreak) (by
    constructor
    · rintro ⟨stat, status, byte, data, fine⟩
      refine ⟨stat, byte, ?_, fine⟩
      rw [← status, ← data]
    · rintro ⟨stat, byte, rfl, fine⟩
      exact ⟨stat, rfl, byte, rfl, fine⟩)

instance (typing : Typing) (message : Message) : Decidable (CleanTyping typing message) :=
  inferInstanceAs (Decidable (_ ∧ _))

instance (typing : Typing) (message : Message) : Decidable (NoExtendedMove typing message) :=
  inferInstanceAs (Decidable (_ → _))

/-- Left arrow, then A: only A moves the ship. -/
theorem plain_keys_steer_arrow : ∃ first last,
    (typingLoop sampleConfig).init first ∧
    (typingLoop sampleConfig).Run (fun typing message =>
      CleanTyping typing message ∧ NoExtendedMove typing message) first last ∧
    last.bytes = [0xE0, 0x4B, 0x1E] ∧ last.world.game.gameState = .playing ∧
    last.world.game.ship.x =
      steered first.world.game.ship.speed first.world.game.ship.x [0xE0, 0x4B, 0x1E] := by
  obtain ⟨w, reached, playing, typed⟩ := reachable_of_played clickStart
    (fun w => w.game.gameState = .playing ∧
      ((typingLoop sampleConfig).runList (fun typing message =>
          CleanTyping typing message ∧ NoExtendedMove typing message) ⟨w, []⟩
        [keyByte 0xE0, keyByte 0x4B, keyByte 0x1E]).any (fun last =>
          decide (last.bytes = [0xE0, 0x4B, 0x1E] ∧ last.world.game.gameState = .playing)) = true)
    (by decide +kernel)
  obtain ⟨last, played, ended⟩ := (Option.any_eq_true _ _).mp typed
  obtain ⟨bytes, goes_on⟩ := of_decide_eq_true ended
  have initial : (typingLoop sampleConfig).init ⟨w, []⟩ := ⟨reached, playing, rfl⟩
  have run := Machine.run_of_runList _ played
  have steers := (plain_keys_steer sampleConfig ⟨w, []⟩ initial).1 last run goes_on
  rw [bytes] at steers
  exact ⟨_, last, initial, run, bytes, goes_on, steers⟩

/-- The bytes of one two-byte scancode move the ship because the second one is the make code of A. -/
theorem extended_key_moves : ∃ first last,
    (typingLoop sampleConfig).init first ∧
    (typingLoop sampleConfig).Run CleanTyping first last ∧
    last.bytes = [0xE0, 0x1E] ∧ last.world.game.gameState = .playing ∧
    last.world.game.ship.x ≠
      steered first.world.game.ship.speed first.world.game.ship.x [0xE0, 0x1E] := by
  obtain ⟨w, reached, playing, typed⟩ := reachable_of_played clickStart
    (fun w => w.game.gameState = .playing ∧
      ((typingLoop sampleConfig).runList CleanTyping ⟨w, []⟩
        [keyByte 0xE0, keyByte 0x1E]).any (fun last =>
          decide (last.bytes = [0xE0, 0x1E] ∧ last.world.game.gameState = .playing ∧
            last.world.game.ship.x ≠
              steered w.game.ship.speed w.game.ship.x [0xE0, 0x1E])) = true)
    (by decide +kernel)
  obtain ⟨last, played, ended⟩ := (Option.any_eq_true _ _).mp typed
  exact ⟨⟨w, []⟩, last, ⟨reached, playing, rfl⟩, Machine.run_of_runList _ played,
    of_decide_eq_true ended⟩

end Lcom.Proj
