import Lcom.Lab4.Mouse
import Lcom.Proj.Assembler
import Lcom.Proj.Coalescing
import Lcom.Proj.Cursor
import Lcom.Proj.Play

/-! Streams of bytes from a PS/2 mouse. -/

namespace Lcom.Proj

open Lcom.Lib

structure MouseReport where
  lb : Bool
  rb : Bool
  mb : Bool
  xOv : Bool
  yOv : Bool
  deltaX : Int
  deltaY : Int
  xRange : -256 ≤ deltaX ∧ deltaX ≤ 255
  yRange : -256 ≤ deltaY ∧ deltaY ≤ 255

def headerByte (lb rb mb xNegative yNegative xOv yOv : Bool) : UInt8 :=
  0x08 ||| (if lb then 0x01 else 0) ||| (if rb then 0x02 else 0) ||| (if mb then 0x04 else 0) |||
    (if xNegative then 0x10 else 0) ||| (if yNegative then 0x20 else 0) |||
    (if xOv then 0x40 else 0) ||| (if yOv then 0x80 else 0)

theorem headerByte_table : ∀ lb rb mb xNegative yNegative xOv yOv : Bool,
    let first := headerByte lb rb mb xNegative yNegative xOv yOv
    (first &&& 0x08 ≠ 0 ∧ first.toBitVec.getLsbD 4 = xNegative ∧
      first.toBitVec.getLsbD 5 = yNegative) ∧
    (first &&& mouseLeft != 0) = lb ∧ (first &&& mouseRight != 0) = rb ∧
    (first &&& mouseMiddle != 0) = mb ∧ ((first &&& xOvfl) >>> 6 != 0) = xOv ∧
    ((first &&& yOvfl) >>> 7 != 0) = yOv := by
  decide +kernel

namespace MouseReport

/-- The displacements as two's complement numbers of nine bits: the sign is in the first byte. -/
def encode (report : MouseReport) : MouseBytes :=
  { first := headerByte report.lb report.rb report.mb (decide (report.deltaX < 0))
      (decide (report.deltaY < 0)) report.xOv report.yOv
    second := UInt8.ofBitVec (BitVec.ofInt 8 report.deltaX)
    third := UInt8.ofBitVec (BitVec.ofInt 8 report.deltaY) }

def wire (report : MouseReport) : List UInt8 :=
  [report.encode.first, report.encode.second, report.encode.third]

def DecodedAs (report : MouseReport) (pp : Packet) : Prop :=
  pp.lb = report.lb ∧ pp.rb = report.rb ∧ pp.mb = report.mb ∧ pp.xOv = report.xOv ∧
    pp.yOv = report.yOv ∧ pp.deltaX = report.deltaX ∧ pp.deltaY = report.deltaY

end MouseReport

theorem nineBit_ofInt (first : UInt8) (sign : Nat) (delta : Int)
    (range : -256 ≤ delta ∧ delta ≤ 255)
    (set : first.toBitVec.getLsbD sign = decide (delta < 0)) :
    nineBit first sign (UInt8.ofBitVec (BitVec.ofInt 8 delta)) = delta := by
  have low : ((BitVec.ofInt 8 delta).toNat : Int) = delta % 256 := by
    rw [BitVec.toNat_ofInt]
    omega
  rw [nineBit, (nineBit_table _ _).2, set]
  change ((BitVec.ofInt 8 delta).toNat : Int) - _ = delta
  rw [low]
  by_cases negative : delta < 0
  · rw [decide_eq_true negative, if_pos rfl]
    omega
  · rw [decide_eq_false negative, if_neg Bool.false_ne_true]
    omega

theorem getMousePacket_encode (report : MouseReport) :
    report.DecodedAs (getMousePacket report.encode) := by
  have header := headerByte_table report.lb report.rb report.mb (decide (report.deltaX < 0))
    (decide (report.deltaY < 0)) report.xOv report.yOv
  dsimp only at header
  obtain ⟨⟨_, xSet, ySet⟩, lb, rb, mb, xOv, yOv⟩ := header
  refine ⟨lb, rb, mb, xOv, yOv, ?_, ?_⟩
  · rw [deltaX_eq]
    exact nineBit_ofInt _ 4 report.deltaX report.xRange xSet
  · rw [deltaY_eq]
    exact nineBit_ofInt _ 5 report.deltaY report.yRange ySet

def Assembler.feed : Assembler → List (Option UInt8) → Assembler × List MouseBytes
  | asm, [] => (asm, [])
  | asm, byte :: rest =>
      (((asm.take byte).1.feed rest).1, (asm.take byte).2 ++ ((asm.take byte).1.feed rest).2)

theorem feed_append (asm : Assembler) (front back : List (Option UInt8)) :
    asm.feed (front ++ back) =
      (((asm.feed front).1.feed back).1, (asm.feed front).2 ++ ((asm.feed front).1.feed back).2) := by
  induction front generalizing asm with
  | nil => rfl
  | cons byte rest ih =>
      simp only [List.cons_append, Assembler.feed]
      rw [ih]
      simp only [List.append_assoc]

/-- Bytes with bit 3 clear are skipped between two packets. -/
theorem feed_noise (asm : Assembler) (synced : asm.currentByte = 1) (noise : List UInt8)
    (clear : ∀ byte ∈ noise, byte &&& 0x08 = 0) : asm.feed (noise.map some) = (asm, []) := by
  induction noise with
  | nil => rfl
  | cons byte rest ih =>
      have skipped : asm.take (some byte) = (asm, []) := by
        rw [Assembler.take, if_pos synced, if_pos (clear byte (List.mem_cons_self ..))]
      rw [List.map_cons, Assembler.feed, skipped,
        ih (fun next member => clear next (List.mem_cons_of_mem _ member))]
      rfl

theorem feed_report (asm : Assembler) (synced : asm.currentByte = 1) (report : MouseReport) :
    asm.feed (report.wire.map some) = (⟨1, report.encode⟩, [report.encode]) := by
  have sync : ¬ report.encode.first &&& 0x08 = 0 := (headerByte_table _ _ _ _ _ _ _).1.1
  simp [MouseReport.wire, Assembler.feed, Assembler.take, synced, sync]

theorem feed_reports (asm : Assembler) (synced : asm.currentByte = 1) (reports : List MouseReport) :
    (asm.feed ((reports.flatMap MouseReport.wire).map some)).1.currentByte = 1 ∧
      (asm.feed ((reports.flatMap MouseReport.wire).map some)).2 =
        reports.map MouseReport.encode := by
  induction reports generalizing asm with
  | nil => exact ⟨synced, rfl⟩
  | cons report rest ih =>
      have later := ih ⟨1, report.encode⟩ rfl
      rw [List.flatMap_cons, List.map_append, feed_append, feed_report asm synced report]
      refine ⟨later.1, ?_⟩
      change [report.encode] ++ _ = report.encode :: _
      rw [later.2]
      rfl

/-- Both reads of the interrupt succeed, the status shows a byte without an error, and the byte
is `byte`. -/
def Delivers (inputs : Inputs) (byte : UInt8) : Prop :=
  ∃ stat, inputs.mouse = ⟨some stat, some byte⟩ ∧ stat &&& (parityBit ||| timeoutBit) = 0 ∧
    stat &&& obfBit ≠ 0

theorem received_of_delivers {inputs : Inputs} {byte : UInt8} (delivered : Delivers inputs byte)
    (w : World) (fine : w.mouseGlobals.ihError = false) : w.received inputs = some byte := by
  obtain ⟨stat, reads, clean, full⟩ := delivered
  exact received_fine fine reads clean full

/-- The mouse part for one interrupt after the other, whatever the packets do to `gameState`. -/
def feedMouse (cfg : Config) (w : World) (interrupts : List Inputs) : World :=
  interrupts.foldl (fun w inputs => (mousePart cfg inputs w).world) w

theorem feedMouse_feeds (cfg : Config) (interrupts : List Inputs) (bytes : List UInt8)
    (delivered : List.Forall₂ Delivers interrupts bytes) (w : World)
    (fine : w.mouseGlobals.ihError = false) :
    (feedMouse cfg w interrupts).assembler = (w.assembler.feed (bytes.map some)).1 ∧
      (feedMouse cfg w interrupts).game.packets =
        w.game.packets ++ (w.assembler.feed (bytes.map some)).2 := by
  induction delivered generalizing w with
  | nil => exact ⟨rfl, (List.append_nil _).symm⟩
  | @cons inputs byte _ _ head _ ih =>
      have taken := mousePart_takes cfg inputs w
      rw [received_of_delivers head w fine] at taken
      have rest := ih (mousePart cfg inputs w).world taken.2.2
      rw [taken.1, taken.2.1, List.append_assoc] at rest
      exact rest

/-- The packets that come out are those that were encoded, in their order, for the decoder of the
project and for that of `lab4`. -/
theorem mouse_stream_round_trip (cfg : Config) (w : World) (noise : List UInt8)
    (reports : List MouseReport) (interrupts : List Inputs) (synced : w.currentByte = 1)
    (fine : w.mouseGlobals.ihError = false) (clear : ∀ byte ∈ noise, byte &&& 0x08 = 0)
    (delivered : List.Forall₂ Delivers interrupts
      (noise ++ reports.flatMap MouseReport.wire)) :
    (feedMouse cfg w interrupts).currentByte = 1 ∧
      ∃ packets, (feedMouse cfg w interrupts).game.packets = w.game.packets ++ packets ∧
        List.Forall₂ (fun bytes report => report.DecodedAs (getMousePacket bytes) ∧
          report.DecodedAs (Lab4.mouseGetPacket bytes)) packets reports := by
  have fed := feedMouse_feeds cfg interrupts _ delivered w fine
  rw [List.map_append, feed_append, feed_noise w.assembler synced noise clear] at fed
  have assembled := feed_reports w.assembler synced reports
  refine ⟨(congrArg Assembler.currentByte fed.1).trans assembled.1, reports.map MouseReport.encode,
    ?_, ?_⟩
  · rw [fed.2, ← assembled.2]
    rfl
  · rw [List.forall₂_map_left_iff]
    apply List.forall₂_same.mpr
    intro report _
    rw [Lab4.mouseGetPacket_eq]
    exact ⟨getMousePacket_encode report, getMousePacket_encode report⟩

def delivering (byte : UInt8) : Inputs := { noInputs with mouse := ⟨some 0x21, some byte⟩ }

theorem delivering_delivers (bytes : List UInt8) :
    List.Forall₂ Delivers (bytes.map delivering) bytes := by
  rw [List.forall₂_map_left_iff]
  apply List.forall₂_same.mpr
  intro byte _
  exact ⟨0x21, rfl, by decide, by decide⟩

def dragReport : MouseReport :=
  ⟨true, false, false, false, false, -3, 200, by decide, by decide⟩

theorem mouse_stream_round_trip_drag :
    (feedMouse sampleConfig (start sampleConfig sampleMemory)
      (([0x00, 0x81] ++ [dragReport].flatMap MouseReport.wire).map delivering)).currentByte = 1 ∧
    ∃ packets, (feedMouse sampleConfig (start sampleConfig sampleMemory)
      (([0x00, 0x81] ++ [dragReport].flatMap MouseReport.wire).map delivering)).game.packets =
        (start sampleConfig sampleMemory).game.packets ++ packets ∧
      List.Forall₂ (fun bytes report => report.DecodedAs (getMousePacket bytes) ∧
        report.DecodedAs (Lab4.mouseGetPacket bytes)) packets [dragReport] :=
  mouse_stream_round_trip sampleConfig (start sampleConfig sampleMemory) [0x00, 0x81] [dragReport] _
    rfl rfl (by decide +kernel) (delivering_delivers _)

/-- A byte that the mouse has sent, and whether `mouse_ih` read it without an error. -/
structure Sent where
  byte : UInt8
  heard : Bool
  deriving DecidableEq, Repr

def PortReads.clean (reads : PortReads) : Bool :=
  match reads.stat with
  | none => false
  | some stat => decide (stat &&& (parityBit ||| timeoutBit) = 0 ∧ stat &&& obfBit ≠ 0)

def Message.sent : Message → List Sent
  | .failedReceive | .notFromHardware => []
  | .hardware interrupts inputs =>
      if interrupts &&& mouseBit ≠ 0 then
        inputs.mouse.out.toList.map (fun byte => ⟨byte, inputs.mouse.clean⟩)
      else []

def Message.Readable : Message → Prop
  | .failedReceive | .notFromHardware => True
  | .hardware interrupts inputs => interrupts &&& mouseBit ≠ 0 → inputs.mouse.out ≠ none

instance : (message : Message) → Decidable message.Readable
  | .failedReceive | .notFromHardware => inferInstanceAs (Decidable True)
  | .hardware _ _ => inferInstanceAs (Decidable (_ → _))

/-- The world with all bytes that the mouse has sent, the last one first. -/
structure Wire where
  world : World
  sent : List Sent

def wireLoop (cfg : Config) : Machine Wire Message where
  init wire := (gameLoop cfg).init wire.world ∧ wire.sent = []
  step wire message :=
    (gameStep cfg wire.world message).map (fun after => ⟨after, message.sent ++ wire.sent⟩)

/-- The packet consists of the last three bytes sent, and all of them were heard. -/
def Framed (bytes : MouseBytes) : List Sent → Prop
  | third :: second :: first :: _ =>
      (first.heard = true ∧ second.heard = true ∧ third.heard = true) ∧
        bytes = ⟨first.byte, second.byte, third.byte⟩
  | _ => False

instance (bytes : MouseBytes) (sent : List Sent) : Decidable (Framed bytes sent) := by
  unfold Framed
  split <;> infer_instance

def DropsBetween (wire : Wire) (message : Message) : Prop :=
  (∃ sent ∈ message.sent, sent.heard = false) → wire.world.currentByte = 1

instance (wire : Wire) (message : Message) : Decidable (DropsBetween wire message) :=
  inferInstanceAs (Decidable (_ → _))

/-- The bytes of the packet under way are the last ones sent, and they were heard. -/
structure Underway (asm : Assembler) (sent : List Sent) : Prop where
  phase : asm.currentByte = 1 ∨ asm.currentByte = 2 ∨ asm.currentByte = 3
  one : asm.currentByte = 2 → ∃ earlier, sent = ⟨asm.mouseBytes.first, true⟩ :: earlier
  two : asm.currentByte = 3 → ∃ earlier,
    sent = ⟨asm.mouseBytes.second, true⟩ :: ⟨asm.mouseBytes.first, true⟩ :: earlier

theorem Underway.between {asm : Assembler} (synced : asm.currentByte = 1) (sent : List Sent) :
    Underway asm sent :=
  ⟨.inl synced, fun second => absurd (synced.symm.trans second) (by decide),
    fun third => absurd (synced.symm.trans third) (by decide)⟩

theorem Underway.hears {asm : Assembler} {sent : List Sent} (underway : Underway asm sent)
    (byte : UInt8) :
    Underway (asm.take (some byte)).1 (⟨byte, true⟩ :: sent) ∧
      ∀ bytes ∈ (asm.take (some byte)).2, Framed bytes (⟨byte, true⟩ :: sent) := by
  rcases underway.phase with first | second | third
  · by_cases sync : byte &&& 0x08 = 0
    · have taken : asm.take (some byte) = (asm, []) := by
        rw [Assembler.take, if_pos first, if_pos sync]
      rw [taken]
      exact ⟨.between first _, by simp⟩
    · have taken : asm.take (some byte) = (⟨2, { asm.mouseBytes with first := byte }⟩, []) := by
        rw [Assembler.take, if_pos first, if_neg sync]
      rw [taken]
      exact ⟨⟨.inr (.inl rfl), fun _ => ⟨sent, rfl⟩, by simp⟩, by simp⟩
  · obtain ⟨earlier, rfl⟩ := underway.one second
    rw [take_second second]
    exact ⟨⟨.inr (.inr rfl), by simp, fun _ => ⟨earlier, rfl⟩⟩, by simp⟩
  · obtain ⟨earlier, rfl⟩ := underway.two third
    rw [take_third third]
    refine ⟨.between rfl _, ?_⟩
    intro bytes member
    rw [List.mem_singleton.mp member]
    exact ⟨⟨rfl, rfl, rfl⟩, rfl⟩

theorem sent_cases {w : World} {message : Message} (fine : w.mouseGlobals.ihError = false)
    (readable : message.Readable) :
    (message.sent = [] ∧ w.taken message = none) ∨
      (∃ byte, message.sent = [⟨byte, true⟩] ∧ w.taken message = some byte) ∨
      ∃ byte, message.sent = [⟨byte, false⟩] ∧ w.taken message = none := by
  cases message with
  | failedReceive => exact .inl ⟨rfl, rfl⟩
  | notFromHardware => exact .inl ⟨rfl, rfl⟩
  | hardware interrupts inputs =>
      by_cases bit : interrupts &&& mouseBit ≠ 0
      · right
        obtain ⟨byte, read⟩ := Option.ne_none_iff_exists'.mp (readable bit)
        have sent : Message.sent (.hardware interrupts inputs) = [⟨byte, inputs.mouse.clean⟩] := by
          rw [Message.sent, if_pos bit, read]
          rfl
        have taken : w.taken (.hardware interrupts inputs) = w.received inputs := if_pos bit
        cases clean : inputs.mouse.clean with
        | true =>
            left
            refine ⟨byte, by rw [sent, clean], taken.trans ?_⟩
            cases stat : inputs.mouse.stat with
            | none => simp [PortReads.clean, stat] at clean
            | some status =>
                have fault : status &&& (parityBit ||| timeoutBit) = 0 ∧ status &&& obfBit ≠ 0 := by
                  simpa [PortReads.clean, stat] using clean
                exact received_of_delivers ⟨status, by rw [← stat, ← read], fault⟩ w fine
        | false =>
            right
            refine ⟨byte, by rw [sent, clean], taken.trans (if_pos ?_)⟩
            cases stat : inputs.mouse.stat with
            | none => simp [mouseIh, stat]
            | some status =>
                have fault : ¬ (status &&& (parityBit ||| timeoutBit) = 0 ∧
                    status &&& obfBit ≠ 0) := by
                  simpa [PortReads.clean, stat] using clean
                rw [mouseIh, stat]
                simp only [if_pos fault]
      · left
        exact ⟨if_neg bit, if_neg bit⟩

/-- What holds of the assembly between two messages if bytes are dropped between packets only. -/
structure WireInv (wire : Wire) : Prop where
  fine : wire.world.mouseGlobals.ihError = false
  underway : Underway wire.world.assembler wire.sent
  framed : ∀ bytes ∈ wire.world.game.packets, Framed bytes wire.sent

theorem wireLoop_step {cfg : Config} {wire after : Wire} {message : Message} (inv : WireInv wire)
    (readable : message.Readable) (between : DropsBetween wire message)
    (stepped : (wireLoop cfg).step wire message = some after) : WireInv after := by
  obtain ⟨world, moved, rfl⟩ := Option.map_eq_some_iff.mp stepped
  obtain ⟨assembler, packets, fine⟩ := gameStep_takes inv.fine moved
  refine ⟨fine, ?_, ?_⟩
  all_goals
    dsimp only
    rcases sent_cases inv.fine readable with ⟨sent, taken⟩ | ⟨byte, sent, taken⟩ |
      ⟨byte, sent, taken⟩
  · rw [assembler, sent, taken]
    exact inv.underway
  · rw [assembler, sent, taken]
    exact (inv.underway.hears byte).1
  · rw [assembler, sent, taken]
    exact .between (between ⟨⟨byte, false⟩, by rw [sent]; exact List.mem_singleton_self _, rfl⟩) _
  · rw [packets, taken]
    simp [Assembler.take]
  · rw [packets, sent, taken]
    exact (inv.underway.hears byte).2
  · rw [packets, taken]
    simp [Assembler.take]

theorem wireLoop_world {cfg : Config} {allowed : Wire → Message → Prop} {wire : Wire}
    (reached : (wireLoop cfg).ReachableVia allowed wire) : (gameLoop cfg).Reachable wire.world := by
  apply reached.invariant (fun wire => (gameLoop cfg).Reachable wire.world)
  · exact fun start initial => ⟨start.world, initial.1, .refl⟩
  · intro before message after holds _ stepped
    obtain ⟨world, moved, rfl⟩ := Option.map_eq_some_iff.mp stepped
    exact holds.step trivial moved

theorem wireLoop_byte (cfg : Config) (wire : Wire) (byte : UInt8)
    (fine : wire.world.mouseGlobals.ihError = false)
    (running : wire.world.game.gameState ≠ .exit) :
    ∃ after, (wireLoop cfg).step wire (mouseByte byte) = some after ∧
      after.sent = ⟨byte, true⟩ :: wire.sent ∧
      after.world.assembler = (wire.world.assembler.take (some byte)).1 ∧
      after.world.game.packets = (wire.world.assembler.take (some byte)).2 ∧
      after.world.mouseGlobals.ihError = false ∧
      (wire.world.currentByte = 2 → after.world.game.gameState ≠ .exit) := by
  have stepped := gameStep_mouse cfg (delivering byte) wire.world running
  have heard : wire.world.clear.received (delivering byte) = some byte :=
    received_of_delivers ⟨0x21, rfl, by decide, by decide⟩ _ fine
  have takes := gameStep_takes fine stepped
  have taken : wire.world.taken (.hardware mouseBit (delivering byte)) = some byte := heard
  rw [taken] at takes
  refine ⟨⟨_, ⟨byte, true⟩ :: wire.sent⟩, ?_, rfl, takes.1, takes.2.1, takes.2.2, ?_⟩
  · change (gameStep cfg wire.world (.hardware mouseBit (delivering byte))).map _ = _
    rw [stepped]
    rfl
  · intro second
    have stays : ¬ MouseLeaves (delivering byte) wire.world.clear := by
      rintro (error | ⟨first, _⟩)
      · rw [World.received, if_pos error] at heard
        cases heard
      · exact absurd (second.symm.trans first) (by decide)
    obtain ⟨v, next, exits, _⟩ := mousePart_next cfg (delivering byte) wire.world.clear running stays
    rw [next]
    intro exited
    exact absurd (second.symm.trans (exits.mp exited).1) (by decide)

theorem sent_unheard {w : World} {message : Message} {lost : Sent}
    (fine : w.mouseGlobals.ihError = false) (readable : message.Readable)
    (inside : lost ∈ message.sent) (unheard : lost.heard = false) :
    ∃ byte, message.sent = [⟨byte, false⟩] ∧ w.taken message = none := by
  rcases sent_cases fine readable with ⟨sent, _⟩ | ⟨byte, sent, _⟩ | dropped
  · rw [sent] at inside
    cases inside
  · rw [sent, List.mem_singleton] at inside
    rw [inside] at unheard
    cases unheard
  · exact dropped

/-- Once a byte has been dropped in the middle of a packet, the next bytes complete a packet
that is not framed. -/
theorem dropped_mixes {cfg : Config} {wire after : Wire} {message : Message}
    (reached : (wireLoop cfg).ReachableVia (fun _ message => message.Readable) wire)
    (readable : message.Readable) (broken : ¬ DropsBetween wire message)
    (stepped : (wireLoop cfg).step wire message = some after)
    (running : after.world.game.gameState ≠ .exit) :
    ∃ final, (wireLoop cfg).Run (fun _ message => message.Readable) after final ∧
      ∃ bytes ∈ final.world.game.packets, ¬ Framed bytes final.sent := by
  obtain ⟨fine, phase⟩ := assembly_reachable (wireLoop_world reached)
  obtain ⟨⟨lost, inside, unheard⟩, middle⟩ := Classical.not_imp.mp broken
  obtain ⟨world, moved, rfl⟩ := Option.map_eq_some_iff.mp stepped
  obtain ⟨byte, sent, dropped⟩ := sent_unheard fine readable inside unheard
  obtain ⟨kept, _, still⟩ := gameStep_takes fine moved
  rw [dropped] at kept
  rw [sent] at running ⊢
  have message_readable : ∀ byte, (mouseByte byte).Readable := fun _ _ absent => by cases absent
  rcases phase with first | second | third
  · exact absurd first middle
  · have at_second : world.assembler.currentByte = 2 :=
      (congrArg Assembler.currentByte kept).trans second
    obtain ⟨next, step, nextSent, assembler, _, nextFine, goes⟩ :=
      wireLoop_byte cfg ⟨world, [⟨byte, false⟩] ++ wire.sent⟩ 0x00 still running
    obtain ⟨final, lastStep, finalSent, _, packets, _⟩ :=
      wireLoop_byte cfg next 0x00 nextFine (goes at_second)
    rw [take_second at_second] at assembler
    rw [assembler, take_third rfl] at packets
    refine ⟨final, .tail (.single ⟨_, message_readable 0x00, step⟩)
      ⟨_, message_readable 0x00, lastStep⟩, _, by rw [packets]; exact List.mem_singleton_self _, ?_⟩
    rw [finalSent, nextSent]
    rintro ⟨⟨lost, _⟩, _⟩
    cases lost
  · have at_third : world.assembler.currentByte = 3 :=
      (congrArg Assembler.currentByte kept).trans third
    obtain ⟨final, step, finalSent, _, packets, _⟩ :=
      wireLoop_byte cfg ⟨world, [⟨byte, false⟩] ++ wire.sent⟩ 0x00 still running
    rw [take_third at_third] at packets
    refine ⟨final, .single ⟨_, message_readable 0x00, step⟩, _,
      by rw [packets]; exact List.mem_singleton_self _, ?_⟩
    rw [finalSent]
    cases wire.sent with
    | nil => exact id
    | cons earlier rest =>
        rintro ⟨⟨_, lost, _⟩, _⟩
        cases lost

/-- As long as bytes are dropped between two packets only, every packet that is decoded consists
of the last three bytes sent. A byte dropped in the middle of a packet mixes the next one. -/
theorem packets_framed (cfg : Config) :
    (∀ wire, (wireLoop cfg).ReachableVia (fun wire message =>
        message.Readable ∧ DropsBetween wire message) wire →
      ∀ bytes ∈ wire.world.game.packets, Framed bytes wire.sent) ∧
    ∀ wire message after,
      (wireLoop cfg).ReachableVia (fun _ message => message.Readable) wire →
      message.Readable → ¬ DropsBetween wire message →
      (wireLoop cfg).step wire message = some after → after.world.game.gameState ≠ .exit →
      ∃ final, (wireLoop cfg).Run (fun _ message => message.Readable) after final ∧
        ∃ bytes ∈ final.world.game.packets, ¬ Framed bytes final.sent := by
  constructor
  · intro wire reached
    have inv : WireInv wire := by
      apply reached.invariant WireInv
      · rintro start ⟨⟨memory, world⟩, sent⟩
        refine ⟨?_, ?_, ?_⟩
        · rw [world]
          rfl
        · apply Underway.between
          rw [world]
          rfl
        · rw [world]
          intro bytes member
          cases member
      · intro before message after holds permitted stepped
        exact wireLoop_step holds permitted.1 permitted.2 stepped
    exact inv.framed
  · intro wire message after reached readable broken stepped running
    exact dropped_mixes reached readable broken stepped running

def brokenByte (byte : UInt8) : Message :=
  .hardware mouseBit { noInputs with mouse := ⟨some 0xA1, some byte⟩ }

/-- The first byte of a packet is lost: the next packet is still decoded. -/
theorem packets_framed_later_packet : ∃ wire,
    (wireLoop sampleConfig).ReachableVia (fun wire message =>
      message.Readable ∧ DropsBetween wire message) wire ∧
    wire.world.game.packets = [⟨0x08, 1, 2⟩] ∧ Framed ⟨0x08, 1, 2⟩ wire.sent := by
  have evaluated : ((wireLoop sampleConfig).runList (fun wire message =>
      message.Readable ∧ DropsBetween wire message) ⟨start sampleConfig sampleMemory, []⟩
      ([brokenByte 0x08, mouseByte 0x05, mouseByte 0x03] ++ packetBytes 0x08 1 2)).any (fun wire =>
        decide (wire.world.game.packets = [⟨0x08, 1, 2⟩])) = true := by decide +kernel
  obtain ⟨wire, played, packets⟩ := (Option.any_eq_true _ _).mp evaluated
  have reached : (wireLoop sampleConfig).ReachableVia (fun wire message =>
      message.Readable ∧ DropsBetween wire message) wire :=
    ⟨_, ⟨⟨sampleMemory, rfl⟩, rfl⟩, Machine.run_of_runList _ played⟩
  have same := of_decide_eq_true packets
  refine ⟨wire, reached, same, (packets_framed sampleConfig).1 wire reached _ ?_⟩
  rw [same]
  exact List.mem_singleton_self _

/-- The second byte of a packet is lost: its third byte and the first one of the next packet
take part in one packet. -/
theorem mixed_after_drop : ∃ wire,
    (wireLoop sampleConfig).ReachableVia (fun _ message => message.Readable) wire ∧
    wire.sent.reverse = [⟨0x08, true⟩, ⟨0x01, false⟩, ⟨0x02, true⟩, ⟨0x09, true⟩] ∧
    ∃ bytes ∈ wire.world.game.packets, ¬ Framed bytes wire.sent := by
  have evaluated : ((wireLoop sampleConfig).runList (fun _ message => message.Readable)
      ⟨start sampleConfig sampleMemory, []⟩
      [mouseByte 0x08, brokenByte 0x01, mouseByte 0x02, mouseByte 0x09]).any (fun wire =>
        decide (wire.sent.reverse =
          [⟨0x08, true⟩, ⟨0x01, false⟩, ⟨0x02, true⟩, ⟨0x09, true⟩]) &&
        decide (wire.world.game.packets = [⟨0x08, 0x02, 0x09⟩]) &&
        decide (¬ Framed ⟨0x08, 0x02, 0x09⟩ wire.sent)) = true := by decide +kernel
  obtain ⟨wire, played, checked⟩ := (Option.any_eq_true _ _).mp evaluated
  simp only [Bool.and_eq_true, decide_eq_true_eq] at checked
  obtain ⟨⟨sent, packets⟩, mixed⟩ := checked
  refine ⟨wire, ⟨_, ⟨⟨sampleMemory, rfl⟩, rfl⟩, Machine.run_of_runList _ played⟩, sent, _, ?_, mixed⟩
  rw [packets]
  exact List.mem_singleton_self _

end Lcom.Proj
