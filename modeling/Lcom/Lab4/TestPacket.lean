import Lcom.Lab4.Mouse
import Lcom.Minix.Receive

/-! `mouse_test_packet` of `lab4/lab4.c`. -/

namespace Lcom.Lab4

open Lcom.Lib Lcom.Minix Lcom.Proj

def mouseHookid : Nat := 1

/-- `mouse_ih`. After a failed read of the status it goes on with the last one. -/
def mouseIh (reads : PortReads) (globals : MouseGlobals) : MouseGlobals :=
  let globals := match reads.stat with
    | none => { globals with ihError := true }
    | some stat => { globals with statuscode := stat }
  if ¬ (globals.statuscode &&& (parityBit ||| timeoutBit) = 0 ∧
      globals.statuscode &&& obfBit ≠ 0) then
    { globals with scancode := 0, ihError := true }
  else { globals with scancode := reads.out.getD globals.scancode }

/-- The locals of the test, and the calls of `mouse_print_packet`. -/
structure Assembly where
  currenByte : Nat
  bytes : MouseBytes
  cnt : UInt32
  printed : List Packet
  deriving DecidableEq, Repr

def Assembly.take (a : Assembly) (scancode : UInt8) : Assembly :=
  if a.currenByte = 1 then
    if scancode &&& 0x08 = 0 then a
    else { a with bytes := { a.bytes with first := scancode }, currenByte := 2 }
  else if a.currenByte = 2 then
    { a with bytes := { a.bytes with second := scancode }, currenByte := 3 }
  else if a.currenByte = 3 then
    let bytes := { a.bytes with third := scancode }
    { currenByte := 1
      bytes := bytes
      cnt := a.cnt - 1
      printed := a.printed ++ [mouseGetPacket bytes] }
  else a

structure PacketTest where
  globals : MouseGlobals
  locals : Assembly
  deriving DecidableEq, Repr

def PacketTest.start (cnt : UInt32) (globals : MouseGlobals) (bytes : MouseBytes) : PacketTest :=
  ⟨globals, 1, bytes, cnt, []⟩

def packetPart (s : PacketTest) (interrupts : BitVec 64) (reads : PortReads) : PacketTest :=
  if interrupts &&& bit mouseHookid ≠ 0 then
    let globals := mouseIh reads s.globals
    if globals.ihError then { s with globals := globals }
    else ⟨globals, s.locals.take globals.scancode⟩
  else s

def packetLoop : EventLoop PacketTest (Receipt PortReads) where
  running s := decide (0 < s.locals.cnt)
  body s receipt := receipt.dispatch s (packetPart s)

/-- The function, for what its array and the two `ack` of `send_mouse_command` hold before they are
assigned. -/
def mouseTestPacket (cnt : UInt32) (globals : MouseGlobals) (bytes : MouseBytes)
    (enableAck disableAck : UInt8) : Program (Receipt PortReads) (Nat × PacketTest) := do
  let (code, statuscode) ← sendMouseCommand enableMouse ⟨enableAck, globals.statuscode⟩
  let s := PacketTest.start cnt { globals with statuscode := statuscode } bytes
  if code ≠ 0 then return (1, s)
  else if (← mouseSubscribeInt) ≠ 0 then return (1, s)
  else
    let s ← packetLoop.program (call .driverReceive) s
    if (← mouseUnsubscribeInt) ≠ 0 then return (1, s)
    else
      let (code, statuscode) ← sendMouseCommand disableMouse ⟨disableAck, s.globals.statuscode⟩
      return (if code ≠ 0 then 1 else 0,
        { s with globals := { s.globals with statuscode := statuscode } })

/-- If the commands and the policy succeed, the function ends in the state in which its loop is
left. -/
theorem mouseTestPacket_leaves {cnt : UInt32} {globals : MouseGlobals} {bytes : MouseBytes}
    {enableAck disableAck statuscode : UInt8} {final : PacketTest}
    {begun : List (Event (Reply (Receipt PortReads)))}
    {before answers after : List (Answer (Reply (Receipt PortReads)))}
    {installs removes : Answer (Reply (Receipt PortReads))}
    {ended : Ended (Reply (Receipt PortReads)) (Nat × UInt8)}
    (enabled : sendMouseCommand enableMouse ⟨enableAck, globals.statuscode⟩ before =
      some ⟨(0, statuscode), begun, installs :: (answers ++ removes :: after)⟩)
    (installed : installs (.sysIrqsetpolicy mouseIrq true .mouse) = true)
    (leaves : packetLoop.Leaves (.start cnt { globals with statuscode := statuscode } bytes)
      (answers.map (fun answer => answer .driverReceive)) final)
    (removed : removes (.sysIrqrmpolicy .mouse) = true)
    (disabled : sendMouseCommand disableMouse ⟨disableAck, final.globals.statuscode⟩ after =
      some ended) :
    mouseTestPacket cnt globals bytes enableAck disableAck before =
      some ⟨(if ended.value.1 ≠ 0 then 1 else 0,
          { final with globals := { final.globals with statuscode := ended.value.2 } }),
        begun ++ (⟨.sysIrqsetpolicy mouseIrq true .mouse, true⟩ ::
          (answers.map (fun answer => ⟨.driverReceive, answer .driverReceive⟩) ++
            ⟨.sysIrqrmpolicy .mouse, true⟩ :: ended.trace)), ended.rest⟩ := by
  have subscribed : mouseSubscribeInt (installs :: (answers ++ removes :: after)) = _ :=
    subscribeInt_cons installed _
  have ran : packetLoop.program (call .driverReceive) _ (answers ++ removes :: after) =
      some ⟨final, _, removes :: after⟩ :=
    EventLoop.program_leaves rfl (fun _ _ => rfl) answers (removes :: after) leaves
  have unsubscribed : mouseUnsubscribeInt (removes :: after) = _ := unsubscribeInt_cons removed after
  rw [mouseTestPacket, Dialogue.bind_run enabled]
  dsimp only
  rw [if_neg (not_not.mpr rfl), Dialogue.bind_run subscribed, if_neg (not_not.mpr rfl),
    Dialogue.bind_run ran, Dialogue.bind_run unsubscribed, if_neg (not_not.mpr rfl),
    Dialogue.bind_run disabled]
  change some (Ended.mk _ (begun ++ (_ :: (_ ++ (_ :: (ended.trace ++ []))))) _) = _
  rw [List.append_nil]

/-- A packet as the mouse sends it: bit 3 of the first byte is set. -/
structure Sent where
  bytes : MouseBytes
  aligned : bytes.first &&& 0x08 ≠ 0

/-- Between the packets, which are three interrupts each, interrupts come with an error. -/
def interrupts : Option Sent → List (Option UInt8)
  | none => [none]
  | some packet => [some packet.bytes.first, some packet.bytes.second, some packet.bytes.third]

def packets (stream : List (Option Sent)) : List Packet :=
  (stream.filterMap id).map (fun packet => mouseGetPacket packet.bytes)

def clean (stat : UInt8) : Prop := stat &&& (parityBit ||| timeoutBit) = 0 ∧ stat &&& obfBit ≠ 0

instance (stat : UInt8) : Decidable (clean stat) := inferInstanceAs (Decidable (_ ∧ _))

/-- What a message has for the test: nothing, an interrupt with an error in its status, or one with
a byte. -/
def Brings (receipt : Receipt PortReads) : Option (Option UInt8) → Prop
  | none => receipt.raises mouseHookid = false
  | some none => ∃ interrupts stat out, receipt = .notify true interrupts ⟨some stat, out⟩ ∧
      interrupts &&& bit mouseHookid ≠ 0 ∧ ¬ clean stat
  | some (some byte) => ∃ interrupts stat,
      receipt = .notify true interrupts ⟨some stat, some byte⟩ ∧
      interrupts &&& bit mouseHookid ≠ 0 ∧ clean stat

/-- The test without the ports: whether an error has been seen, and the packets. -/
def assembleLoop : EventLoop (Bool × Assembly) (Option UInt8) where
  running x := decide (0 < x.2.cnt)
  body
    | (_, a), none => (true, a)
    | (true, a), some _ => (true, a)
    | (false, a), some byte => (false, a.take byte)

def PacketTest.view (s : PacketTest) : Bool × Assembly := (s.globals.ihError, s.locals)

theorem mouseIh_error {stat : UInt8} (error : ¬ clean stat) (out : Option UInt8)
    (globals : MouseGlobals) : mouseIh ⟨some stat, out⟩ globals = ⟨0, stat, true⟩ :=
  if_pos error

theorem mouseIh_clean {stat : UInt8} (read : clean stat) (byte : UInt8) (globals : MouseGlobals) :
    mouseIh ⟨some stat, some byte⟩ globals = ⟨byte, stat, globals.ihError⟩ :=
  if_neg (not_not.mpr read)

theorem packetLoop_simulates :
    EventLoop.Simulates packetLoop assembleLoop PacketTest.view Brings where
  running _ := rfl
  idle s receipt quiet := congrArg PacketTest.view
    (Receipt.dispatch_quiet quiet (fun _ _ clear => if_neg (not_not.mpr clear)))
  item s receipt item brings := by
    obtain ⟨⟨scancode, statuscode, ihError⟩, locals⟩ := s
    cases item with
    | none =>
        obtain ⟨interrupts, stat, out, rfl, raised, error⟩ := brings
        change PacketTest.view (packetPart _ interrupts ⟨some stat, out⟩) = _
        rw [packetPart, if_pos raised, mouseIh_error error]
        rfl
    | some byte =>
        obtain ⟨interrupts, stat, rfl, raised, read⟩ := brings
        change PacketTest.view (packetPart _ interrupts ⟨some stat, some byte⟩) = _
        rw [packetPart, if_pos raised, mouseIh_clean read]
        cases ihError with
        | false => rfl
        | true => rfl

variable {a : Assembly}

theorem assembleLoop_running (failed : Bool) :
    assembleLoop.running (failed, a) = true ↔ 0 < a.cnt.toNat := by
  rw [assembleLoop, decide_eq_true_eq, UInt32.lt_iff_toNat_lt, UInt32.toNat_zero]

theorem assembleLoop_left (failed : Bool) :
    assembleLoop.running (failed, a) = false ↔ a.cnt.toNat = 0 := by
  rw [← Bool.not_eq_true, assembleLoop_running]
  omega

theorem assembleLoop_packet (first : a.currenByte = 1) (goes : 0 < a.cnt.toNat) (packet : Sent) :
    assembleLoop.received (false, a) (interrupts (some packet)) = some (false,
      ⟨1, packet.bytes, a.cnt - 1, a.printed ++ [mouseGetPacket packet.bytes]⟩) := by
  obtain ⟨currenByte, bytes, cnt, printed⟩ := a
  cases first
  have running : ∀ currenByte bytes,
      assembleLoop.running (false, ⟨currenByte, bytes, cnt, printed⟩) = true :=
    fun _ _ => (assembleLoop_running false).mpr goes
  have one : Assembly.take ⟨1, bytes, cnt, printed⟩ packet.bytes.first =
      ⟨2, { bytes with first := packet.bytes.first }, cnt, printed⟩ := if_neg packet.aligned
  rw [interrupts, EventLoop.received_cons _ (running 1 bytes)]
  change assembleLoop.received (false, Assembly.take _ _) _ = _
  rw [one, EventLoop.received_cons _ (running 2 _)]
  change assembleLoop.received (false, ⟨3, _, cnt, printed⟩) _ = _
  rw [EventLoop.received_cons _ (running 3 _)]
  rfl

theorem assembleLoop_failed {items : List (Option UInt8)} {last : Bool × Assembly}
    (leaves : assembleLoop.Leaves (true, a) items last) : a.cnt.toNat = 0 := by
  induction items with
  | nil => exact (assembleLoop_left true).mp (EventLoop.leaves_nil.mp leaves).2
  | cons item items ih =>
      have next := ((EventLoop.leaves_cons item).mp leaves).2
      cases item with
      | none => exact ih next
      | some byte => exact ih next

theorem cnt_pred (goes : 0 < a.cnt.toNat) : (a.cnt - 1).toNat = a.cnt.toNat - 1 :=
  UInt32.toNat_sub_of_le _ _ (UInt32.le_iff_toNat_le.mpr goes)

theorem assembleLoop_leaves {stream : List (Option Sent)} (first : a.currenByte = 1)
    (enough : a.cnt.toNat ≤ (stream.takeWhile Option.isSome).length) :
    ∃ seen more last, stream.flatMap interrupts = seen ++ more ∧
      assembleLoop.Leaves (false, a) seen last ∧
      last.2.printed = a.printed ++ (packets stream).take a.cnt.toNat := by
  induction stream generalizing a with
  | nil =>
      have none := Nat.le_zero.mp enough
      refine ⟨[], [], _, rfl, EventLoop.leaves_nil.mpr ⟨rfl, (assembleLoop_left false).mpr none⟩, ?_⟩
      exact (congrArg (a.printed ++ ·) List.take_nil).trans (List.append_nil _) |>.symm
  | cons head stream ih =>
      by_cases none : a.cnt.toNat = 0
      · refine ⟨[], _, _, rfl,
          EventLoop.leaves_nil.mpr ⟨rfl, (assembleLoop_left false).mpr none⟩, ?_⟩
        rw [none, List.take_zero, List.append_nil]
      · have goes := Nat.pos_of_ne_zero none
        cases head with
        | none => exact absurd (Nat.le_zero.mp enough) none
        | some packet =>
            have fewer := cnt_pred goes
            rw [List.takeWhile_cons_of_pos rfl, List.length_cons] at enough
            obtain ⟨seen, more, last, split, left, printed⟩ := ih
              (a := ⟨1, packet.bytes, a.cnt - 1, a.printed ++ [mouseGetPacket packet.bytes]⟩) rfl
              (by rw [fewer]; omega)
            refine ⟨interrupts (some packet) ++ seen, more, last, ?_,
              .append (assembleLoop_packet first goes packet) left, ?_⟩
            · rw [List.flatMap_cons, split, List.append_assoc]
            · obtain ⟨cnt, count⟩ := Nat.exists_eq_succ_of_ne_zero none
              rw [printed, fewer, count, List.append_assoc]
              rfl

theorem assembleLoop_begun (goes : 0 < a.cnt.toNat) {items : List (Option UInt8)}
    {last : Bool × Assembly} (leaves : assembleLoop.Leaves (false, a) items last) : items ≠ [] := by
  rintro rfl
  exact Nat.ne_of_gt goes ((assembleLoop_left false).mp (EventLoop.leaves_nil.mp leaves).2)

theorem assembleLoop_stays {stream : List (Option Sent)} (first : a.currenByte = 1)
    (few : (stream.takeWhile Option.isSome).length < a.cnt.toNat)
    {seen more : List (Option UInt8)} (split : stream.flatMap interrupts = seen ++ more)
    {last : Bool × Assembly} : ¬ assembleLoop.Leaves (false, a) seen last := by
  intro leaves
  induction stream generalizing a seen with
  | nil => exact assembleLoop_begun few leaves (List.append_eq_nil_iff.mp split.symm).1
  | cons head stream ih =>
      have goes := Nat.zero_lt_of_lt few
      cases head with
      | none =>
          obtain ⟨item, seen, rfl⟩ := List.exists_cons_of_ne_nil (assembleLoop_begun goes leaves)
          obtain ⟨rfl, -⟩ := List.cons.inj split
          exact Nat.ne_of_gt goes
            (assembleLoop_failed ((EventLoop.leaves_cons none).mp leaves).2)
      | some packet =>
          rw [List.flatMap_cons] at split
          obtain ⟨later, -, rest, left⟩ :=
            leaves.after (assembleLoop_packet first goes packet) split
          rw [List.takeWhile_cons_of_pos rfl, List.length_cons] at few
          refine ih rfl ?_ rest left
          rw [cnt_pred goes]
          omega

/-- The first `cnt` packets are printed and the loop is left if and only if they all come before
the first error. A run that leaves the loop is one of the function, if its commands and its policy
succeed. -/
theorem mouseTestPacket_prints_iff (cnt : UInt32) (globals : MouseGlobals)
    (fresh : globals.ihError = false) (bytes : MouseBytes) {messages : List (Receipt PortReads)}
    {stream : List (Option Sent)}
    (delivered : EventLoop.Brings Brings messages (stream.flatMap interrupts)) :
    ((∃ received later final, messages = received ++ later ∧
        packetLoop.Leaves (.start cnt globals bytes) received final ∧
        final.locals.printed = (packets stream).take cnt.toNat) ↔
      cnt.toNat ≤ (stream.takeWhile Option.isSome).length) ∧
    ∀ statuscode enableAck disableAck before begun after ended installs removes answers,
      ∀ final : PacketTest,
      packetLoop.Leaves (.start cnt globals bytes)
        (answers.map (fun answer : Answer (Reply (Receipt PortReads)) => answer .driverReceive))
        final →
      sendMouseCommand enableMouse ⟨enableAck, statuscode⟩ before =
        some ⟨(0, globals.statuscode), begun, installs :: (answers ++ removes :: after)⟩ →
      installs (.sysIrqsetpolicy mouseIrq true .mouse) = true →
      removes (.sysIrqrmpolicy .mouse) = true →
      sendMouseCommand disableMouse ⟨disableAck, final.globals.statuscode⟩ after = some ended →
      ∃ trace, mouseTestPacket cnt { globals with statuscode := statuscode } bytes
        enableAck disableAck before = some ⟨(if ended.value.1 ≠ 0 then 1 else 0,
          { final with globals := { final.globals with statuscode := ended.value.2 } }), trace,
          ended.rest⟩ := by
  have view : (PacketTest.start cnt globals bytes).view = (false, ⟨1, bytes, cnt, []⟩) := by
    rw [PacketTest.view, ← fresh]
    rfl
  refine ⟨⟨?_, ?_⟩, ?_⟩
  · rintro ⟨received, later, final, split, leaves, -⟩
    by_contra few
    obtain ⟨seen, more, items, left⟩ := packetLoop_simulates.left delivered split leaves
    rw [view] at left
    exact assembleLoop_stays rfl (Nat.lt_of_not_le few) items left
  · intro enough
    obtain ⟨seen, more, last, items, left, printed⟩ :=
      assembleLoop_leaves (a := ⟨1, bytes, cnt, []⟩) rfl enough
    rw [← view] at left
    obtain ⟨received, later, final, split, leaves, rfl⟩ :=
      packetLoop_simulates.leaves delivered items left
    exact ⟨received, later, final, split, leaves, printed⟩
  · intro statuscode enableAck disableAck before begun after ended installs removes answers final
      leaves enabled installed removed disabled
    exact ⟨_, mouseTestPacket_leaves enabled installed leaves removed disabled⟩

/-- A packet between other messages, and an error after it. -/
theorem mouseTestPacket_prints_iff_one : ∃ received later final,
    [.notify true 2#64 ⟨some 0x21, some 0x08⟩, .failed, .notify true 1#64 ⟨none, none⟩,
      .notify true 2#64 ⟨some 0x01, some 0x05⟩, .notify true 3#64 ⟨some 0x21, some 0xFF⟩, .message,
      .notify true 2#64 ⟨some 0x80, none⟩] = received ++ later ∧
    packetLoop.Leaves (.start 1 ⟨0, 0, false⟩ ⟨0, 0, 0⟩) received final ∧
    final.locals.printed = [mouseGetPacket ⟨0x08, 0x05, 0xFF⟩] := by
  have delivered : EventLoop.Brings Brings
      [.notify true 2#64 ⟨some 0x21, some 0x08⟩, .failed, .notify true 1#64 ⟨none, none⟩,
        .notify true 2#64 ⟨some 0x01, some 0x05⟩, .notify true 3#64 ⟨some 0x21, some 0xFF⟩,
        .message, .notify true 2#64 ⟨some 0x80, none⟩]
      ([some ⟨⟨0x08, 0x05, 0xFF⟩, by decide⟩, none].flatMap interrupts) :=
    .item ⟨2#64, 0x21, rfl, by decide, by decide⟩ <|
    .idle (rfl : Receipt.raises mouseHookid _ = false) <|
    .idle (rfl : Receipt.raises mouseHookid _ = false) <|
    .item ⟨2#64, 0x01, rfl, by decide, by decide⟩ <|
    .item ⟨3#64, 0x21, rfl, by decide, by decide⟩ <|
    .idle (rfl : Receipt.raises mouseHookid _ = false) <|
    .item ⟨2#64, 0x80, none, rfl, by decide, by decide⟩ .nil
  exact (mouseTestPacket_prints_iff 1 ⟨0, 0, false⟩ rfl ⟨0, 0, 0⟩ delivered).1.mpr (by decide)

/-- After an error a packet is never printed. -/
theorem mouseTestPacket_stays_failed : ¬ ∃ received later final,
    [.notify true 2#64 ⟨some 0x41, none⟩, .notify true 2#64 ⟨some 0x21, some 0x08⟩,
      .notify true 2#64 ⟨some 0x21, some 0x05⟩, .notify true 2#64 ⟨some 0x21, some 0xFF⟩] =
      received ++ later ∧
    packetLoop.Leaves (.start 1 ⟨0, 0, false⟩ ⟨0, 0, 0⟩) received final ∧
    final.locals.printed = [mouseGetPacket ⟨0x08, 0x05, 0xFF⟩] := by
  have delivered : EventLoop.Brings Brings
      [.notify true 2#64 ⟨some 0x41, none⟩, .notify true 2#64 ⟨some 0x21, some 0x08⟩,
        .notify true 2#64 ⟨some 0x21, some 0x05⟩, .notify true 2#64 ⟨some 0x21, some 0xFF⟩]
      ([none, some ⟨⟨0x08, 0x05, 0xFF⟩, by decide⟩].flatMap interrupts) :=
    .item ⟨2#64, 0x41, none, rfl, by decide, by decide⟩ <|
    .item ⟨2#64, 0x21, rfl, by decide, by decide⟩ <|
    .item ⟨2#64, 0x21, rfl, by decide, by decide⟩ <|
    .item ⟨2#64, 0x21, rfl, by decide, by decide⟩ .nil
  rintro ⟨received, later, final, split, leaves, -⟩
  obtain ⟨seen, more, items, left⟩ := packetLoop_simulates.left delivered split leaves
  exact assembleLoop_stays rfl (by decide) items left

end Lcom.Lab4
