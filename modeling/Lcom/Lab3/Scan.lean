import Lcom.Lab3.Kbc

/-! `kbd_test_scan` of `lab3/lab3.c`. -/

namespace Lcom.Lab3

open Lcom.Lib Lcom.Minix Lcom.Proj

/-- What `kbc_ih` finds: the content of its local variable, and the replies to its two reads. -/
structure Found where
  statuscode : UInt8
  stat : Option UInt8
  out : Option UInt8
  deriving DecidableEq, Repr

namespace Found

def inb (found : Found) (port : Nat) : Id (Option UInt8) :=
  if port = statReg then found.stat else found.out

def scancode (found : Found) (scancode : UInt8) : UInt8 :=
  Id.run (kbcIh found.inb found.statuscode scancode)

theorem scancode_eq (found : Found) (scancode : UInt8) :
    found.scancode scancode =
      if found.stat.getD found.statuscode &&& (parityBit ||| timeoutBit) ≠ 0 then 0
      else found.out.getD scancode := by
  change Id.run (if found.stat.getD found.statuscode &&& (parityBit ||| timeoutBit) ≠ 0 then pure 0
    else pure (found.out.getD scancode)) = _
  exact apply_ite Id.run _ _ _

def Reads (found : Found) (byte : UInt8) : Prop :=
  (∃ stat, found.stat = some stat ∧ stat &&& (parityBit ||| timeoutBit) = 0) ∧
    found.out = some byte

theorem scancode_reads {found : Found} {byte : UInt8} (reads : found.Reads byte) (scancode : UInt8) :
    found.scancode scancode = byte := by
  obtain ⟨⟨stat, status, clear⟩, out⟩ := reads
  rw [scancode_eq, status, out, Option.getD_some, Option.getD_some, clear]
  rfl

end Found

def scanPart (s : Decoder) (interrupts : BitVec 64) (found : Found) : Decoder :=
  if interrupts &&& bit kbdHookid ≠ 0 then s.handle (found.scancode s.scancode) else s

def scanLoop : EventLoop Decoder (Receipt Found) where
  running s := s.scancode != escBreak
  body s receipt := receipt.dispatch s (scanPart s)

def kbdTestScan (bytes : UInt8 × UInt8) : Program (Receipt Found) (Nat × Decoder) :=
  session kbdSubscribeInt scanLoop (.start bytes) (check kbdUnsubscribeInt (pure 0))

/-- The messages deliver the bytes, one with each keyboard notification. -/
inductive Delivers : List (Receipt Found) → List UInt8 → Prop where
  | nil : Delivers [] []
  | idle {receipt : Receipt Found} {messages : List (Receipt Found)} {bytes : List UInt8}
      (quiet : receipt.raises kbdHookid = false) (later : Delivers messages bytes) :
      Delivers (receipt :: messages) bytes
  | byte {interrupts : BitVec 64} {found : Found} {byte : UInt8}
      {messages : List (Receipt Found)} {bytes : List UInt8}
      (raised : interrupts &&& bit kbdHookid ≠ 0) (reads : found.Reads byte)
      (later : Delivers messages bytes) :
      Delivers (.notify true interrupts found :: messages) (byte :: bytes)

theorem scanLoop_idle {receipt : Receipt Found} (quiet : receipt.raises kbdHookid = false)
    (s : Decoder) : scanLoop.body s receipt = s :=
  Receipt.dispatch_quiet quiet (fun _ _ clear => if_neg (not_not.mpr clear))

theorem scanLoop_byte {interrupts : BitVec 64} {found : Found} {byte : UInt8}
    (raised : interrupts &&& bit kbdHookid ≠ 0) (reads : found.Reads byte) (s : Decoder) :
    scanLoop.body s (.notify true interrupts found) = s.handle byte := by
  change scanPart s interrupts found = _
  rw [scanPart, if_pos raised, Found.scancode_reads reads]

def Brings (receipt : Receipt Found) : Option UInt8 → Prop
  | none => receipt.raises kbdHookid = false
  | some byte => ∃ interrupts found, receipt = .notify true interrupts found ∧
      interrupts &&& bit kbdHookid ≠ 0 ∧ found.Reads byte

theorem Delivers.brings {messages : List (Receipt Found)} {bytes : List UInt8}
    (delivers : Delivers messages bytes) : EventLoop.Brings Brings messages bytes := by
  induction delivers with
  | nil => exact .nil
  | idle quiet _ ih => exact .idle quiet ih
  | byte raised reads _ ih => exact .item ⟨_, _, rfl, raised, reads⟩ ih

theorem scanLoop_simulates : EventLoop.Simulates scanLoop decodeLoop id Brings where
  running _ := rfl
  idle s _ quiet := scanLoop_idle quiet s
  item := by
    rintro s _ byte ⟨interrupts, found, rfl, raised, reads⟩
    exact scanLoop_byte raised reads s

theorem scanLoop_leaves {messages : List (Receipt Found)} {bytes : List UInt8}
    (delivers : Delivers messages bytes) {s final : Decoder}
    (leaves : decodeLoop.Leaves s bytes final) :
    ∃ received later, messages = received ++ later ∧ scanLoop.Leaves s received final := by
  obtain ⟨received, later, _, split, left, rfl⟩ :=
    scanLoop_simulates.leaves delivers.brings (List.append_nil bytes).symm leaves
  exact ⟨received, later, split, left⟩

/-- A scancode of one byte, or of two bytes the first of which is `0xE0`. -/
structure Scancode where
  extended : Bool
  byte : UInt8
  notPrefix : byte ≠ 0xE0

namespace Scancode

def size (code : Scancode) : Nat := if code.extended then 2 else 1

def bytes (code : Scancode) : List UInt8 :=
  if code.extended then [0xE0, code.byte] else [code.byte]

def printed (code : Scancode) : Printed :=
  ⟨!code.byte.toNat.testBit 7, code.size, code.bytes⟩

end Scancode

theorem makecode_eq (byte : UInt8) : makecode byte = !byte.toNat.testBit 7 := by
  have bytes : ∀ byte : BitVec 8, makecode (UInt8.ofBitVec byte) = !byte.toNat.testBit 7 := by
    decide +kernel
  exact bytes byte.toBitVec

theorem handle_extended (s : Decoder) : s.handle 0xE0 = { s with scancode := 0xE0, size := 2 } := rfl

theorem handle_plain {byte : UInt8} (plain : byte ≠ 0xE0) (s : Decoder) :
    s.handle byte = ⟨byte, 1, if s.size = 1 then (byte, s.bytes.2) else (0xE0, byte),
      s.printed ++ [⟨makecode byte, s.size,
        if s.size = 1 then [byte] else [0xE0, byte].take s.size⟩]⟩ := by
  have one : twoBytes byte = false := beq_eq_false_iff_ne.mpr plain
  rw [Decoder.handle, one, if_neg Bool.false_ne_true]
  split
  · rename_i fresh
    rw [fresh]
    rfl
  · rfl

theorem decodeLoop_scancode {s : Decoder} (fresh : s.size = 1) (goes : s.scancode ≠ escBreak)
    (code : Scancode) :
    ∃ bytes, decodeLoop.received s code.bytes =
      some ⟨code.byte, 1, bytes, s.printed ++ [code.printed]⟩ := by
  have running : decodeLoop.running s = true := bne_iff_ne.mpr goes
  cases two : code.extended with
  | false =>
      have printed : code.printed = ⟨makecode code.byte, 1, [code.byte]⟩ := by
        rw [Scancode.printed, Scancode.size, Scancode.bytes, two, makecode_eq]
        rfl
      refine ⟨(code.byte, s.bytes.2), ?_⟩
      rw [Scancode.bytes, two, if_neg Bool.false_ne_true, EventLoop.received_cons _ running,
        EventLoop.received_nil, printed]
      change some (s.handle code.byte) = _
      rw [handle_plain code.notPrefix, fresh]
      rfl
  | true =>
      have printed : code.printed = ⟨makecode code.byte, 2, [0xE0, code.byte]⟩ := by
        rw [Scancode.printed, Scancode.size, Scancode.bytes, two, makecode_eq]
        rfl
      refine ⟨(0xE0, code.byte), ?_⟩
      rw [Scancode.bytes, two, if_pos rfl, EventLoop.received_cons _ running]
      change decodeLoop.received (s.handle 0xE0) _ = _
      rw [handle_extended, EventLoop.received_cons _ (by rfl), EventLoop.received_nil, printed]
      change some (Decoder.handle _ code.byte) = _
      rw [handle_plain code.notPrefix]
      rfl

theorem decodeLoop_scancodes {codes : List Scancode}
    (earlier : ∀ code ∈ codes, code.byte ≠ escBreak) {s : Decoder} (fresh : s.size = 1)
    (goes : s.scancode ≠ escBreak) :
    ∃ scancode bytes, scancode ≠ escBreak ∧
      decodeLoop.received s (codes.flatMap Scancode.bytes) =
        some ⟨scancode, 1, bytes, s.printed ++ codes.map Scancode.printed⟩ := by
  induction codes generalizing s with
  | nil =>
      refine ⟨s.scancode, s.bytes, goes, ?_⟩
      rw [← fresh, List.map_nil, List.append_nil]
      rfl
  | cons code codes ih =>
      obtain ⟨bytes, first⟩ := decodeLoop_scancode fresh goes code
      obtain ⟨scancode, last, ends, later⟩ := ih
        (fun code member => earlier code (List.mem_cons_of_mem _ member))
        (s := ⟨code.byte, 1, bytes, s.printed ++ [code.printed]⟩) rfl
        (earlier code List.mem_cons_self)
      refine ⟨scancode, last, ends, ?_⟩
      rw [List.flatMap_cons, EventLoop.received_append, first, Option.bind_some, later,
        List.append_assoc]
      rfl

/-- The function prints every scancode once, and then it ends. -/
theorem kbdTestScan_prints (front : List Scancode) (last : Scancode)
    (earlier : ∀ code ∈ front, code.byte ≠ escBreak) (ends : last.byte = escBreak)
    (messages : List (Receipt Found))
    (delivers : Delivers messages ((front ++ [last]).flatMap Scancode.bytes))
    (bytes : UInt8 × UInt8) :
    ∃ received later final, messages = received ++ later ∧
      scanLoop.Leaves (.start bytes) received final ∧
      final.printed = (front ++ [last]).map Scancode.printed ∧
      ∀ installs removes answers rest, installs (.sysIrqsetpolicy kbdIrq true .kbd) = true →
        answers.map (fun answer : Answer (Reply (Receipt Found)) => answer .driverReceive) =
          received →
        ∃ code trace, kbdTestScan bytes (installs :: (answers ++ removes :: rest)) =
          some ⟨(code, final), trace, rest⟩ := by
  obtain ⟨scancode, array, goes, first⟩ :=
    decodeLoop_scancodes earlier (s := .start bytes) rfl (by decide : (0 : UInt8) ≠ escBreak)
  obtain ⟨array, final⟩ := decodeLoop_scancode (s := ⟨scancode, 1, array, _⟩) rfl goes last
  have leaves : decodeLoop.Leaves (.start bytes) ((front ++ [last]).flatMap Scancode.bytes)
      ⟨last.byte, 1, array, (front ++ [last]).map Scancode.printed⟩ := by
    refine ⟨?_, by rw [ends]; rfl⟩
    rw [List.flatMap_append, EventLoop.received_append, first, Option.bind_some,
      List.flatMap_singleton, final]
    simp [Decoder.start]
  obtain ⟨received, later, split, left⟩ := scanLoop_leaves delivers leaves
  refine ⟨received, later, _, split, left, rfl, ?_⟩
  intro installs removes answers rest installed receives
  rw [← receives] at left
  obtain ⟨code, removed⟩ := check_unsubscribeInt .kbd removes rest
  exact ⟨code, _, session_leaves (subscribeInt_cons installed _) left removed⟩

/-- An arrow key and the release of the escape key, between other messages. -/
theorem kbdTestScan_prints_arrow : ∃ received final,
    received <+: [.failed, .notify true 2#64 ⟨0, some 0x01, some 0xE0⟩, .message,
      .notify true 1#64 ⟨0, none, none⟩, .notify true 3#64 ⟨0, some 0x01, some 0x4B⟩,
      .notify false 2#64 ⟨0, none, none⟩, .notify true 2#64 ⟨0, some 0x01, some 0x81⟩] ∧
    scanLoop.Leaves (.start (0, 0)) received final ∧
    final.printed = [⟨true, 2, [0xE0, 0x4B]⟩, ⟨false, 1, [0x81]⟩] := by
  have status : ∃ stat : UInt8, some 0x01 = some stat ∧ stat &&& (parityBit ||| timeoutBit) = 0 :=
    ⟨0x01, rfl, by decide⟩
  obtain ⟨received, later, final, split, leaves, printed, -⟩ :=
    kbdTestScan_prints [⟨true, 0x4B, by decide⟩] ⟨false, 0x81, by decide⟩ (by decide) rfl _
      (.idle rfl (.byte (by decide) ⟨status, rfl⟩ (.idle rfl (.idle rfl (.byte (by decide)
        ⟨status, rfl⟩ (.idle rfl (.byte (by decide) ⟨status, rfl⟩ .nil)))))) :
        Delivers [.failed, .notify true 2#64 ⟨0, some 0x01, some 0xE0⟩, .message,
          .notify true 1#64 ⟨0, none, none⟩, .notify true 3#64 ⟨0, some 0x01, some 0x4B⟩,
          .notify false 2#64 ⟨0, none, none⟩, .notify true 2#64 ⟨0, some 0x01, some 0x81⟩] _)
      (0, 0)
  refine ⟨received, final, ⟨later, split.symm⟩, leaves, ?_⟩
  rw [printed]
  decide +kernel

end Lcom.Lab3
