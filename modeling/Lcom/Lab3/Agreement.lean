import Lcom.Lab3.Poll

/-! When `kbd_test_poll` prints what `kbd_test_scan` prints. -/

namespace Lcom.Lab3

open Lcom.Lib Lcom.Minix Lcom.Proj

variable (statuscode : UInt8)

/-- A byte is read when a round finds it: it is not there at the first read of the round, and no
error is seen before. A read of the last byte is only `harmless` in special cases. -/
def served (harmless : Bool) : List UInt8 → Bool
  | [] => false
  | first :: rest =>
      if first &&& auxBit ≠ 0 then served harmless rest
      else match rest with
        | [] => true
        | second :: rest =>
            if second &&& (parityBit ||| timeoutBit) ≠ 0 then false
            else match rest with
              | [] => true
              | _ :: rest => harmless && served harmless rest

def phantom : List UInt8 → Option Nat
  | [] => none
  | first :: rest =>
      if first &&& auxBit ≠ 0 then phantom rest
      else match rest with
        | [] => none
        | second :: rest =>
            if second &&& (parityBit ||| timeoutBit) ≠ 0 then (phantom rest).map (· + 1)
            else match rest with
              | [] => none
              | _ :: _ => some 0

/-- Every byte is read in time. A prefix may be read again, before the byte after it or another
prefix: `size` is that of the scancode that the next byte belongs to. -/
def Timely (last : UInt8) (size : Nat) : List Arrival → Prop
  | [] => True
  | next :: later =>
      served (last == 0xE0 && (size == 2 || next.byte == 0xE0)) next.idle = true ∧
        Timely next.byte (if next.byte = 0xE0 then 2 else 1) later

theorem served_glance (harmless : Bool) (idle : List UInt8) :
    served harmless idle = match glance idle with
      | .stuck => false
      | .skip => served harmless (idle.drop 1)
      | .byte => true
      | .error => false
      | .stale => harmless && served harmless (idle.drop 3) := by
  rw [served.eq_def harmless idle]
  match idle with
  | [] => rfl
  | first :: rest =>
      by_cases skip : first &&& auxBit = 0
      · match rest with
        | [] => simp [glance, skip]
        | second :: rest =>
            by_cases error : second &&& (parityBit ||| timeoutBit) = 0
            · match rest with
              | [] => simp [glance, skip, error]
              | third :: rest => simp [glance, skip, error]
            · simp [glance, skip, error]
      · simp [glance, skip]

theorem phantom_glance (idle : List UInt8) :
    phantom idle = match glance idle with
      | .stuck => none
      | .skip => phantom (idle.drop 1)
      | .byte => none
      | .error => (phantom (idle.drop 2)).map (· + 1)
      | .stale => some 0 := by
  rw [phantom.eq_def idle]
  match idle with
  | [] => rfl
  | first :: rest =>
      by_cases skip : first &&& auxBit = 0
      · match rest with
        | [] => simp [glance, skip]
        | second :: rest =>
            by_cases error : second &&& (parityBit ||| timeoutBit) = 0
            · match rest with
              | [] => simp [glance, skip, error]
              | third :: rest => simp [glance, skip, error]
            · simp [glance, skip, error]
      · simp [glance, skip]

/-- Induction on the reads before a byte is there: what a round leaves of them is less. -/
theorem reads_induction {motive : Arrival → Prop} (next : Arrival)
    (round : ∀ next, (∀ count, 0 < count → glance next.idle ≠ .stuck → motive (next.pass count)) →
      motive next) : motive next := by
  induction length : next.idle.length using Nat.strong_induction_on generalizing next with
  | _ length ih =>
      refine round next (fun count some reads => ?_)
      have positive : 0 < next.idle.length := by
        refine List.length_pos_of_ne_nil (fun none => reads ?_)
        rw [none]
        rfl
      have shorter : (next.pass count).idle.length = next.idle.length - count := List.length_drop
      exact ih _ (by omega) (next.pass count) rfl

theorem handle_size (s : Decoder) (byte : UInt8) :
    (s.handle byte).size = if byte = 0xE0 then 2 else 1 := by
  by_cases plain : byte = 0xE0
  · rw [plain]
    rfl
  · rw [handle_plain plain, if_neg plain]

theorem handle_scancode (s : Decoder) (byte : UInt8) : (s.handle byte).scancode = byte := by
  by_cases plain : byte = 0xE0
  · rw [plain]
    rfl
  · rw [handle_plain plain]

theorem handle_again (s : Decoder) {byte : UInt8} (harmless : s.size = 2 ∨ byte = 0xE0) :
    (s.handle 0xE0).handle byte = s.handle byte := by
  rw [handle_extended]
  rcases harmless with two | rfl
  · by_cases plain : byte = 0xE0
    · rw [plain]
      rfl
    · rw [handle_plain plain, handle_plain plain, two]
  · rfl

theorem iterate_after {x y z : Decoder × Controller} (first : pollStep statuscode x = y)
    (more : ∃ rounds, (pollStep statuscode)^[rounds] y = z) :
    ∃ rounds, (pollStep statuscode)^[rounds] x = z := by
  obtain ⟨rounds, ran⟩ := more
  refine ⟨rounds + 1, ?_⟩
  rw [Function.iterate_succ_apply, first, ran]

theorem polls_byte {harmless : Bool} {s : Decoder} {last : UInt8} (next : Arrival)
    (safe : harmless = true → last = 0xE0 ∧ (s.size = 2 ∨ next.byte = 0xE0))
    (goes : s.scancode ≠ escBreak) (serves : served harmless next.idle = true)
    (later : List Arrival) :
    ∃ rounds, (pollStep statuscode)^[rounds] (s, ⟨last, next :: later⟩) =
      (s.handle next.byte, ⟨next.byte, later⟩) := by
  induction next using reads_induction generalizing s with
  | round next ih =>
      have round := pollStep_spec statuscode goes last next later
      rw [served_glance] at serves
      cases found : glance next.idle with
      | stuck => simp [found] at serves
      | error => simp [found] at serves
      | byte =>
          rw [found] at round
          exact ⟨1, round⟩
      | skip =>
          rw [found] at round serves
          have again := ih 1 (by decide) (by simp [found]) safe goes serves
          exact iterate_after statuscode round again
      | stale =>
          rw [found] at round serves
          obtain ⟨safety, serves⟩ := (Bool.and_eq_true _ _).mp serves
          obtain ⟨rfl, harmlessly⟩ := safe safety
          have again := ih 3 (by decide) (by simp [found])
            (fun _ => ⟨rfl, Or.inl (rfl : (s.handle 0xE0).size = 2)⟩)
            (by decide : (0xE0 : UInt8) ≠ escBreak) serves
          refine iterate_after statuscode round ?_
          rw [← handle_again s harmlessly]
          exact again

theorem polls_timely {s final : Decoder} {last : UInt8} {arrivals : List Arrival}
    (timely : Timely last s.size arrivals)
    (leaves : decodeLoop.Leaves s (arrivals.map Arrival.byte) final) :
    ∃ rounds, ((pollStep statuscode)^[rounds] (s, ⟨last, arrivals⟩)).1 = final := by
  induction arrivals generalizing s last with
  | nil => exact ⟨0, (EventLoop.leaves_nil.mp leaves).1⟩
  | cons next later ih =>
      obtain ⟨running, left⟩ := (EventLoop.leaves_cons next.byte).mp leaves
      obtain ⟨first, others⟩ := timely
      have safe : (last == 0xE0 && (s.size == 2 || next.byte == 0xE0)) = true →
          last = 0xE0 ∧ (s.size = 2 ∨ next.byte = 0xE0) := by simp
      obtain ⟨rounds, read⟩ := polls_byte statuscode next safe
        (bne_iff_ne.mp running) first later
      rw [← handle_size s next.byte] at others
      obtain ⟨more, ends⟩ := ih others left
      refine ⟨more + rounds, ?_⟩
      rw [Function.iterate_add_apply, read, ends]

def printedOf (size : Nat) (byte : UInt8) : Printed :=
  ⟨makecode byte, size, if size = 1 then [byte] else [0xE0, byte].take size⟩

def prints : Nat → List UInt8 → List Printed
  | _, [] => []
  | size, byte :: rest =>
      if byte = 0xE0 then prints 2 rest else printedOf size byte :: prints 1 rest

theorem handle_printed {byte : UInt8} (plain : byte ≠ 0xE0) (s : Decoder) :
    (s.handle byte).printed = s.printed ++ [printedOf s.size byte] := by
  rw [handle_plain plain]
  rfl

theorem prints_handle (s : Decoder) (byte : UInt8) (rest : List UInt8) :
    (s.handle byte).printed ++ prints (s.handle byte).size rest =
      s.printed ++ prints s.size (byte :: rest) := by
  rw [handle_size, prints]
  by_cases plain : byte = 0xE0
  · rw [plain]
    rfl
  · rw [if_neg plain, if_neg plain, handle_printed plain, List.append_assoc]
    rfl

theorem foldl_printed (s : Decoder) (bytes : List UInt8) :
    (bytes.foldl Decoder.handle s).printed = s.printed ++ prints s.size bytes := by
  induction bytes generalizing s with
  | nil => exact (List.append_nil _).symm
  | cons byte rest ih => rw [List.foldl_cons, ih, prints_handle]

theorem prints_length (size : Nat) (bytes : List UInt8) :
    (prints size bytes).length = bytes.countP (· != 0xE0) := by
  induction bytes generalizing size with
  | nil => rfl
  | cons byte rest ih =>
      rw [prints]
      by_cases plain : byte = 0xE0
      · simp [plain, ih]
      · simp [plain, ih]

def Closes : List UInt8 → Prop
  | [] => False
  | byte :: rest => if byte = escBreak then rest = [] else Closes rest

theorem closes_append {front : List UInt8} (earlier : escBreak ∉ front) :
    Closes (front ++ [escBreak]) := by
  induction front with
  | nil => rfl
  | cons byte rest ih =>
      have more : byte ≠ escBreak := fun same => earlier (List.mem_cons.mpr (Or.inl same.symm))
      rw [List.cons_append, Closes, if_neg more]
      exact ih (fun member => earlier (List.mem_cons_of_mem byte member))

theorem closes_leaves {s : Decoder} (goes : s.scancode ≠ escBreak) {bytes : List UInt8}
    (closes : Closes bytes) : decodeLoop.Leaves s bytes (bytes.foldl Decoder.handle s) := by
  induction bytes generalizing s with
  | nil => exact False.elim closes
  | cons byte rest ih =>
      refine (EventLoop.leaves_cons byte).mpr ⟨bne_iff_ne.mpr goes, ?_⟩
      rw [Closes] at closes
      split at closes
      · rename_i last
        subst closes
        refine EventLoop.leaves_nil.mpr ⟨rfl, ?_⟩
        exact bne_eq_false_iff_eq.mpr ((handle_scancode s byte).trans last)
      · rename_i more
        have goes : (s.handle byte).scancode ≠ escBreak := by rwa [handle_scancode]
        exact ih goes closes

def Printed.Final (call : Printed) : Prop := call.bytes.getLast? = some escBreak

theorem printedOf_final {size : Nat} (sizes : size = 1 ∨ size = 2) (byte : UInt8) :
    (printedOf size byte).Final ↔ byte = escBreak := by
  rcases sizes with rfl | rfl
  · simp [printedOf, Printed.Final]
  · simp [printedOf, Printed.Final]

theorem prints_final {size : Nat} (sizes : size = 1 ∨ size = 2) {bytes : List UInt8}
    (closes : Closes bytes) : ∃ call ∈ prints size bytes, call.Final := by
  induction bytes generalizing size with
  | nil => exact False.elim closes
  | cons byte rest ih =>
      rw [Closes] at closes
      rw [prints]
      split at closes
      · rename_i last
        rw [if_neg (by rw [last]; decide)]
        exact ⟨_, List.mem_cons_self, (printedOf_final sizes byte).mpr last⟩
      · split
        · exact ih (Or.inr rfl) closes
        · obtain ⟨call, member, final⟩ := ih (Or.inl rfl) closes
          exact ⟨call, List.mem_cons_of_mem _ member, final⟩

/-- A state in which the loop goes on: the release of the escape key has not been printed. -/
structure Open (s : Decoder) : Prop where
  goes : s.scancode ≠ escBreak
  sizes : s.size = 1 ∨ s.size = 2
  calls : ∀ call ∈ s.printed, ¬ call.Final

theorem Open.handle {s : Decoder} (unfinished : Open s) {byte : UInt8} (more : byte ≠ escBreak) :
    Open (s.handle byte) := by
  constructor
  · rwa [handle_scancode]
  · rw [handle_size]
    split
    · exact Or.inr rfl
    · exact Or.inl rfl
  · by_cases plain : byte = 0xE0
    · rw [plain]
      exact unfinished.calls
    · rw [handle_printed plain]
      intro call member
      rcases List.mem_append.mp member with earlier | last
      · exact unfinished.calls call earlier
      · rw [List.mem_singleton.mp last, printedOf_final unfinished.sizes]
        exact more

theorem Open.printed_ne {s : Decoder} (unfinished : Open s) {calls : List Printed}
    (final : ∃ call ∈ calls, call.Final) : s.printed ≠ calls := by
  intro same
  obtain ⟨call, member, last⟩ := final
  exact unfinished.calls call (same ▸ member) last

theorem handle_length (s : Decoder) (byte : UInt8) :
    (s.handle byte).printed.length = s.printed.length + [byte].countP (· != 0xE0) := by
  by_cases plain : byte = 0xE0
  · rw [plain]
    rfl
  · rw [handle_printed plain, List.length_append]
    simp [plain]

/-- There have been more calls than `count`, or there are going to be: the bytes to come and the
calls so far are too many. -/
def Overrun (count : Nat) (x : Decoder × Controller) : Prop :=
  (x.1.scancode = escBreak ∧ count < x.1.printed.length) ∨
    (Open x.1 ∧ x.2.last ≠ escBreak ∧ Closes (x.2.arrivals.map Arrival.byte) ∧
      count < x.1.printed.length + (x.2.arrivals.map Arrival.byte).countP (· != 0xE0))

theorem overrun_read {count : Nat} {s : Decoder} (unfinished : Open s) {next : Arrival}
    {later : List Arrival} (closes : Closes ((next :: later).map Arrival.byte))
    (many : count <
      s.printed.length + ((next :: later).map Arrival.byte).countP (· != 0xE0)) :
    Overrun count (s.handle next.byte, ⟨next.byte, later⟩) := by
  have sum : (s.handle next.byte).printed.length +
      (later.map Arrival.byte).countP (· != 0xE0) =
      s.printed.length + ((next :: later).map Arrival.byte).countP (· != 0xE0) := by
    have head : (next :: later).map Arrival.byte = [next.byte] ++ later.map Arrival.byte := rfl
    rw [handle_length, head, List.countP_append, Nat.add_assoc]
  rw [List.map_cons, Closes] at closes
  split at closes
  · rename_i last
    refine Or.inl ⟨(handle_scancode s next.byte).trans last, ?_⟩
    rw [closes, List.countP_nil, Nat.add_zero] at sum
    rwa [sum]
  · rename_i more
    exact Or.inr ⟨unfinished.handle more, more, closes, by rwa [sum]⟩

theorem overrun_step {count : Nat} {x : Decoder × Controller} (overrun : Overrun count x) :
    Overrun count (pollStep statuscode x) := by
  obtain ⟨s, last, arrivals⟩ := x
  rcases overrun with ⟨left, many⟩ | ⟨unfinished, plain, closes, many⟩
  · rw [pollStep_left statuscode left]
    exact Or.inl ⟨left, many⟩
  · cases arrivals with
    | nil => exact False.elim closes
    | cons next later =>
        have grows : ∀ byte, count < (s.handle byte).printed.length +
            ((next :: later).map Arrival.byte).countP (· != 0xE0) := by
          intro byte
          rw [handle_length]
          exact Nat.lt_of_lt_of_le many (Nat.add_le_add_right (Nat.le_add_right _ _) _)
        rw [pollStep_spec statuscode unfinished.goes]
        cases glance next.idle with
        | stuck => exact Or.inr ⟨unfinished, plain, closes, many⟩
        | skip => exact Or.inr ⟨unfinished, plain, closes, many⟩
        | byte => exact overrun_read unfinished closes many
        | error =>
            have other : (0 : UInt8) ≠ escBreak := by decide
            exact Or.inr ⟨unfinished.handle other, plain, closes, grows 0⟩
        | stale => exact Or.inr ⟨unfinished.handle plain, plain, closes, grows last⟩

def Agrees (calls : List Printed) (x : Decoder × Controller) : Prop :=
  ∃ rounds, ((pollStep statuscode)^[rounds] x).1.printed = calls

theorem Overrun.not_agrees {calls : List Printed} (final : ∃ call ∈ calls, call.Final)
    {x : Decoder × Controller} (overrun : Overrun calls.length x) :
    ¬ Agrees statuscode calls x := by
  rintro ⟨rounds, same⟩
  have still : Overrun calls.length ((pollStep statuscode)^[rounds] x) :=
    Function.Iterate.rec (Overrun calls.length) overrun (fun _ => overrun_step statuscode) rounds
  rcases still with ⟨-, many⟩ | ⟨unfinished, -⟩
  · rw [same] at many
    exact Nat.lt_irrefl _ many
  · exact unfinished.printed_ne final same

theorem Agrees.step {calls : List Printed} {x : Decoder × Controller}
    (agrees : Agrees statuscode calls x) (differs : x.1.printed ≠ calls) :
    Agrees statuscode calls (pollStep statuscode x) := by
  obtain ⟨rounds, same⟩ := agrees
  cases rounds with
  | zero => exact absurd same differs
  | succ rounds => exact ⟨rounds, by rwa [Function.iterate_succ_apply] at same⟩

theorem pollStep_cases (x : Decoder × Controller) : (pollStep statuscode x).1 = x.1 ∨
    ∃ byte, (pollStep statuscode x).1 = x.1.handle byte := by
  obtain ⟨s, c⟩ := x
  by_cases left : s.scancode = escBreak
  · rw [pollStep_left statuscode left]
    exact Or.inl rfl
  · obtain ⟨status, after, read⟩ := inb_some c
    rw [pollStep_read statuscode left status read]
    split
    · exact Or.inl rfl
    · exact Or.inr ⟨_, rfl⟩

/-- The first call after `base` is for a scancode of two bytes, or it is going to be. -/
def Oversized (base : List Printed) (s : Decoder) : Prop :=
  (s.printed = base ∧ s.size = 2) ∨ ∃ call more, s.printed = base ++ call :: more ∧ call.size = 2

theorem Oversized.handle {base : List Printed} {s : Decoder} (oversized : Oversized base s)
    (byte : UInt8) : Oversized base (s.handle byte) := by
  by_cases plain : byte = 0xE0
  · subst plain
    rcases oversized with ⟨same, -⟩ | printed
    · exact Or.inl ⟨same, rfl⟩
    · exact Or.inr printed
  · rw [Oversized, handle_printed plain]
    rcases oversized with ⟨same, two⟩ | ⟨call, more, same, two⟩
    · exact Or.inr ⟨printedOf s.size byte, [], by rw [same], two⟩
    · exact Or.inr ⟨call, more ++ [printedOf s.size byte], by rw [same]; simp, two⟩

theorem Oversized.not_agrees {base more : List Printed} {call : Printed} (small : call.size ≠ 2)
    {x : Decoder × Controller} (oversized : Oversized base x.1) :
    ¬ Agrees statuscode (base ++ call :: more) x := by
  rintro ⟨rounds, same⟩
  have still : Oversized base ((pollStep statuscode)^[rounds] x).1 := by
    refine Function.Iterate.rec (fun x : Decoder × Controller => Oversized base x.1) oversized ?_
      rounds
    intro x oversized
    rcases pollStep_cases statuscode x with same | ⟨byte, handled⟩
    · rwa [same]
    · rw [handled]
      exact oversized.handle byte
  rcases still with ⟨printed, -⟩ | ⟨other, others, printed, two⟩
  · rw [printed] at same
    exact List.cons_ne_nil call more (List.append_right_eq_self.mp same.symm)
  · rw [printed] at same
    cases List.append_cancel_left same
    exact small two

theorem glance_stuck {idle : List UInt8} (stuck : glance idle = .stuck) : idle = [] := by
  match idle with
  | [] => rfl
  | first :: [] =>
      rw [glance] at stuck
      split at stuck <;> cases stuck
  | first :: second :: [] =>
      rw [glance] at stuck
      split at stuck
      · cases stuck
      · split at stuck <;> cases stuck
  | first :: second :: third :: rest =>
      rw [glance] at stuck
      split at stuck
      · cases stuck
      · split at stuck <;> cases stuck

/-- A byte that is there at the first read of a round is never read. -/
theorem stuck_not_agrees {calls : List Printed} {s : Decoder} (goes : s.scancode ≠ escBreak)
    (differs : s.printed ≠ calls) {next : Arrival} (stuck : glance next.idle = .stuck)
    (last : UInt8) (later : List Arrival) :
    ¬ Agrees statuscode calls (s, ⟨last, next :: later⟩) := by
  rintro ⟨rounds, same⟩
  have still : ∃ waiting, ((pollStep statuscode)^[rounds] (s, ⟨last, next :: later⟩)) =
      (s, ⟨last, waiting :: later⟩) ∧ waiting.idle = [] := by
    refine Function.Iterate.rec (fun x : Decoder × Controller => ∃ waiting : Arrival,
      x = (s, ⟨last, waiting :: later⟩) ∧ waiting.idle = []) ?_ ?_ rounds
    · exact ⟨next, rfl, glance_stuck stuck⟩
    · rintro _ ⟨waiting, rfl, none⟩
      refine ⟨waiting.hold, ?_, none⟩
      rw [pollStep_spec statuscode goes, none]
      rfl
  obtain ⟨waiting, stays, -⟩ := still
  rw [stays] at same
  exact differs same

theorem expected_length (s : Decoder) (bytes : List UInt8) :
    (s.printed ++ prints s.size bytes).length = s.printed.length + bytes.countP (· != 0xE0) := by
  rw [List.length_append, prints_length]

theorem overrun_extra {s : Decoder} (unfinished : Open s) {extra last : UInt8}
    (more : extra ≠ escBreak) (plain : extra ≠ 0xE0) (other : last ≠ escBreak)
    (arrivals : List Arrival) (closes : Closes (arrivals.map Arrival.byte)) :
    Overrun (s.printed ++ prints s.size (arrivals.map Arrival.byte)).length
      (s.handle extra, ⟨last, arrivals⟩) := by
  refine Or.inr ⟨unfinished.handle more, other, closes, ?_⟩
  have one : [extra].countP (· != 0xE0) = 1 := by simp [plain]
  rw [expected_length, handle_length, one]
  exact Nat.add_lt_add_right (Nat.lt_succ_self _) _

theorem prints_again {size : Nat} {byte : UInt8} (harmless : size = 2 ∨ byte = 0xE0)
    (rest : List UInt8) : prints 2 (byte :: rest) = prints size (byte :: rest) := by
  rcases harmless with rfl | rfl
  · rfl
  · rfl

/-- If the calls agree in the end, then the next byte is in time, and they still do after it. -/
theorem agrees_served {s : Decoder} {last : UInt8} (next : Arrival) {later : List Arrival}
    (unfinished : Open s) (other : last ≠ escBreak)
    (closes : Closes ((next :: later).map Arrival.byte)) {calls : List Printed}
    (expected : calls = s.printed ++ prints s.size ((next :: later).map Arrival.byte))
    (agrees : Agrees statuscode calls (s, ⟨last, next :: later⟩)) :
    served (last == 0xE0 && (s.size == 2 || next.byte == 0xE0)) next.idle = true ∧
      Agrees statuscode calls (s.handle next.byte, ⟨next.byte, later⟩) := by
  induction next using reads_induction generalizing s with
  | round next ih =>
      have final : ∃ call ∈ calls, call.Final := by
        obtain ⟨call, member, final⟩ := prints_final unfinished.sizes closes
        exact ⟨call, expected ▸ List.mem_append_right s.printed member, final⟩
      have differs := unfinished.printed_ne final
      have after := agrees.step statuscode differs
      rw [pollStep_spec statuscode unfinished.goes] at after
      rw [served_glance]
      cases found : glance next.idle with
      | stuck =>
          exact absurd agrees (stuck_not_agrees statuscode unfinished.goes differs found last later)
      | byte =>
          rw [found] at after
          exact ⟨rfl, after⟩
      | skip =>
          rw [found] at after
          exact ih 1 (by decide) (by simp [found]) unfinished closes expected after
      | error =>
          rw [found] at after
          have more : (0 : UInt8) ≠ escBreak := by decide
          have plain : (0 : UInt8) ≠ 0xE0 := by decide
          have overrun : Overrun calls.length (s.handle 0, ⟨last, next.pass 2 :: later⟩) := by
            rw [expected]
            exact overrun_extra unfinished more plain other (next.pass 2 :: later) closes
          exact absurd after (overrun.not_agrees statuscode final)
      | stale =>
          rw [found] at after
          by_cases prefixed : last = 0xE0
          · subst prefixed
            by_cases harmless : s.size = 2 ∨ next.byte = 0xE0
            · -- the prefix has been read before, or it is the next byte
              have again : calls = (s.handle 0xE0).printed ++
                  prints 2 ((next.pass 3 :: later).map Arrival.byte) := by
                rw [expected, List.map_cons, ← prints_again harmless]
                rfl
              obtain ⟨serves, agrees⟩ := ih 3 (by decide) (by simp [found])
                (unfinished.handle (by decide)) closes again after
              have safe : ((0xE0 : UInt8) == 0xE0 && (s.size == 2 || next.byte == 0xE0)) = true := by
                simpa using harmless
              rw [safe]
              refine ⟨serves, ?_⟩
              rw [← handle_again s harmless]
              exact agrees
            · obtain ⟨small, plain⟩ := not_or.mp harmless
              have oversized : Oversized s.printed (s.handle 0xE0) := Or.inl ⟨rfl, rfl⟩
              rw [List.map_cons, prints, if_neg plain] at expected
              rw [expected] at after
              exact absurd after (oversized.not_agrees statuscode small)
          · have overrun : Overrun calls.length (s.handle last, ⟨last, next.pass 3 :: later⟩) := by
              rw [expected]
              exact overrun_extra unfinished other prefixed other (next.pass 3 :: later) closes
            exact absurd after (overrun.not_agrees statuscode final)

theorem Closes.tail {byte : UInt8} {rest : List UInt8} (closes : Closes (byte :: rest)) :
    (byte = escBreak ∧ rest = []) ∨ (byte ≠ escBreak ∧ Closes rest) := by
  rw [Closes] at closes
  split at closes
  · rename_i last
    exact Or.inl ⟨last, closes⟩
  · rename_i more
    exact Or.inr ⟨more, closes⟩

theorem agrees_timely {s : Decoder} {last : UInt8} {arrivals : List Arrival}
    (unfinished : Open s) (other : last ≠ escBreak) (closes : Closes (arrivals.map Arrival.byte))
    {calls : List Printed} (expected : calls = s.printed ++ prints s.size (arrivals.map Arrival.byte))
    (agrees : Agrees statuscode calls (s, ⟨last, arrivals⟩)) : Timely last s.size arrivals := by
  induction arrivals generalizing s last with
  | nil => trivial
  | cons next later ih =>
      obtain ⟨serves, after⟩ := agrees_served statuscode next unfinished other closes expected agrees
      refine ⟨serves, ?_⟩
      rcases closes.tail with ⟨-, none⟩ | ⟨more, closes⟩
      · rw [List.map_eq_nil_iff.mp none]
        trivial
      · rw [← handle_size s next.byte]
        refine ih (unfinished.handle more) more closes ?_ after
        rw [expected, List.map_cons, ← prints_handle]

theorem agrees_left {x : Decoder × Controller} (left : x.1.scancode = escBreak)
    {calls : List Printed} (agrees : Agrees statuscode calls x) : x.1.printed = calls := by
  obtain ⟨rounds, same⟩ := agrees
  rw [Function.iterate_fixed (pollStep_left statuscode left x.2)] at same
  exact same

theorem agrees_first {s : Decoder} (next : Arrival) {later : List Arrival} (unfinished : Open s)
    (fresh : s.size = 1) {errors : Nat} (printed : s.printed = List.replicate errors (printedOf 1 0))
    (closes : Closes ((next :: later).map Arrival.byte)) {calls : List Printed}
    (expected : calls = prints 1 ((next :: later).map Arrival.byte))
    (agrees : Agrees statuscode calls (s, ⟨escBreak, next :: later⟩)) :
    (served false next.idle = true ∧
      Agrees statuscode calls (s.handle next.byte, ⟨next.byte, later⟩) ∧ errors = 0) ∨
    ∃ more, phantom next.idle = some more ∧
      calls = List.replicate (errors + more) (printedOf 1 0) ++ [printedOf 1 escBreak] := by
  induction next using reads_induction generalizing s errors with
  | round next ih =>
      have final : ∃ call ∈ calls, call.Final := expected ▸ prints_final (Or.inl rfl) closes
      have differs := unfinished.printed_ne final
      have after := agrees.step statuscode differs
      rw [pollStep_spec statuscode unfinished.goes] at after
      rw [served_glance, phantom_glance]
      cases found : glance next.idle with
      | stuck =>
          exact absurd agrees
            (stuck_not_agrees statuscode unfinished.goes differs found escBreak later)
      | byte =>
          rw [found] at after
          cases errors with
          | zero => exact Or.inl ⟨rfl, after, rfl⟩
          | succ errors =>
              have many : calls.length <
                  s.printed.length + ((next :: later).map Arrival.byte).countP (· != 0xE0) := by
                rw [expected, prints_length, printed, List.length_replicate]
                omega
              have overrun := overrun_read unfinished closes many
              exact absurd after (overrun.not_agrees statuscode final)
      | skip =>
          rw [found] at after
          exact ih 1 (by decide) (by simp [found]) unfinished fresh printed closes
            expected after
      | error =>
          rw [found] at after
          have counted : (s.handle 0).printed = List.replicate (errors + 1) (printedOf 1 0) := by
            rw [handle_printed (by decide), printed, fresh, List.replicate_succ']
          rcases ih 2 (by decide) (by simp [found])
            (unfinished.handle (by decide)) rfl counted closes expected after with
            ⟨-, -, none⟩ | ⟨more, rest, same⟩
          · cases none
          · refine Or.inr ⟨more + 1, ?_, ?_⟩
            · exact Option.map_eq_some_iff.mpr ⟨more, rest, rfl⟩
            · rw [same, Nat.add_assoc, Nat.add_comm 1]
      | stale =>
          rw [found] at after
          refine Or.inr ⟨0, rfl, ?_⟩
          rw [← agrees_left statuscode (handle_scancode s escBreak) after,
            handle_printed (by decide), printed, fresh]
          rfl

theorem polls_phantom {s : Decoder} (next : Arrival) (goes : s.scancode ≠ escBreak) {errors : Nat}
    (old : phantom next.idle = some errors) (later : List Arrival) :
    ∃ c rounds, (pollStep statuscode)^[rounds] (s, ⟨escBreak, next :: later⟩) =
      ((List.replicate errors 0 ++ [escBreak]).foldl Decoder.handle s, c) := by
  induction next using reads_induction generalizing s errors with
  | round next ih =>
      have round := pollStep_spec statuscode goes escBreak next later
      rw [phantom_glance] at old
      cases found : glance next.idle with
      | stuck => simp [found] at old
      | byte => simp [found] at old
      | skip =>
          rw [found] at round old
          obtain ⟨c, again⟩ := ih 1 (by decide) (by simp [found]) goes old
          exact ⟨c, iterate_after statuscode round again⟩
      | error =>
          rw [found] at round old
          obtain ⟨more, rest, rfl⟩ := Option.map_eq_some_iff.mp old
          obtain ⟨c, again⟩ := ih 2 (by decide) (by simp [found])
            (by rw [handle_scancode]; decide : (s.handle 0).scancode ≠ escBreak) rest
          refine ⟨c, ?_⟩
          rw [List.replicate_succ, List.cons_append, List.foldl_cons]
          exact iterate_after statuscode round again
      | stale =>
          rw [found] at round old
          cases old
          exact ⟨_, 1, round⟩

theorem prints_two {bytes : List UInt8} (closes : Closes bytes) :
    ∃ call more, prints 2 bytes = call :: more ∧ call.size = 2 := by
  induction bytes with
  | nil => exact False.elim closes
  | cons byte rest ih =>
      rw [prints]
      split
      · rename_i prefixed
        rcases closes.tail with ⟨last, -⟩ | ⟨-, closes⟩
        · rw [prefixed] at last
          exact absurd last (by decide)
        · exact ih closes
      · exact ⟨printedOf 2 byte, prints 1 rest, rfl, rfl⟩

theorem prints_zeros {bytes : List UInt8} (closes : Closes bytes) {zeros : Nat}
    (same : prints 1 bytes = List.replicate zeros (printedOf 1 0) ++ [printedOf 1 escBreak]) :
    bytes = List.replicate zeros 0 ++ [escBreak] := by
  have zeroMore : (0 : UInt8) ≠ escBreak := by decide
  have prefixMore : (0xE0 : UInt8) ≠ escBreak := by decide
  induction bytes generalizing zeros with
  | nil => exact False.elim closes
  | cons byte rest ih =>
      by_cases plain : byte = 0xE0
      · subst plain
        rcases closes.tail with ⟨last, -⟩ | ⟨-, closes⟩
        · exact absurd last prefixMore
        · obtain ⟨call, more, calls, two⟩ := prints_two closes
          have one : ∃ first others, prints 1 (0xE0 :: rest) = first :: others ∧ first.size = 1 := by
            rw [same]
            cases zeros with
            | zero => exact ⟨printedOf 1 escBreak, [], rfl, rfl⟩
            | succ zeros => exact ⟨printedOf 1 0, _, rfl, rfl⟩
          obtain ⟨first, others, begins, size⟩ := one
          rw [prints, if_pos rfl, calls] at begins
          rw [(List.cons.inj begins).1, size] at two
          cases two
      · rw [prints, if_neg plain] at same
        cases zeros with
        | zero =>
            obtain ⟨head, -⟩ := List.cons.inj same
            have last : byte = escBreak := (List.cons.inj (congrArg Printed.bytes head)).1
            rcases closes.tail with ⟨-, none⟩ | ⟨more, -⟩
            · rw [last, none]
              rfl
            · exact absurd last more
        | succ zeros =>
            obtain ⟨head, tail⟩ := List.cons.inj same
            have zero : byte = 0 := (List.cons.inj (congrArg Printed.bytes head)).1
            rcases closes.tail with ⟨last, -⟩ | ⟨-, closes⟩
            · rw [zero] at last
              exact absurd last zeroMore
            · rw [zero, ih closes tail]
              rfl

/-- The old byte is the release of the escape key, it is read before the first new byte, and what
is printed before and with it is right nevertheless. -/
def Lucky (last : UInt8) (arrivals : List Arrival) : Prop :=
  last = escBreak ∧ ∃ next later errors, arrivals = next :: later ∧
    phantom next.idle = some errors ∧
    arrivals.map Arrival.byte = List.replicate errors 0 ++ [escBreak]

theorem agrees_always {s final : Decoder} {c : Controller}
    (ends : ∃ c' rounds, (pollStep statuscode)^[rounds] (s, c) = (final, c'))
    (left : final.scancode = escBreak) :
    ∃ n, ∀ rounds, n ≤ rounds → ((pollStep statuscode)^[rounds] (s, c)).1 = final := by
  obtain ⟨c', n, ends⟩ := ends
  refine ⟨n, fun rounds many => ?_⟩
  obtain ⟨more, rfl⟩ := Nat.exists_eq_add_of_le' many
  rw [Function.iterate_add_apply, ends,
    Function.iterate_fixed (pollStep_left statuscode left c')]

theorem polled_left (bytes : UInt8 × UInt8) {last : UInt8} {arrivals : List Arrival}
    (closes : Closes (arrivals.map Arrival.byte))
    (right : Timely last 1 arrivals ∨ Lucky last arrivals) :
    ∃ c rounds, (pollStep statuscode)^[rounds] (.start bytes, ⟨last, arrivals⟩) =
      ((arrivals.map Arrival.byte).foldl Decoder.handle (.start bytes), c) := by
  have goes : (Decoder.start bytes).scancode ≠ escBreak := (by decide : (0 : UInt8) ≠ escBreak)
  rcases right with timely | ⟨rfl, next, later, errors, rfl, old, zeros⟩
  · obtain ⟨rounds, ends⟩ := polls_timely statuscode timely (closes_leaves goes closes)
    exact ⟨_, rounds, Prod.ext ends rfl⟩
  · rw [zeros]
    exact polls_phantom statuscode next goes old later

theorem agrees_iff (bytes : UInt8 × UInt8) (last : UInt8) {arrivals : List Arrival}
    (closes : Closes (arrivals.map Arrival.byte)) :
    (∃ n, ∀ rounds, n ≤ rounds → (polled statuscode bytes last arrivals rounds).1.printed =
        prints 1 (arrivals.map Arrival.byte)) ↔
      Timely last 1 arrivals ∨ Lucky last arrivals := by
  have starts : Open (.start bytes) := by
    refine ⟨?_, Or.inl rfl, fun call member => absurd member List.not_mem_nil⟩
    exact (by decide : (0 : UInt8) ≠ escBreak)
  constructor
  · rintro ⟨n, same⟩
    have agrees : Agrees statuscode (prints 1 (arrivals.map Arrival.byte))
        (.start bytes, ⟨last, arrivals⟩) := ⟨n, same n (Nat.le_refl n)⟩
    have none : (Decoder.start bytes).printed = List.replicate 0 (printedOf 1 0) := rfl
    by_cases other : last = escBreak
    · subst other
      cases arrivals with
      | nil => exact Or.inl trivial
      | cons next later =>
          rcases agrees_first statuscode next starts rfl none closes rfl agrees with
            ⟨serves, after, -⟩ | ⟨errors, old, calls⟩
          · refine Or.inl ⟨serves, ?_⟩
            rcases closes.tail with ⟨-, none⟩ | ⟨more, closes⟩
            · rw [List.map_eq_nil_iff.mp none]
              trivial
            · rw [← handle_size (.start bytes) next.byte]
              refine agrees_timely statuscode (starts.handle more) more closes ?_ after
              exact (prints_handle (.start bytes) next.byte _).symm
          · rw [Nat.zero_add] at calls
            exact Or.inr ⟨rfl, next, later, errors, rfl, old, prints_zeros closes calls⟩
    · exact Or.inl (agrees_timely statuscode starts other closes rfl agrees)
  · have printed : (List.foldl Decoder.handle (.start bytes) (arrivals.map Arrival.byte)).printed =
        prints 1 (arrivals.map Arrival.byte) := foldl_printed _ _
    have left := bne_eq_false_iff_eq.mp (closes_leaves starts.goes closes).2
    intro right
    obtain ⟨n, same⟩ := agrees_always statuscode (polled_left statuscode bytes closes right) left
    refine ⟨n, fun rounds many => ?_⟩
    rw [polled, same rounds many, printed]

/-- The two tests print the same if and only if every byte is read in time. Then `kbd_test_poll` also
leaves its loop, and ends with what `kbd_test_scan` has printed. -/
theorem kbdTestPoll_agrees_iff {front : List UInt8} (earlier : escBreak ∉ front)
    {arrivals : List Arrival} (ends : arrivals.map Arrival.byte = front ++ [escBreak])
    {messages : List (Receipt Found)} (delivers : Delivers messages (arrivals.map Arrival.byte))
    (bytes bytes' : UInt8 × UInt8) (last : UInt8) :
    ∃ received later scanned, messages = received ++ later ∧
      scanLoop.Leaves (.start bytes') received scanned ∧
      ((∃ n, ∀ rounds, n ≤ rounds →
          (polled statuscode bytes last arrivals rounds).1.printed = scanned.printed) ↔
        Timely last 1 arrivals ∨ Lucky last arrivals) ∧
      (Timely last 1 arrivals ∨ Lucky last arrivals → ∀ other : Receipt Found,
        ∃ answers trace c polled, (Controller.environment other).Allows ⟨last, arrivals⟩ trace c ∧
          polled.printed = scanned.printed ∧ ∀ after ended, kbdReenableInt after = some ended →
            kbdTestPoll bytes statuscode (answers ++ after) = some
              ⟨(if ended.value ≠ 0 then 1 else 0, polled), trace ++ ended.trace, ended.rest⟩) := by
  have closes : Closes (arrivals.map Arrival.byte) := ends ▸ closes_append earlier
  have leaves := closes_leaves (s := .start bytes') (by decide : (0 : UInt8) ≠ escBreak) closes
  obtain ⟨received, later, split, scanned⟩ := scanLoop_leaves delivers leaves
  refine ⟨received, later, _, split, scanned, ?_, fun right other => ?_⟩
  · rw [foldl_printed]
    exact agrees_iff statuscode bytes last closes
  · obtain ⟨c, rounds, ends⟩ := polled_left statuscode bytes closes right
    have final : (polled statuscode bytes last arrivals rounds).1 =
        (arrivals.map Arrival.byte).foldl Decoder.handle (.start bytes) := congrArg Prod.fst ends
    have starts : (0 : UInt8) ≠ escBreak := by decide
    have left : (polled statuscode bytes last arrivals rounds).1.scancode = escBreak := by
      rw [final]
      exact bne_eq_false_iff_eq.mp (closes_leaves (s := .start bytes) starts closes).2
    obtain ⟨answers, trace, c, allowed, ran⟩ := kbdTestPoll_ends statuscode other left
    refine ⟨answers, trace, c, _, allowed, ?_, ran⟩
    rw [final, foldl_printed, foldl_printed]
    rfl

/-- The key `A` and the release of the escape key, each of them between the two reads of a round:
of the status and of the data, or of the status twice. -/
theorem kbdTestPoll_agrees_iff_a : ∃ received later scanned,
    [.notify true 2#64 ⟨0, some 0x01, some 0x1E⟩, .notify true 2#64 ⟨0, some 0x01, some 0x81⟩] =
      received ++ later ∧
    scanLoop.Leaves (.start (0, 0)) received scanned ∧
    ∃ n, ∀ rounds, n ≤ rounds → (polled 0 (0, 0) 0xFA
      [.steady [0x20, 0x00, 0x10] 0x01 0x1E rfl rfl, .steady [0x00] 0x11 0x81 rfl rfl]
        rounds).1.printed =
      scanned.printed := by
  have status : ∃ stat : UInt8, some 0x01 = some stat ∧ stat &&& (parityBit ||| timeoutBit) = 0 :=
    ⟨0x01, rfl, by decide⟩
  obtain ⟨received, later, scanned, split, leaves, same, -⟩ :=
    kbdTestPoll_agrees_iff 0 (by decide : escBreak ∉ [0x1E])
      (rfl : [.steady [0x20, 0x00, 0x10] 0x01 0x1E rfl rfl,
        .steady [0x00] 0x11 0x81 rfl rfl].map Arrival.byte = _)
      (.byte (by decide : 2#64 &&& bit kbdHookid ≠ 0) ⟨status, rfl⟩
        (.byte (by decide : 2#64 &&& bit kbdHookid ≠ 0) ⟨status, rfl⟩ .nil) :
        Delivers [.notify true 2#64 ⟨0, some 0x01, some 0x1E⟩,
          .notify true 2#64 ⟨0, some 0x01, some 0x81⟩] _)
      (0, 0) (0, 0) 0xFA
  exact ⟨received, later, scanned, split, leaves, same.mpr (Or.inl ⟨rfl, rfl, trivial⟩)⟩

/-- The release of the escape key is there before the first read: it is never printed. -/
theorem kbdTestPoll_skips_pending :
    scanLoop.Leaves (.start (0, 0)) [.notify true 2#64 ⟨0, some 0x01, some 0x81⟩]
      ⟨0x81, 1, (0x81, 0), [⟨false, 1, [0x81]⟩]⟩ ∧
    ¬ ∃ n, ∀ rounds, n ≤ rounds → (polled 0 (0, 0) 0
      [.steady [] 0x01 0x81 rfl rfl] rounds).1.printed =
        [⟨false, 1, [0x81]⟩] := by
  refine ⟨⟨by decide, by decide⟩, ?_⟩
  rintro ⟨n, same⟩
  have goes : (0 : UInt8) ≠ escBreak := by decide
  have differs : ([] : List Printed) ≠ [⟨false, 1, [0x81]⟩] := by decide
  exact stuck_not_agrees 0 (s := .start (0, 0)) goes differs rfl 0 [] ⟨n, same n (Nat.le_refl n)⟩

end Lcom.Lab3
