import Lcom.Lab2.TestInt
import Lcom.Lab3.TimedScan
import Lcom.Lab4.TestPacket
import Lcom.Lab5.Tests
import Lcom.Proj.Rtc

/-! What the programs of the repository have set up and not undone when they return. -/

namespace Lcom

open Lcom.Lib Lcom.Minix Lcom.Proj

variable {Message : Type}

/-- The interrupt policies that are installed, whether the screen is in graphics mode, and whether
something has been set up at all. -/
structure Held where
  policies : Hook → Bool
  graphics : Bool
  touched : Bool

namespace Held

def idle : Held := ⟨fun _ => false, false, false⟩

def call (h : Held) : Event (Reply Message) → Held
  | ⟨.sysIrqsetpolicy _ _ hook, done⟩ =>
      let done : Bool := done
      if done then ⟨Function.update h.policies hook true, h.graphics, true⟩ else h
  | ⟨.sysIrqrmpolicy hook, done⟩ =>
      let done : Bool := done
      if done then { h with policies := Function.update h.policies hook false } else h
  | ⟨.sysInt86 _ _ _, regs⟩ =>
      let regs : Option (UInt8 × UInt8) := regs
      if regs = some (0x00, 0x4F) then { h with graphics := true, touched := true } else h
  | ⟨.vgExit, done⟩ =>
      let done : Bool := done
      if done then { h with graphics := false } else h
  | _ => h

def after (h : Held) (trace : List (Event (Reply Message))) : Held := trace.foldl call h

def Undone (h : Held) : Prop := (∀ hook, h.policies hook = false) ∧ h.graphics = false

end Held

def held : Device (Reply Message) Held := fun event h => some (h.call event)

theorem held_after (trace : List (Event (Reply Message))) (h : Held) :
    held.after trace h = some (h.after trace) := by
  induction trace generalizing h with
  | nil => rfl
  | cons event later ih => exact ih (h.call event)

/-- Exactly these policies and this mode are held, after something has been set up. -/
structure Holds (hooks : List Hook) (graphics : Bool) (h : Held) : Prop where
  policies : ∀ hook, h.policies hook = hooks.contains hook
  graphics : h.graphics = graphics
  touched : h.touched = true

def Stuck (h : Held) : Prop := ¬ h.Undone ∧ h.touched = true

/-- How a program returns: all is undone exactly if it returns 0 or has set nothing up. -/
def Ends (code : Nat) (h : Held) : Prop := h.Undone ↔ code = 0 ∨ h.touched = false

variable {hooks : List Hook} {graphics : Bool} {h : Held} {code : Nat}

theorem Stuck.ends (stuck : Stuck h) (failed : code ≠ 0) : Ends code h := by
  refine iff_of_false stuck.1 ?_
  rintro (zero | untouched)
  · exact failed zero
  · rw [stuck.2] at untouched
    cases untouched

theorem Ends.failed {other : Nat} (ends : Ends code h) (failed : code ≠ 0) (bad : other ≠ 0) :
    Ends other h := by
  rw [Ends, or_iff_right failed] at ends
  rw [Ends, or_iff_right bad]
  exact ends

theorem Holds.ends (holds : Holds [] false h) : Ends 0 h :=
  iff_of_true ⟨fun hook => holds.policies hook, holds.graphics⟩ (.inl rfl)

theorem idle_ends : Ends code Held.idle := iff_of_true ⟨fun _ => rfl, rfl⟩ (.inr rfl)

theorem Holds.stuck (holds : Holds hooks graphics h) (busy : hooks ≠ [] ∨ graphics = true) :
    Stuck h := by
  refine ⟨?_, holds.touched⟩
  rintro ⟨removed, text⟩
  rcases busy with some | shown
  · obtain ⟨hook, member⟩ := List.exists_mem_of_ne_nil hooks some
    have installed := holds.policies hook
    rw [removed hook, List.contains_iff_mem.mpr member] at installed
    cases installed
  · rw [holds.graphics, shown] at text
    cases text

def Changes (step : Program Message Nat) (change : Held → Held) : Prop :=
  ∀ h, held.Triple (· = h) step (fun code last => last = if code = 0 then change h else h)

def Held.installed (hook : Hook) (h : Held) : Held :=
  ⟨Function.update h.policies hook true, h.graphics, true⟩

def Held.removed (hook : Hook) (h : Held) : Held :=
  { h with policies := Function.update h.policies hook false }

def Held.shown (h : Held) : Held := { h with graphics := true, touched := true }

def Held.left (h : Held) : Held := { h with graphics := false }

theorem changes_of_call (request : Request) {change : Held → Held}
    (flag : Reply Message request → Bool)
    (effect : ∀ (h : Held) reply,
      h.call ⟨request, reply⟩ = if flag reply then change h else h) :
    Changes (call request >>= fun reply => pure (if flag reply then 0 else 1)) change := by
  intro h
  have asks : held.Triple (· = h) (call request : Program Message _)
      (fun reply last => last = if flag reply then change h else h) := by
    refine .ask (fun e reply last same moved => ?_)
    rw [← Option.some.inj moved, same, effect]
  refine asks.bind (fun reply => .pure (fun last reached => ?_))
  rw [reached]
  cases flag reply with
  | false => rfl
  | true => rfl

theorem subscribeInt_changes (irq : Nat) (exclusive : Bool) (hook : Hook) :
    Changes (subscribeInt irq exclusive hook : Program Message Nat) (Held.installed hook) :=
  changes_of_call (.sysIrqsetpolicy irq exclusive hook) (fun done => done) (fun _ _ => rfl)

theorem unsubscribeInt_changes (hook : Hook) :
    Changes (unsubscribeInt hook : Program Message Nat) (Held.removed hook) :=
  changes_of_call (.sysIrqrmpolicy hook) (fun done => done) (fun _ _ => rfl)

theorem vgExit_changes : Changes (vgExit : Program Message Nat) Held.left :=
  changes_of_call .vgExit (fun done => done) (fun _ _ => rfl)

theorem vgSetMode_changes (mode : UInt16) :
    Changes (vgSetMode mode : Program Message Nat) Held.shown := by
  intro h
  unfold vgSetMode
  split
  · exact .pure (fun _ same => same)
  · have asks : held.Triple (· = h)
        (call (.sysInt86 0x4F 0x02 (0x4000 ||| mode)) : Program Message _)
        (fun regs last => last = h.call ⟨.sysInt86 0x4F 0x02 (0x4000 ||| mode), regs⟩) := by
      refine .ask (fun e regs last same moved => ?_)
      rw [← Option.some.inj moved, same]
    refine asks.bind (fun regs => .pure (fun last reached => ?_))
    change Option (UInt8 × UInt8) at regs
    rw [reached]
    change (if regs = some (0x00, 0x4F) then h.shown else h) = _
    by_cases set : regs = some (0x00, 0x4F)
    · rw [if_pos set, if_pos set, if_pos rfl]
    · rw [if_neg set, if_neg set, if_neg (by decide)]

section Rules

variable {later last : List Hook} {mode final : Bool}

def Stepped (hooks : List Hook) (graphics : Bool) (code : Nat) (h : Held) : Prop :=
  if code = 0 then Holds hooks graphics h else Stuck h

def Begun (hooks : List Hook) (graphics : Bool) (code : Nat) (h : Held) : Prop :=
  if code = 0 then Holds hooks graphics h else Ends code h

theorem Stepped.begun (stepped : Stepped hooks graphics code h) : Begun hooks graphics code h := by
  by_cases zero : code = 0
  · rw [Stepped, if_pos zero] at stepped
    rwa [Begun, if_pos zero]
  · rw [Stepped, if_neg zero] at stepped
    rw [Begun, if_neg zero]
    exact stepped.ends zero

theorem Begun.holds (begun : Begun hooks graphics 0 h) : Holds hooks graphics h := begun

theorem Stepped.holds (stepped : Stepped hooks graphics 0 h) : Holds hooks graphics h := stepped

theorem Begun.failed {later : List Hook} {mode : Bool} (begun : Begun hooks graphics code h)
    (failed : code ≠ 0) : Begun later mode 1 h := by
  rw [Begun, if_neg failed] at begun
  exact begun.failed failed (by decide)

theorem Stepped.failed {later : List Hook} {mode : Bool} (stepped : Stepped hooks graphics code h)
    (failed : code ≠ 0) : Stepped later mode 1 h := by
  rw [Stepped, if_neg failed] at stepped
  exact stepped

/-- Entered while the first policies and mode are held, the program returns 0 with the other ones,
or it is stuck. -/
def Steps (hooks : List Hook) (graphics : Bool) (program : Program Message Nat)
    (later : List Hook) (mode : Bool) : Prop :=
  held.Triple (Holds hooks graphics) program (Stepped later mode)

def Begins (program : Program Message Nat) (later : List Hook) (mode : Bool) : Prop :=
  held.Triple (· = Held.idle) program (Begun later mode)

theorem Changes.steps {step : Program Message Nat} {change : Held → Held}
    (changes : Changes step change) (busy : hooks ≠ [] ∨ graphics = true)
    (next : ∀ h, Holds hooks graphics h → Holds later mode (change h)) :
    Steps hooks graphics step later mode := by
  intro h holds
  refine (changes h h rfl).mono (fun code trace same last ended => ?_)
  rw [same last ended, Stepped]
  by_cases zero : code = 0
  · rw [if_pos zero, if_pos zero]
    exact next h holds
  · rw [if_neg zero, if_neg zero]
    exact holds.stuck busy

theorem Changes.begins {step : Program Message Nat} {change : Held → Held}
    (changes : Changes step change) (next : Holds later mode (change Held.idle)) :
    Begins step later mode := by
  rintro h rfl
  refine (changes Held.idle Held.idle rfl).mono (fun code trace same last ended => ?_)
  rw [same last ended, Begun]
  by_cases zero : code = 0
  · rw [if_pos zero, if_pos zero]
    exact next
  · rw [if_neg zero, if_neg zero]
    exact idle_ends

theorem Steps.check {step rest : Program Message Nat} (first : Steps hooks graphics step later mode)
    (goes : Steps later mode rest last final) :
    Steps hooks graphics (Proj.check step rest) last final :=
  check_triple first (goes.mono (fun _ stepped => stepped.holds) (fun _ _ ends => ends))
    (fun _ _ failed stepped => stepped.failed failed)

theorem Begins.check {step rest : Program Message Nat} (first : Begins step hooks graphics)
    (goes : Steps hooks graphics rest later mode) : Begins (Proj.check step rest) later mode :=
  check_triple first (goes.mono (fun _ begun => begun.holds) (fun _ _ ends => ends.begun))
    (fun _ _ failed begun => begun.failed failed)

theorem Steps.done : Steps hooks graphics (pure 0 : Program Message Nat) hooks graphics :=
  .pure (fun _ holds => holds)

theorem Begins.ends {program : Program Message Nat} (begins : Begins program [] false) :
    held.Triple (· = Held.idle) program Ends := by
  refine begins.mono (fun _ same => same) (fun code h begun => ?_)
  by_cases zero : code = 0
  · rw [zero] at begun ⊢
    exact begun.holds.ends
  · rw [Begun, if_neg zero] at begun
    exact begun

theorem unaware_steps {step : Program Message Nat} (unaware : held.Unaware step)
    (busy : hooks ≠ [] ∨ graphics = true) : Steps hooks graphics step hooks graphics := by
  refine (unaware.keeps (Holds hooks graphics)).mono (fun _ holds => holds) (fun code h holds => ?_)
  rw [Stepped]
  split
  · exact holds
  · exact holds.stuck busy

theorem subscribeInt_begins (irq : Nat) (exclusive : Bool) (hook : Hook) :
    Begins (subscribeInt irq exclusive hook : Program Message Nat) [hook] false := by
  refine (subscribeInt_changes irq exclusive hook).begins ⟨fun other => ?_, rfl, rfl⟩
  cases hook <;> cases other <;> rfl

theorem Holds.installed (holds : Holds hooks graphics h) (hook : Hook) :
    Holds (hook :: hooks) graphics (h.installed hook) := by
  refine ⟨fun other => ?_, holds.graphics, rfl⟩
  change Function.update h.policies hook true other = _
  by_cases same : other = hook
  · rw [same, Function.update_self]
    simp
  · rw [Function.update_of_ne same, holds.policies, List.contains_cons, beq_false_of_ne same,
      Bool.false_or]

theorem Holds.removed (holds : Holds hooks graphics h) (once : hooks.Nodup) (hook : Hook) :
    Holds (hooks.erase hook) graphics (h.removed hook) := by
  refine ⟨fun other => ?_, holds.graphics, holds.touched⟩
  change Function.update h.policies hook false other = _
  by_cases same : other = hook
  · rw [same, Function.update_self]
    simp [once.mem_erase_iff]
  · rw [Function.update_of_ne same, holds.policies]
    simp [List.mem_erase_of_ne same]

theorem subscribeInt_steps (irq : Nat) (exclusive : Bool) (hook : Hook)
    (busy : hooks ≠ [] ∨ graphics = true) :
    Steps hooks graphics (subscribeInt irq exclusive hook : Program Message Nat) (hook :: hooks)
      graphics :=
  (subscribeInt_changes irq exclusive hook).steps busy (fun _ holds => holds.installed hook)

theorem unsubscribeInt_steps (hook : Hook) (once : hooks.Nodup)
    (busy : hooks ≠ [] ∨ graphics = true) :
    Steps hooks graphics (unsubscribeInt hook : Program Message Nat) (hooks.erase hook) graphics :=
  (unsubscribeInt_changes hook).steps busy (fun _ holds => holds.removed once hook)

theorem vgExit_steps : Steps hooks true (vgExit : Program Message Nat) hooks false :=
  vgExit_changes.steps (.inr rfl) (fun _ holds => ⟨holds.policies, rfl, holds.touched⟩)

/-- `if (setUp()) return 1;`, a loop, and the tear-down. -/
theorem session_triple {State : Type} {waits : EventLoop State Message} {s : State}
    {setUp tearDown : Program Message Nat} {pre : Held → Prop}
    {middle post : Nat → Held → Prop}
    (first : held.Triple pre setUp middle) (ends : held.Triple (middle 0) tearDown post)
    (fails : ∀ code h, code ≠ 0 → middle code h → post 1 h) :
    held.Triple pre (session setUp waits s tearDown) (fun result => post result.1) := by
  refine check_triple first ?_ fails
  have asks : held.Unaware (call .driverReceive : Program Message Message) := .ask (fun _ _ => rfl)
  refine (Device.Unaware.eventLoop asks s).andThen (fun s => ?_)
  exact ends.bind (fun code => .pure (fun _ left => left))

theorem session_begins {State : Type} {waits : EventLoop State Message} {s : State}
    {setUp tearDown : Program Message Nat} (first : Begins setUp hooks graphics)
    (ends : Steps hooks graphics tearDown later mode) :
    Begins (Prod.fst <$> session setUp waits s tearDown) later mode := by
  refine Device.Triple.bind (session_triple first (ends.mono (fun _ begun => begun.holds)
    (fun _ _ stepped => stepped.begun)) (fun _ _ failed begun => begun.failed failed)) ?_
  exact fun result => .pure (fun _ left => left)

theorem session_steps {State : Type} {waits : EventLoop State Message} {s : State}
    {setUp tearDown : Program Message Nat} (first : Steps hooks graphics setUp later mode)
    (ends : Steps later mode tearDown last final) :
    Steps hooks graphics (Prod.fst <$> session setUp waits s tearDown) last final := by
  refine Device.Triple.bind (session_triple first (ends.mono (fun _ stepped => stepped.holds)
    (fun _ _ stepped => stepped)) (fun _ _ failed stepped => stepped.failed failed)) ?_
  exact fun result => .pure (fun _ left => left)

end Rules

theorem held_utilSysInb (port : Nat) :
    held.Unaware (utilSysInb port : Program Message (Option UInt8)) :=
  utilSysInb_unaware (fun _ _ => rfl)

theorem held_sysOutb (port : Nat) (value : UInt8) :
    held.Unaware (sysOutb port value : Program Message Nat) :=
  sysOutb_unaware (fun _ _ => rfl)

theorem held_sendMouseCommand (cmd : UInt8) (s : Sending) :
    held.Unaware (sendMouseCommand cmd s : Program Message _) :=
  sendMouseCommand_unaware (fun _ _ => held_utilSysInb _) (fun _ _ _ => held_sysOutb _ _)
    (.ask (fun _ _ => rfl)) cmd s

theorem timerTestInt_begins (time : UInt8) (hz : UInt32) (s : Lab2.Elapsed) :
    Begins (Prod.fst <$> Lab2.timerTestInt time hz s) [] false :=
  session_begins (subscribeInt_begins _ _ .timer)
    (.check (unsubscribeInt_steps .timer (by decide) (by decide)) .done)

theorem kbdTestScan_begins (bytes : UInt8 × UInt8) :
    Begins (Prod.fst <$> Lab3.kbdTestScan bytes) [] false :=
  session_begins (subscribeInt_begins _ _ .kbd)
    (.check (unsubscribeInt_steps .kbd (by decide) (by decide)) .done)

theorem kbdTestTimedScan_begins (n : UInt8) (bytes : UInt8 × UInt8) (auxCounter : UInt32) :
    Begins (Prod.fst <$> Lab3.kbdTestTimedScan n bytes auxCounter) [] false :=
  session_begins
    (.check (subscribeInt_begins _ _ .kbd)
      (.check (subscribeInt_steps _ _ .timer (by decide)) .done))
    (.check (unsubscribeInt_steps .timer (by decide) (by decide))
      (.check (unsubscribeInt_steps .kbd (by decide) (by decide)) .done))

section Video

open Lcom.Lab5 (Missing Vg Move)

structure Documented (missing : Missing) : Prop where
  subscribes : Changes missing.kbdSubscribeInt (Held.installed .kbd)
  unsubscribes : Changes missing.kbdUnsubscribeInt (Held.removed .kbd)

def keyboardOfProj : Missing where
  platform := Lab5.sixtyHz
  macros := ⟨0x04, 0x06, by decide⟩
  kbdSubscribeInt := Proj.kbdSubscribeInt
  kbdUnsubscribeInt := Proj.kbdUnsubscribeInt
  info base := ⟨base, 0, 0, 0, 0, 0, 0⟩

theorem keyboardOfProj_documented : Documented keyboardOfProj :=
  ⟨subscribeInt_changes _ _ .kbd, unsubscribeInt_changes .kbd⟩

variable {missing : Missing} (documented : Documented missing)

include documented in
theorem waitEsckey_steps (scancode : UInt8) :
    Steps [] true (Prod.fst <$> Lab5.waitEsckey missing scancode) [] true :=
  session_steps
    (documented.subscribes.steps (.inr rfl) (fun _ holds => holds.installed .kbd))
    (.check (documented.unsubscribes.steps (.inr rfl)
      (fun _ holds => holds.removed (by decide) .kbd)) .done)

theorem vgGetModeInfoCalls_unaware (missing : Missing) (mode : UInt16) :
    held.Unaware (Lab5.vgGetModeInfoCalls missing mode) := by
  refine .bind (.ask (fun _ _ => rfl)) (fun info => ?_)
  cases Lab5.vgGetModeInfo (info.map missing.info) with
  | none => exact .pure _
  | some known =>
      refine .bind (.ask (fun _ _ => rfl)) (fun added => ?_)
      split
      · refine .bind (.ask (fun _ _ => rfl)) (fun mapped => ?_)
        split
        · exact .pure _
        · exact .halt
      · exact .halt

theorem vgInitialize_triple (missing : Missing) (mode : UInt16) :
    held.Triple (· = Held.idle) (Lab5.vgInitialize missing mode) (fun result last =>
      match result with
      | none => Ends 1 last
      | some _ => Holds [] true last) := by
  refine (vgGetModeInfoCalls_unaware missing mode).andThen (fun known => ?_)
  cases known with
  | none =>
      refine .pure ?_
      rintro h rfl
      exact idle_ends
  | some vg =>
      have sets : Begins (vgSetMode mode : Program Lab5.Message Nat) [] true :=
        (vgSetMode_changes mode).begins ⟨fun _ => rfl, rfl, rfl⟩
      refine sets.bind (fun code => .pure (fun h begun => ?_))
      by_cases zero : code = 0
      · rw [if_neg (not_not.mpr zero)]
        rw [zero] at begun
        exact begun.holds
      · rw [if_pos zero]
        rw [Begun, if_neg zero] at begun
        exact begun.failed zero (by decide)

theorem initialized_begins {α : Type} {missing : Missing} {mode : UInt16}
    {next : Option Vg → Program Lab5.Message (Nat × α)} {value : α}
    (fails : next none = pure (1, value))
    (goes : ∀ vg, held.Triple (Holds [] true) (next (some vg))
      (fun result => Stepped [] false result.1)) :
    Begins (Prod.fst <$> (Lab5.vgInitialize missing mode >>= next)) [] false := by
  have whole : held.Triple (· = Held.idle) (Lab5.vgInitialize missing mode >>= next)
      (fun result => Begun [] false result.1) := by
    refine (vgInitialize_triple missing mode).bind (fun result => ?_)
    cases result with
    | none =>
        rw [fails]
        exact .pure (fun _ ends => ends)
    | some vg => exact (goes vg).mono (fun _ holds => holds) (fun _ _ stepped => stepped.begun)
  exact whole.bind (fun result => .pure (fun _ left => left))

theorem videoTestInit_begins (missing : Missing) (mode : UInt16) (delay : UInt8) :
    Begins (Prod.fst <$> Lab5.videoTestInit missing mode delay) [] false := by
  refine initialized_begins rfl (fun vg => ?_)
  have sleeps : held.Unaware (call (.sleep delay.toNat) : Program Lab5.Message Unit) :=
    .ask (fun _ _ => rfl)
  have exits : Steps [] true (check vgExit (pure 0) : Program Lab5.Message Nat) [] false :=
    .check vgExit_steps .done
  exact sleeps.andThen (fun _ => exits.bind (fun code => .pure (fun _ left => left)))

include documented in
theorem videoTest_begins (mode : UInt16) (scancode : UInt8)
    (draw : Vg → Option (Nat × List Lab5.PixelCall)) :
    Begins (Prod.fst <$> Lab5.videoTest missing mode scancode draw) [] false := by
  refine initialized_begins rfl (fun vg => ?_)
  dsimp only
  cases draw vg with
  | none => exact .halt
  | some drawn =>
      obtain ⟨code, pixels⟩ := drawn
      dsimp only
      split
      · exact .pure (fun h holds => holds.stuck (.inr rfl))
      · have waits : Steps [] true (check (Prod.fst <$> Lab5.waitEsckey missing scancode)
            (check vgExit (pure 0))) [] false :=
          .check (waitEsckey_steps documented scancode) (.check vgExit_steps .done)
        exact waits.bind (fun code => .pure (fun _ left => left))

include documented in
theorem videoTestMove_begins (move : Move) (img : XpmImage) (scancode : UInt8) :
    Begins (Prod.fst <$> Lab5.videoTestMove missing move img scancode) [] false := by
  unfold Lab5.videoTestMove
  split
  · exact Device.Triple.bind .halt (fun result => .pure (fun _ left => left))
  · cases move.plan missing.platform with
    | none =>
        refine .pure ?_
        rintro h rfl
        exact idle_ends
    | some plan =>
        refine initialized_begins rfl (fun vg => ?_)
        have kbd : Steps [.timer] true missing.kbdSubscribeInt [.kbd, .timer] true :=
          documented.subscribes.steps (.inr rfl) (fun _ holds => holds.installed .kbd)
        have waits : held.Unaware (call .driverReceive : Program Lab5.Message Lab5.Message) :=
          .ask (fun _ _ => rfl)
        have removed : Steps [.kbd, .timer] false missing.kbdUnsubscribeInt [.timer] false :=
          documented.unsubscribes.steps (.inl (by decide))
            (fun _ holds => holds.removed (by decide) .kbd)
        have ends : Steps [.kbd, .timer] true (check vgExit (check missing.kbdUnsubscribeInt
            (check timerUnsubscribeInt (pure 0)))) [] false :=
          .check vgExit_steps (.check removed
            (.check (unsubscribeInt_steps .timer (by decide) (by decide)) .done))
        refine check_triple (subscribeInt_steps _ _ .timer (.inr rfl)) ?_
          (fun _ _ failed stepped => stepped.failed failed)
        refine check_triple (kbd.mono (fun _ stepped => stepped.holds) (fun _ _ stepped => stepped))
          ?_ (fun _ _ failed stepped => stepped.failed failed)
        refine (Device.Unaware.eventLoop waits _).andThen (fun s => ?_)
        exact (ends.mono (fun _ stepped => stepped.holds) (fun _ _ stepped => stepped)).bind
          (fun code => .pure (fun _ left => left))

end Video

theorem mainLoop_held (cfg : Config) (w : World) : held.Unaware (mainLoop cfg w) := by
  refine .loop w (fun w => ?_)
  unfold mainRound
  split
  · exact .pure _
  · refine .bind (.ask (fun _ _ => rfl)) (fun message => ?_)
    cases gameStep cfg w message with
    | none => exact .halt
    | some w => exact .pure _

theorem rtcChange_held (change : UInt8 → UInt8) :
    held.Unaware (rtcChange change : Program Message Nat) := by
  have checks : ∀ {step rest : Program Message Nat}, held.Unaware step → held.Unaware rest →
      held.Unaware (check step rest) := by
    intro step rest first second
    refine .bind first (fun code => ?_)
    split
    · exact .pure _
    · exact second
  have reads : held.Unaware (rtcRead regB : Program Message (Option UInt8)) := by
    refine .bind (held_sysOutb _ _) (fun code => ?_)
    split
    · exact .pure _
    · exact held_utilSysInb _
  refine .bind reads (fun byte => ?_)
  cases byte with
  | none => exact .pure _
  | some data =>
      exact checks (checks (held_sysOutb _ _) (checks (held_sysOutb _ _) (.pure _))) (.pure _)

theorem tearDown_steps (locals : Locals) (w : World) :
    Steps [.rtc, .timer, .kbd, .mouse] true (tearDown locals w) [] false :=
  .check (unaware_steps (rtcChange_held _) (by decide)) <|
  .check (unsubscribeInt_steps .rtc (by decide) (by decide)) <|
  .check (unsubscribeInt_steps .timer (by decide) (by decide)) <|
  .check (unaware_steps (.bind (held_sendMouseCommand _ _) (fun _ => .pure _)) (by decide)) <|
  .check (unsubscribeInt_steps .mouse (by decide) (by decide)) <|
  .check (unsubscribeInt_steps .kbd (by decide) (by decide)) <|
  .check vgExit_steps .done

theorem setUp_steps (cfg : Config) (locals : Locals) :
    Steps [] true (setUp cfg locals) [] false := by
  refine .check (subscribeInt_steps _ _ .mouse (by decide)) ?_
  refine (held_sendMouseCommand _ _).andThen (fun result => ?_)
  dsimp only
  split
  · exact .pure (fun h holds => holds.stuck (by decide))
  · have plays : Steps [.rtc, .timer, .kbd, .mouse] true (play cfg locals result.2) [] false := by
      refine Device.Unaware.andThen (.ask (fun _ _ => rfl)) (fun _ => ?_)
      exact (mainLoop_held cfg _).andThen (fun w => tearDown_steps locals w)
    exact Steps.check (subscribeInt_steps _ _ .kbd (by decide)) <|
      .check (subscribeInt_steps _ _ .timer (by decide)) <|
      .check (subscribeInt_steps _ _ .rtc (by decide)) <|
      .check (unaware_steps (rtcChange_held _) (by decide)) plays

theorem gameLoopProgram_begins (cfg : Config) (locals : Locals) :
    Begins (gameLoopProgram cfg locals) [] false := by
  have asks : held.Unaware (vgGetModeInfo 0x105 : Program Proj.Message _) := by
    refine .bind (.ask (fun _ _ => rfl)) (fun info => ?_)
    cases info with
    | none => exact .pure _
    | some info =>
        refine .bind (.ask (fun _ _ => rfl)) (fun added => ?_)
        split
        · refine .bind (.ask (fun _ _ => rfl)) (fun mapped => ?_)
          split
          · exact .pure _
          · exact .halt
        · exact .halt
  refine asks.andThen (fun info => ?_)
  cases info with
  | none =>
      refine .pure ?_
      rintro h rfl
      exact idle_ends
  | some info =>
      have sets : Begins (vgSetMode 0x105 : Program Proj.Message Nat) [] true :=
        (vgSetMode_changes 0x105).begins ⟨fun _ => rfl, rfl, rfl⟩
      exact sets.check (setUp_steps cfg locals)

/-- The functions of the repository that set something up and take it down again. -/
inductive Session : {Message : Type} → Program Message Nat → Prop where
  | gameLoop (cfg : Config) (locals : Locals) : Session (gameLoopProgram cfg locals)
  | timerTestInt (time : UInt8) (hz : UInt32) (s : Lab2.Elapsed) :
      Session (Prod.fst <$> Lab2.timerTestInt time hz s)
  | kbdTestScan (bytes : UInt8 × UInt8) : Session (Prod.fst <$> Lab3.kbdTestScan bytes)
  | kbdTestTimedScan (n : UInt8) (bytes : UInt8 × UInt8) (auxCounter : UInt32) :
      Session (Prod.fst <$> Lab3.kbdTestTimedScan n bytes auxCounter)
  | videoTestInit (missing : Lab5.Missing) (mode : UInt16) (delay : UInt8) :
      Session (Prod.fst <$> Lab5.videoTestInit missing mode delay)
  | videoTestRectangle (missing : Lab5.Missing) (documented : Documented missing) (mode : UInt16)
      (rectangle : Lab5.RectangleCall) (scancode : UInt8) :
      Session (Prod.fst <$> Lab5.videoTestRectangle missing mode rectangle scancode)
  | videoTestPattern (missing : Lab5.Missing) (documented : Documented missing) (mode : UInt16)
      (noRectangles : UInt8) (first : UInt32) (step scancode : UInt8) :
      Session (Prod.fst <$> Lab5.videoTestPattern missing mode noRectangles first step scancode)
  | videoTestXpm (missing : Lab5.Missing) (documented : Documented missing) (alien1 : XpmImage)
      (x y : UInt16) (scancode : UInt8) :
      Session (Prod.fst <$> Lab5.videoTestXpm missing alien1 x y scancode)
  | videoTestMove (missing : Lab5.Missing) (documented : Documented missing) (move : Lab5.Move)
      (img : XpmImage) (scancode : UInt8) :
      Session (Prod.fst <$> Lab5.videoTestMove missing move img scancode)

theorem Session.begins {program : Program Message Nat} (session : Session program) :
    Begins program [] false := by
  cases session with
  | gameLoop cfg locals => exact gameLoopProgram_begins cfg locals
  | timerTestInt time hz s => exact timerTestInt_begins time hz s
  | kbdTestScan bytes => exact kbdTestScan_begins bytes
  | kbdTestTimedScan n bytes auxCounter => exact kbdTestTimedScan_begins n bytes auxCounter
  | videoTestInit missing mode delay => exact videoTestInit_begins missing mode delay
  | videoTestRectangle missing documented mode rectangle scancode =>
      exact videoTest_begins documented mode scancode _
  | videoTestPattern missing documented mode noRectangles first step scancode =>
      exact videoTest_begins documented mode scancode _
  | videoTestXpm missing documented alien1 x y scancode =>
      exact videoTest_begins documented 0x14C scancode _
  | videoTestMove missing documented move img scancode =>
      exact videoTestMove_begins documented move img scancode

/-- Whatever fails in a session: no policy is left and the screen is in text mode exactly if the
function returns 0, or returns before it has set anything up. -/
theorem sessions_undone {program : Program Message Nat} (session : Session program)
    (answers : List (Answer (Reply Message))) (ended : Ended (Reply Message) Nat)
    (ran : program answers = some ended) :
    (Held.idle.after ended.trace).Undone ↔
      ended.value = 0 ∨ (Held.idle.after ended.trace).touched = false :=
  session.begins.ends Held.idle rfl answers ended ran _ (held_after ended.trace Held.idle)

/-- A keyboard notification whose byte is the break code of the escape key, to calls that succeed. -/
def escaping : Answer (Reply Lab5.Message) :=
  scripted (fun _ => some 0x00) true (.interrupts true false 0x81)

/-- A game that is left from the menu, and a rectangle that is left with the escape key. -/
theorem sessions_undone_obliging :
    (∃ ended, gameLoopProgram sampleConfig sampleLocals (List.replicate 35 obliging) = some ended ∧
      (Held.idle.after ended.trace).touched = true ∧ (Held.idle.after ended.trace).Undone) ∧
    ∃ ended, (Prod.fst <$> Lab5.videoTestRectangle keyboardOfProj 0x105 ⟨3, 2, 2, 1, 7⟩ 0)
        (List.replicate 8 escaping) = some ended ∧
      (Held.idle.after ended.trace).touched = true ∧ (Held.idle.after ended.trace).Undone := by
  have game : (gameLoopProgram sampleConfig sampleLocals (List.replicate 35 obliging)).any
      (fun ended => decide (ended.value = 0 ∧ (Held.idle.after ended.trace).touched = true)) =
        true := by decide +kernel
  have test : ((Prod.fst <$> Lab5.videoTestRectangle keyboardOfProj 0x105 ⟨3, 2, 2, 1, 7⟩ 0)
      (List.replicate 8 escaping)).any
        (fun ended => decide (ended.value = 0 ∧ (Held.idle.after ended.trace).touched = true)) =
          true := by decide +kernel
  constructor
  · obtain ⟨ended, ran, holds⟩ := (Option.any_eq_true _ _).mp game
    obtain ⟨zero, touched⟩ := of_decide_eq_true holds
    exact ⟨ended, ran, touched,
      (sessions_undone (.gameLoop sampleConfig sampleLocals) _ ended ran).mpr (.inl zero)⟩
  · obtain ⟨ended, ran, holds⟩ := (Option.any_eq_true _ _).mp test
    obtain ⟨zero, touched⟩ := of_decide_eq_true holds
    exact ⟨ended, ran, touched, (sessions_undone
      (.videoTestRectangle keyboardOfProj keyboardOfProj_documented 0x105 ⟨3, 2, 2, 1, 7⟩ 0)
      _ ended ran).mpr (.inl zero)⟩

theorem Changes.yields {step : Program Message Nat} {change : Held → Held}
    (changes : Changes step change) : Dialogue.Yields step (fun code trace =>
      ∀ h : Held, h.after trace = if code = 0 then change h else h) :=
  fun answers ended ran h => changes h h rfl answers ended ran _ (held_after ended.trace h)

theorem unaware_yields {α : Type} {program : Program Message α} (unaware : held.Unaware program) :
    Dialogue.Yields program (fun _ trace => ∀ h : Held, h.after trace = h) :=
  fun answers ended ran h => unaware h h rfl answers ended ran _ (held_after ended.trace h)

theorem subscribeInt_reporting (irq : Nat) (exclusive : Bool) (hook : Hook) :
    Keeps System.reporting (subscribeInt irq exclusive hook : Program Message Nat) := by
  refine .bind (.call (fun s done => ?_)) (fun _ => .pure _)
  cases done with
  | false => rfl
  | true => rfl

theorem sendMouseCommand_held (cmd : UInt8) (s : Sending) :
    held.Unaware (Lab4.sendMouseCommand cmd s : Program Message _) := by
  rw [Lab4.sendMouseCommand_eq]
  exact held_sendMouseCommand cmd s

theorem enable_reports (s : Sending) :
    Dialogue.Yields (Lab4.sendMouseCommand enableMouse s : Program Message _)
      (fun result trace => result.1 = 0 → s.ack ≠ Proj.ack →
        ∀ t : System, (t.after trace).reporting = true) := by
  rw [Lab4.sendMouseCommand_eq]
  intro answers ended ran zero other t
  obtain ⟨before, status, aux, sent, _⟩ :=
    sendMouseCommand_later _ s other answers ended ran zero
  rw [sent, after_append]
  rfl

theorem disable_hushes (s : Sending) :
    Dialogue.Yields (Lab4.sendMouseCommand disableMouse s : Program Message _)
      (fun result trace => result.1 = 0 → s.ack ≠ Proj.ack →
        ∀ t : System, (t.after trace).reporting = false) := by
  rw [Lab4.sendMouseCommand_eq]
  exact fun answers ended ran zero other t =>
    (sendMouseCommand_later _ s other answers ended ran zero).silences t

/-- How the test returns: 0 with nothing left and the mouse silent, or 1, and then a policy that is
left means that the mouse goes on reporting. -/
def PacketEnds (enableAck disableAck : UInt8) (code : Nat)
    (trace : List (Event (Reply Message))) : Prop :=
  (code = 0 → (Held.idle.after trace).Undone ∧
    (disableAck ≠ Proj.ack → (System.idle.after trace).reporting = false)) ∧
  (¬ (Held.idle.after trace).Undone → code = 1 ∧
    (enableAck ≠ Proj.ack → (System.idle.after trace).reporting = true))

theorem packetEnds_failed {enableAck disableAck : UInt8} {trace : List (Event (Reply Message))}
    (undone : (Held.idle.after trace).Undone) : PacketEnds enableAck disableAck 1 trace :=
  ⟨nofun, fun left => absurd undone left⟩

theorem Held.after_append (said trace : List (Event (Reply Message))) (h : Held) :
    h.after (said ++ trace) = (h.after said).after trace := List.foldl_append

theorem eventLoop_keeps {State : Type} (part : System → Bool) (waits : EventLoop State Message)
    (s : State) : Keeps part (waits.program (call .driverReceive) s) := by
  have asks : Keeps part (call .driverReceive : Program Message Message) := .call (fun _ _ => rfl)
  have round (s : State) : Keeps part (waits.ask (call .driverReceive) s) := by
    unfold EventLoop.ask
    split
    · exact asks.bind (fun _ => .pure _)
    · exact .pure _
  exact .loop s round

theorem mouseTestPacket_ends (cnt : UInt32) (globals : MouseGlobals) (bytes : MouseBytes)
    (enableAck disableAck : UInt8) :
    Dialogue.Yields (Lab4.mouseTestPacket cnt globals bytes enableAck disableAck)
      (fun result trace => PacketEnds enableAck disableAck result.1 trace) := by
  have idle : Held.idle.Undone := ⟨fun _ => rfl, rfl⟩
  have removed : ((Held.idle.installed .mouse).removed .mouse).Undone := by
    refine ⟨fun hook => ?_, rfl⟩
    cases hook <;> rfl
  have waits : held.Unaware (call .driverReceive : Program (Receipt PortReads) _) :=
    .ask (fun _ _ => rfl)
  have quiet : Keeps System.reporting (unsubscribeInt .mouse : Program (Receipt PortReads) Nat) :=
    unsubscribeInt_keeps .mouse (fun _ _ => rfl)
  refine .bind ((unaware_yields (sendMouseCommand_held _ _)).and (enable_reports _)) ?_
  rintro ⟨code, statuscode⟩ said ⟨unheld, reports⟩
  dsimp only at reports ⊢
  split
  · refine .pure (packetEnds_failed ?_)
    rwa [List.append_nil, unheld]
  rename_i enabled
  refine .bind ((subscribeInt_changes mouseIrq true .mouse).yields.and
    (subscribeInt_reporting mouseIrq true .mouse)) ?_
  rintro code first ⟨installs, same⟩
  split
  · rename_i failed
    refine .pure (packetEnds_failed ?_)
    rwa [List.append_nil, Held.after_append, unheld, installs, if_neg failed]
  rename_i installed
  refine .bind ((unaware_yields (Device.Unaware.eventLoop waits _)).and
    (eventLoop_keeps System.reporting _ _)) ?_
  rintro s heard ⟨ignores, unchanged⟩
  refine .bind ((unsubscribeInt_changes .mouse).yields.and quiet) ?_
  rintro code last ⟨removes, kept⟩
  split
  · refine .pure ⟨nofun, fun _ => ⟨rfl, fun other => ?_⟩⟩
    have subscribed := (same (System.idle.after said)).trans
      (reports (not_not.mp enabled) other System.idle)
    rw [List.append_nil, Proj.after_append, Proj.after_append, Proj.after_append, kept]
    exact (unchanged _).trans subscribed
  · rename_i gone
    refine .bind ((unaware_yields (sendMouseCommand_held _ _)).and (disable_hushes _)) ?_
    rintro ⟨code, statuscode⟩ final ⟨unnoticed, hushed⟩
    have undone : (Held.idle.after (said ++ (first ++ (heard ++ (last ++ final))))).Undone := by
      rw [Held.after_append, Held.after_append, Held.after_append, Held.after_append, unheld,
        installs, if_pos (not_not.mp installed), ignores, removes, if_pos (not_not.mp gone),
        unnoticed]
      exact removed
    refine .pure ?_
    rw [List.append_nil]
    refine ⟨fun zero => ⟨undone, fun other => ?_⟩, fun left => absurd undone left⟩
    have fine : code = 0 := by
      by_contra bad
      rw [if_pos bad] at zero
      cases zero
    rw [Proj.after_append, Proj.after_append, Proj.after_append, Proj.after_append]
    exact hushed fine other _

theorem mouse_silenced (cnt : UInt32) (globals : MouseGlobals) (bytes : MouseBytes)
    (enableAck disableAck : UInt8) (answers : List (Answer (Reply (Receipt PortReads))))
    (ended : Ended (Reply (Receipt PortReads)) (Nat × Lab4.PacketTest))
    (ran : Lab4.mouseTestPacket cnt globals bytes enableAck disableAck answers = some ended) :
    (ended.value.1 = 0 → (Held.idle.after ended.trace).Undone ∧
      (disableAck ≠ Proj.ack → (System.idle.after ended.trace).reporting = false)) ∧
    (¬ (Held.idle.after ended.trace).Undone → ended.value.1 = 1 ∧
      (enableAck ≠ Proj.ack → (System.idle.after ended.trace).reporting = true)) :=
  mouseTestPacket_ends cnt globals bytes enableAck disableAck answers ended ran

def acknowledging (receipt : Receipt PortReads) : Answer (Reply (Receipt PortReads)) :=
  answering (fun port => if port = outBuf then some 0xFA else some 0x00) true receipt

def onePacket : List (Answer (Reply (Receipt PortReads))) :=
  List.replicate 7 (acknowledging .failed) ++
    [acknowledging (.notify true 2#64 ⟨some 0x21, some 0x08⟩),
      acknowledging (.notify true 2#64 ⟨some 0x21, some 0x05⟩),
      acknowledging (.notify true 2#64 ⟨some 0x21, some 0xFF⟩)] ++
    List.replicate 7 (acknowledging .failed)

theorem mouse_silenced_one : ∃ ended,
    Lab4.mouseTestPacket 1 ⟨0, 0, false⟩ ⟨0, 0, 0⟩ 0 0 onePacket = some ended ∧
    (Held.idle.after ended.trace).touched = true ∧ (Held.idle.after ended.trace).Undone ∧
    (System.idle.after ended.trace).reporting = false := by
  have evaluated : (Lab4.mouseTestPacket 1 ⟨0, 0, false⟩ ⟨0, 0, 0⟩ 0 0 onePacket).any
      (fun ended => decide (ended.value.1 = 0 ∧ (Held.idle.after ended.trace).touched = true)) =
        true := by decide +kernel
  obtain ⟨ended, ran, holds⟩ := (Option.any_eq_true _ _).mp evaluated
  obtain ⟨zero, touched⟩ := of_decide_eq_true holds
  obtain ⟨undone, silent⟩ :=
    (mouse_silenced 1 ⟨0, 0, false⟩ ⟨0, 0, 0⟩ 0 0 onePacket ended ran).1 zero
  exact ⟨ended, ran, touched, undone, silent (by decide)⟩

end Lcom
