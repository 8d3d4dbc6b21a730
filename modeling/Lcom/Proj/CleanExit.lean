import Lcom.Proj.Acknowledge
import Lcom.Proj.Play

/-! What `game_loop` leaves behind when it returns: interrupt policies and the video mode. -/

namespace Lcom.Proj

open Lcom.Lib Lcom.Minix

/-- What the calls of a run have set up so far: the policies, whether `vg_set_mode` has succeeded
and `vg_exit` has been called, the video mode, whether the next argument goes to the mouse,
whether it reports, the selected register of the RTC and the periodic bit of its register B. -/
structure System where
  policies : Hook → Bool
  modeSet : Bool
  exitCalled : Bool
  graphics : Bool
  toMouse : Bool
  reporting : Bool
  rtcRegister : UInt8
  periodic : Bool

def System.idle : System :=
  { policies := fun _ => false, modeSet := false, exitCalled := false, graphics := false,
    toMouse := false, reporting := false, rtcRegister := 0, periodic := false }

/-- The index of register B in the device, `RTC_REG_B` of `i386/cmos.h`. The `REG_B` of `rtc.h` is
another register. -/
def rtcRegisterB : UInt8 := 0x0B

def System.written (s : System) (port : Nat) (value : UInt8) : System :=
  if port = statReg then { s with toMouse := value == mouseCommand }
  else if port = argsReg then
    { s with
      toMouse := false
      reporting :=
        if s.toMouse ∧ value = enableMouse then true
        else if s.toMouse ∧ value = disableMouse then false
        else s.reporting }
  else if port = rtcAddrReg then { s with rtcRegister := value }
  else if port = rtcDataReg ∧ s.rtcRegister = rtcRegisterB then
    { s with periodic := value &&& pie != 0 }
  else s

variable {Message : Type}

def System.call (s : System) : Event (Reply Message) → System
  | ⟨.sysOutb port value, done⟩ =>
      let done : Bool := done
      if done then s.written port value else s
  | ⟨.sysIrqsetpolicy _ _ hook, done⟩ =>
      let done : Bool := done
      if done then { s with policies := Function.update s.policies hook true } else s
  | ⟨.sysIrqrmpolicy hook, done⟩ =>
      let done : Bool := done
      if done then { s with policies := Function.update s.policies hook false } else s
  | ⟨.sysInt86 _ _ _, regs⟩ =>
      let regs : Option (UInt8 × UInt8) := regs
      if regs = some (0x00, 0x4F) then { s with modeSet := true, graphics := true } else s
  | ⟨.vgExit, done⟩ =>
      let done : Bool := done
      { s with exitCalled := true, graphics := s.graphics && !done }
  | _ => s

def System.after (s : System) (trace : List (Event (Reply Message))) : System :=
  trace.foldl System.call s

theorem after_append (s : System) (said trace : List (Event (Reply Message))) :
    s.after (said ++ trace) = (s.after said).after trace := List.foldl_append

/-- Every policy has been removed, and `vg_exit` has been called if it had to be. -/
def System.Clean (s : System) : Prop :=
  (∀ hook, s.policies hook = false) ∧ (s.modeSet = true → s.exitCalled = true)

instance (s : System) : Decidable s.Clean :=
  decidable_of_iff ((∀ hook ∈ [Hook.mouse, .kbd, .timer, .rtc], s.policies hook = false) ∧
      (s.modeSet = true → s.exitCalled = true)) <| by
    refine and_congr_left' ⟨fun listed hook => listed hook ?_, fun all hook _ => all hook⟩
    cases hook <;> decide

/-- A call that fails once the video mode is set, or a mouse that refuses a command for good.
`vbe_get_mode_info` and `sys_int86` fail before that, a failure of `sys_privctl` or `vm_map_phys`
is a panic, and the results of the last four calls are not looked at or come too late. -/
def LateFailure : Event (Reply Message) → Prop
  | ⟨.sysInb port, aux⟩ =>
      let aux : Option UInt32 := aux
      aux = none ∨ port = outBuf ∧ aux.map UInt32.toUInt8 = some ackError
  | ⟨.sysOutb _ _, done⟩ => done = false
  | ⟨.sysIrqsetpolicy _ _ _, done⟩ => done = false
  | ⟨.sysIrqrmpolicy _, done⟩ => done = false
  | ⟨.vbeGetModeInfo _, _⟩ | ⟨.sysInt86 _ _ _, _⟩ => False
  | ⟨.sysPrivctl _ _, _⟩ | ⟨.vmMapPhys _ _, _⟩ => False
  | ⟨.tickdelay _, _⟩ | ⟨.sleep _, _⟩ | ⟨.driverReceive, _⟩ | ⟨.vgExit, _⟩ => False

def Succeeds (trace : List (Event (Reply Message))) : Prop := ∀ event ∈ trace, ¬ LateFailure event

theorem succeeds_append (said trace : List (Event (Reply Message))) :
    Succeeds (said ++ trace) ↔ Succeeds said ∧ Succeeds trace := by
  simp only [Succeeds, List.forall_mem_append]

/-- The step reports `ok` exactly if no call fails, changes the policies by `change` then, and
neither sets the video mode nor leaves it. -/
def Performs {α : Type} (step : Program Message α) (ok : α → Prop)
    (change : (Hook → Bool) → Hook → Bool) : Prop :=
  Dialogue.Yields step (fun result trace => (ok result ↔ Succeeds trace) ∧ ∀ s : System,
    ((s.after trace).modeSet = s.modeSet ∧ (s.after trace).exitCalled = s.exitCalled) ∧
      (ok result → (s.after trace).policies = change s.policies))

def RoundOk {σ α : Type} (ok : α → Prop) : Dialogue.Round σ α → Prop
  | .again _ => True
  | .done value => ok value

namespace Performs

variable {α β : Type} {ok : α → Prop} {change : (Hook → Bool) → Hook → Bool}

theorem pure {value : α} (good : ok value) :
    Performs (Pure.pure value : Program Message α) ok id := by
  refine Dialogue.Yields.pure ⟨iff_of_true good ?_, fun s => ⟨⟨rfl, rfl⟩, fun _ => rfl⟩⟩
  intro event member
  cases member

theorem bind {step : Program Message α} {next : α → Program Message β} {good : β → Prop}
    {later : (Hook → Bool) → Hook → Bool} (first : Performs step ok change)
    (goes : ∀ value, ok value → Performs (next value) good later)
    (fails : ∀ value, ¬ ok value → ∃ result, next value = Pure.pure result ∧ ¬ good result) :
    Performs (step >>= next) good (later ∘ change) := by
  refine Dialogue.Yields.bind first ?_
  rintro value said ⟨reported, effect⟩
  by_cases fine : ok value
  · refine (goes value fine).mono ?_
    rintro result trace ⟨reports, effects⟩
    constructor
    · rw [succeeds_append, reports]
      exact ⟨fun rest => ⟨reported.mp fine, rest⟩, fun both => both.2⟩
    · intro s
      obtain ⟨⟨mode, left⟩, policies⟩ := effect s
      obtain ⟨⟨modeLater, leftLater⟩, policiesLater⟩ := effects (s.after said)
      rw [after_append]
      refine ⟨⟨modeLater.trans mode, leftLater.trans left⟩, fun passed => ?_⟩
      rw [policiesLater passed, policies fine]
      rfl
  · obtain ⟨result, same, bad⟩ := fails value fine
    rw [same]
    refine Dialogue.Yields.pure ?_
    rw [List.append_nil]
    exact ⟨iff_of_false bad (fun success => fine (reported.mpr success)),
      fun s => ⟨(effect s).1, fun passed => absurd passed bad⟩⟩

theorem seq {step : Program Message α} {next : α → Program Message β} {good : β → Prop}
    (first : Performs step ok id) (goes : ∀ value, ok value → Performs (next value) good change)
    (fails : ∀ value, ¬ ok value → ∃ result, next value = Pure.pure result ∧ ¬ good result) :
    Performs (step >>= next) good change := first.bind goes fails

theorem map {step : Program Message α} {good : β → Prop} (first : Performs step ok change)
    (result : α → β) (reports : ∀ value, ok value ↔ good (result value)) :
    Performs (step >>= fun value => Pure.pure (result value)) good change := by
  have performs : Performs (step >>= fun value => Pure.pure (result value)) good (id ∘ change) :=
    first.bind (fun value fine => .pure ((reports value).mp fine))
      (fun value bad => ⟨_, rfl, fun fine => bad ((reports value).mpr fine)⟩)
  exact performs

theorem call {request : Request} {ok : Reply Message request → Prop}
    (reports : ∀ reply, ok reply ↔ ¬ LateFailure ⟨request, reply⟩)
    (effect : ∀ (s : System) reply,
      ((s.call ⟨request, reply⟩).modeSet = s.modeSet ∧
        (s.call ⟨request, reply⟩).exitCalled = s.exitCalled) ∧
      (ok reply → (s.call ⟨request, reply⟩).policies = change s.policies)) :
    Performs (Minix.call request) ok change := by
  refine Dialogue.Yields.ask ?_
  intro reply
  refine ⟨?_, fun s => effect s reply⟩
  rw [reports]
  simp [Succeeds]

theorem loop {σ : Type} {body : σ → Program Message (Dialogue.Round σ α)} (state : σ)
    (round : ∀ state, Performs (body state) (RoundOk ok) id) :
    Performs (Dialogue.loop body state) ok id := by
  refine Dialogue.Yields.loop (fun _ said => Succeeds said ∧ ∀ s : System,
    ((s.after said).modeSet = s.modeSet ∧ (s.after said).exitCalled = s.exitCalled) ∧
      (s.after said).policies = s.policies) ⟨by simp [Succeeds], fun s => ⟨⟨rfl, rfl⟩, rfl⟩⟩ ?_
  rintro state said ⟨success, kept⟩
  refine (round state).mono ?_
  rintro outcome trace ⟨reports, effects⟩
  cases outcome with
  | again next =>
      refine ⟨(succeeds_append _ _).mpr ⟨success, reports.mp trivial⟩, fun s => ?_⟩
      obtain ⟨⟨mode, left⟩, policies⟩ := kept s
      obtain ⟨⟨modeLater, leftLater⟩, policiesLater⟩ := effects (s.after said)
      rw [after_append]
      exact ⟨⟨modeLater.trans mode, leftLater.trans left⟩,
        (policiesLater trivial).trans policies⟩
  | done value =>
      refine ⟨?_, fun s => ?_⟩
      · rw [succeeds_append]
        exact ⟨fun good => ⟨success, reports.mp good⟩, fun both => reports.mpr both.2⟩
      · obtain ⟨⟨mode, left⟩, policies⟩ := kept s
        obtain ⟨⟨modeLater, leftLater⟩, policiesLater⟩ := effects (s.after said)
        rw [after_append]
        exact ⟨⟨modeLater.trans mode, leftLater.trans left⟩,
          fun good => (policiesLater good).trans policies⟩

end Performs

theorem written_keeps (s : System) (port : Nat) (value : UInt8) :
    ((s.written port value).modeSet = s.modeSet ∧
      (s.written port value).exitCalled = s.exitCalled) ∧
      (s.written port value).policies = s.policies := by
  unfold System.written
  split
  · exact ⟨⟨rfl, rfl⟩, rfl⟩
  · split
    · exact ⟨⟨rfl, rfl⟩, rfl⟩
    · split
      · exact ⟨⟨rfl, rfl⟩, rfl⟩
      · split
        · exact ⟨⟨rfl, rfl⟩, rfl⟩
        · exact ⟨⟨rfl, rfl⟩, rfl⟩

theorem coded_performs (request : Request) {change : (Hook → Bool) → Hook → Bool}
    (flag : Reply Message request → Bool)
    (reports : ∀ reply, flag reply = true ↔ ¬ LateFailure ⟨request, reply⟩)
    (effect : ∀ (s : System) reply,
      ((s.call ⟨request, reply⟩).modeSet = s.modeSet ∧
        (s.call ⟨request, reply⟩).exitCalled = s.exitCalled) ∧
      (flag reply = true → (s.call ⟨request, reply⟩).policies = change s.policies)) :
    Performs (call request >>= fun reply => pure (if flag reply then 0 else 1)) (· = 0) change := by
  have asked : Performs (call request) (fun reply => flag reply = true) change :=
    .call reports effect
  refine asked.map _ (fun reply => ?_)
  cases flag reply with
  | false => exact iff_of_false (by decide) (by decide)
  | true => exact iff_of_true rfl rfl

theorem sysOutb_performs (port : Nat) (value : UInt8) :
    Performs (sysOutb port value : Program Message Nat) (· = 0) id := by
  refine coded_performs (.sysOutb port value) (fun done => done)
    (fun done => (Iff.of_eq (Bool.not_eq_false done)).symm) ?_
  intro s done
  cases done with
  | false => exact ⟨⟨rfl, rfl⟩, fun _ => rfl⟩
  | true => exact ⟨(written_keeps s port value).1, fun _ => (written_keeps s port value).2⟩

theorem subscribeInt_performs (irq : Nat) (exclusive : Bool) (hook : Hook) :
    Performs (subscribeInt irq exclusive hook : Program Message Nat) (· = 0)
      (fun policies => Function.update policies hook true) := by
  refine coded_performs (.sysIrqsetpolicy irq exclusive hook) (fun done => done)
    (fun done => (Iff.of_eq (Bool.not_eq_false done)).symm) ?_
  intro s done
  cases done with
  | false => exact ⟨⟨rfl, rfl⟩, fun absent => by cases absent⟩
  | true => exact ⟨⟨rfl, rfl⟩, fun _ => rfl⟩

theorem unsubscribeInt_performs (hook : Hook) :
    Performs (unsubscribeInt hook : Program Message Nat) (· = 0)
      (fun policies => Function.update policies hook false) := by
  refine coded_performs (.sysIrqrmpolicy hook) (fun done => done)
    (fun done => (Iff.of_eq (Bool.not_eq_false done)).symm) ?_
  intro s done
  cases done with
  | false => exact ⟨⟨rfl, rfl⟩, fun absent => by cases absent⟩
  | true => exact ⟨⟨rfl, rfl⟩, fun _ => rfl⟩

theorem utilSysInb_performs (port : Nat) (ok : Option UInt8 → Prop)
    (reports : ∀ aux : Option UInt32, ok (aux.map UInt32.toUInt8) ↔
      ¬ LateFailure (⟨.sysInb port, aux⟩ : Event (Reply Message))) :
    Performs (utilSysInb port : Program Message (Option UInt8)) ok id := by
  have asked : Performs (call (.sysInb port) : Program Message (Option UInt32))
      (fun aux => ok (aux.map UInt32.toUInt8)) id :=
    .call reports (fun s aux => ⟨⟨rfl, rfl⟩, fun _ => rfl⟩)
  exact asked.map _ (fun aux => Iff.rfl)

theorem register_performs {port : Nat} (register : port ≠ outBuf) :
    Performs (utilSysInb port : Program Message (Option UInt8)) (· ≠ none) id := by
  refine utilSysInb_performs port _ (fun aux => ?_)
  cases aux with
  | none => exact iff_of_false (fun absent => absent rfl) (fun success => success (.inl rfl))
  | some aux => simp [LateFailure, register]

theorem outBuf_performs :
    Performs (utilSysInb outBuf : Program Message (Option UInt8))
      (fun byte => byte ≠ none ∧ byte ≠ some ackError) id := by
  refine utilSysInb_performs outBuf _ (fun aux => ?_)
  cases aux with
  | none => exact iff_of_false (fun both => both.1 rfl) (fun success => success (.inl rfl))
  | some aux => simp [LateFailure]

theorem ignored_performs (request : Request)
    (ignored : ∀ reply, ¬ LateFailure (⟨request, reply⟩ : Event (Reply Message)))
    (same : ∀ (s : System) (reply : Reply Message request), s.call ⟨request, reply⟩ = s) :
    Performs (call request : Program Message _) (fun _ => True) id := by
  refine .call (fun reply => iff_of_true trivial (ignored reply)) (fun s reply => ?_)
  rw [same]
  exact ⟨⟨rfl, rfl⟩, fun _ => rfl⟩

theorem Performs.check {step rest : Program Message Nat}
    {change later : (Hook → Bool) → Hook → Bool} (first : Performs step (· = 0) change)
    (goes : Performs rest (· = 0) later) :
    Performs (Proj.check step rest) (· = 0) (later ∘ change) := by
  refine first.bind (fun code fine => ?_) (fun code bad => ?_)
  · rw [if_neg (not_not.mpr fine)]
    exact goes
  · rw [if_pos bad]
    exact ⟨1, rfl, by decide⟩

def SentOk (result : Nat × UInt8) : Prop := result.1 = 0

theorem test_roundOk (s : Sending) : RoundOk SentOk s.test := by
  unfold Sending.test
  split
  · trivial
  · rfl

theorem fail_not_roundOk (s : Sending) : ¬ RoundOk SentOk s.fail := by
  intro fine
  cases fine

theorem status_performs (s : Sending)
    {next : UInt8 → Program Message (Dialogue.Round Sending (Nat × UInt8))}
    (goes : ∀ statuscode, Performs (next statuscode) (RoundOk SentOk) id) :
    Performs (do
      match ← utilSysInb statReg with
      | none => return s.fail
      | some statuscode =>
          if statuscode &&& ibfBit ≠ 0 then return ({ s with statuscode } : Sending).test
          else next statuscode) (RoundOk SentOk) id := by
  refine (register_performs (by decide)).seq (fun byte read => ?_) (fun byte failed => ?_)
  · obtain ⟨statuscode, rfl⟩ := Option.ne_none_iff_exists'.mp read
    dsimp only
    split
    · exact .pure (test_roundOk _)
    · exact goes statuscode
  · rw [not_not.mp failed]
    exact ⟨_, rfl, fail_not_roundOk s⟩

theorem write_performs (s : Sending) (port : Nat) (value : UInt8)
    {next : Program Message (Dialogue.Round Sending (Nat × UInt8))}
    (goes : Performs next (RoundOk SentOk) id) :
    Performs (do
      if (← sysOutb port value) ≠ 0 then return s.fail else next) (RoundOk SentOk) id := by
  refine (sysOutb_performs port value).seq (fun code written => ?_) (fun code failed => ?_)
  · rw [if_neg (not_not.mpr written)]
    exact goes
  · rw [if_pos failed]
    exact ⟨_, rfl, fail_not_roundOk s⟩

theorem sendRound_performs (cmd : UInt8) (s : Sending) :
    Performs (sendRound cmd s : Program Message _) (RoundOk SentOk) id := by
  refine status_performs s (fun statuscode => ?_)
  refine write_performs _ _ _ ?_
  refine status_performs _ (fun statuscode => ?_)
  refine write_performs _ _ _ ?_
  have delayed : Performs (tickdelay 20000 : Program Message Unit) (fun _ => True) id :=
    ignored_performs _ (fun _ => not_false) (fun s _ => rfl)
  refine delayed.seq (fun _ _ => ?_) (fun _ absurdity => absurd trivial absurdity)
  refine outBuf_performs.seq (fun byte read => ?_) (fun byte failed => ?_)
  · obtain ⟨reply, rfl⟩ := Option.ne_none_iff_exists'.mp read.1
    simp only [ite_self]
    rw [if_neg (fun refused => read.2 (congrArg some refused))]
    exact .pure (test_roundOk _)
  · cases byte with
    | none => exact ⟨_, rfl, fail_not_roundOk _⟩
    | some reply =>
        have refused : reply = ackError := by simpa using failed
        rw [refused]
        exact ⟨_, rfl, fail_not_roundOk _⟩

theorem sendMouseCommand_performs (cmd : UInt8) (s : Sending) :
    Performs (sendMouseCommand cmd s : Program Message _) SentOk id :=
  .loop s (sendRound_performs cmd)

theorem rtcRead_performs (reg : UInt8) :
    Performs (rtcRead reg : Program Message (Option UInt8)) (· ≠ none) id := by
  refine (sysOutb_performs _ _).seq (fun code written => ?_) (fun code failed => ?_)
  · rw [if_neg (not_not.mpr written)]
    exact register_performs (by decide)
  · rw [if_pos failed]
    exact ⟨none, rfl, fun absent => absent rfl⟩

theorem rtcWrite_performs (data reg : UInt8) :
    Performs (rtcWrite data reg : Program Message Nat) (· = 0) id :=
  (sysOutb_performs _ _).check ((sysOutb_performs _ _).check (.pure rfl))

theorem rtcChange_performs (change : UInt8 → UInt8) :
    Performs (rtcChange change : Program Message Nat) (· = 0) id := by
  refine (rtcRead_performs regB).seq (fun byte read => ?_) (fun byte failed => ?_)
  · obtain ⟨data, rfl⟩ := Option.ne_none_iff_exists'.mp read
    exact (rtcWrite_performs (change data) regB).check (.pure rfl)
  · rw [not_not.mp failed]
    exact ⟨1, rfl, by decide⟩

theorem mainRound_performs (cfg : Config) (w : World) :
    Performs (mainRound cfg w) (RoundOk (fun _ => True)) id := by
  have received : Performs (call .driverReceive : Program Proj.Message Proj.Message)
      (fun _ => True) id := ignored_performs _ (fun _ => not_false) (fun s _ => rfl)
  unfold mainRound
  split
  · exact .pure trivial
  · refine received.seq (fun message _ => ?_) (fun _ absurdity => absurd trivial absurdity)
    cases gameStep cfg w message with
    | none => exact Dialogue.Yields.halt
    | some w => exact .pure trivial

theorem mainLoop_performs (cfg : Config) (w : World) :
    Performs (mainLoop cfg w) (fun _ => True) id := .loop w (mainRound_performs cfg)

/-- Entered in graphics mode with the policies `installed`, the rest of `game_loop` leaves a clean
system exactly if no call fails. -/
def Restores {α : Type} (rest : Program Message α) (installed : Hook → Bool) : Prop :=
  Dialogue.Yields rest (fun _ trace => ∀ s : System, s.policies = installed → s.modeSet = true →
    s.exitCalled = false → ((s.after trace).Clean ↔ Succeeds trace))

theorem Restores.step {α β : Type} {step : Program Message α} {next : α → Program Message β}
    {ok : α → Prop} {change : (Hook → Bool) → Hook → Bool} {installed : Hook → Bool}
    (first : Performs step ok change)
    (goes : ∀ value, ok value → Restores (next value) (change installed))
    (fails : ∀ value, ¬ ok value → ∃ result, next value = pure result) :
    Restores (step >>= next) installed := by
  refine Dialogue.Yields.bind first ?_
  rintro value said ⟨reported, effect⟩
  by_cases fine : ok value
  · refine (goes value fine).mono ?_
    intro result trace restores s policies mode left
    obtain ⟨⟨modeKept, leftKept⟩, changed⟩ := effect s
    rw [after_append, succeeds_append, restores (s.after said) (by rw [changed fine, policies])
      (modeKept.trans mode) (leftKept.trans left)]
    exact ⟨fun rest => ⟨reported.mp fine, rest⟩, fun both => both.2⟩
  · obtain ⟨result, same⟩ := fails value fine
    rw [same]
    refine Dialogue.Yields.pure ?_
    intro s policies mode left
    obtain ⟨⟨modeKept, leftKept⟩, _⟩ := effect s
    rw [List.append_nil]
    have stuck : ¬ (s.after said).Clean := by
      intro clean
      have exited := clean.2 (modeKept.trans mode)
      rw [leftKept, left] at exited
      cases exited
    exact iff_of_false stuck (fun success => fine (reported.mpr success))

theorem Restores.check {step rest : Program Message Nat} {change : (Hook → Bool) → Hook → Bool}
    {installed : Hook → Bool} (first : Performs step (· = 0) change)
    (goes : Restores rest (change installed)) : Restores (Proj.check step rest) installed := by
  refine .step first (fun code fine => ?_) (fun code bad => ?_)
  · rw [if_neg (not_not.mpr fine)]
    exact goes
  · rw [if_pos bad]
    exact ⟨1, rfl⟩

theorem vgExit_restores : Restores (check vgExit (pure 0) : Program Message Nat)
    (fun _ => false) := by
  have asks : Dialogue.Yields (call .vgExit : Program Message _)
      (fun _ trace => ∃ done, trace = [⟨.vgExit, done⟩]) := .ask (fun done => ⟨done, rfl⟩)
  have exits : Dialogue.Yields (vgExit : Program Message Nat)
      (fun _ trace => ∃ done, trace = [⟨.vgExit, done⟩]) :=
    .bind asks (fun done said made => .pure (by rwa [List.append_nil]))
  refine .bind exits ?_
  rintro code said ⟨done, rfl⟩
  have clean : ∀ s : System, s.policies = (fun _ => false) → s.modeSet = true →
      s.exitCalled = false →
      ((s.after [(⟨.vgExit, done⟩ : Event (Reply Message))]).Clean ↔
        Succeeds [(⟨.vgExit, done⟩ : Event (Reply Message))]) := by
    intro s policies mode left
    refine iff_of_true ⟨fun hook => congrFun policies hook, fun _ => rfl⟩ ?_
    intro event member
    rw [List.mem_singleton.mp member]
    exact not_false
  split
  · exact .pure clean
  · exact .pure clean

theorem tearDown_restores (locals : Locals) (w : World) :
    Restores (tearDown locals w) (fun _ => true) := by
  unfold tearDown
  refine .check (rtcChange_performs _) <| .check (unsubscribeInt_performs .rtc) <|
    .check (unsubscribeInt_performs .timer) <|
    .check ((sendMouseCommand_performs _ _).map Prod.fst (fun _ => Iff.rfl)) <|
    .check (unsubscribeInt_performs .mouse) <| .check (unsubscribeInt_performs .kbd) ?_
  convert vgExit_restores using 1
  funext hook
  cases hook <;> rfl

theorem play_restores (cfg : Config) (locals : Locals) (statuscode : UInt8) :
    Restores (play cfg locals statuscode) (fun _ => true) := by
  have slept : Performs (call (.sleep 4) : Program Proj.Message Unit) (fun _ => True) id :=
    ignored_performs _ (fun _ => not_false) (fun s _ => rfl)
  refine .step slept (fun _ _ => ?_) (fun _ absurdity => absurd trivial absurdity)
  refine .step (mainLoop_performs cfg _) (fun w _ => ?_) (fun _ absurdity => absurd trivial absurdity)
  exact tearDown_restores locals w

theorem setUp_restores (cfg : Config) (locals : Locals) :
    Restores (setUp cfg locals) (fun _ => false) := by
  refine .check (subscribeInt_performs _ _ .mouse) ?_
  refine .step (sendMouseCommand_performs _ _) (fun result sent => ?_) (fun result failed => ?_)
  · obtain ⟨code, statuscode⟩ := result
    have zero : code = 0 := sent
    dsimp only
    rw [if_neg (not_not.mpr zero)]
    refine .check (subscribeInt_performs _ _ .kbd) <| .check (subscribeInt_performs _ _ .timer) <|
      .check (subscribeInt_performs _ _ .rtc) <| .check (rtcChange_performs _) ?_
    convert play_restores cfg locals statuscode using 1
    funext hook
    cases hook <;> rfl
  · obtain ⟨code, statuscode⟩ := result
    have nonzero : code ≠ 0 := failed
    dsimp only
    rw [if_pos nonzero]
    exact ⟨1, rfl⟩

def Harmless (trace : List (Event (Reply Message))) : Prop :=
  Succeeds trace ∧ ∀ s : System, s.after trace = s

theorem harmless_nil : Harmless ([] : List (Event (Reply Message))) := by
  refine ⟨?_, fun s => rfl⟩
  intro event member
  cases member

theorem call_harmless (request : Request)
    (fine : ∀ reply, ¬ LateFailure (⟨request, reply⟩ : Event (Reply Message)))
    (same : ∀ (s : System) (reply : Reply Message request), s.call ⟨request, reply⟩ = s) :
    Dialogue.Yields (call request : Program Message _) (fun _ trace => Harmless trace) := by
  refine .ask (fun reply => ⟨?_, fun s => same s reply⟩)
  intro event member
  rw [List.mem_singleton.mp member]
  exact fine reply

theorem bind_harmless {α β : Type} {step : Program Message α} {next : α → Program Message β}
    (first : Dialogue.Yields step (fun _ trace => Harmless trace))
    (second : ∀ value, Dialogue.Yields (next value) (fun _ trace => Harmless trace)) :
    Dialogue.Yields (step >>= next) (fun _ trace => Harmless trace) := by
  refine .bind first ?_
  rintro value said ⟨success, same⟩
  refine (second value).mono ?_
  rintro result trace ⟨successLater, sameLater⟩
  refine ⟨(succeeds_append said trace).mpr ⟨success, successLater⟩, fun s => ?_⟩
  rw [after_append, same, sameLater]

theorem vgGetModeInfo_harmless (mode : UInt16) :
    Dialogue.Yields (vgGetModeInfo mode : Program Message _) (fun _ trace => Harmless trace) := by
  refine bind_harmless (call_harmless _ (fun _ => not_false) (fun s _ => rfl)) (fun info => ?_)
  cases info with
  | none => exact .pure harmless_nil
  | some info =>
      refine bind_harmless (call_harmless _ (fun _ => not_false) (fun s _ => rfl)) (fun added => ?_)
      split
      · refine bind_harmless (call_harmless _ (fun _ => not_false) (fun s _ => rfl)) (fun mapped => ?_)
        split
        · exact .pure harmless_nil
        · exact .halt
      · exact .halt

theorem vgSetMode_mode (mode : UInt16) :
    Dialogue.Yields (vgSetMode mode : Program Message Nat) (fun code trace =>
      Succeeds trace ∧ ∀ s : System, s.after trace =
        if code = 0 then { s with modeSet := true, graphics := true } else s) := by
  unfold vgSetMode
  split
  · exact .pure harmless_nil
  · have asks : Dialogue.Yields (call (.sysInt86 0x4F 0x02 (0x4000 ||| mode)) : Program Message _)
        (fun regs trace => trace = [⟨.sysInt86 0x4F 0x02 (0x4000 ||| mode), regs⟩]) :=
      .ask (fun regs => rfl)
    refine .bind asks ?_
    rintro regs said rfl
    refine .pure ⟨?_, fun s => ?_⟩
    · intro event member
      rw [List.append_nil] at member
      rw [List.mem_singleton.mp member]
      exact not_false
    · change Option (UInt8 × UInt8) at regs
      change (if regs = some (0x00, 0x4F) then { s with modeSet := true, graphics := true } else s) = _
      by_cases set : regs = some (0x00, 0x4F)
      · rw [if_pos set, if_pos set, if_pos rfl]
      · rw [if_neg set, if_neg set, if_neg (by decide)]

theorem gameLoopProgram_clean (cfg : Config) (locals : Locals) :
    Dialogue.Yields (gameLoopProgram cfg locals) (fun _ trace =>
      (System.idle.after trace).Clean ↔ Succeeds trace) := by
  have idle : System.idle.Clean := ⟨fun _ => rfl, fun set => by cases set⟩
  refine .bind (vgGetModeInfo_harmless 0x105) ?_
  intro info said asked
  cases info with
  | none =>
      refine .pure ?_
      rw [List.append_nil, asked.2]
      exact iff_of_true idle asked.1
  | some info =>
      refine .bind (vgSetMode_mode 0x105) ?_
      rintro code later ⟨success, changed⟩
      split
      next failed =>
        refine .pure ?_
        rw [List.append_nil, after_append, asked.2, changed, if_neg failed]
        exact iff_of_true idle ((succeeds_append said later).mpr ⟨asked.1, success⟩)
      next set =>
        refine (setUp_restores cfg locals).mono ?_
        intro result trace restores
        rw [after_append, after_append, asked.2, changed, if_pos (not_not.mp set),
          restores _ rfl rfl rfl, succeeds_append, succeeds_append]
        exact ⟨fun rest => ⟨asked.1, success, rest⟩, fun all => all.2.2⟩

/-- Whenever `game_loop` returns, its policies are removed and `vg_exit` has been called if
`vg_set_mode` has succeeded exactly if no call fails once the video mode is set. -/
theorem clean_exit_iff (cfg : Config) (locals : Locals)
    (answers : List (Answer (Reply Proj.Message))) (ended : Ended (Reply Proj.Message) Nat)
    (ran : gameLoopProgram cfg locals answers = some ended) :
    (System.idle.after ended.trace).Clean ↔ Succeeds ended.trace :=
  gameLoopProgram_clean cfg locals answers ended ran

/-- Every call succeeds and the mouse acknowledges, until the key that leaves the menu. -/
def obliging : Answer (Reply Proj.Message) :=
  scripted (fun port => if port = outBuf then some 0xFA else some 0x00) true (keyByte 0x81)

def sampleLocals : Locals := ⟨sampleMemory, 0, 0⟩

/-- A run that returns 0 after everything has been undone. -/
theorem clean_exit_iff_obliging : ∃ ended,
    gameLoopProgram sampleConfig sampleLocals (List.replicate 35 obliging) = some ended ∧
    ended.value = 0 ∧ (System.idle.after ended.trace).modeSet = true ∧
    (System.idle.after ended.trace).Clean ∧ Succeeds ended.trace := by
  have evaluated : (gameLoopProgram sampleConfig sampleLocals (List.replicate 35 obliging)).any
      (fun ended => decide (ended.value = 0 ∧ (System.idle.after ended.trace).modeSet = true ∧
        (System.idle.after ended.trace).Clean)) = true := by decide +kernel
  obtain ⟨ended, ran, holds⟩ := (Option.any_eq_true _ _).mp evaluated
  obtain ⟨zero, set, clean⟩ := of_decide_eq_true holds
  exact ⟨ended, ran, zero, set, clean, (clean_exit_iff sampleConfig sampleLocals _ _ ran).mp clean⟩

/-- After `kbd_subscribe_int` has failed, the mouse's policy and the graphics mode stay. -/
theorem keyboard_failure_leaks : ∃ ended,
    gameLoopProgram sampleConfig sampleLocals (List.replicate 11 obliging ++
      [scripted (fun _ => none) false .failedReceive]) = some ended ∧
    ended.value = 1 ∧ (System.idle.after ended.trace).policies .mouse = true ∧
    (System.idle.after ended.trace).modeSet = true ∧
    (System.idle.after ended.trace).exitCalled = false ∧
    ¬ (System.idle.after ended.trace).Clean := by
  refine ⟨_, rfl, rfl, rfl, rfl, rfl, ?_⟩
  rintro ⟨removed, _⟩
  cases removed .mouse

end Lcom.Proj
