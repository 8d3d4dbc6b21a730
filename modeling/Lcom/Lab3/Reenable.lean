import Lcom.Lab3.Kbc

/-! `kbd_reenable_int` of `lab3/kbc.c`, and how often its two loops try. -/

namespace Lcom.Lab3

open Lcom.Lib Lcom.Minix Lcom.Proj

variable {Message : Type} {α : Type}

def StatusRead (event : Event (Reply Message)) : Prop := ∃ reply, event = ⟨.sysInb statReg, reply⟩

def Free (aux : Option UInt32) : Prop :=
  ∃ stat, aux = some stat ∧ stat.toUInt8 &&& (ibfBit ||| obfBit) = 0

/-- The trace of an attempt: reads of the status, and then nothing or what the command says right
after a read that allows it. -/
inductive Tried (post : Option α → List (Event (Reply Message)) → Prop) :
    Option α → List (Event (Reply Message)) → Prop where
  | exhausted {polls : List (Event (Reply Message))} (reads : ∀ event ∈ polls, StatusRead event) :
      Tried post none polls
  | commanded {polls said : List (Event (Reply Message))} {reply : Option UInt32}
      {value : Option α} (reads : ∀ event ∈ polls, StatusRead event) (free : Free reply)
      (command : post value said) :
      Tried post value (polls ++ ⟨.sysInb statReg, reply⟩ :: said)

theorem statusRead_snoc {polls : List (Event (Reply Message))}
    (reads : ∀ event ∈ polls, StatusRead event) (reply : Option UInt32) :
    ∀ event ∈ polls ++ [⟨.sysInb statReg, reply⟩], StatusRead event := by
  intro event member
  rcases List.mem_append.mp member with earlier | last
  · exact reads event earlier
  · exact ⟨reply, List.mem_singleton.mp last⟩

/-- A result is only given by the command, since `break` leaves `tries` positive. -/
theorem retry_yields {command : Program Message (Option α)}
    {post : Option α → List (Event (Reply Message)) → Prop}
    (commands : Dialogue.Yields command post) : Dialogue.Yields (retry command) (Tried post) := by
  let left (attempted : Attempted α) (said : List (Event (Reply Message))) : Prop :=
    match attempted with
    | none => Tried post none said
    | some (tries, none) => tries = 0 ∧ ∀ event ∈ said, StatusRead event
    | some (tries, some value) => tries ≠ 0 ∧ Tried post (some value) said
  have looped : Dialogue.Yields (Dialogue.loop (attempt command) 10) left := by
    refine Dialogue.Yields.loop (fun _ said => ∀ event ∈ said, StatusRead event) (by simp) ?_
    intro tries polls reads
    rw [attempt]
    split
    · rename_i spent
      refine Dialogue.Yields.pure ⟨spent, ?_⟩
      rwa [List.append_nil]
    · rename_i left
      refine Dialogue.Yields.bind (utilSysInb_yields statReg) ?_
      rintro _ _ ⟨aux, rfl, rfl⟩
      cases aux with
      | none => exact Dialogue.Yields.pure (statusRead_snoc reads none)
      | some stat =>
          dsimp only [Option.map_some]
          split
          · exact Dialogue.Yields.pure (statusRead_snoc reads (some stat))
          · rename_i free
            have free : Free (some stat) := ⟨stat, rfl, not_not.mp free⟩
            refine Dialogue.Yields.bind commands ?_
            intro value said command
            have tried : Tried post value
                (polls ++ ([⟨.sysInb statReg, some stat⟩] ++ (said ++ []))) := by
              rw [List.append_nil]
              exact .commanded reads free command
            cases value with
            | none => exact Dialogue.Yields.pure tried
            | some value => exact Dialogue.Yields.pure ⟨left, tried⟩
  rw [retry]
  refine Dialogue.Yields.bind looped ?_
  intro attempted said tried
  match attempted with
  | none =>
      refine Dialogue.Yields.pure ?_
      rwa [List.append_nil]
  | some (tries, none) =>
      dsimp only
      rw [if_pos tried.1]
      refine Dialogue.Yields.pure ?_
      rw [List.append_nil]
      exact .exhausted tried.2
  | some (tries, some value) =>
      dsimp only
      rw [if_neg tried.1]
      refine Dialogue.Yields.pure ?_
      rw [List.append_nil]
      exact tried.2

def WritesNothing (event : Event (Reply Message)) : Prop :=
  (∀ done, event ≠ ⟨.sysOutb statReg writeCommand, done⟩) ∧
    ∀ value done, event ≠ ⟨.sysOutb argsReg value, done⟩

def ReadSaid : Option UInt8 → List (Event (Reply Message)) → Prop
  | none, said => ∀ event ∈ said, WritesNothing event
  | some byte, said => ∃ aux, said = [⟨.sysOutb statReg readCommand, true⟩,
      ⟨.sysInb outBuf, some aux⟩] ∧ aux.toUInt8 = byte

def WriteSaid (commandbyte : UInt8) : Option Unit → List (Event (Reply Message)) → Prop
  | none, _ => True
  | some _, said => said = [⟨.sysOutb statReg writeCommand, true⟩,
      ⟨.sysOutb argsReg commandbyte, true⟩]

theorem read_writesNothing (port : Nat) (reply : Option UInt32) :
    WritesNothing (⟨.sysInb port, reply⟩ : Event (Reply Message)) := by
  constructor
  · rintro done ⟨⟩
  · rintro value done ⟨⟩

theorem readCommand_writesNothing (done : Bool) :
    WritesNothing (⟨.sysOutb statReg readCommand, done⟩ : Event (Reply Message)) := by
  constructor
  · intro other same
    exact absurd (congrArg Sigma.fst same) (by simp [readCommand, writeCommand])
  · intro value other same
    exact absurd (congrArg Sigma.fst same) (by simp [statReg, argsReg])

theorem readcommand_yields :
    Dialogue.Yields (readcommand : Program Message (Option UInt8)) (Tried ReadSaid) := by
  refine retry_yields (Dialogue.Yields.bind (sysOutb_yields statReg readCommand) ?_)
  rintro _ _ ⟨done, rfl, rfl⟩
  cases done with
  | false =>
      refine Dialogue.Yields.pure ?_
      intro event member
      rw [List.mem_singleton.mp member]
      exact readCommand_writesNothing false
  | true =>
      refine (utilSysInb_yields outBuf).mono ?_
      rintro _ _ ⟨aux, rfl, rfl⟩
      cases aux with
      | none =>
          intro event member
          rcases List.mem_cons.mp member with rfl | last
          · exact readCommand_writesNothing true
          · rw [List.mem_singleton.mp last]
            exact read_writesNothing outBuf none
      | some aux => exact ⟨aux, rfl, rfl⟩

theorem writecommand_yields (commandbyte : UInt8) :
    Dialogue.Yields (writecommand commandbyte : Program Message (Option Unit))
      (Tried (WriteSaid commandbyte)) := by
  refine retry_yields (Dialogue.Yields.bind (sysOutb_yields statReg writeCommand) ?_)
  rintro _ _ ⟨done, rfl, rfl⟩
  cases done with
  | false => exact Dialogue.Yields.pure trivial
  | true =>
      refine Dialogue.Yields.bind (sysOutb_yields argsReg commandbyte) ?_
      rintro _ _ ⟨done, rfl, rfl⟩
      cases done with
      | false => exact Dialogue.Yields.pure trivial
      | true => exact Dialogue.Yields.pure rfl

theorem readcommand_failed {answers : List (Answer (Reply Message))}
    {failed : Ended (Reply Message) (Option UInt8)} (ran : readcommand answers = some failed)
    (none : failed.value = none) : ∀ event ∈ failed.trace, WritesNothing event := by
  have tried := readcommand_yields answers failed ran
  rw [none] at tried
  have polled : ∀ event : Event (Reply Message), StatusRead event → WritesNothing event := by
    rintro event ⟨reply, rfl⟩
    exact read_writesNothing statReg reply
  generalize failed.trace = trace at tried
  cases tried with
  | exhausted reads => exact fun event member => polled event (reads event member)
  | @commanded polls said reply _ reads free command =>
      intro event member
      rcases List.mem_append.mp member with earlier | later
      · exact polled event (reads event earlier)
      · rcases List.mem_cons.mp later with rfl | last
        · exact read_writesNothing statReg reply
        · exact command event last

theorem Tried.success {post : Option α → List (Event (Reply Message)) → Prop} {value : α}
    {trace : List (Event (Reply Message))} (tried : Tried post (some value) trace) :
    ∃ polls stat said, trace = polls ++ ⟨.sysInb statReg, some stat⟩ :: said ∧
      (∀ event ∈ polls, StatusRead event) ∧ stat.toUInt8 &&& (ibfBit ||| obfBit) = 0 ∧
      post (some value) said := by
  cases tried with
  | @commanded polls said reply _ reads free command =>
      obtain ⟨stat, rfl, clear⟩ := free
      exact ⟨polls, stat, said, rfl, reads, clear, command⟩

/-- Only bit 0 of the command byte changes, and each command directly follows a status that allows
it; if the byte cannot be read, then nothing is written. -/
theorem kbdReenableInt_writes {answers : List (Answer (Reply Message))}
    {ended : Ended (Reply Message) Nat} (ran : kbdReenableInt answers = some ended) :
    (ended.value = 0 → ∃ polls stat aux polls' stat',
      ended.trace = polls ++
        [⟨.sysInb statReg, some stat⟩, ⟨.sysOutb statReg 0x20, true⟩, ⟨.sysInb outBuf, some aux⟩] ++
        polls' ++
        [⟨.sysInb statReg, some stat'⟩, ⟨.sysOutb statReg 0x60, true⟩,
          ⟨.sysOutb argsReg (aux.toUInt8 ||| enableKbd), true⟩] ∧
      (∀ event ∈ polls ++ polls', ∃ reply, event = ⟨.sysInb statReg, reply⟩) ∧
      stat.toUInt8 &&& (ibfBit ||| obfBit) = 0 ∧ stat'.toUInt8 &&& (ibfBit ||| obfBit) = 0) ∧
    (∀ failed, readcommand answers = some failed → failed.value = none →
      ended.value = 1 ∧ ∀ event ∈ ended.trace,
        (∀ done, event ≠ ⟨.sysOutb statReg 0x60, done⟩) ∧
        ∀ value done, event ≠ ⟨.sysOutb argsReg value, done⟩) := by
  rw [kbdReenableInt] at ran
  obtain ⟨first, second, read, continued, rfl⟩ := Dialogue.bind_eq_some.mp ran
  cases got : first.value with
  | none =>
      rw [got] at continued
      cases continued
      refine ⟨fun zero => absurd zero Nat.one_ne_zero, ?_⟩
      intro failed again _
      rw [read] at again
      cases again
      refine ⟨rfl, ?_⟩
      rw [List.append_nil]
      exact readcommand_failed read got
  | some byte =>
      rw [got] at continued
      refine ⟨?_, ?_⟩
      · intro zero
        obtain ⟨third, fourth, wrote, returned, rfl⟩ := Dialogue.bind_eq_some.mp continued
        cases success : third.value with
        | none =>
            rw [success] at returned
            cases returned
            exact absurd zero Nat.one_ne_zero
        | some value =>
            rw [success] at returned
            cases returned
            have reads := readcommand_yields answers first read
            have writes := writecommand_yields _ first.rest third wrote
            rw [got] at reads
            rw [success] at writes
            obtain ⟨polls, stat, said, trace, polled, clear, aux, rfl, rfl⟩ := reads.success
            obtain ⟨polls', stat', said', trace', polled', clear', rfl⟩ := writes.success
            refine ⟨polls, stat, aux, polls', stat', ?_, ?_, clear, clear'⟩
            · rw [trace, trace']
              simp [readCommand, writeCommand]
            · intro event member
              exact (List.mem_append.mp member).elim (polled event) (polled' event)
      · intro failed again none
        rw [read] at again
        cases again
        rw [got] at none
        cases none

/-- A busy controller, a failed read, and then both commands. -/
theorem kbdReenableInt_writes_enabled : ∃ ended polls polls' stat stat' aux,
    kbdReenableInt [answering (fun _ => some 0x02) true (), answering (fun _ => some 0x00) true (),
      answering (fun _ => none) true (), answering (fun _ => some 0x46) true (),
      answering (fun _ => none) true (), answering (fun _ => some 0x00) true (),
      answering (fun _ => none) true (), answering (fun _ => none) true ()] = some ended ∧
    ended.trace = polls ++
      [⟨.sysInb statReg, some stat⟩, ⟨.sysOutb statReg 0x20, true⟩, ⟨.sysInb outBuf, some aux⟩] ++
      polls' ++
      [⟨.sysInb statReg, some stat'⟩, ⟨.sysOutb statReg 0x60, true⟩,
        ⟨.sysOutb argsReg (aux.toUInt8 ||| enableKbd), true⟩] := by
  have ran : ∃ ended, kbdReenableInt [answering (fun _ => some 0x02) true (),
      answering (fun _ => some 0x00) true (), answering (fun _ => none) true (),
      answering (fun _ => some 0x46) true (), answering (fun _ => none) true (),
      answering (fun _ => some 0x00) true (), answering (fun _ => none) true (),
      answering (fun _ => none) true ()] = some ended ∧ ended.value = 0 := ⟨_, rfl, rfl⟩
  obtain ⟨ended, ran, zero⟩ := ran
  obtain ⟨polls, stat, aux, polls', stat', trace, -⟩ := (kbdReenableInt_writes ran).1 zero
  exact ⟨ended, polls, polls', stat, stat', aux, ran, trace⟩

def statusReads (trace : List (Event (Reply Message))) : Nat :=
  trace.countP (fun event => event.1 = .sysInb statReg)

section Attempts

variable (command : Program Message (Option α)) {tries : Nat} {answer : Answer (Reply Message)}
  (rest : List (Answer (Reply Message)))

theorem attempt_none (left : tries ≠ 0) (failed : answer (.sysInb statReg) = none) :
    attempt command tries (answer :: rest) =
      some ⟨.again tries, [⟨.sysInb statReg, none⟩], rest⟩ := by
  rw [attempt, if_neg left, utilSysInb_cons _ _ _ _ none failed]
  rfl

theorem attempt_busy (left : tries ≠ 0) {stat : UInt32}
    (reply : answer (.sysInb statReg) = some stat)
    (busy : stat.toUInt8 &&& (ibfBit ||| obfBit) ≠ 0) :
    attempt command tries (answer :: rest) =
      some ⟨.again (tries - 1), [⟨.sysInb statReg, some stat⟩], rest⟩ := by
  rw [attempt, if_neg left, utilSysInb_cons _ _ _ _ (some stat) reply]
  dsimp only [Option.map_some]
  rw [if_pos busy]
  rfl

theorem attempt_free (left : tries ≠ 0) {stat : UInt32}
    (reply : answer (.sysInb statReg) = some stat)
    (free : stat.toUInt8 &&& (ibfBit ||| obfBit) = 0) :
    attempt command tries (answer :: rest) = (command rest).map (fun ended =>
      ⟨.done (ended.value.map (fun value => (tries, some value))),
        ⟨.sysInb statReg, some stat⟩ :: ended.trace, ended.rest⟩) := by
  rw [attempt, if_neg left, utilSysInb_cons _ _ _ _ (some stat) reply]
  dsimp only [Option.map_some]
  rw [if_neg (not_not.mpr free)]
  change Option.map _ ((command rest).bind _) = _
  cases command rest with
  | none => rfl
  | some ended =>
      obtain ⟨value, trace, left⟩ := ended
      cases value with
      | none =>
          change some (Ended.mk _ (_ :: (trace ++ [])) _) = _
          rw [List.append_nil]
          rfl
      | some value =>
          change some (Ended.mk _ (_ :: (trace ++ [])) _) = _
          rw [List.append_nil]
          rfl

theorem attempt_productive : Dialogue.Productive (attempt command) := by
  intro tries answers ended next ran again
  cases tries with
  | zero =>
      cases ran
      cases again
  | succ tries =>
      cases answers with
      | nil => cases ran
      | cons answer rest =>
          cases reply : (answer (.sysInb statReg) : Option UInt32) with
          | none =>
              rw [attempt_none command rest (Nat.succ_ne_zero _) reply] at ran
              cases ran
              exact Nat.lt_succ_self _
          | some stat =>
              by_cases free : stat.toUInt8 &&& (ibfBit ||| obfBit) = 0
              · rw [attempt_free command rest (Nat.succ_ne_zero _) reply free] at ran
                obtain ⟨done, -, rfl⟩ := Option.map_eq_some_iff.mp ran
                cases again
              · rw [attempt_busy command rest (Nat.succ_ne_zero _) reply free] at ran
                cases ran
                exact Nat.lt_succ_self _

theorem tryLoop_nil (left : tries ≠ 0) :
    Dialogue.loop (attempt command) tries ([] : List (Answer (Reply Message))) = none := by
  rw [Dialogue.loop, List.length_nil, Dialogue.rounds]
  change (attempt command tries []).bind _ = none
  rw [attempt, if_neg left]
  rfl

theorem tryLoop_eq (answers : List (Answer (Reply Message))) :
    Dialogue.loop (attempt command) tries answers =
      (attempt command tries answers).bind (fun first => match first.value with
        | .again tries => (Dialogue.loop (attempt command) tries first.rest).map
            (fun ended => ⟨ended.value, first.trace ++ ended.trace, ended.rest⟩)
        | .done value => some ⟨value, first.trace ++ [], first.rest⟩) := by
  rw [Dialogue.loop_eq (attempt_productive command)]
  change (attempt command tries answers).bind _ = _
  refine Option.bind_congr (fun first _ => ?_)
  cases first.value with
  | again tries => rfl
  | done value => rfl

end Attempts

def Within (m : Nat) (run : Option (Ended (Reply Message) α)) : Prop :=
  ∃ ended, run = some ended ∧ statusReads ended.trace ≤ m

def firsts (n : Nat) (replies : Nat → Answer (Reply Message)) : List (Answer (Reply Message)) :=
  (List.range n).map replies

theorem firsts_succ (n : Nat) (replies : Nat → Answer (Reply Message)) :
    firsts (n + 1) replies = replies 0 :: firsts n (fun i => replies (i + 1)) := by
  rw [firsts, firsts, List.range_succ_eq_map, List.map_cons, List.map_map]
  rfl

theorem within_again {command : Program Message (Option α)} {tries next m : Nat}
    {answer : Answer (Reply Message)} {rest : List (Answer (Reply Message))} {reply : Option UInt32}
    (again : attempt command tries (answer :: rest) =
      some ⟨.again next, [⟨.sysInb statReg, reply⟩], rest⟩) :
    Within (m + 1) (Dialogue.loop (attempt command) tries (answer :: rest)) ↔
      Within m (Dialogue.loop (attempt command) next rest) := by
  rw [tryLoop_eq, again, Option.bind_some]
  constructor
  · rintro ⟨ended, ran, few⟩
    obtain ⟨later, went, rfl⟩ := Option.map_eq_some_iff.mp ran
    refine ⟨later, went, ?_⟩
    simpa [statusReads] using few
  · rintro ⟨later, ran, few⟩
    refine ⟨_, Option.map_eq_some_iff.mpr ⟨later, ran, rfl⟩, ?_⟩
    simpa [statusReads] using few

theorem attempt_reads {command : Program Message (Option α)} {tries : Nat} (left : tries ≠ 0)
    {answers : List (Answer (Reply Message))}
    {first : Ended (Reply Message) (Dialogue.Round Nat (Attempted α))}
    (ran : attempt command tries answers = some first) : 1 ≤ statusReads first.trace := by
  rw [attempt, if_neg left] at ran
  obtain ⟨answer, aux, rest, trace, -, -, -, said⟩ := utilSysInb_bind ran
  rw [said, statusReads, List.countP_cons_of_pos (by simp)]
  exact Nat.succ_le_succ (Nat.zero_le _)

theorem not_within_zero {command : Program Message (Option α)} {tries : Nat} (left : tries ≠ 0)
    (answers : List (Answer (Reply Message))) :
    ¬ Within 0 (Dialogue.loop (attempt command) tries answers) := by
  rintro ⟨ended, ran, few⟩
  rw [tryLoop_eq] at ran
  obtain ⟨first, begun, later⟩ := Option.bind_eq_some_iff.mp ran
  have read := attempt_reads left begun
  have all : statusReads first.trace ≤ statusReads ended.trace := by
    cases round : first.value with
    | again tries =>
        rw [round] at later
        obtain ⟨more, -, rfl⟩ := Option.map_eq_some_iff.mp later
        rw [statusReads, statusReads, List.countP_append]
        exact Nat.le_add_right _ _
    | done value =>
        rw [round] at later
        cases later
        rw [List.append_nil]
  omega

def Quick (command : Program Message (Option α)) : Prop :=
  ∀ first second rest, ∃ ended, command (first :: second :: rest) = some ended ∧
    statusReads ended.trace = 0

/-- With at least `m` tries left, `m` reads are enough if one of the next `m` replies allows the
command, or if they use the tries up. -/
theorem tryLoop_within {command : Program Message (Option α)} (quick : Quick command)
    {m tries : Nat} (bounded : m ≤ tries) (replies : Nat → Answer (Reply Message)) :
    (∃ n, Within m (Dialogue.loop (attempt command) tries (firsts n replies))) ↔
      (∃ i < m, Free (replies i (.sysInb statReg))) ∨
        (tries = m ∧ ∀ i < m, replies i (.sysInb statReg) ≠ none) := by
  induction m generalizing tries replies with
  | zero =>
      by_cases spent : tries = 0
      · subst spent
        refine iff_of_true ⟨0, _, rfl, Nat.le_refl _⟩ (Or.inr ⟨rfl, ?_⟩)
        intro i absurd
        exact False.elim (Nat.not_lt_zero i absurd)
      · refine iff_of_false ?_ ?_
        · rintro ⟨n, within⟩
          exact not_within_zero spent _ within
        · rintro (⟨i, absurd, -⟩ | ⟨zero, -⟩)
          · exact Nat.not_lt_zero i absurd
          · exact spent zero
  | succ m ih =>
      have left : tries ≠ 0 := by omega
      have begins : (∃ n, Within (m + 1) (Dialogue.loop (attempt command) tries (firsts n replies))) ↔
          ∃ n, Within (m + 1) (Dialogue.loop (attempt command) tries
            (replies 0 :: firsts n (fun i => replies (i + 1)))) := by
        constructor
        · rintro ⟨n, within⟩
          cases n with
          | zero =>
              obtain ⟨ended, ran, -⟩ := within
              rw [firsts, List.range_zero, List.map_nil, tryLoop_nil command left] at ran
              cases ran
          | succ n => exact ⟨n, by rwa [← firsts_succ]⟩
        · rintro ⟨n, within⟩
          exact ⟨n + 1, by rwa [firsts_succ]⟩
      rw [begins, Nat.exists_lt_succ_left, Nat.forall_lt_succ_left]
      cases reply : (replies 0 (.sysInb statReg) : Option UInt32) with
      | none =>
          -- the tries stay, and the replies get fewer
          have again := fun n => within_again (m := m)
            (attempt_none command (firsts n (fun i => replies (i + 1))) left reply)
          simp only [again, ih (Nat.le_of_succ_le bounded)]
          have more : tries ≠ m := by omega
          constructor
          · rintro (later | ⟨same, -⟩)
            · exact Or.inl (Or.inr later)
            · exact absurd same more
          · rintro ((⟨stat, same, -⟩ | later) | ⟨-, some, -⟩)
            · cases same
            · exact Or.inl later
            · exact absurd rfl some
      | some stat =>
          by_cases free : stat.toUInt8 &&& (ibfBit ||| obfBit) = 0
          · refine iff_of_true ⟨2, ?_⟩ (Or.inl (Or.inl ⟨stat, rfl, free⟩))
            obtain ⟨ended, ran, none⟩ := quick (replies 1) (replies 2) []
            have first : attempt command tries (replies 0 :: firsts 2 (fun i => replies (i + 1))) =
                some ⟨.done (ended.value.map (fun value => (tries, some value))),
                  ⟨.sysInb statReg, some stat⟩ :: ended.trace, ended.rest⟩ := by
              rw [attempt_free command _ left reply free]
              exact Option.map_eq_some_iff.mpr ⟨ended, ran, rfl⟩
            refine ⟨_, by rw [tryLoop_eq, first]; rfl, ?_⟩
            rw [List.append_nil, statusReads, List.countP_cons_of_pos (by simp)]
            exact Nat.succ_le_succ (Nat.le_trans (Nat.le_of_eq none) (Nat.zero_le m))
          · have again := fun n => within_again (m := m)
              (attempt_busy command (firsts n (fun i => replies (i + 1))) left reply free)
            have fewer : tries - 1 = m ↔ tries = m + 1 := by omega
            simp only [again, ih (Nat.le_sub_one_of_lt (Nat.lt_of_succ_le bounded)), fewer]
            constructor
            · rintro (later | ⟨same, all⟩)
              · exact Or.inl (Or.inr later)
              · exact Or.inr ⟨same, Option.some_ne_none stat, all⟩
            · rintro ((⟨other, same, clear⟩ | later) | ⟨same, -, all⟩)
              · cases same
                exact absurd clear free
              · exact Or.inl later
              · exact Or.inr ⟨same, all⟩

def Attempted.result : Attempted α → Option α
  | none => none
  | some (tries, value) => if tries = 0 then none else value

theorem retry_run (command : Program Message (Option α)) (answers : List (Answer (Reply Message))) :
    retry command answers = (Dialogue.loop (attempt command) 10 answers).map (fun ended =>
      ⟨Attempted.result ended.value, ended.trace ++ [], ended.rest⟩) := by
  rw [retry]
  change (Dialogue.loop (attempt command) 10 answers).bind _ = _
  cases Dialogue.loop (attempt command) 10 answers with
  | none => rfl
  | some ended =>
      obtain ⟨value, trace, rest⟩ := ended
      cases value with
      | none => rfl
      | some attempted => rfl

theorem retry_within {command : Program Message (Option α)} {m : Nat}
    {answers : List (Answer (Reply Message))} :
    Within m (retry command answers) ↔
      Within m (Dialogue.loop (attempt command) 10 answers) := by
  rw [retry_run]
  constructor
  · rintro ⟨ended, ran, few⟩
    obtain ⟨before, went, rfl⟩ := Option.map_eq_some_iff.mp ran
    rw [List.append_nil] at few
    exact ⟨before, went, few⟩
  · rintro ⟨before, ran, few⟩
    refine ⟨_, Option.map_eq_some_iff.mpr ⟨before, ran, rfl⟩, ?_⟩
    rwa [List.append_nil]

theorem readcommand_quick : Quick ((do
    if (← sysOutb statReg readCommand) ≠ 0 then return none
    else utilSysInb outBuf) : Program Message (Option UInt8)) := by
  intro first second rest
  cases done : (first (.sysOutb statReg readCommand) : Bool) with
  | false =>
      rw [sysOutb_cons _ _ _ _ _ false done]
      exact ⟨_, rfl, rfl⟩
  | true =>
      rw [sysOutb_cons _ _ _ _ _ true done]
      exact ⟨_, rfl, rfl⟩

theorem writecommand_quick (commandbyte : UInt8) : Quick ((do
    if (← sysOutb statReg writeCommand) ≠ 0 then return none
    else if (← sysOutb argsReg commandbyte) ≠ 0 then return none
    else return some ()) : Program Message (Option Unit)) := by
  intro first second rest
  cases done : (first (.sysOutb statReg writeCommand) : Bool) with
  | false =>
      rw [sysOutb_cons _ _ _ _ _ false done]
      exact ⟨_, rfl, rfl⟩
  | true =>
      rw [sysOutb_cons _ _ _ _ _ true done]
      cases sent : (second (.sysOutb argsReg commandbyte) : Bool) with
      | false =>
          rw [if_neg (by decide), sysOutb_cons _ _ _ _ _ false sent]
          exact ⟨_, rfl, rfl⟩
      | true =>
          rw [if_neg (by decide), sysOutb_cons _ _ _ _ _ true sent]
          exact ⟨_, rfl, rfl⟩

/-- The retry loops return after at most ten reads of the status if and only if one of the first ten
replies allows the command, or none of them is a failure: a failure does not use up a try. -/
theorem retries_bounded_iff (replies : Nat → Answer (Reply Message)) (commandbyte : UInt8) :
    ((∃ n, Within 10 (readcommand (firsts n replies))) ↔
      (∃ i < 10, Free (replies i (.sysInb statReg))) ∨
        ∀ i < 10, replies i (.sysInb statReg) ≠ none) ∧
    ((∃ n, Within 10 (writecommand commandbyte (firsts n replies))) ↔
      (∃ i < 10, Free (replies i (.sysInb statReg))) ∨
        ∀ i < 10, replies i (.sysInb statReg) ≠ none) := by
  constructor
  · have loop := tryLoop_within readcommand_quick (Nat.le_refl 10) replies
    simp only [true_and] at loop
    simpa only [readcommand, retry_within] using loop
  · have loop := tryLoop_within (writecommand_quick commandbyte) (Nat.le_refl 10) replies
    simp only [true_and] at loop
    simpa only [writecommand, retry_within] using loop

/-- With a controller that cannot be read, the loops do not end within ten reads. -/
theorem retries_not_bounded :
    ¬ (∃ n, Within 10 (readcommand (firsts n (fun _ => answering (fun _ => none) true ())))) ∧
    ¬ ∃ n, Within 10 (writecommand 0 (firsts n (fun _ => answering (fun _ => none) true ()))) := by
  have wrong : ¬ ((∃ i < 10, Free (answering (fun _ => none) true () (.sysInb statReg))) ∨
      10 = 10 ∧ ∀ i < 10, answering (fun _ => none) true () (.sysInb statReg) ≠ none) := by
    rintro (⟨i, -, stat, same, -⟩ | ⟨-, all⟩)
    · cases same
    · exact all 0 (by decide) rfl
  constructor
  · simp only [readcommand, retry_within]
    exact fun within => wrong ((tryLoop_within readcommand_quick (Nat.le_refl 10) _).mp within)
  · simp only [writecommand, retry_within]
    exact fun within => wrong ((tryLoop_within (writecommand_quick 0) (Nat.le_refl 10) _).mp within)

end Lcom.Lab3
