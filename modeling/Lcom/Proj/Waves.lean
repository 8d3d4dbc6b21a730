import Lcom.Proj.March
import Lcom.Proj.Play

/-! Wave bookkeeping: the kill counter, the alive flags and `gameState`. -/

namespace Lcom.Proj

open Lcom.Lib

def deadCount (aliens : List Alien) : Nat := aliens.countP (fun a => !a.alive)

theorem deadCount_append (front back : List Alien) :
    deadCount (front ++ back) = deadCount front + deadCount back := List.countP_append

theorem deadCount_cons_alive (a : Alien) (rest : List Alien) (alive : a.alive = true) :
    deadCount (a :: rest) = deadCount rest := by
  simp [deadCount, alive]

theorem deadCount_cons_dead (a : Alien) (rest : List Alien) (dead : a.alive = false) :
    deadCount (a :: rest) = deadCount rest + 1 := by
  simp [deadCount, dead]

theorem deadCount_le (aliens : List Alien) : deadCount aliens ≤ aliens.length :=
  List.countP_le_length

theorem deadCount_eq_length (aliens : List Alien) (full : deadCount aliens = aliens.length) :
    ∀ a ∈ aliens, a.alive = false := by
  intro a member
  simpa using List.countP_eq_length.mp full a member

theorem exists_alive_of_deadCount_lt (aliens : Aliens)
    (few : deadCount aliens.toList < sizeOfAliens) : ∃ i, (aliens.get i).alive = true := by
  by_contra none
  have all : ∀ a ∈ aliens.toList, (!a.alive) = true := by
    intro a member
    obtain ⟨i, rfl⟩ := (List.Vector.mem_iff_get a aliens).mp member
    by_contra alive
    exact none ⟨i, by simpa using alive⟩
  have full : deadCount aliens.toList = aliens.toList.length := List.countP_eq_length.mpr all
  rw [List.Vector.toList_length] at full
  omega

/-- The aliens have not yet all been counted as killed, or the wave is over. -/
structure Tally (gameState : GameState) (killCount : Int) (aliens : List Alien) : Prop where
  playing : gameState = .playing → killCount < sizeOfAliens
  cleared : gameState = .nextRound → killCount = sizeOfAliens
  counted : killCount = deadCount aliens

def WaveInv (g : Game) : Prop :=
  g.gameState = .playing ∨ g.gameState = .nextRound → Tally g.gameState g.killCount g.aliens.toList

theorem settleAlien_tally (cfg : Config) (a : Alien) (m : March) (aliens : List Alien)
    (fits : aliens.length = sizeOfAliens) (counted : m.killCount = deadCount aliens)
    (notCleared : m.gameState ≠ .nextRound) :
    Tally (settleAlien cfg a m).gameState (settleAlien cfg a m).killCount aliens := by
  have bound := deadCount_le aliens
  rw [fits] at bound
  unfold settleAlien
  split
  · exact ⟨by simp, by simp, counted⟩
  · split
    · rename_i full
      exact ⟨by simp, fun _ => full, counted⟩
    · rename_i unfinished
      refine ⟨fun _ => ?_, fun cleared => absurd cleared notCleared, counted⟩
      omega

theorem Tally.not_cleared {gameState : GameState} {killCount : Int} {front back : List Alien}
    {a : Alien} (tally : Tally gameState killCount (front ++ a :: back)) (alive : a.alive = true)
    (fits : (front ++ a :: back).length = sizeOfAliens) : gameState ≠ .nextRound := by
  intro cleared
  have full := tally.cleared cleared
  have counted := tally.counted
  rw [deadCount_append, deadCount_cons_alive a back alive] at counted
  have front_le := deadCount_le front
  have back_le := deadCount_le back
  simp only [List.length_append, List.length_cons] at fits
  omega

theorem Tally.visit {cfg : Config} {rightMov movImg : Bool} {done rest : List Alien} {a a' : Alien}
    {m m' : March} (tally : Tally m.gameState m.killCount (done ++ a :: rest))
    (fits : (done ++ a :: rest).length = sizeOfAliens)
    (visit : Visit cfg rightMov movImg a m a' m') :
    Tally m'.gameState m'.killCount (done ++ [a'] ++ rest) := by
  have same : ∀ b, (done ++ [b] ++ rest).length = sizeOfAliens := by
    intro b
    simpa using fits
  have counted := tally.counted
  cases visit with
  | skipped dead => simpa using tally
  | missed heap _ alive place read next misses =>
      rw [deadCount_append, deadCount_cons_alive a rest alive] at counted
      refine settleAlien_tally _ _ _ _ (same a') ?_ (tally.not_cleared alive fits)
      rw [List.append_assoc, deadCount_append, List.singleton_append,
        deadCount_cons_alive a' rest (by rw [place]; exact alive)]
      exact counted
  | killed heap ref moved alive place read next member hit =>
      rw [deadCount_append, deadCount_cons_alive a rest alive] at counted
      refine settleAlien_tally _ _ _ _ (same _) ?_ (tally.not_cleared alive fits)
      rw [List.append_assoc, deadCount_append, List.singleton_append,
        deadCount_cons_dead _ rest rfl]
      simp only [March.scored, March.drawn]
      push_cast
      omega

theorem marchPass_tally (cfg : Config) (g : Game)
    (holds : Tally g.gameState g.killCount g.aliens.toList) :
    Tally (marchPass cfg g).2.gameState (marchPass cfg g).2.killCount (marchPass cfg g).1 := by
  have result := marchPass_rule cfg g
    (fun done todo m => (done ++ todo).length = sizeOfAliens ∧
      Tally m.gameState m.killCount (done ++ todo)) ?_ ⟨by simp, holds⟩
  · simpa using result.2
  · rintro done a rest m a' m' ⟨fits, tally⟩ visit
    exact ⟨by simpa using fits, tally.visit fits visit⟩

theorem deadCount_map_y (aliens : List Alien) (yf : Int) :
    deadCount (aliens.map (fun a => changeAlienYCoordinates a yf)) = deadCount aliens := by
  simp only [deadCount, List.countP_map]
  rfl

theorem marchAliens_wave (cfg : Config) (g : Game)
    (holds : Tally g.gameState g.killCount g.aliens.toList) :
    Tally (marchAliens cfg g).gameState (marchAliens cfg g).killCount
      (marchAliens cfg g).aliens.toList := by
  have tally := marchPass_tally cfg g holds
  refine ⟨tally.playing, tally.cleared, ?_⟩
  rw [marchAliens_toList, deadCount_map_y]
  exact tally.counted

theorem initAliens_alive (cfg : Config) : ∀ a ∈ (initAliens cfg).toList, a.alive = true := by
  intro a member
  obtain ⟨column, _, inner⟩ := List.mem_flatMap.mp member
  obtain ⟨row, _, rfl⟩ := List.mem_map.mp inner
  unfold gridAlien
  dsimp only
  split
  · rfl
  · split <;> rfl

theorem initAliens_deadCount (cfg : Config) : deadCount (initAliens cfg).toList = 0 := by
  apply List.countP_eq_zero.mpr
  intro a member
  simp [initAliens_alive cfg a member]

theorem initGame_tally (cfg : Config) (gameState : GameState) (playing : gameState = .playing) :
    Tally gameState 0 (initAliens cfg).toList := by
  refine ⟨fun _ => by decide, ?_, by simp [initAliens_deadCount]⟩
  intro cleared
  rw [playing] at cleared
  cases cleared

theorem tick_wave {cfg : Config} {g after : Game}
    (holds : Tally g.gameState g.killCount g.aliens.toList) (ends : TickEnd cfg g after) :
    WaveInv after := by
  have moved : ∀ g, Tally g.gameState g.killCount g.aliens.toList →
      WaveInv (moveAliens cfg g) := by
    intro g tally _
    exact moveAliens_keeps cfg g (fun g => Tally g.gameState g.killCount g.aliens.toList)
      (fun _ _ _ _ _ tally => tally) (marchAliens_wave cfg) tally
  cases ends with
  | fired index idle alive => exact moved _ holds
  | lost active dead =>
      rintro (playing | cleared)
      · cases playing
      · cases cleared
  | flown active left =>
      apply moved
      obtain ⟨lives, still, calls, same⟩ := moveAlienBullet_eq g
      rw [same]
      exact holds

theorem inputMove_wave {cfg : Config} {seen : Mouse → Prop} {started : Prop} {before after : Game}
    (holds : WaveInv before) (move : InputMove cfg seen started before after) : WaveInv after := by
  cases move with
  | menuCalls made menus => exact holds
  | instructions menu => rintro (playing | cleared) <;> contradiction
  | menu instructions => rintro (playing | cleared) <;> contradiction
  | exit => rintro (playing | cleared) <;> contradiction
  | start menu click => exact fun _ => initGame_tally cfg _ rfl
  | shoot playing => exact holds
  | steer key playing => exact holds

theorem wave_reachable {cfg : Config} (w : World) (reached : (gameLoop cfg).Reachable w) :
    WaveInv w.game := by
  apply reachable_invariant WaveInv _ _ _ _ w reached
  · rintro memory (playing | cleared)
    · cases playing
    · cases cleared
  · exact fun g holds => holds
  · exact fun started before after holds move => inputMove_wave holds move
  · intro before after holds move
    cases move with
    | count made menus still => exact holds
    | tick _ inputs playing ends =>
        exact tick_wave (g := drawFrame cfg inputs (timerIntHandler before))
          (holds (Or.inl playing)) ends
    | nextRound cleared => exact fun _ => initGame_tally cfg _ rfl

def GenerateCall (cfg : Config) (w : World) (interrupts : BitVec 64) (inputs : Inputs)
    (aliens : Aliens) : Prop :=
  ∃ v, w.game.gameState ≠ .exit ∧ inputParts cfg interrupts inputs w.clear = .next v ∧
    interrupts &&& timerBit ≠ 0 ∧ v.game.gameState = .playing ∧
    v.game.alienBullet.active = false ∧ aliens = v.game.aliens

theorem generateAlienBullet_none_iff (aliens : Aliens) (rands : List Nat) :
    generateAlienBullet aliens rands = none ↔
      ∀ rand ∈ rands, (aliens.get ⟨rand % sizeOfAliens, Nat.mod_lt _ (by decide)⟩).alive = false := by
  induction rands with
  | nil => simp [generateAlienBullet]
  | cons rand rest ih =>
      simp only [generateAlienBullet, List.mem_cons, forall_eq_or_imp]
      split
      · rename_i alive
        simp [alive]
      · rename_i dead
        simp [ih, dead]

theorem generateCall_step {cfg : Config} {w : World} {interrupts : BitVec 64} {inputs : Inputs}
    {aliens : Aliens} (call : GenerateCall cfg w interrupts inputs aliens) :
    gameStep cfg w (.hardware interrupts inputs) = none ↔
      generateAlienBullet aliens inputs.rand = none := by
  obtain ⟨v, open_, flow, bit, playing, idle, rfl⟩ := call
  have state : (timerIntHandler v.game).gameState = .playing := playing
  have unarmed : (drawFrame cfg inputs (timerIntHandler v.game)).alienBullet.active = false := idle
  simp only [gameStep, if_neg open_, hardware, flow, if_pos bit, timerPart, state,
    playingTick, unarmed, Bool.false_eq_true, not_false_eq_true, if_true, Option.map_eq_none_iff]
  exact Iff.rfl

theorem generateCall_alive {cfg : Config} {w : World} (holds : WaveInv w.game)
    {interrupts : BitVec 64} {inputs : Inputs} {aliens : Aliens}
    (call : GenerateCall cfg w interrupts inputs aliens) : ∃ i, (aliens.get i).alive = true := by
  obtain ⟨v, _, flow, _, playing, _, rfl⟩ := call
  have arrived : Arrived cfg (fun _ => True) (StartClick w.clear (.hardware interrupts inputs))
      w.clear.game (inputParts cfg interrupts inputs w.clear).world :=
    inputParts_arrives Tracks.always interrupts inputs w.clear trivial
  rw [flow] at arrived
  have wave : WaveInv v.game :=
    arrived.moves.invariant WaveInv (fun _ _ holds move => inputMove_wave holds move) holds
  have tally := wave (Or.inl playing)
  apply exists_alive_of_deadCount_lt
  have few := tally.playing playing
  have counted := tally.counted
  omega

theorem timerMove_create {cfg : Config} {seen : Mouse → Prop} {g after : Game}
    (move : TimerMove cfg seen g after) (none : g.bulletCalls = []) {index : Fin sizeOfAliens}
    (created : Call.createAlienBullet index ∈ after.bulletCalls) :
    g.gameState = .playing ∧ g.alienBullet.active = false ∧ (g.aliens.get index).alive = true := by
  rcases timerMove_bulletCalls move with ⟨same, _⟩ | ⟨inputs, playing, ends⟩
  · rw [same, none] at created
    cases created
  · have frame : (drawFrame cfg inputs (timerIntHandler g)).bulletCalls = [] :=
      (drawFrame_bulletCalls cfg inputs _).trans none
    cases ends with
    | fired fired idle alive =>
        rw [moveAliens_bulletCalls, fireAlienBullet_bulletCalls, frame, List.nil_append,
          List.mem_singleton] at created
        cases created
        exact ⟨playing, idle, alive⟩
    | lost active dead =>
        change _ ∈ (moveAlienBullet _).bulletCalls at created
        rw [moveAlienBullet_bulletCalls, frame] at created
        split at created <;> simp at created
    | flown active left =>
        rw [moveAliens_bulletCalls, moveAlienBullet_bulletCalls, frame] at created
        split at created <;> simp at created

theorem createCall_alive {cfg : Config} {w after : World} {message : Message}
    (stepped : gameStep cfg w message = some after) {index : Fin sizeOfAliens}
    (member : Call.createAlienBullet index ∈ after.game.calls) :
    ∃ interrupts inputs aliens, message = .hardware interrupts inputs ∧
      GenerateCall cfg w interrupts inputs aliens ∧ (aliens.get index).alive = true := by
  obtain ⟨interrupts, inputs, v, same, running, flow, bit, ticked, none⟩ :=
    bulletCall_timer stepped member rfl
  have move : TimerMove cfg (fun _ => True) v.game after.game :=
    (timerPart_moves inputs v after trivial ticked).1
  obtain ⟨playing, idle, alive⟩ :=
    timerMove_create move none (List.mem_filter.mpr ⟨member, rfl⟩)
  exact ⟨interrupts, inputs, v.game.aliens, same,
    ⟨v, running, flow, bit, playing, idle, rfl⟩, alive⟩

/-- In every state between two messages the kill counter counts the dead aliens, a wave
under way has a living alien, and a cleared wave has none. The rejection loop of
`generateAlienBullet` is entered only with a living alien, ends as soon as `rand()` names
one, and its bullet comes from a living alien. -/
theorem wave_bookkeeping (cfg : Config) (w : World) (reached : (gameLoop cfg).Reachable w) :
    (w.game.gameState = .playing →
      w.game.killCount = deadCount w.game.aliens.toList ∧ w.game.killCount < sizeOfAliens) ∧
    (w.game.gameState = .nextRound →
      (∀ i, (w.game.aliens.get i).alive = false) ∧ w.game.killCount = sizeOfAliens) ∧
    (∀ interrupts inputs aliens, GenerateCall cfg w interrupts inputs aliens →
      (∃ i, (aliens.get i).alive = true) ∧
      (gameStep cfg w (.hardware interrupts inputs) = none ↔ ∀ rand ∈ inputs.rand,
        (aliens.get ⟨rand % sizeOfAliens, Nat.mod_lt _ (by decide)⟩).alive = false)) ∧
    (∀ message after index, gameStep cfg w message = some after →
      Call.createAlienBullet index ∈ after.game.calls →
      ∃ interrupts inputs aliens, message = .hardware interrupts inputs ∧
        GenerateCall cfg w interrupts inputs aliens ∧ (aliens.get index).alive = true) := by
  have wave := wave_reachable w reached
  refine ⟨?_, ?_, ?_, ?_⟩
  · intro playing
    have tally := wave (Or.inl playing)
    exact ⟨tally.counted, tally.playing playing⟩
  · intro cleared
    have tally := wave (Or.inr cleared)
    have full := tally.cleared cleared
    have counted := tally.counted
    refine ⟨?_, full⟩
    intro i
    apply deadCount_eq_length w.game.aliens.toList
    · rw [List.Vector.toList_length]
      omega
    · exact List.Vector.get_mem i w.game.aliens
  · intro interrupts inputs aliens call
    refine ⟨generateCall_alive wave call, ?_⟩
    rw [generateCall_step call, generateAlienBullet_none_iff]
  · intro message after index stepped member
    exact createCall_alive stepped member

/-- After the first kill of a game. -/
theorem wave_bookkeeping_first_wave : ∃ w, (gameLoop sampleConfig).Reachable w ∧
    w.game.gameState = .playing ∧ w.game.killCount = 1 ∧ deadCount w.game.aliens.toList = 1 ∧
    w.game.killCount < sizeOfAliens := by
  obtain ⟨w, reached, playing, kill⟩ := reachable_of_played
    (clickStart ++ clickShoot ++ List.replicate 20 (timerTick [5]))
    (fun w => w.game.gameState = .playing ∧ w.game.killCount = 1) (by decide +kernel)
  obtain ⟨counted, few⟩ := (wave_bookkeeping sampleConfig w reached).1 playing
  refine ⟨w, reached, playing, kill, ?_, few⟩
  rw [kill] at counted
  exact (Int.ofNat_inj.mp counted).symm

end Lcom.Proj
