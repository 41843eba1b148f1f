/-
# Advancing is additive

To advance by `a + b` is to advance by `a` and then by `b`: the same callbacks
run, in the same order and at the same times, and the clock comes to stand in
the same place.

The run of the whole advance is cut where nothing is due by `t + a` any more
(`Fires.split`).  Up to there both runs take the same timers, because the
deadline decides only whether a timer is taken, never which one.  Then the
first of the two advances moves the clock on to `t + a`.  That does not show:
the next timer is due after `t + a`, so its start sets the clock to its own
time anyway (`moved_turn`), and if there is none, the second advance moves the
clock past `t + a` as the whole one does.
-/
import PageTimers.Proofs.Program.Drain

namespace PageTimers

/-! ## The clock moved on between two drains -/

namespace World

variable {limit target : Nat} {world : ClockWorld} {timer : QueuedTimer (Handler TimerId)}
  {timers : List (QueuedTimer (Handler TimerId))} {deadline : Option Nat}

/-- The same world, with the clock moved on. -/
def moved (target : Nat) (world : ClockWorld) : ClockWorld :=
  { world with provider := { world.provider with now := max world.provider.now target } }

/-- A timer that is due no earlier than the clock is moved to starts as if it
had not been moved. -/
theorem moved_turn (h : target ≤ timer.dueAt) :
    (world.moved target).turn limit timer = world.turn limit timer := by
  have hnow : max (max world.provider.now target) timer.dueAt =
      max world.provider.now timer.dueAt := by omega
  have hstart : (world.moved target).startCallback timer = world.startCallback timer := by
    simp only [startCallback, moved, VirtualClock.start, VirtualClock.startEvent, hnow]
  rw [turn, hstart]
  rfl

/-- Where nothing is due, moving the clock on changes neither which timers a
drain starts, nor what it comes to. -/
theorem Fires.moved (hquiet : world.provider.next? (some target) = none)
    (h : Fires limit deadline world timers) :
    Fires limit deadline (world.moved target) timers ∧
      ∀ later, target ≤ later →
        ((world.moved target).turns limit timers).moved later =
          (world.turns limit timers).moved later := by
  cases h with
  | nil =>
      refine ⟨.nil _, fun later hle => ?_⟩
      have hnow : max (max world.provider.now target) later = max world.provider.now later := by
        omega
      simp only [turns, List.foldl_nil, World.moved, hnow]
  | @cons _ timer timers hnext hreturns h =>
      have hlate : target < timer.dueAt := by
        have hdue := VirtualClock.next?_eq_none_iff.mp hquiet timer (VirtualClock.next?_spec hnext).1
        simpa [QueuedTimer.isDue] using hdue
      have hturn : (world.moved target).turn limit timer = world.turn limit timer :=
        moved_turn (Nat.le_of_lt hlate)
      refine ⟨.cons hnext hreturns (hturn ▸ h), fun later _ => ?_⟩
      rw [turns, turns, List.foldl_cons, List.foldl_cons, hturn]

/-- A drain takes up where another one has moved the clock on to. -/
theorem Fires.onwards {between : ClockWorld} (hquiet : world.provider.next? (some target) = none)
    (hbetween : between.forget.onto world = world.moved target)
    (h : Fires limit deadline world timers) :
    Fires limit deadline between.forget timers ∧
      ∀ later, target ≤ later →
        ((between.forget.turns limit timers).onto world).moved later =
          (world.turns limit timers).moved later := by
  obtain ⟨hmoved, hsame⟩ := h.moved hquiet
  rw [← hbetween] at hmoved
  refine ⟨hmoved.of_onto, fun later hle => ?_⟩
  rw [← turns_onto, hbetween]
  exact hsame later hle

/-- A drain to a deadline passes any earlier one. -/
theorem Fires.split {sooner later : Nat} (hle : sooner ≤ later)
    (h : Fires limit (some later) world timers)
    (hquiet : (world.turns limit timers).provider.next? (some later) = none) :
    ∃ first second, timers = first ++ second ∧ Fires limit (some sooner) world first ∧
      (world.turns limit first).provider.next? (some sooner) = none := by
  induction timers generalizing world with
  | nil =>
      have hquiet : world.provider.next? (some later) = none := hquiet
      refine ⟨[], [], rfl, .nil world, ?_⟩
      cases hnext : world.provider.next? (some sooner) with
      | none => exact hnext
      | some timer =>
          exact absurd ((VirtualClock.next?_of_le hle hnext).symm.trans hquiet) (by simp)
  | cons timer timers ih =>
      cases h with
      | cons hlater hreturns h =>
          cases hnext : world.provider.next? (some sooner) with
          | none => exact ⟨[], timer :: timers, rfl, .nil world, hnext⟩
          | some other =>
              obtain rfl := Option.some.inj ((VirtualClock.next?_of_le hle hnext).symm.trans hlater)
              obtain ⟨first, second, rfl, hfirst, hbetween⟩ := ih h hquiet
              exact ⟨other :: first, second, rfl, .cons hnext hreturns hfirst, hbetween⟩

end World

/-! ## The whole and its parts -/

namespace Turn

variable {limit a b count : Nat} {world whole : ClockWorld} {turn : Turn TimerId}
  {timers : List (QueuedTimer (Handler TimerId))}

/-- What comes of an advance that starts all timers that are due. -/
theorem comes_advance (hcalm : world.Obeys fun action => !action.isDrain)
    (htime : world.provider.now + a < word64)
    (hfires : World.Fires limit (some (world.provider.now + a)) world.forget timers)
    (hle : timers.length ≤ VirtualClock.clampLimit limit)
    (hquiet : (world.forget.turns limit timers).provider.next? (some (world.provider.now + a)) =
      none) :
    ∃ (after : ClockWorld) (turn : Turn TimerId),
      Comes (VirtualClock.provider limit) (.drain (.advance (.ofMillis a))) world after turn ∧
      turn.result = some (.answered (.ok (.ran timers.length))) ∧
      turn.log = ((world.forget.turns limit timers).log.filter Entry.isOfCallback).reverse ∧
      after.forget =
        ((world.forget.turns limit timers).moved (world.provider.now + a)).forget := by
  have hp : ∀ drain, (fun action : Action TimerId => !action.isDrain) (.drain drain) = false :=
    fun _ => rfl
  exact ⟨_, _, comes_quiet hp hcalm (VirtualClock.Goal.of_millis htime) hfires hle hquiet, rfl, rfl,
    rfl⟩

/-- What comes of an advance from a world that differs from `w` in its records
and in that its clock was moved on to `target`, where `w` has nothing due. -/
theorem comes_onwards {w : ClockWorld} {target : Nat}
    (hcalm : w.Obeys fun action => !action.isDrain)
    (hmoved : world.forget = (w.moved target).forget) (hnow : world.provider.now = target)
    (hearlier : w.provider.next? (some target) = none) (htime : target + b < word64)
    (hfires : World.Fires limit (some (target + b)) w timers)
    (hle : timers.length ≤ VirtualClock.clampLimit limit)
    (hquiet : (w.turns limit timers).provider.next? (some (target + b)) = none) :
    ∃ (after : ClockWorld) (turn : Turn TimerId),
      Comes (VirtualClock.provider limit) (.drain (.advance (.ofMillis b))) world after turn ∧
      turn.result = some (.answered (.ok (.ran timers.length))) ∧
      (w.log.filter Entry.isOfCallback).reverse ++ turn.log =
        ((w.turns limit timers).log.filter Entry.isOfCallback).reverse ∧
      after.forget = ((w.turns limit timers).moved (target + b)).forget := by
  have honto : world.forget.onto w = w.moved target := by
    rw [hmoved]
    rfl
  obtain ⟨honwards, hsame⟩ := hfires.onwards hearlier honto
  have hafter := hsame (target + b) (Nat.le_add_right _ _)
  have hcalm' : world.Obeys fun action => !action.isDrain := by
    show world.forget.Obeys _
    rw [hmoved]
    exact hcalm
  have hquiet' : (world.forget.turns limit timers).provider.next? (some (target + b)) = none := by
    have hnext := congrArg (fun w : ClockWorld => w.provider.next? (some (target + b))) hafter
    exact hnext.trans hquiet
  subst hnow
  obtain ⟨after, turn, hcomes, hresult, hlog, hforget⟩ :=
    comes_advance hcalm' htime honwards hle hquiet'
  refine ⟨after, turn, hcomes, hresult, ?_, ?_⟩
  · have hrecords : (world.forget.turns limit timers).log ++ w.log = (w.turns limit timers).log :=
      congrArg World.log hafter
    rw [hlog, ← hrecords, List.filter_append, List.reverse_append]
  · have hends := congrArg World.forget hafter
    rw [hforget]
    exact hends

/-- **Advancing is additive.**  Where callbacks do not drain, an advance that
comes back well can be made in two parts.  Both come back well, and together
they run as many callbacks, the same ones in the same order and at the same
times, doing the same with the same results; and the clock, its queue and the
page are left the same. -/
theorem advance_additive (hcalm : world.Obeys fun action => !action.isDrain)
    (htime : world.provider.now + a + b < word64)
    (h : Comes (VirtualClock.provider limit) (.drain (.advance (.ofMillis (a + b)))) world whole turn)
    (hresult : turn.result = some (.answered (.ok (.ran count)))) :
    ∃ (between parts : ClockWorld) (first second : Turn TimerId) (count₁ count₂ : Nat),
      Comes (VirtualClock.provider limit) (.drain (.advance (.ofMillis a))) world between first ∧
      first.result = some (.answered (.ok (.ran count₁))) ∧
      Comes (VirtualClock.provider limit) (.drain (.advance (.ofMillis b))) between parts second ∧
      second.result = some (.answered (.ok (.ran count₂))) ∧
      count₁ + count₂ = count ∧
      first.log ++ second.log = turn.log ∧
      parts.forget = whole.forget := by
  have hp : ∀ drain, (fun action : Action TimerId => !action.isDrain) (.drain drain) = false :=
    fun _ => rfl
  obtain ⟨goal, timers, hgoal, hfires, hlength, hle, hquiet, -⟩ := h.fires hp hcalm hresult
  rw [VirtualClock.Goal.of_millis (by omega)] at hgoal
  cases hgoal
  obtain ⟨_, _, hwhole, -, hlog, hforget⟩ := comes_advance hcalm (by omega) hfires (by omega) hquiet
  obtain ⟨rfl, rfl⟩ := hwhole.unique h
  rw [← Nat.add_assoc] at hfires hquiet hforget
  obtain ⟨first, second, rfl, hfirst, hbetween⟩ :=
    hfires.split (Nat.le_add_right (world.provider.now + a) b) hquiet
  rw [List.length_append] at hlength
  rw [World.turns_append] at hquiet hlog hforget
  -- the first part
  obtain ⟨between, firstTurn, hcomes₁, hresult₁, hlog₁, hforget₁⟩ :=
    comes_advance hcalm (by omega) hfirst (by omega) hbetween
  have hnow : between.provider.now = world.provider.now + a := by
    have hforget : world.forget.Obeys fun action => !action.isDrain := hcalm
    have hle := hfirst.now_le hp hforget (Nat.le_add_right world.provider.now a)
    exact (congrArg (fun w : ClockWorld => w.provider.now) hforget₁).trans (Nat.max_eq_right hle)
  -- the second part, in a world that differs in its records and in what the clock shows
  have hmid : (world.forget.turns limit first).Obeys fun action => !action.isDrain :=
    World.Obeys.turns hp hcalm hfirst
  obtain ⟨parts, secondTurn, hcomes₂, hresult₂, hlog₂, hforget₂⟩ :=
    comes_onwards hmid hforget₁ hnow hbetween htime (World.fires_append_iff.mp hfires).2 (by omega)
      hquiet
  refine ⟨between, parts, firstTurn, secondTurn, first.length, second.length, hcomes₁, hresult₁,
    hcomes₂, hresult₂, hlength, ?_, ?_⟩
  · rw [hlog₁, hlog₂, hlog]
  · rw [hforget₂, hforget]

/-- It reads the clock every ten milliseconds. -/
def metronome : ClockWorld :=
  World.start ⟨0, 1, 1, [⟨⟨1⟩, 10, 1, some 10, .mk false [] [.now], 0⟩], none⟩ .empty

theorem metronome_advances_in_parts :
    (metronome.Obeys fun action => !action.isDrain) ∧ metronome.provider.now + 15 + 10 < word64 ∧
    ∃ whole turn, Comes (VirtualClock.provider 10) (.drain (.advance (.ofMillis (15 + 10)))) metronome
        whole turn ∧
      turn.result = some (.answered (.ok (.ran 2))) ∧
      ∃ between parts first second,
        Comes (VirtualClock.provider 10) (.drain (.advance (.ofMillis 15))) metronome between first ∧
        Comes (VirtualClock.provider 10) (.drain (.advance (.ofMillis 10))) between parts second ∧
        first.log ++ second.log = turn.log ∧ parts.forget = whole.forget := by
  have hcalm : metronome.Obeys fun action => !action.isDrain := by
    intro t ht
    obtain rfl := List.mem_singleton.mp ht
    rfl
  have htime : metronome.provider.now + 15 + 10 < word64 := by decide
  obtain ⟨whole, turn, htake⟩ : ∃ whole turn, take (VirtualClock.provider 10) 20
      (.drain (.advance (.ofMillis (15 + 10)))) metronome = (whole, turn) := ⟨_, _, rfl⟩
  have hcomes : Comes (VirtualClock.provider 10) (.drain (.advance (.ofMillis (15 + 10)))) metronome
      whole turn := ⟨20, htake, by cases htake; rfl⟩
  have hresult : turn.result = some (.answered (.ok (.ran 2))) := by cases htake; rfl
  obtain ⟨between, parts, first, second, _, _, hfirst, -, hsecond, -, -, hlog, hforget⟩ :=
    advance_additive hcalm htime hcomes hresult
  exact ⟨hcalm, htime, whole, turn, hcomes, hresult, between, parts, first, second, hfirst, hsecond,
    hlog, hforget⟩

end Turn

end PageTimers
