import Mathlib.Logic.Function.Iterate
import PickupLedger.Shutdown.Signal

/-!
# No wake-up is lost

Any number of triggers and waits is under way on the clones of one signal
(`SharedSignal`).  Clones share the flag and the channel, so there is one signal between
them; a schedule names who takes the next step (`SharedSignal.tick`), and whoever it has
not named yet has not begun.

A trigger sets the flag before it sends, and a wait subscribes before it looks at the flag.
So nothing has been sent while the flag is not set, and a wait that finds it so has
subscribed before the one message (`Wait.Attends`).  As soon as the flag is set and nobody
is about to send (`SharedSignal.Settled`), the signal stays as it is and each wait goes on
by its own steps alone (`Settled.run`): one step is left to those that have subscribed, and
those that begin now see the flag.
-/

namespace PickupLedger

/-- **A signal with triggers and waits under way** on its clones. -/
structure SharedSignal where
  signal : Signal
  triggers : List Trigger
  waits : List Wait
  deriving DecidableEq, Repr

/-- Who takes the next step. -/
inductive SignalTurn where
  | trigger (i : Nat)
  | wait (i : Nat)
  deriving DecidableEq, Repr

/-! ## One trigger -/

namespace Trigger
variable (s : Signal) (t : Trigger)

/-- A trigger that has taken a step has begun. -/
theorem step_ne_begun : (t.step s).1 ≠ .begun := by
  cases t <;> simp [step]

/-- The flag is never taken back. -/
theorem triggered_step (h : t = .begun ∨ s.triggered = true) : (t.step s).2.triggered = true := by
  rcases h with rfl | h
  · rfl
  · cases t with
    | swapped first => cases first <;> exact h
    | begun => rfl
    | returned => exact h

theorem sent_le_step : s.sent ≤ (t.step s).2.sent := by
  cases t with
  | swapped first => cases first <;> simp [step]
  | _ => exact Nat.le_refl _

/-- A step that owes a message has set the flag, and one that sends it owes it no more. -/
theorem messages_step {owed : Nat} (h : s.sent + owed = s.triggered.toNat)
    (ht : t = .swapped true → 0 < owed) :
    (t.step s).2.sent + (owed - (if t = .swapped true then 1 else 0) +
        if (t.step s).1 = .swapped true then 1 else 0) = (t.step s).2.triggered.toNat := by
  cases t with
  | begun => cases hs : s.triggered <;> simp_all [step]
  | swapped first =>
    cases first with
    | true =>
      have := ht rfl
      simp only [step, if_true, reduceCtorEq, if_false]
      omega
    | false => simpa [step] using h
  | returned => simpa [step] using h

variable {s t}

/-- Once the flag is set, only the trigger that has set it does anything. -/
theorem step_of_triggered (hs : s.triggered = true) (ht : t ≠ .swapped true) :
    (t.step s).2 = s ∧ (t.step s).1 ≠ .swapped true := by
  obtain ⟨flag, sent⟩ := s
  obtain rfl : flag = true := hs
  cases t with
  | swapped first =>
    cases first with
    | true => exact absurd rfl ht
    | false => simp [step]
  | _ => simp [step]

end Trigger

/-! ## One wait -/

namespace Wait

/-- **A wait has not missed anything**: the one message is still to come for it unless it can
see the flag, and it has not returned without that. -/
def Attends (s : Signal) : Wait → Prop
  | .begun => True
  | .subscribed since => since ≤ s.sent
  | .receiving since => since = 0
  | .returned => s.triggered = true

/-- **A wait can finish**: it sees the flag, a message is waiting for it, or it has returned. -/
def CanFinish (s : Signal) : Wait → Prop
  | .begun => False
  | .subscribed _ => s.triggered = true
  | .receiving since => since < s.sent
  | .returned => True

variable {s : Signal} {w : Wait}

theorem Attends.mono {s' : Signal} (h : w.Attends s) (hsent : s.sent ≤ s'.sent)
    (hflag : s.triggered = true → s'.triggered = true) : w.Attends s' := by
  cases w with
  | begun => trivial
  | subscribed since => exact Nat.le_trans h hsent
  | receiving since => exact h
  | returned => exact hflag h

/-- A step misses nothing, as nothing is sent before the flag is set. -/
theorem Attends.step (h : w.Attends s) (hsent : 0 < s.sent → s.triggered = true) :
    (w.step s).Attends s := by
  cases w with
  | begun => exact Nat.le_refl _
  | subscribed since =>
    simp only [Wait.step]
    split
    case isTrue hflag => exact hflag
    case isFalse hflag =>
      have hnone : s.sent = 0 := Nat.eq_zero_of_not_pos fun hpos => hflag (hsent hpos)
      exact Nat.le_zero.mp (hnone ▸ h)
  | receiving since =>
    simp only [Wait.step]
    split
    case isTrue hmessage => exact hsent (Nat.zero_lt_of_lt hmessage)
    case isFalse => exact h
  | returned => exact h

theorem CanFinish.step (h : w.CanFinish s) : w.step s = .returned := by
  cases w with
  | begun => exact h.elim
  | subscribed since => exact if_pos h
  | receiving since => exact if_pos h
  | returned => rfl

/-- It does finish with its next step, and stays so. -/
theorem CanFinish.iterate (h : w.CanFinish s) {n : Nat} (hn : n ≠ 0) :
    (Wait.step s)^[n] w = .returned := by
  obtain ⟨n, rfl⟩ := Nat.exists_eq_succ_of_ne_zero hn
  rw [Function.iterate_succ_apply, h.step]
  exact Function.iterate_fixed rfl n

/-- A wait that begins when the flag is set returns with its second step, not having received. -/
theorem iterate_begun (h : s.triggered = true) : ∀ n : Nat,
    (Wait.step s)^[n] .begun =
      if n = 0 then .begun else if n = 1 then .subscribed s.sent else .returned
  | 0 => rfl
  | 1 => rfl
  | n + 2 => by
    have hnext : CanFinish s (.subscribed s.sent) := h
    rw [Function.iterate_succ_apply]
    exact hnext.iterate (Nat.succ_ne_zero n)

end Wait

/-! ## Side by side -/

namespace SharedSignal

/-- A new signal, with triggers and waits that have not taken a step. -/
def start (triggers waits : Nat) : SharedSignal :=
  ⟨.new, .replicate triggers .begun, .replicate waits .begun⟩

/-- **A step of one trigger or wait.** -/
def tick (y : SharedSignal) : SignalTurn → SharedSignal
  | .trigger i =>
    match y.triggers[i]? with
    | none => y
    | some t =>
      let (t, signal) := t.step y.signal
      { y with signal, triggers := y.triggers.set i t }
  | .wait i =>
    match y.waits[i]? with
    | none => y
    | some w => { y with waits := y.waits.set i (w.step y.signal) }

/-- **Steps in the order of a schedule.** -/
def run (y : SharedSignal) : List SignalTurn → SharedSignal
  | [] => y
  | turn :: turns => (y.tick turn).run turns

/-- **A state that triggers and waits get into**, however many there are and in whatever order
they take their steps. -/
def Reached (y : SharedSignal) : Prop :=
  ∃ triggers waits schedule, y = (start triggers waits).run schedule

/-- **Some trigger has set the flag, and none is about to send.** -/
def Settled (y : SharedSignal) : Prop :=
  (∃ t ∈ y.triggers, t ≠ .begun) ∧ .swapped true ∉ y.triggers

instance (y : SharedSignal) : Decidable y.Settled := inferInstanceAs (Decidable (_ ∧ _))

/-- **What holds in every state that is reached.** -/
structure Sound (y : SharedSignal) : Prop where
  triggered_iff : y.signal.triggered = true ↔ ∃ t ∈ y.triggers, t ≠ .begun
  /-- The flag stands for one message, which was sent or is about to be. -/
  messages : y.signal.sent + y.triggers.count (.swapped true) = y.signal.triggered.toNat
  attends : ∀ w ∈ y.waits, w.Attends y.signal

theorem start_sound (triggers waits : Nat) : (start triggers waits).Sound where
  triggered_iff := by simp [start, Signal.new]
  messages := by simp [start, Signal.new, List.count_replicate]
  attends w hw := by
    rw [List.eq_of_mem_replicate hw]
    trivial

section Tick
variable {y : SharedSignal} {i : Nat}

theorem tick_trigger {t : Trigger} (h : y.triggers[i]? = some t) : y.tick (.trigger i) =
    { y with signal := (t.step y.signal).2, triggers := y.triggers.set i (t.step y.signal).1 } := by
  rw [tick, h]

theorem tick_wait {w : Wait} (h : y.waits[i]? = some w) :
    y.tick (.wait i) = { y with waits := y.waits.set i (w.step y.signal) } := by
  rw [tick, h]

/-- Nothing is sent before the flag is set. -/
theorem Sound.triggered_of_sent (hy : y.Sound) (h : 0 < y.signal.sent) :
    y.signal.triggered = true := by
  cases hflag : y.signal.triggered with
  | true => rfl
  | false =>
    have hmessages := hy.messages
    rw [hflag, Bool.toNat_false] at hmessages
    omega

/-- **A step of a trigger keeps the state sound.** -/
theorem Sound.trigger (hy : y.Sound) {t : Trigger} (ht : y.triggers[i]? = some t) :
    Sound { y with
      signal := (t.step y.signal).2
      triggers := y.triggers.set i (t.step y.signal).1 } := by
  obtain ⟨hi, hget⟩ := List.getElem?_eq_some_iff.mp ht
  have hmem : t ∈ y.triggers := List.mem_of_getElem? ht
  have hflag : (t.step y.signal).2.triggered = true := by
    refine t.triggered_step y.signal ?_
    by_cases hbegun : t = .begun
    · exact .inl hbegun
    · exact .inr (hy.triggered_iff.mpr ⟨t, hmem, hbegun⟩)
  refine ⟨iff_of_true hflag ⟨_, List.mem_set hi _, t.step_ne_begun _⟩, ?_, ?_⟩
  · rw [List.count_set hi, hget]
    simpa only [beq_iff_eq] using t.messages_step y.signal hy.messages fun h =>
      List.count_pos_iff.mpr (h ▸ hmem)
  · exact fun w hw => (hy.attends w hw).mono (t.sent_le_step _) fun _ => hflag

/-- **A step of a wait keeps the state sound.** -/
theorem Sound.wait (hy : y.Sound) {w : Wait} (hw : y.waits[i]? = some w) :
    Sound { y with waits := y.waits.set i (w.step y.signal) } where
  triggered_iff := hy.triggered_iff
  messages := hy.messages
  attends w' hw' := by
    rcases List.mem_or_eq_of_mem_set hw' with hmem | rfl
    · exact hy.attends w' hmem
    · exact (hy.attends w (List.mem_of_getElem? hw)).step hy.triggered_of_sent

theorem Sound.tick (hy : y.Sound) (turn : SignalTurn) : (y.tick turn).Sound := by
  cases turn with
  | trigger i =>
    cases ht : y.triggers[i]? with
    | none => rw [SharedSignal.tick, ht]; exact hy
    | some t => rw [tick_trigger ht]; exact hy.trigger ht
  | wait i =>
    cases hw : y.waits[i]? with
    | none => rw [SharedSignal.tick, hw]; exact hy
    | some w => rw [tick_wait hw]; exact hy.wait hw

end Tick

/-! ## Many steps -/

theorem Sound.run {y : SharedSignal} (hy : y.Sound) (schedule : List SignalTurn) :
    (y.run schedule).Sound := by
  induction schedule generalizing y with
  | nil => exact hy
  | cons turn turns ih => exact ih (hy.tick turn)

theorem Reached.sound {y : SharedSignal} (h : y.Reached) : y.Sound := by
  obtain ⟨triggers, waits, schedule, rfl⟩ := h
  exact (start_sound triggers waits).run schedule

section Settled
variable {y : SharedSignal} (hy : y.Sound) (h : y.Settled)
include hy h

theorem Settled.triggered : y.signal.triggered = true := hy.triggered_iff.mpr h.1

/-- The one message has been sent. -/
theorem Settled.sent : y.signal.sent = 1 := by
  have hmessages := hy.messages
  rwa [List.count_eq_zero.mpr h.2, h.triggered hy] at hmessages

/-- **Every wait that has subscribed can finish.** -/
theorem Settled.canFinish {w : Wait} (hw : w ∈ y.waits) (hbegun : w ≠ .begun) :
    w.CanFinish y.signal := by
  have hattends := hy.attends w hw
  cases w with
  | begun => exact hbegun rfl
  | subscribed since => exact h.triggered hy
  | receiving since =>
    have hnone : since = 0 := hattends
    show since < y.signal.sent
    rw [hnone, h.sent hy]
    exact Nat.one_pos
  | returned => trivial

/-- From now on the signal stays as it is, and a turn is a step of a wait alone. -/
theorem Settled.tick (turn : SignalTurn) :
    (y.tick turn).Settled ∧ (y.tick turn).signal = y.signal ∧
      ∀ i, (y.tick turn).waits[i]? =
        y.waits[i]?.map (Wait.step y.signal)^[if turn = .wait i then 1 else 0] := by
  cases turn with
  | trigger j =>
    cases ht : y.triggers[j]? with
    | none =>
      rw [SharedSignal.tick, ht]
      exact ⟨h, rfl, fun i => by simp⟩
    | some t =>
      obtain ⟨hj, -⟩ := List.getElem?_eq_some_iff.mp ht
      have hnot : t ≠ .swapped true := fun heq => h.2 (heq ▸ List.mem_of_getElem? ht)
      obtain ⟨hsignal, hnext⟩ := Trigger.step_of_triggered (h.triggered hy) hnot
      rw [tick_trigger ht, hsignal]
      refine ⟨⟨⟨_, List.mem_set hj _, t.step_ne_begun _⟩, fun hmem => ?_⟩, rfl,
        fun i => by simp⟩
      rcases List.mem_or_eq_of_mem_set hmem with hmem | heq
      · exact h.2 hmem
      · exact hnext heq.symm
  | wait j =>
    cases hw : y.waits[j]? with
    | none =>
      rw [SharedSignal.tick, hw]
      refine ⟨h, rfl, fun i => ?_⟩
      by_cases hij : j = i
      · simp [← hij, hw]
      · simp [hij]
    | some w =>
      obtain ⟨hj, -⟩ := List.getElem?_eq_some_iff.mp hw
      rw [tick_wait hw]
      refine ⟨h, rfl, fun i => ?_⟩
      by_cases hij : j = i
      · subst hij
        rw [List.getElem?_set_self hj, hw, if_pos rfl]
        rfl
      · simp [hij]

/-- **A wait comes as far as its own steps take it**, whatever else happens. -/
theorem Settled.run (later : List SignalTurn) (i : Nat) :
    (y.run later).waits[i]? = y.waits[i]?.map (Wait.step y.signal)^[later.count (.wait i)] := by
  induction later generalizing y with
  | nil => simp [SharedSignal.run]
  | cons turn turns ih =>
    obtain ⟨hsettled, hsignal, hwaits⟩ := h.tick hy turn
    rw [SharedSignal.run, ih (hy.tick turn) hsettled, hsignal, hwaits, Option.map_map,
      ← Function.iterate_add, List.count_cons]
    simp only [beq_iff_eq]

end Settled
end SharedSignal

open SharedSignal

/-- **No wake-up is lost.**  However many triggers and waits there are on the clones of a signal
and in whatever order they take their steps: at most one message is sent, and no wait returns
before a trigger has set the flag.  And once the flag is set and no trigger is about to send,
every wait that has subscribed can finish and does so with its next step, whatever happens
until then, and every wait that begins afterwards returns with its second step and never
receives. -/
theorem no_wake_up_lost {y : SharedSignal} (hreached : y.Reached) :
    y.signal.sent ≤ 1 ∧
    (.returned ∈ y.waits → ∃ t ∈ y.triggers, t ≠ .begun) ∧
    (y.Settled →
      (∀ w ∈ y.waits, w ≠ .begun → w.CanFinish y.signal) ∧
      ∀ (later : List SignalTurn) (i : Nat) (w : Wait), y.waits[i]? = some w →
        (w ≠ .begun → .wait i ∈ later → (y.run later).waits[i]? = some .returned) ∧
        (w = .begun →
          (2 ≤ later.count (.wait i) → (y.run later).waits[i]? = some .returned) ∧
          ∀ since, (y.run later).waits[i]? ≠ some (.receiving since))) := by
  have hy := hreached.sound
  refine ⟨?_, fun hreturned => ?_, fun h => ⟨fun w hw => h.canFinish hy hw, ?_⟩⟩
  · have hmessages := hy.messages
    have hflag := y.signal.triggered.toNat_le
    omega
  · exact hy.triggered_iff.mp (hy.attends .returned hreturned)
  · intro later i w hw
    have hrun := h.run hy later i
    rw [hw, Option.map_some] at hrun
    rw [hrun]
    refine ⟨fun hbegun hturn => ?_, ?_⟩
    · have hfinish := h.canFinish hy (List.mem_of_getElem? hw) hbegun
      exact congrArg some (hfinish.iterate (Nat.ne_of_gt (List.count_pos_iff.mpr hturn)))
    · rintro rfl
      rw [Wait.iterate_begun (h.triggered hy)]
      refine ⟨fun htwo => ?_, fun since => ?_⟩
      · rw [if_neg (by omega), if_neg (by omega)]
      · split
        · simp
        · split <;> simp

/-- **Two triggers and three waits**: one wait has looked for the flag too early and one not yet;
the second trigger is still under way. -/
theorem early_and_late_waits_return :
    let y := (start 2 3).run
      [.wait 0, .wait 0, .wait 1, .trigger 0, .trigger 1, .trigger 0]
    let later : List SignalTurn := [.wait 2, .wait 1, .trigger 1, .wait 0, .wait 2]
    y.Reached ∧ y.Settled ∧ y.waits = [.receiving 0, .subscribed 0, .begun] ∧
      y.triggers = [.returned, .swapped false] ∧ y.signal.sent ≤ 1 ∧
      ∀ i < 3, (y.run later).waits[i]? = some .returned := by
  intro y later
  have hreached : y.Reached := ⟨2, 3, _, rfl⟩
  have hsettled : y.Settled := by decide
  obtain ⟨hsent, -, hsettles⟩ := no_wake_up_lost hreached
  have hwaits := (hsettles hsettled).2 later
  refine ⟨hreached, hsettled, rfl, rfl, hsent, fun i hi => ?_⟩
  match i, hi with
  | 0, _ => exact (hwaits 0 (.receiving 0) rfl).1 (by decide) (by decide)
  | 1, _ => exact (hwaits 1 (.subscribed 0) rfl).1 (by decide) (by decide)
  | 2, _ => exact ((hwaits 2 .begun rfl).2 rfl).1 (by decide)

end PickupLedger
