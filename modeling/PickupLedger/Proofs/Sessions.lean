import PickupLedger.Proofs.Backends

/-!
# One reception at a time

What is opened and closed at a pickup point makes a list of turns (`Account.turns`), in the
order in which the store took them.  However the operations interleave, the turns are the
sessions of the pickup point one after the other (`Account.Sessions`): a reception is
opened, that same reception is closed, the next one is opened.  At the end at most one is
open, and it is the one that the books have in progress.

An opening that comes too late fails at the store, not at the look before it, and so does a
closing; that is all in `Books.Decides`, and here only the turns are followed.
-/

namespace PickupLedger

/-- **What happened at a pickup point**: a reception was opened, or one was closed. -/
inductive Turn where
  | opened (r : Reception)
  | closed (r : Reception)
  deriving DecidableEq, Repr

/-- The turn of a pickup point that a decision is: a success, with the reception that the
operation returns. -/
def Decision.turn? (p : Uuid) (d : Decision) : Option Turn :=
  match d.request, d.verdict with
  | .openAt _ p', .ok (.reception r) => if p' = p then some (.opened r) else none
  | .closeAt p', .ok (.reception r) => if p' = p then some (.closed r) else none
  | _, _ => none

namespace Account

/-- **The successful openings and closings at a pickup point**, the first one first. -/
def turns (a : Account) (p : Uuid) : List Turn := a.decided.reverse.filterMap (Decision.turn? p)

/-- **The sessions of a pickup point**: receptions that were opened and then closed, and at
last one that was opened, or none. -/
structure Sessions (a : Account) (p : Uuid) (past : List Reception) (current : Option Reception) :
    Prop where
  turns_eq : a.turns p =
    past.flatMap (fun r => [.opened r, .closed r.ended]) ++ current.toList.map .opened
  /-- The past receptions are closed on the books. -/
  closed : ∀ r ∈ past, a.books.Closed r.ended
  /-- The current one is what is in progress there. -/
  inProgress_iff : ∀ r, a.books.InProgress r ∧ r.pickupPoint = p ↔ current = some r
  /-- No reception comes twice. -/
  distinct : ((past ++ current.toList).map Reception.id).Nodup

theorem start_sessions (p : Uuid) : start.Sessions p [] none where
  turns_eq := rfl
  closed := by simp
  inProgress_iff := by simp [start, Books.InProgress, Books.empty]
  distinct := by simp

section Step
variable {a : Account} {p : Uuid} {past : List Reception} {current : Option Reception}
  {d : Decision} {b : Books}

theorem turns_cons (a : Account) (d : Decision) (b : Books) (p : Uuid) :
    turns ⟨d :: a.decided, b⟩ p = a.turns p ++ (d.turn? p).toList := by
  simp only [turns, List.reverse_cons, List.filterMap_append]
  cases h : d.turn? p <;> simp [h]

/-- A decision that is no turn and leaves the receptions as they are, leaves the sessions. -/
theorem Sessions.same (h : a.Sessions p past current) (hturn : d.turn? p = none)
    (hsame : b.reception? = a.books.reception?) :
    Sessions ⟨d :: a.decided, b⟩ p past current where
  turns_eq := by rw [turns_cons, hturn, Option.toList_none, List.append_nil, h.turns_eq]
  closed r hr := by
    rw [Books.Closed, hsame]
    exact h.closed r hr
  inProgress_iff r := by
    rw [Books.InProgress, hsame]
    exact h.inProgress_iff r
  distinct := h.distinct

theorem Sessions.opened_here (h : a.Sessions p past current) {r : Reception}
    (hp : r.pickupPoint = p) (hr : r.status = some .inProgress)
    (hnew : a.books.reception? r.id = none)
    (hfree : ¬ a.books.Occupied p) (hturn : d.turn? p = some (.opened r)) :
    Sessions ⟨d :: a.decided, a.books.putReception r⟩ p past (some r) := by
  have hnone : current = none := by
    cases hcurrent : current with
    | none => rfl
    | some r' => exact absurd ⟨r', (h.inProgress_iff r').mpr hcurrent⟩ hfree
  refine ⟨?_, fun r' hr' => (h.closed r' hr').opened hnew, fun r' => ?_, ?_⟩
  · rw [turns_cons, hturn, h.turns_eq, hnone]
    simp
  · simp only [Books.inProgress_opened hnew hr, Option.some.injEq]
    constructor
    · rintro ⟨rfl | hr', hp'⟩
      · rfl
      · exact absurd ⟨r', hr', hp'⟩ hfree
    · rintro rfl
      exact ⟨.inl rfl, hp⟩
  · have hdistinct := h.distinct
    rw [hnone] at hdistinct
    simp only [Option.toList_none, List.append_nil] at hdistinct
    simp only [Option.toList_some, List.map_append, List.map_cons, List.map_nil]
    refine List.nodup_append.mpr ⟨hdistinct, by simp, ?_⟩
    -- The past receptions are all on the books, where the new identifier is free.
    intro id hid id' hid' heq
    obtain ⟨r', hr', rfl⟩ := List.mem_map.mp hid
    rw [List.mem_singleton.mp hid'] at heq
    have hfound := (h.closed r' hr').1
    rw [Reception.ended_id, heq, hnew] at hfound
    cases hfound

theorem Sessions.opened_elsewhere (h : a.Sessions p past current) {r : Reception}
    (hp : r.pickupPoint ≠ p) (hr : r.status = some .inProgress)
    (hnew : a.books.reception? r.id = none) (hturn : d.turn? p = none) :
    Sessions ⟨d :: a.decided, a.books.putReception r⟩ p past current := by
  refine ⟨?_, fun r' hr' => (h.closed r' hr').opened hnew, fun r' => ?_, h.distinct⟩
  · rw [turns_cons, hturn, h.turns_eq, Option.toList_none, List.append_nil]
  · rw [← h.inProgress_iff]
    simp only [Books.inProgress_opened hnew hr]
    refine and_congr_left fun hp' => or_iff_right fun heq => ?_
    rw [heq] at hp'
    exact hp hp'

/-- What ends at a pickup point is its current session. -/
theorem Sessions.closed_here (h : a.Sessions p past current) {r : Reception}
    (hp : r.pickupPoint = p) (hr : a.books.InProgress r)
    (hturn : d.turn? p = some (.closed r.ended)) :
    Sessions ⟨d :: a.decided, a.books.putReception r.ended⟩ p (past ++ [r]) none := by
  have hcurrent : current = some r := (h.inProgress_iff r).mp ⟨hr, hp⟩
  refine ⟨?_, fun r' hr' => ?_, fun r' => ?_, ?_⟩
  · rw [turns_cons, hturn, h.turns_eq, hcurrent]
    simp
  · rcases List.mem_append.mp hr' with hr' | hr'
    · exact (h.closed r' hr').closed hr
    · rw [List.mem_singleton.mp hr']
      exact Books.closed_ended _ r
  · refine iff_of_false ?_ (by simp)
    rintro ⟨hr', hp'⟩
    obtain ⟨hne, hr'⟩ := (Books.inProgress_closed hr).mp hr'
    have hsame := (h.inProgress_iff r').mp ⟨hr', hp'⟩
    rw [hcurrent] at hsame
    exact hne (Option.some.inj hsame).symm
  · have hdistinct := h.distinct
    rw [hcurrent] at hdistinct
    simpa using hdistinct

theorem Sessions.closed_elsewhere (h : a.Sessions p past current) {r : Reception}
    (hp : r.pickupPoint ≠ p) (hr : a.books.InProgress r) (hturn : d.turn? p = none) :
    Sessions ⟨d :: a.decided, a.books.putReception r.ended⟩ p past current := by
  refine ⟨?_, fun r' hr' => (h.closed r' hr').closed hr, fun r' => ?_, h.distinct⟩
  · rw [turns_cons, hturn, h.turns_eq, Option.toList_none, List.append_nil]
  · rw [← h.inProgress_iff]
    simp only [Books.inProgress_closed hr]
    refine and_congr_left fun hp' => and_iff_right fun heq => ?_
    rw [heq] at hp'
    exact hp hp'

end Step

theorem Next.sessions {a a' : Account} (hnext : a.Next a') {p : Uuid}
    (h : ∃ past current, a.Sessions p past current) :
    ∃ past current, a'.Sessions p past current := by
  obtain ⟨past, current, h⟩ := h
  cases hnext with
  | @decide d b hdecides hfresh =>
    obtain ⟨task, request, verdict⟩ := d
    cases hdecides with
    | refused _ failure =>
      refine ⟨past, current, h.same ?_ rfl⟩
      cases request <;> rfl
    | created hcity hfree => exact ⟨past, current, h.same rfl rfl⟩
    | found hp => exact ⟨past, current, h.same rfl rfl⟩
    | added htype hnew hr => exact ⟨past, current, h.same rfl rfl⟩
    | removed hx hr => exact ⟨past, current, h.same rfl rfl⟩
    | @opened stamp p' hnew hfree =>
      by_cases hp : p' = p
      · rw [hp] at hfree
        exact ⟨past, _, h.opened_here hp rfl hnew hfree (if_pos hp)⟩
      · exact ⟨past, current, h.opened_elsewhere hp rfl hnew (if_neg hp)⟩
    | @closed r hr =>
      by_cases hp : r.pickupPoint = p
      · exact ⟨_, none, h.closed_here hp hr (if_pos hp)⟩
      · exact ⟨past, current, h.closed_elsewhere hp hr (if_neg hp)⟩

/-- **Every account is made of sessions.** -/
theorem Reaches.sessions {a : Account} (h : Reaches .start a) (p : Uuid) :
    ∃ past current, a.Sessions p past current := by
  induction h with
  | refl => exact ⟨[], none, start_sessions p⟩
  | tail _ hnext ih => exact hnext.sessions ih

end Account

/-! ## On a store -/

/-- **One reception at a time.**  Whatever operations run side by side on a new store, and
in whatever order they take their steps: a pickup point has at most one reception in
progress, what was opened and closed there are sessions, and what is closed stays closed. -/
theorem one_reception_at_a_time {store : Backend} (hnew : store.IsNew) {requests : List Request}
    (hids : (requests.filterMap Request.fresh?).Nodup) (schedule : List Nat) :
    let a := ((SideBySide.start store requests).run schedule).account
    (∀ r₁ r₂, a.books.InProgress r₁ → a.books.InProgress r₂ →
      r₁.pickupPoint = r₂.pickupPoint → r₁ = r₂) ∧
    (∀ p, ∃ past current, a.Sessions p past current) ∧
    ∀ r more, a.books.Closed r →
      ((SideBySide.start store requests).run (schedule ++ more)).account.books.Closed r := by
  have hregular := hnew.regular hids schedule
  refine ⟨fun r₁ r₂ => hregular.account.single, (hnew.reaches hids schedule).sessions, ?_⟩
  intro r more hr
  rw [SideBySide.run_append]
  exact (hregular.run_reaches more).closed hregular.account hr

/-- Two openings at one pickup point, a closing and a third opening. -/
def threeOpenings : List Request :=
  [.create ⟨.epoch, .generated 0⟩ (.ofNat 1) "Москва" none,
    .openAt ⟨.epoch, .generated 1⟩ (.ofNat 1), .openAt ⟨.epoch, .generated 2⟩ (.ofNat 1),
    .closeAt (.ofNat 1), .openAt ⟨.epoch, .generated 4⟩ (.ofNat 1)]

/-- The first two openings step by step in turn, then the closing, then the third opening. -/
def threeOpeningsSchedule : List Nat := [0, 0, 1, 2, 1, 2, 1, 2, 1, 2, 3, 3, 3, 4, 4, 4, 4]

/-- **Of two openings that overlap one succeeds**, and the next one after a closing. -/
theorem three_openings_make_two_sessions :
    let a := ((SideBySide.start (Backend.memory .new) threeOpenings).run
      threeOpeningsSchedule).account
    let r := Reception.begun (.generated 1) (.ofNat 1) .epoch
    let r' := Reception.begun (.generated 4) (.ofNat 1) .epoch
    a.turns (.ofNat 1) = [.opened r, .closed r.ended, .opened r'] ∧ a.books.InProgress r' ∧
      (∀ r₁ r₂, a.books.InProgress r₁ → a.books.InProgress r₂ →
        r₁.pickupPoint = r₂.pickupPoint → r₁ = r₂) ∧
      ∃ past current, a.Sessions (.ofNat 1) past current := by
  have hids : (threeOpenings.filterMap Request.fresh?).Nodup := by decide
  obtain ⟨hsingle, hsessions, -⟩ := one_reception_at_a_time .memory hids threeOpeningsSchedule
  exact ⟨by decide, by decide, hsingle, hsessions _⟩

end PickupLedger
