import PickupLedger.Proofs.Progress
import PickupLedger.Proofs.Reasons
import PickupLedger.Proofs.TimesReadBack

/-!
# History

What the books of a store once said is never said otherwise.  From one moment of a run to a
later one (`Books.Continues`) a pickup point is the same, a reception is the same or has been
closed, and a product is the same or is gone, for good.

The pickup point that a registration was answered with is the one that stands
(`SideBySide.Registered`): whoever asks for it later is given it as it was registered, with
the instant that its stored time reads back as, and every other registration under its
identifier is refused, whether it started before, at the same time or after.  None of them
leaves a trace.
-/

namespace PickupLedger

/-- **What later books keep of earlier ones.** -/
structure Books.Continues (later earlier : Books) : Prop where
  point : ∀ {id : Uuid} {p : PickupPoint}, earlier.point? id = some p → later.point? id = some p
  /-- A reception is where and since when it was, and at most it has been closed. -/
  reception : ∀ {id : Uuid} {r : Reception}, earlier.reception? id = some r →
    ∃ r', later.reception? id = some r' ∧ r'.id = r.id ∧ r'.pickupPoint = r.pickupPoint ∧
      r'.opened = r.opened ∧ (r' = r ∨ r.status = some .inProgress ∧ r'.status = some .closed)
  product : ∀ {id : Uuid} {x : Product}, earlier.product? id = some x →
    later.product? id = some x ∨ later.product? id = none

namespace Account

/-- **A later account continues the books of an earlier one.** -/
theorem Reaches.continues {a a' : Account} (h : a.Reaches a') (ha : a.Regular) :
    a'.books.Continues a.books where
  point hp := h.point hp
  reception {id r} hr := by
    rcases h.reception hr with hsame | hended
    · exact ⟨r, hsame, rfl, rfl, rfl, .inl rfl⟩
    · refine ⟨r.ended, hended, rfl, rfl, rfl, ?_⟩
      rcases ha.form hr with hform | hform
      · refine .inr ⟨?_, rfl⟩
        rw [hform]
        rfl
      · -- What has ended already is not changed by another end.
        left
        rw [hform]
        rfl
  product hx := by
    rcases h.product (ha.product_issued hx) with hsame | hgone
    · exact .inl (hsame.trans hx)
    · exact .inr hgone

/-- **A product that is gone stays so**: its identifier is not issued again. -/
theorem Reaches.product_gone {a a' a'' : Account} (h : a.Reaches a') (h' : a'.Reaches a'')
    (ha : a.Regular) {id : Uuid} {x : Product} (hx : a.books.product? id = some x)
    (hgone : a'.books.product? id = none) : a''.books.product? id = none := by
  rcases h'.product (h.issued (ha.product_issued hx)) with hsame | hnone
  · exact hsame.trans hgone
  · exact hnone

end Account

namespace SideBySide
variable {σ : Type} [Storage σ] {y : SideBySide σ} {schedule : List Nat}

/-- A result at a moment was settled at an earlier step. -/
theorem exists_settlesAt_lt {i n : Nat} {v : Verdict} (hopen : y.result? i = none)
    (h : (y.moment schedule n).result? i = some v) : ∃ k, k < n ∧ y.SettlesAt schedule k i v := by
  have hend : (y.run schedule).result? i = some v := by
    rw [← moment_of_length_le (Nat.le_max_right n schedule.length)]
    exact moment_result? (Nat.le_max_left n _) h
  obtain ⟨k, hk⟩ := exists_settlesAt hopen hend
  refine ⟨k, Nat.lt_of_not_le fun hle => ?_, hk⟩
  have hresult := moment_result? hle h
  rw [hk.before] at hresult
  cases hresult

/-- **A registration that was answered**, from moment `n` on and up to moment `m`. -/
structure Registered [Bookkeeping σ] (y : SideBySide σ) (schedule : List Nat) (n m i : Nat)
    (id : Uuid) (p : PickupPoint) : Prop where
  /-- The pickup point stands as it was answered. -/
  stands : (y.moment schedule m).books.point? id = some p
  /-- Whoever asks for it after the answer is given it. -/
  found : ∀ {j : Nat}, y.request? j = some (.get id) → j ∉ schedule.take n →
    j ∈ schedule.take m → (y.moment schedule m).result? j = some (.ok (.point p))
  /-- Every other registration comes to a result in two steps. -/
  answered : ∀ {j : Nat} {stamp : Stamp} {cityName : String} {registered : Option Instant},
    y.request? j = some (.create stamp id cityName registered) →
    2 ≤ (schedule.take m).count j → (y.moment schedule m).result? j ≠ none
  /-- The result is a failure; if there is such a city, the one for a pickup point that is
  there already. -/
  refused : ∀ {j : Nat} {stamp : Stamp} {cityName : String} {registered : Option Instant}
    {v : Verdict}, j ≠ i → y.request? j = some (.create stamp id cityName registered) →
    (y.moment schedule m).result? j = some v → ∃ failure, v = .error failure ∧
      (Seed.city? cityName ≠ none → failure = .duplicatePickupPoint id)
  /-- No step of another registration changes anything. -/
  unmerged : ∀ {j k : Nat} {stamp : Stamp} {cityName : String} {registered : Option Instant},
    j ≠ i → y.request? j = some (.create stamp id cityName registered) → schedule[k]? = some j →
    (y.moment schedule (k + 1)).books = (y.moment schedule k).books

section Registrations
variable [Bookkeeping σ] (hy : y.Regular) {i : Nat} {stamp : Stamp} {id : Uuid}
  {cityName : String} {registered : Option Instant} {p : PickupPoint}
include hy

/-- The step that settles a registration well enters its pickup point under a free identifier. -/
theorem Regular.created {k : Nat} (hi : y.request? i = some (.create stamp id cityName registered))
    (hk : y.SettlesAt schedule k i (.ok (.point p))) :
    (∃ city, Seed.city? cityName = some city ∧ p = .inCity id (registered.getD stamp.now) city) ∧
      (y.moment schedule k).books.point? id = none ∧
      (y.moment schedule (k + 1)).books.point? id = some p := by
  obtain ⟨q, hq, hdecides⟩ := hy.settlesAt_decides hk
  rw [hi] at hq
  obtain rfl := Option.some.inj hq
  generalize (y.moment schedule (k + 1)).books = later at hdecides ⊢
  cases hdecides with
  | @created _ _ _ _ city hcity hfree => exact ⟨⟨city, hcity, rfl⟩, hfree, if_pos rfl⟩

/-- **Only one registration of an identifier is settled well.** -/
theorem Regular.created_unique {k : Nat}
    (hi : y.request? i = some (.create stamp id cityName registered))
    (hk : y.SettlesAt schedule k i (.ok (.point p))) {j k' : Nat} {stamp' : Stamp}
    {cityName' : String} {registered' : Option Instant} {p' : PickupPoint}
    (hj : y.request? j = some (.create stamp' id cityName' registered'))
    (hk' : y.SettlesAt schedule k' j (.ok (.point p'))) : j = i := by
  obtain ⟨-, hfree, hentered⟩ := hy.created hi hk
  obtain ⟨-, hfree', hentered'⟩ := hy.created hj hk'
  rcases Nat.lt_trichotomy k k' with hlt | heq | hlt
  · have hpoint := (hy.moment_reaches schedule hlt).point hentered
    exact absurd (hfree'.symm.trans hpoint) nofun
  · have hstep := hk'.step
    rw [← heq, hk.step] at hstep
    exact (Option.some.inj hstep).symm
  · have hpoint := (hy.moment_reaches schedule hlt).point hentered'
    exact absurd (hfree.symm.trans hpoint) nofun

/-- What another registration of the identifier is settled with is a failure, and the books
are left as they are. -/
theorem Regular.second_refused {k : Nat}
    (hi : y.request? i = some (.create stamp id cityName registered))
    (hk : y.SettlesAt schedule k i (.ok (.point p))) {j k' : Nat} {stamp' : Stamp}
    {cityName' : String} {registered' : Option Instant} {v : Verdict} (hne : j ≠ i)
    (hj : y.request? j = some (.create stamp' id cityName' registered'))
    (hk' : y.SettlesAt schedule k' j v) : ∃ failure, v = .error failure ∧
      (y.moment schedule (k' + 1)).books = (y.moment schedule k').books := by
  obtain ⟨q, hq, hdecides⟩ := hy.settlesAt_decides hk'
  rw [hj] at hq
  obtain rfl := Option.some.inj hq
  generalize hlater : (y.moment schedule (k' + 1)).books = later at hdecides ⊢
  cases hdecides with
  | refused _ failure => exact ⟨failure, rfl, rfl⟩
  | created hcity hfree => exact absurd (hy.created_unique hi hk hj hk') hne

end Registrations

/-- **Who asks for a pickup point that is there is given it**, in the one step that it takes. -/
theorem Regular.given [Bookkeeping σ] (hy : y.Regular) {n m j : Nat} {id : Uuid} {p : PickupPoint}
    (hstart : y.tasks[j]? = some (.ofRequest (.get id)))
    (hp : (y.moment schedule n).books.point? id = some p) (hbefore : j ∉ schedule.take n)
    (hafter : j ∈ schedule.take m) : (y.moment schedule m).result? j = some (.ok (.point p)) := by
  obtain ⟨last, hlt, hlast⟩ := List.mem_take_iff_getElem.mp hafter
  obtain ⟨hm, hlength⟩ := Nat.lt_min.mp hlt
  obtain ⟨k, hk, hfirst⟩ := exists_startsAt (List.getElem?_eq_some_iff.mpr ⟨hlength, hlast⟩)
  have hle : n ≤ k := by
    refine Nat.le_of_not_lt fun hkn => hbefore ?_
    obtain ⟨hklength, heq⟩ := List.getElem?_eq_some_iff.mp hfirst.1
    exact List.mem_take_iff_getElem.mpr ⟨k, Nat.lt_min.mpr ⟨hkn, hklength⟩, heq⟩
  -- It has no result before its first step, and has one after it.
  have hnone : (y.moment schedule k).result? j = none := by
    rw [SideBySide.moment, result?, run_task_of_not_mem hfirst.2, hstart]
    exact (Request.get id).program_settled?
  have hcount : (Request.get id).calls ≤ (schedule.take (k + 1)).count j := by
    refine List.one_le_count_iff.mpr ?_
    rw [List.take_add_one, hfirst.1]
    exact List.mem_append_right _ List.mem_cons_self
  obtain ⟨v, hv⟩ := Option.ne_none_iff_exists'.mp (settled_moment hstart hcount)
  have hsettles : y.SettlesAt schedule k j v := ⟨hfirst.1, hnone, hv⟩
  have hthere := (hy.moment_reaches schedule hle).point hp
  refine moment_result? (Nat.lt_of_le_of_lt hk hm) (hv.trans (congrArg some ?_))
  obtain ⟨q, hq, hdecides⟩ := hy.settlesAt_decides hsettles
  rw [request?, hstart] at hq
  obtain rfl := Option.some.inj hq
  generalize (y.moment schedule (k + 1)).books = later at hdecides
  cases hdecides with
  | refused _ failure =>
    cases hy.reason hstart hfirst (Nat.le_refl k) hsettles with
    | missing hfirst hlast hmissing =>
      rw [Nat.le_antisymm hlast hfirst] at hmissing
      cases hmissing.symm.trans hthere
    | nowhere hplace | free hplace => cases hplace
  | found hfound => rw [Option.some.inj (hfound.symm.trans hthere)]

/-- **A registration that was answered stands**, on whatever store the run started. -/
theorem Regular.registered [Bookkeeping σ] {store : σ} {requests : List Request}
    (hy : (start store requests).Regular) {n m i : Nat} (hle : n ≤ m) {stamp : Stamp} {id : Uuid}
    {cityName : String} {registered : Option Instant} {p : PickupPoint}
    (hi : requests[i]? = some (.create stamp id cityName registered))
    (hresult : ((start store requests).moment schedule n).result? i = some (.ok (.point p))) :
    (∃ city, Seed.city? cityName = some city ∧ p = .inCity id (registered.getD stamp.now) city) ∧
      (start store requests).Registered schedule n m i id p := by
  have hopen := start_result? store requests
  have hrequest := start_request? store requests
  rw [← hrequest] at hi
  obtain ⟨k, hk, hsettles⟩ := exists_settlesAt_lt (hopen i) hresult
  obtain ⟨hcity, -, hentered⟩ := hy.created hi hsettles
  have hpoint : ((start store requests).moment schedule n).books.point? id = some p :=
    (hy.moment_reaches schedule hk).point hentered
  refine ⟨hcity, (hy.moment_reaches schedule hle).point hpoint, ?_, ?_, ?_, ?_⟩
  · intro j hj hbefore hafter
    rw [hrequest] at hj
    exact hy.given (start_task? store hj) hpoint hbefore hafter
  · intro j _ _ _ hj hcount
    rw [hrequest] at hj
    exact settled_moment (start_task? store hj) hcount
  · intro j _ _ _ v hne hj hv
    obtain ⟨k', -, hsettles'⟩ := exists_settlesAt_lt (hopen j) hv
    obtain ⟨failure, rfl, -⟩ := hy.second_refused hi hsettles hne hj hsettles'
    obtain ⟨first, hfirst, hstarts⟩ := exists_startsAt hsettles'.step
    rw [hrequest] at hj
    refine ⟨failure, rfl, fun hknown => ?_⟩
    cases hy.reason (start_task? store hj) hstarts hfirst hsettles' with
    | unknownCity hcity => exact absurd hcity hknown
    | taken => rfl
    | nowhere hplace | free hplace => cases hplace
  · intro j k' _ _ _ hne hj hstep
    refine Classical.byContradiction fun hchanged => ?_
    obtain ⟨v, hsettles'⟩ := hy.settlesAt_of_books hstep hchanged
    obtain ⟨-, -, hsame⟩ := hy.second_refused hi hsettles hne hj hsettles'
    exact hchanged hsame

end SideBySide

/-! ## On a store -/

open SideBySide in
/-- **History is only added to.**  Whatever operations run side by side on a new store, and in
whatever order they take their steps: the books at a later moment continue those at an earlier
one, a product that is gone does not come back, a stored time reads back as the instant that it
is, and a registration that was answered stands. -/
theorem history_is_append_only {store : Backend} (hnew : store.IsNew) {requests : List Request}
    (hids : (requests.filterMap Request.fresh?).Nodup) (schedule : List Nat) {n m : Nat}
    (hle : n ≤ m) :
    let y := SideBySide.start store requests
    (y.moment schedule m).books.Continues (y.moment schedule n).books ∧
    (∀ id x k, (y.moment schedule n).books.product? id = some x →
      (y.moment schedule m).books.product? id = none → m ≤ k →
        (y.moment schedule k).books.product? id = none) ∧
    (∀ t : Instant, Instant.read? t.stored = some t) ∧
    (∀ i stamp id cityName registered p,
      requests[i]? = some (.create stamp id cityName registered) →
      (y.moment schedule n).result? i = some (.ok (.point p)) →
        (∃ city, Seed.city? cityName = some city ∧
          p = .inCity id (registered.getD stamp.now) city) ∧
        y.Registered schedule n m i id p) := by
  intro y
  have hy : y.Regular := start_regular hnew.sound hnew.books hids
  have hlater := hy.moment_reaches schedule hle
  have hthen := (hy.moment schedule n).account
  refine ⟨hlater.continues hthen, ?_, Instant.read?_stored, ?_⟩
  · intro id x k hx hgone hk
    exact hlater.product_gone (hy.moment_reaches schedule hk) hthen hx hgone
  · intro i stamp id cityName registered p hi hresult
    exact hy.registered hle hi hresult

/-- A leap second of the year 3 BC, in nanoseconds. -/
def earlyLeapSecond : Instant :=
  ⟨-62198755201, 1999999999, by decide, by decide, by decide, by decide⟩

example : String.ofList earlyLeapSecond.stored = "-0002-12-31T23:59:60.999999999+00:00" := by
  decide +kernel

/-- Two registrations of one identifier, and a reception from its opening to its end. -/
def rivalRegistrations : List Request :=
  [.create ⟨.epoch, .generated 0⟩ (.ofNat 1) "Москва" (some earlyLeapSecond),
    .create ⟨.epoch, .generated 1⟩ (.ofNat 1) "Казань" none, .get (.ofNat 1),
    .openAt ⟨.epoch, .generated 3⟩ (.ofNat 1), .addTo ⟨.epoch, .generated 4⟩ (.ofNat 1) "обувь",
    .removeFrom (.ofNat 1), .closeAt (.ofNat 1)]

/-- The first registration is answered while the second one is under way, and the product that is
there after ten steps is taken back before the end. -/
def rivalSchedule : List Nat := [0, 1, 0, 3, 3, 3, 3, 4, 4, 4, 1, 2, 5, 5, 5, 5, 6, 6, 6]

/-- The registrations after some steps. -/
def rivalRun (n : Nat) : SideBySide Backend :=
  (SideBySide.start (Backend.memory .new) rivalRegistrations).moment rivalSchedule n

/-- The pickup point of the first registration. -/
def rivalPoint : PickupPoint := .inCity (.ofNat 1) earlyLeapSecond ⟨1, "Москва"⟩

/-- **The second of two registrations changes nothing**: the pickup point that was asked for in
between is the first one, and so it stands when the reception has been closed. -/
theorem rival_registration_leaves_history :
    (rivalRun 10).result? 0 = some (.ok (.point rivalPoint)) ∧
    (rivalRun 10).books.product? (.generated 4) ≠ none ∧
    (rivalRun 19).books.Continues (rivalRun 10).books ∧
    (rivalRun 20).books.product? (.generated 4) = none ∧
    Instant.read? earlyLeapSecond.stored = some earlyLeapSecond ∧
    (rivalRun 0).Registered rivalSchedule 10 19 0 (.ofNat 1) rivalPoint := by
  have hids : (rivalRegistrations.filterMap Request.fresh?).Nodup := by decide
  have hresult : (rivalRun 10).result? 0 = some (.ok (.point rivalPoint)) := rfl
  have hadded : (rivalRun 10).books.product? (.generated 4) =
      some (.ofType (.generated 4) (.generated 3) .epoch ⟨3, "обувь"⟩) := rfl
  have hgone : (rivalRun 19).books.product? (.generated 4) = none := rfl
  obtain ⟨hcontinues, hstays, hread, hregistered⟩ :=
    history_is_append_only .memory hids rivalSchedule (n := 10) (m := 19) (by decide)
  obtain ⟨-, hstands⟩ := hregistered 0 _ _ _ _ _ rfl hresult
  exact ⟨hresult, Option.ne_none_iff_exists'.mpr ⟨_, hadded⟩, hcontinues,
    hstays _ _ 20 hadded hgone (by decide), hread _, hstands⟩

end PickupLedger
