import PickupLedger.Proofs.OverviewPages
import PickupLedger.Proofs.TimesReadBack

/-!
# Lists in the order of times

A database sorts by the texts of times, and a text begins with the year.  So a list of it is in
the order of times exactly if the years of what is on it are in line
(`time_order_iff_years_in_line`): where the texts of two years are the other way round, so are
the records, however they were added.

The years 0 to 9999 are in line, and so are those with a year before 0, whose sign comes before
all digits.  A year from 10000 on has the other sign, which comes before both, and among years of
one sign the number of their digits may decide.
-/

namespace PickupLedger

/-! ## Texts of years -/

namespace Instant

/-- A year is told by its text. -/
theorem yearText_injective : Function.Injective yearText := by
  intro year year' h
  have hread := readYear?_yearText year []
  rw [h, readYear?_yearText year' []] at hread
  exact (congrArg Prod.fst (Option.some.inj hread)).symm

theorem year_le_of_le {a b : Instant} (h : a.le b = true) : a.date.year ≤ b.date.year := by
  have hseconds : a.seconds ≤ b.seconds := by
    rw [le_iff] at h
    omega
  rcases date_before_or_eq hseconds with hbefore | ⟨hsame, -⟩
  · rcases hbefore with hyear | ⟨hyear, -⟩
    · exact Int.le_of_lt hyear
    · exact Int.le_of_eq hyear
  · exact Int.le_of_eq (congrArg Civil.year hsame)

theorem inLine_refl (a : Instant) : a.InLine a :=
  ⟨fun h => absurd h (Int.lt_irrefl _), fun h => absurd h (Int.lt_irrefl _)⟩

/-- **Two times in the order of their texts** that are in order have their years in line. -/
theorem inLine_of_stored {a b : Instant} (hstored : ¬ b.stored < a.stored) (h : a.le b = true) :
    a.InLine b := by
  refine ⟨fun hyear => ?_, fun hyear => absurd (year_le_of_le h) (Int.not_le.mpr hyear)⟩
  by_contra hbefore
  by_cases hafter : yearText b.date.year < yearText a.date.year
  · exact hstored (stored_lt_of_yearText hafter)
  · have hsame := List.le_antisymm (List.not_lt.mp hafter) (List.not_lt.mp hbefore)
    exact absurd (yearText_injective hsame) (Int.ne_of_lt hyear)

end Instant

/-! ## Lists in two orders -/

namespace Database

/-- Records in the order of their stored times that are in the order of their times. -/
theorem inLine_of_before {a b : Recency}
    (hstored : (StoredKey.of a.time a.id).le (.of b.time b.id) = true) (h : a.Before b) :
    a.time.InLine b.time := by
  refine Instant.inLine_of_stored (fun hlt => ?_) (Recency.le_iff.mp h.1).1
  rcases StoredKey.le_iff.mp hstored with hbefore | ⟨hsame, -⟩
  · exact List.lt_asymm hbefore hlt
  · change a.time.stored = b.time.stored at hsame
    rw [hsame] at hlt
    exact List.lt_irrefl _ hlt

section Lists
variable {α : Type} (key : α → Recency)

theorem stored_mergeSort (xs : List α) :
    (xs.mergeSort fun a b =>
      (StoredKey.of (key a).time (key a).id).le (.of (key b).time (key b).id)).Pairwise
    fun a b => (StoredKey.of (key a).time (key a).id).le (.of (key b).time (key b).id) = true := by
  apply List.pairwise_mergeSort
  · intro a b c
    exact StoredKey.le_trans
  · intro a b
    exact StoredKey.le_total _ _

theorem stored_mergeSort_flip (xs : List α) :
    (xs.mergeSort fun a b =>
      (StoredKey.of (key b).time (key b).id).le (.of (key a).time (key a).id)).Pairwise
    fun a b => (StoredKey.of (key b).time (key b).id).le (.of (key a).time (key a).id) = true := by
  apply List.pairwise_mergeSort
  · intro a b c h h'
    exact StoredKey.le_trans h' h
  · intro a b
    exact StoredKey.le_total _ _

variable {key} {P : α → Prop} {xs : List α}

theorem forall_inLine (h : xs.Pairwise fun a b => (key a).time.InLine (key b).time) {a b : α}
    (ha : a ∈ xs) (hb : b ∈ xs) : (key a).time.InLine (key b).time :=
  List.Pairwise.forall_of_forall_of_flip (R := fun a b => (key a).time.InLine (key b).time)
    (fun _ _ => Instant.inLine_refl _) h (h.imp Instant.InLine.symm) ha hb

/-- **All that is on a list** in the order of stored times that is the oldest first. -/
theorem inLine_of_oldestFirst
    (hstored : xs.Pairwise fun a b =>
      (StoredKey.of (key a).time (key a).id).le (.of (key b).time (key b).id) = true)
    (h : OldestFirst key P xs) {a b : α} (ha : P a) (hb : P b) :
    (key a).time.InLine (key b).time := by
  have hpairs : xs.Pairwise fun a b => (key a).time.InLine (key b).time :=
    hstored.imp₂ (fun _ _ hle hbefore => inLine_of_before hle hbefore) h.ordered
  exact forall_inLine hpairs ((h.mem_iff a).mpr ha) ((h.mem_iff b).mpr hb)

theorem inLine_of_newestFirst
    (hstored : xs.Pairwise fun a b =>
      (StoredKey.of (key b).time (key b).id).le (.of (key a).time (key a).id) = true)
    (h : NewestFirst key P xs) {a b : α} (ha : P a) (hb : P b) :
    (key a).time.InLine (key b).time :=
  inLine_of_oldestFirst (List.pairwise_reverse.mpr hstored) (Listing.reverse h) ha hb

end Lists

variable {db : Database}

theorem stored_newestFirst : ((newestFirst db.records).map fun e =>
    pointOf db.records e.1 e.2).Pairwise fun p p' =>
      (StoredKey.of p'.recency.time p'.recency.id).le (.of p.recency.time p.recency.id) = true :=
  List.pairwise_map.mpr
    (stored_mergeSort_flip (fun e : Uuid × PointRow => ⟨e.2.registered, e.1⟩) _)

theorem stored_receptionsWhere (p : ReceptionRow → Bool) :
    ((receptionsWhere db.records p).map fun e => shown db.records e.1 e.2).Pairwise fun r r' =>
      (StoredKey.of r.recency.time r.recency.id).le (.of r'.recency.time r'.recency.id) = true :=
  List.pairwise_map.mpr
    (stored_mergeSort (fun e : Uuid × ReceptionRow => ⟨e.2.opened, e.1⟩) _)

theorem stored_productsWhere (p : ProductRow → Bool) :
    ((productsWhere db.records p).map fun e => productOf db.records e.1 e.2).Pairwise fun x x' =>
      (StoredKey.of x.recency.time x.recency.id).le (.of x'.recency.time x'.recency.id) = true :=
  List.pairwise_map.mpr (stored_mergeSort (fun e : Uuid × ProductRow => ⟨e.2.added, e.1⟩) _)

end Database

/-- The call is for the whole of a list. -/
def Call.IsWhole : Call → Prop
  | .allPickupPoints | .receptionsAt _ | .productsOf _ => True
  | _ => False

/-- **A whole list that is in the order of times** has its years in line. -/
theorem Database.Sound.inLine {db : Database} (hs : db.Sound) {c : Call} (hwhole : c.IsWhole)
    (hsmall : c.Small) (h : db.books.Lists c (Database.answer c db).1) : db.books.InLine c := by
  cases c with
  | allPickupPoints =>
    obtain ⟨ps, hps, hanswer⟩ := h
    rw [Database.answer, hs.query _ (Nat.zero_le _)] at hanswer
    rw [← Except.ok.inj hanswer] at hps
    exact fun hp hp' => inLine_of_newestFirst stored_newestFirst hps hp hp'
  | receptionsAt ids =>
    obtain ⟨rs, hrs, hanswer⟩ := h
    rw [Database.answer, hs.receptionsAt_eq hsmall] at hanswer
    rw [← Except.ok.inj hanswer] at hrs
    exact fun hr hr' hid hid' =>
      inLine_of_oldestFirst (stored_receptionsWhere _) hrs ⟨hr, hid⟩ ⟨hr', hid'⟩
  | productsOf ids =>
    obtain ⟨xs, hxs, hanswer⟩ := h
    rw [Database.answer, hs.productsOf_eq hsmall] at hanswer
    rw [← Except.ok.inj hanswer] at hxs
    exact fun hx hx' hid hid' =>
      inLine_of_oldestFirst (stored_productsWhere _) hxs ⟨hx, hid⟩ ⟨hx', hid'⟩
  | _ => exact hwhole.elim

/-- **An overview in the order of times**: where all years are in line, a page shows its pickup
points with their receptions and products. -/
theorem Overview.nested_of_inLine {db : Database} (hs : db.Sound) {w : Program.World Backend}
    (hw : w.store = .database db) {window : DateWindow} {page : Page} (hvalid : Valid window page)
    (hpoints : db.books.InLine (.pickupPointPage ⟨page, window⟩))
    (hreceptions : ∀ ids, db.books.InLine (.receptionsAt ids))
    (hproducts : ∀ ids, db.books.InLine (.productsOf ids)) :
    ∃ ps, NewestFirst PickupPoint.recency
        (fun p => db.books.HasPoint p ∧ db.books.InWindow window p) ps ∧
      (w.store.Manages (page.slice ps) → ∃ os,
        ((Service.overview window page).program.run w).1 = .ok os ∧
          Nested db.books db.books (page.slice ps) os) := by
  obtain ⟨ps, hps, hpage⟩ :=
    hs.lists (c := .pickupPointPage ⟨page, window⟩) hvalid.offset_lt hpoints
  refine ⟨ps, hps, fun hmanages => ?_⟩
  obtain ⟨rs, hrs, hanswer⟩ :=
    hs.lists (c := .receptionsAt ((page.slice ps).map PickupPoint.id))
      (hvalid.few (page.length_slice_le ps)) (hreceptions _)
  rw [hw] at hmanages
  have hcount := hmanages rfl rs (hrs.nodup Recency.Before.asymm) fun r hr => (hrs.mem_iff r).mp hr
  rw [← List.length_map Reception.id] at hcount
  obtain ⟨xs, hxs, hlast⟩ :=
    hs.lists (c := .productsOf (rs.map Reception.id)) hcount (hproducts _)
  exact run_nested (s := .database db) hvalid (congrArg Backend.records hw) hps hpage hrs hanswer
    hxs hlast

/-- **Lists are in the order of times exactly where years are in line.**  Whatever rows a database
has, the list of all pickup points is the newest first, and the receptions of pickup points and
the products of receptions are the oldest first, if and only if the years of what is listed are in
line.  So is a page of a window, whose test is then one on times, the last product of a reception
is the newest, and an overview is nested in these orders.  The years 0 to 9999 are in line. -/
theorem time_order_iff_years_in_line {db : Database} (hs : db.Sound) :
    (∀ c : Call, c.IsWhole → c.Small →
      (db.books.Lists c (Database.answer c db).1 ↔ db.books.InLine c)) ∧
    (∀ c : Call, c.Small → db.books.InLine c →
      db.books.Lists c (Database.answer c db).1 ∧ db.books.Newest c (Database.answer c db).1) ∧
    (∀ (w : Program.World Backend) (window : DateWindow) (page : Page),
      w.store = .database db → Overview.Valid window page →
      db.books.InLine (.pickupPointPage ⟨page, window⟩) →
      (∀ ids, db.books.InLine (.receptionsAt ids)) → (∀ ids, db.books.InLine (.productsOf ids)) →
        ∃ ps, NewestFirst PickupPoint.recency
            (fun p => db.books.HasPoint p ∧ db.books.InWindow window p) ps ∧
          (w.store.Manages (page.slice ps) → ∃ os,
            ((Service.overview window page).program.run w).1 = .ok os ∧
              Overview.Nested db.books db.books (page.slice ps) os)) ∧
    (db.books.InYears → ∀ c : Call, c.Fits → db.books.InLine c) := by
  refine ⟨fun c hwhole hsmall => ?_, fun c hsmall hline => ?_, ?_, fun hyears c => hyears.inLine⟩
  · exact ⟨hs.inLine hwhole hsmall, hs.lists hsmall⟩
  · exact ⟨hs.lists hsmall hline, hs.newest hline⟩
  · exact fun w window page hw hvalid => Overview.nested_of_inLine hs hw hvalid

/-! ## Across the years -/

section AcrossYears

/-- The last second of the year 9999. -/
def lastOf9999 : Instant :=
  { Instant.epoch with
    seconds := 253402300799, first_le := by decide, le_last := by decide, leap := by decide }

/-- -0001-01-01T00:00:00Z. -/
def beforeYear0 : Instant :=
  { Instant.epoch with
    seconds := -62198755200, first_le := by decide, le_last := by decide, leap := by decide }

variable (first second : Instant)

/-- A pickup point of some moment and one of another, in this order. -/
def twoMoments : Table Uuid Database.PointRow :=
  (Table.empty.put (.ofNat 1) ⟨first, 1⟩).put (.ofNat 2) ⟨second, 1⟩

/-- A database with the two. -/
def withTwo : Database :=
  { Database.seeded with
    records := { Database.seeded.records with pickupPoints := twoMoments first second } }

theorem reached_withTwo : (Backend.database (withTwo first second)).Reached :=
  ⟨.database .seeded,
    [.create ⟨.epoch, .ofNat 0⟩ (.ofNat 1) "Москва" (some first),
      .create ⟨.epoch, .ofNat 0⟩ (.ofNat 2) "Москва" (some second)],
    [0, 0, 0, 1, 1, 1], .database, List.nodup_nil, rfl⟩

/-- The first of the two. -/
def firstOf : PickupPoint := .inCity (.ofNat 1) first ⟨1, "Москва"⟩

/-- The second of the two. -/
def secondOf : PickupPoint := .inCity (.ofNat 2) second ⟨1, "Москва"⟩

variable {first second}

theorem hasPoint_withTwo {p : PickupPoint} :
    (withTwo first second).books.HasPoint p ↔ p = firstOf first ∨ p = secondOf second := by
  have hentries : (withTwo first second).records.pickupPoints.entries.map
      (fun e => Database.pointOf (withTwo first second).records e.1 e.2) =
        [firstOf first, secondOf second] := rfl
  rw [Database.hasPoint_iff, ← List.mem_map, hentries]
  simp only [List.mem_cons, List.not_mem_nil, or_false]

/-- A text that comes later is listed first. -/
theorem allPickupPoints_withTwo (h : second.stored < first.stored) :
    (Database.answer .allPickupPoints (withTwo first second)).1 =
      .ok [firstOf first, secondOf second] := by
  have hs : (withTwo first second).Sound := (reached_withTwo first second).sound
  have hrows : Database.newestFirst (withTwo first second).records =
      (withTwo first second).records.pickupPoints.entries := by
    refine List.mergeSort_of_pairwise (List.pairwise_pair.mpr ?_)
    exact Database.StoredKey.le_iff.mpr (.inl h)
  rw [Database.answer, hs.query _ (Nat.zero_le _), hrows]
  rfl

end AcrossYears

/-- **The year 10000 comes before the year 9999** in the list that has the newest first. -/
theorem year_10000_listed_after_year_9999 :
    let db := withTwo lastOf9999 newYear10000
    let p := firstOf lastOf9999
    let q := secondOf newYear10000
    (Backend.database db).Reached ∧
      (Database.answer .allPickupPoints db).1 = .ok [p, q] ∧
      p.registered.le q.registered = true ∧ p.registered ≠ q.registered ∧
      ¬ db.books.Lists .allPickupPoints (Database.answer .allPickupPoints db).1 := by
  intro db p q
  have hanswer : (Database.answer .allPickupPoints db).1 = .ok [p, q] :=
    allPickupPoints_withTwo (by decide)
  refine ⟨reached_withTwo _ _, hanswer, by decide, by decide, ?_⟩
  rintro ⟨ps, hps, h⟩
  rw [hanswer] at h
  obtain rfl := Except.ok.inj h
  exact absurd hps.ordered (by decide)

/-- **Years before 0 are in line** with the years 0 to 9999. -/
theorem year_before_0_listed_last :
    let db := withTwo .epoch beforeYear0
    let p := firstOf .epoch
    let q := secondOf beforeYear0
    db.Sound ∧ db.books.HasPoint q ∧ ¬ q.registered.InYears ∧
      db.books.Lists .allPickupPoints (Database.answer .allPickupPoints db).1 ∧
      (Database.answer .allPickupPoints db).1 = .ok [p, q] := by
  intro db p q
  have hs : db.Sound := (reached_withTwo _ _).sound
  have hline : db.books.InLine .allPickupPoints := by
    intro found found' hfound hfound'
    have hpairs : ∀ a ∈ [p, q], ∀ b ∈ [p, q], a.registered.InLine b.registered := by decide
    exact hpairs _ (by simpa using hasPoint_withTwo.mp hfound) _
      (by simpa using hasPoint_withTwo.mp hfound')
  have hlists := ((time_order_iff_years_in_line hs).1 .allPickupPoints trivial trivial).mpr hline
  exact ⟨hs, hasPoint_withTwo.mpr (.inr rfl), by decide, hlists, allPickupPoints_withTwo (by decide)⟩

end PickupLedger
