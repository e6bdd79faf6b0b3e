import PickupLedger.Proofs.DatabaseBooks
import PickupLedger.Proofs.Listings
import PickupLedger.Proofs.StoredTimes

/-!
# The lists of the store in a database

A database orders its records by the texts of their times and tests a window on texts.
Where the years of the times that a call compares are in line (`Books.InLine`), its lists are
told by its books like those of any store (`Database.Sound.lists`), and the last product of
a reception is the newest (`Database.Sound.newest`).  A statement takes only so many
identifiers, and an offset is a signed number (`Call.Small`).

The years 0 to 9999 are in line, and stay so while calls bring no others (`Books.InYears`,
`Call.Fits`).
-/

namespace PickupLedger

/-! ## What fits -/

/-- Both ends of the window, where there are any, are in the years 0 to 9999. -/
def DateWindow.InYears (window : DateWindow) : Prop :=
  (∀ start, window.start = some start → start.InYears) ∧
    ∀ stop, window.stop = some stop → stop.InYears

/-- **What a statement can take**: an offset that is a signed number, and not too many
parameters. -/
def Call.Small : Call → Prop
  | .pickupPointPage q => q.offset < 2 ^ 63
  | .receptionsAt ids => ids.length ≤ Database.maxParameters
  | .productsOf ids => ids.length ≤ Database.maxParameters
  | _ => True

/-- **What a database can take** in the years 0 to 9999. -/
def Call.Fits : Call → Prop
  | .addPickupPoint p => p.registered.InYears
  | .pickupPointPage q => q.offset < 2 ^ 63 ∧ q.window.InYears
  | .addReception r => r.opened.InYears
  | .receptionsAt ids => ids.length ≤ Database.maxParameters
  | .addProduct x => x.added.InYears
  | .productsOf ids => ids.length ≤ Database.maxParameters
  | _ => True

namespace Books

/-- **The times that a call compares have their years in line**: those of the records that it
lists, and those of the receptions with the ends of a window. -/
def InLine (b : Books) : Call → Prop
  | .pickupPointPage q =>
    (∀ {p p'}, b.HasPoint p → b.HasPoint p' → p.registered.InLine p'.registered) ∧
      ∀ {bounds}, q.window.bounds? = some bounds → ∀ {r}, b.HasReception r →
        bounds.1.InLine r.opened ∧ r.opened.InLine bounds.2
  | .allPickupPoints =>
    ∀ {p p'}, b.HasPoint p → b.HasPoint p' → p.registered.InLine p'.registered
  | .receptionsAt ids =>
    ∀ {r r'}, b.HasReception r → b.HasReception r' → r.pickupPoint ∈ ids → r'.pickupPoint ∈ ids →
      r.opened.InLine r'.opened
  | .productsOf ids =>
    ∀ {x x'}, b.Has x → b.Has x' → x.reception ∈ ids → x'.reception ∈ ids →
      x.added.InLine x'.added
  | .lastProduct reception =>
    ∀ {x x'}, b.Has x → b.Has x' → x.reception = reception → x'.reception = reception →
      x.added.InLine x'.added
  | _ => True

/-- **All times on the books are in the years 0 to 9999.** -/
structure InYears (b : Books) : Prop where
  point : ∀ {id p}, b.point? id = some p → p.registered.InYears
  reception : ∀ {id r}, b.reception? id = some r → r.opened.InYears
  product : ∀ {id x}, b.product? id = some x → x.added.InYears

theorem inYears_empty : empty.InYears := by constructor <;> simp [empty]

section Years
variable {b : Books} (hb : b.InYears)
include hb

theorem InYears.putPoint {p : PickupPoint} (hp : p.registered.InYears) : (b.putPoint p).InYears :=
  { hb with
    point := fun {id p'} h => by
      rw [putPoint_point?] at h
      split at h
      · rw [← Option.some.inj h]; exact hp
      · exact hb.point h }

theorem InYears.putReception {r : Reception} (hr : r.opened.InYears) :
    (b.putReception r).InYears :=
  { hb with
    reception := fun {id r'} h => by
      rw [putReception_reception?] at h
      split at h
      · rw [← Option.some.inj h]; exact hr
      · exact hb.reception h }

theorem InYears.putProduct {x : Product} (hx : x.added.InYears) : (b.putProduct x).InYears :=
  { hb with
    product := fun {id y} h => by
      rw [putProduct_product?] at h
      split at h
      · rw [← Option.some.inj h]; exact hx
      · exact hb.product h }

theorem InYears.dropProduct (gone : Uuid) : (b.dropProduct gone).InYears :=
  { hb with
    product := fun {id x} h => by
      rw [dropProduct_product?] at h
      split at h
      · cases h
      · exact hb.product h }

/-- **What fits is in line.** -/
theorem InYears.inLine {c : Call} (hc : c.Fits) : b.InLine c := by
  cases c with
  | pickupPointPage q =>
    refine ⟨fun hp hp' => (hb.point hp).inLine (hb.point hp'), fun hbounds r hr => ?_⟩
    obtain ⟨hstart, hstop⟩ := DateWindow.bounds?_eq_some_iff.mp hbounds
    have hopened := hb.reception hr
    exact ⟨(hc.2.1 _ hstart).inLine hopened, hopened.inLine (hc.2.2 _ hstop)⟩
  | allPickupPoints => exact fun hp hp' => (hb.point hp).inLine (hb.point hp')
  | receptionsAt ids => exact fun hr hr' _ _ => (hb.reception hr).inLine (hb.reception hr')
  | productsOf ids => exact fun hx hx' _ _ => (hb.product hx).inLine (hb.product hx')
  | lastProduct reception => exact fun hx hx' _ _ => (hb.product hx).inLine (hb.product hx')
  | _ => trivial

/-- **A call that fits keeps all times in the years.** -/
theorem InYears.step {c : Call} {a : Answer c} {b' : Books} (hc : c.Fits) (h : b.Step c a b') :
    b'.InYears := by
  cases c with
  | addPickupPoint p =>
    rcases h with ⟨-, -, rfl⟩ | ⟨-, -, rfl⟩
    · exact hb.putPoint hc
    · exact hb
  | addReception r =>
    rcases h with ⟨-, -, rfl⟩ | ⟨-, -, rfl⟩
    · exact hb.putReception hc
    · exact hb
  | moveReception id source target =>
    rcases h with ⟨r, -, -, hr, -, -, rfl⟩ | ⟨-, -, rfl⟩
    · have hopened : r.opened.InYears := hb.reception hr.1
      exact hb.putReception (r := r.ended) hopened
    · exact hb
  | addProduct x =>
    rcases h with ⟨-, -, -, -, rfl⟩ | ⟨-, -, rfl⟩
    · exact hb.putProduct hc
    · exact hb
  | deleteProduct id =>
    rw [h.2]
    exact hb.dropProduct id
  | receptionInStatus kind p =>
    cases kind with
    | inProgress => rw [h.1]; exact hb
    | closed => rw [show b' = b from h]; exact hb
  | lastProduct reception => rw [h.1]; exact hb
  | cityByName name => rw [h.2]; exact hb
  | pickupPointById id => rw [h.2]; exact hb
  | statusOfKind kind => rw [h.2]; exact hb
  | productTypeByName name => rw [h.2]; exact hb
  | _ => rw [show b' = b from h]; exact hb

end Years
end Books

theorem Call.Fits.small {c : Call} (h : c.Fits) : c.Small := by
  cases c with
  | pickupPointPage q => exact h.1
  | receptionsAt ids => exact h
  | productsOf ids => exact h
  | _ => trivial

namespace Database

/-! ## The order of rows -/

namespace StoredKey

theorem le_iff {a b : StoredKey} :
    a.le b = true ↔ a.time < b.time ∨ a.time = b.time ∧ a.id.value ≤ b.id.value := by
  unfold le
  split
  · next h => simp only [h, List.lt_irrefl, false_or, true_and, Uuid.le, decide_eq_true_eq]
  · next h => simp [h]

theorem le_trans {a b c : StoredKey} (h : a.le b = true) (h' : b.le c = true) :
    a.le c = true := by
  rw [le_iff] at *
  rcases h with h | ⟨hsame, h⟩
  · rcases h' with h' | ⟨hsame', -⟩
    · exact .inl (List.lt_trans h h')
    · exact .inl (hsame' ▸ h)
  · rw [hsame]
    exact h'.imp_right fun h' => ⟨h'.1, Nat.le_trans h h'.2⟩

theorem le_total (a b : StoredKey) : (a.le b || b.le a) = true := by
  rw [Bool.or_eq_true, le_iff, le_iff]
  by_cases hab : a.time < b.time
  · exact .inl (.inl hab)
  by_cases hba : b.time < a.time
  · exact .inr (.inl hba)
  have hsame : a.time = b.time := List.le_antisymm (List.not_lt.mp hba) (List.not_lt.mp hab)
  rcases Nat.le_total a.id.value b.id.value with h | h
  · exact .inl (.inr ⟨hsame, h⟩)
  · exact .inr (.inr ⟨hsame.symm, h⟩)

end StoredKey

section Sorted
variable {α : Type} (key : α → Recency) {xs : List α}
  (hids : (xs.map fun x => (key x).id).Nodup)
  (hline : ∀ x ∈ xs, ∀ y ∈ xs, (key x).time.InLine (key y).time)
include hids hline

/-- Rows in the order of the texts of their times are the oldest first. -/
theorem oldestFirst_stored : OldestFirst key (· ∈ xs) (xs.mergeSort fun a b =>
    (StoredKey.of (key a).time (key a).id).le (.of (key b).time (key b).id)) := by
  refine ⟨?_, fun x => List.mem_mergeSort⟩
  have hsorted := pairwise_mergeSort_of_ids key
    (fun a b => (StoredKey.of (key a).time (key a).id).le (.of (key b).time (key b).id))
    (fun a b c => StoredKey.le_trans) (fun a b => StoredKey.le_total _ _) hids
  refine hsorted.imp_of_mem fun {a b} ha hb h => Recency.before_of_le ?_ h.2
  rw [← StoredKey.le_eq (hline a (List.mem_mergeSort.mp ha) b (List.mem_mergeSort.mp hb))]
  exact h.1

theorem newestFirst_stored : NewestFirst key (· ∈ xs) (xs.mergeSort fun a b =>
    (StoredKey.of (key b).time (key b).id).le (.of (key a).time (key a).id)) := by
  refine ⟨?_, fun x => List.mem_mergeSort⟩
  have hsorted := pairwise_mergeSort_of_ids key
    (fun a b => (StoredKey.of (key b).time (key b).id).le (.of (key a).time (key a).id))
    (fun a b c h h' => StoredKey.le_trans h' h) (fun a b => StoredKey.le_total _ _) hids
  refine hsorted.imp_of_mem fun {a b} ha hb h => Recency.before_of_le ?_ (Ne.symm h.2)
  rw [← StoredKey.le_eq (hline b (List.mem_mergeSort.mp hb) a (List.mem_mergeSort.mp ha))]
  exact h.1

end Sorted

/-- An offset that is small enough is itself as a signed number. -/
theorem signed64_of_lt {n : Nat} (h : n < 2 ^ 63) : signed64 n = n := by
  have hmod : 1 <<< 64 = 2 ^ 64 := by decide
  unfold signed64
  rw [hmod]
  exact Int.bmod_eq_of_le (by omega) (by omega)

/-! ## Rows and the books -/

/-- A reception as its row and the row of its status show it. -/
def shown (rs : Records) (id : Uuid) (row : ReceptionRow) : Reception :=
  ⟨id, row.pickupPoint, row.opened, row.statusId,
    (rs.statuses.get? row.statusId).bind StatusKind.ofName?⟩

theorem hasPoint_iff {db : Database} {p : PickupPoint} : db.books.HasPoint p ↔
    ∃ e ∈ db.records.pickupPoints.entries, pointOf db.records e.1 e.2 = p :=
  Table.map_get?_iff db.records.pickupPoints (pointOf db.records) PickupPoint.id fun _ _ => rfl

section Rows
variable {db : Database} (hs : db.Sound)
include hs

theorem Sound.receptionOf {e : Uuid × ReceptionRow} (h : e ∈ db.records.receptions.entries) :
    receptionOf db.records e.1 e.2 = .ok (shown db.records e.1 e.2) := by
  have hkind : ∀ kind, e.2.statusId = (Seed.status kind).id →
      Database.receptionOf db.records e.1 e.2 = .ok (shown db.records e.1 e.2) := by
    intro kind hid
    have hname := get?_seeded_statuses kind
    rw [← hs.statuses, ← hid] at hname
    simp only [Database.receptionOf, shown, hname, statusKind, StatusKind.ofName?_name,
      Option.bind_some]
    rfl
  rcases hs.known (Table.get?_eq_some_iff.mpr h) with hid | hid
  · exact hkind .inProgress hid
  · exact hkind .closed hid

theorem Sound.hasReception_iff {r : Reception} : db.books.HasReception r ↔
    ∃ e ∈ db.records.receptions.entries, shown db.records e.1 e.2 = r := by
  have hsame : db.books.reception? r.id =
      (db.records.receptions.get? r.id).map (shown db.records r.id) := by
    simp only [books]
    cases hrow : db.records.receptions.get? r.id with
    | none => rfl
    | some row =>
      have hmem : (r.id, row) ∈ db.records.receptions.entries := Table.get?_eq_some_iff.mp hrow
      rw [Option.bind_some, hs.receptionOf hmem]
      rfl
  rw [Books.HasReception, hsame]
  exact Table.map_get?_iff db.records.receptions (shown db.records) Reception.id fun _ _ => rfl

end Rows

/-! ## Lists -/

section Lists
variable {db : Database}

/-- What a row shows is on the books. -/
theorem hasPoint_row {e : Uuid × PointRow} (he : e ∈ db.records.pickupPoints.entries) :
    db.books.HasPoint (pointOf db.records e.1 e.2) := hasPoint_iff.mpr ⟨e, he, rfl⟩

theorem has_row {e : Uuid × ProductRow} (he : e ∈ db.records.products.entries) :
    db.books.Has (Database.productOf db.records e.1 e.2) := has_iff.mpr ⟨e, he, rfl⟩

theorem newestFirst_rows (hline : db.books.InLine .allPickupPoints) :
    NewestFirst (fun e : Uuid × PointRow => ⟨e.2.registered, e.1⟩)
      (· ∈ db.records.pickupPoints.entries) (newestFirst db.records) := by
  refine newestFirst_stored (fun e : Uuid × PointRow => ⟨e.2.registered, e.1⟩)
    db.records.pickupPoints.nodup ?_
  intro e he e' he'
  have h := hline (hasPoint_row he) (hasPoint_row he')
  exact h

theorem receptionsWhere_rows (p : ReceptionRow → Bool)
    (hline : ∀ e ∈ db.records.receptions.entries, ∀ e' ∈ db.records.receptions.entries,
      p e.2 = true → p e'.2 = true → e.2.opened.InLine e'.2.opened) :
    OldestFirst (fun e : Uuid × ReceptionRow => ⟨e.2.opened, e.1⟩)
      (fun e => e ∈ db.records.receptions.entries ∧ p e.2 = true)
      (receptionsWhere db.records p) := by
  have hids : ((db.records.receptions.entries.filter fun e => p e.2).map Prod.fst).Nodup :=
    db.records.receptions.nodup.sublist (List.filter_sublist.map _)
  refine (oldestFirst_stored (fun e : Uuid × ReceptionRow => ⟨e.2.opened, e.1⟩) hids
    fun e he e' he' => ?_).congr fun e => List.mem_filter
  obtain ⟨he, hp⟩ := List.mem_filter.mp he
  obtain ⟨he', hp'⟩ := List.mem_filter.mp he'
  exact hline e he e' he' hp hp'

theorem productsWhere_rows (p : ProductRow → Bool)
    (hline : ∀ e ∈ db.records.products.entries, ∀ e' ∈ db.records.products.entries,
      p e.2 = true → p e'.2 = true → e.2.added.InLine e'.2.added) :
    OldestFirst (fun e : Uuid × ProductRow => ⟨e.2.added, e.1⟩)
      (fun e => e ∈ db.records.products.entries ∧ p e.2 = true) (productsWhere db.records p) := by
  have hids : ((db.records.products.entries.filter fun e => p e.2).map Prod.fst).Nodup :=
    db.records.products.nodup.sublist (List.filter_sublist.map _)
  refine (oldestFirst_stored (fun e : Uuid × ProductRow => ⟨e.2.added, e.1⟩) hids
    fun e he e' he' => ?_).congr fun e => List.mem_filter
  obtain ⟨he, hp⟩ := List.mem_filter.mp he
  obtain ⟨he', hp'⟩ := List.mem_filter.mp he'
  exact hline e he e' he' hp hp'

variable (hs : db.Sound)

include hs

theorem Sound.hasReception_row {e : Uuid × ReceptionRow} (he : e ∈ db.records.receptions.entries) :
    db.books.HasReception (shown db.records e.1 e.2) := hs.hasReception_iff.mpr ⟨e, he, rfl⟩

/-- A test on texts of times is one on times. -/
theorem Sound.hadReception_iff {bounds : Instant × Instant}
    (hline : ∀ {r}, db.books.HasReception r →
      bounds.1.InLine r.opened ∧ r.opened.InLine bounds.2) {id : Uuid} :
    hadReception db.records bounds id = true ↔
      ∃ r, db.books.HasReception r ∧ r.pickupPoint = id ∧ bounds.1.le r.opened = true ∧
        r.opened.le bounds.2 = true := by
  simp only [hadReception, Table.rows, List.any_eq_true, List.mem_map, Bool.and_eq_true,
    decide_eq_true_eq]
  constructor
  · rintro ⟨row, ⟨e, he, rfl⟩, ⟨hp, hfirst⟩, hlast⟩
    obtain ⟨hstart, hstop⟩ := hline (hs.hasReception_row he)
    exact ⟨_, hs.hasReception_row he, hp, (Instant.storedLe_eq hstart).symm.trans hfirst,
      (Instant.storedLe_eq hstop).symm.trans hlast⟩
  · rintro ⟨r, hr, hp, hfirst, hlast⟩
    obtain ⟨hstart, hstop⟩ := hline hr
    obtain ⟨e, he, rfl⟩ := hs.hasReception_iff.mp hr
    exact ⟨e.2, ⟨e, he, rfl⟩, ⟨hp, (Instant.storedLe_eq hstart).trans hfirst⟩,
      (Instant.storedLe_eq hstop).trans hlast⟩

theorem Sound.inWindow {q : PointQuery} (hline : db.books.InLine (.pickupPointPage q)) :
    NewestFirst (fun e : Uuid × PointRow => ⟨e.2.registered, e.1⟩)
      (fun e => e ∈ db.records.pickupPoints.entries ∧
        db.books.InWindow q.window (Database.pointOf db.records e.1 e.2))
      (Database.inWindow db.records q.window) := by
  have hrows := newestFirst_rows hline.1
  rw [Database.inWindow]
  cases hbounds : q.window.bounds? with
  | none =>
    exact hrows.congr fun e => (and_iff_left (db.books.inWindow_of_none hbounds _)).symm
  | some bounds =>
    refine (hrows.filter fun e => hadReception db.records bounds e.1).congr fun e => ?_
    refine and_congr_right fun _ => ?_
    have hin := db.books.inWindow_iff_of_some hbounds (Database.pointOf db.records e.1 e.2)
    exact (hs.hadReception_iff (hline.2 hbounds)).trans hin.symm

theorem Sound.pointPage {q : PointQuery} (hq : (Call.pickupPointPage q).Small)
    (hline : db.books.InLine (.pickupPointPage q)) : ∃ ps,
    NewestFirst PickupPoint.recency
        (fun p => db.books.HasPoint p ∧ db.books.InWindow q.window p) ps ∧
      pointPage db.records q = (ps.drop q.offset).take q.limit := by
  refine ⟨(Database.inWindow db.records q.window).map fun e => Database.pointOf db.records e.1 e.2,
    ?_, ?_⟩
  · refine ((hs.inWindow hline).map (fun e => Database.pointOf db.records e.1 e.2)
      fun _ => rfl).congr fun p => ?_
    rw [hasPoint_iff]
    exact exists_shown_iff (fun e : Uuid × PointRow => Database.pointOf db.records e.1 e.2)
      (R := db.books.InWindow q.window) fun _ => Iff.rfl
  · rw [Database.pointPage, signed64_of_lt hq, Int.toNat_natCast, List.map_take, List.map_drop]

/-- The receptions of pickup points are answered, whatever their years. -/
theorem Sound.receptionsAt_eq {ids : List Uuid} (hids : ids.length ≤ maxParameters) :
    db.receptionsAt ids = .ok ((receptionsWhere db.records fun r => ids.contains r.pickupPoint).map
      fun e => shown db.records e.1 e.2) := by
  rw [Database.receptionsAt]
  split
  case isTrue hempty =>
    rw [List.isEmpty_iff.mp hempty]
    simp [receptionsWhere]
  case isFalse hempty =>
    rw [hs.query _ hids]
    refine mapM_ok fun e he => hs.receptionOf ?_
    rw [receptionsWhere, List.mem_mergeSort, List.mem_filter] at he
    exact he.1

theorem Sound.receptionsAt {ids : List Uuid} (hids : ids.length ≤ maxParameters)
    (hline : db.books.InLine (.receptionsAt ids)) : ∃ rs,
    OldestFirst Reception.recency (fun r => db.books.HasReception r ∧ r.pickupPoint ∈ ids) rs ∧
      db.receptionsAt ids = .ok rs := by
  have hlined : ∀ e ∈ db.records.receptions.entries, ∀ e' ∈ db.records.receptions.entries,
      ids.contains e.2.pickupPoint = true → ids.contains e'.2.pickupPoint = true →
        e.2.opened.InLine e'.2.opened := by
    intro e he e' he' hmem hmem'
    have h := hline (hs.hasReception_row he) (hs.hasReception_row he')
      (List.contains_iff_mem.mp hmem) (List.contains_iff_mem.mp hmem')
    exact h
  have hrows := receptionsWhere_rows (fun r => ids.contains r.pickupPoint) hlined
  refine ⟨_, (hrows.map (fun e => shown db.records e.1 e.2) fun _ => rfl).congr fun r => ?_,
    hs.receptionsAt_eq hids⟩
  rw [hs.hasReception_iff]
  simp only [List.contains_iff_mem]
  exact exists_shown_iff (fun e : Uuid × ReceptionRow => shown db.records e.1 e.2)
    (R := fun r => r.pickupPoint ∈ ids) fun _ => Iff.rfl

/-- The products of receptions are answered, whatever their years. -/
theorem Sound.productsOf_eq {ids : List Uuid} (hids : ids.length ≤ maxParameters) :
    db.productsOf ids = .ok ((productsWhere db.records fun x => ids.contains x.reception).map
      fun e => Database.productOf db.records e.1 e.2) := by
  rw [Database.productsOf]
  split
  case isTrue hempty =>
    rw [List.isEmpty_iff.mp hempty]
    simp [productsWhere]
  case isFalse hempty => exact hs.query productTables hids _

theorem Sound.productsOf {ids : List Uuid} (hids : ids.length ≤ maxParameters)
    (hline : db.books.InLine (.productsOf ids)) : ∃ xs,
    OldestFirst Product.recency (fun x => db.books.Has x ∧ x.reception ∈ ids) xs ∧
      db.productsOf ids = .ok xs := by
  have hlined : ∀ e ∈ db.records.products.entries, ∀ e' ∈ db.records.products.entries,
      ids.contains e.2.reception = true → ids.contains e'.2.reception = true →
        e.2.added.InLine e'.2.added := by
    intro e he e' he' hmem hmem'
    have h := hline (Database.has_row he) (Database.has_row he') (List.contains_iff_mem.mp hmem)
      (List.contains_iff_mem.mp hmem')
    exact h
  have hrows := productsWhere_rows (fun x => ids.contains x.reception) hlined
  refine ⟨_, (hrows.map (fun e => Database.productOf db.records e.1 e.2) fun _ => rfl).congr
    fun x => ?_, hs.productsOf_eq hids⟩
  rw [has_iff]
  simp only [List.contains_iff_mem]
  exact exists_shown_iff (fun e : Uuid × ProductRow => Database.productOf db.records e.1 e.2)
    (R := fun x => x.reception ∈ ids) fun _ => Iff.rfl

/-- **The lists of the database are those of its books**, where the years are in line. -/
theorem Sound.lists {c : Call} (hc : c.Small) (hline : db.books.InLine c) :
    db.books.Lists c (Database.answer c db).1 := by
  cases c with
  | pickupPointPage q =>
    obtain ⟨ps, hps, hpage⟩ := hs.pointPage hc hline
    refine ⟨ps, hps, ?_⟩
    rw [Database.answer, hs.query _ (by decide : 4 ≤ maxParameters), hpage]
  | allPickupPoints =>
    refine ⟨(newestFirst db.records).map fun e => Database.pointOf db.records e.1 e.2, ?_, ?_⟩
    · exact ((newestFirst_rows hline).map (fun e => Database.pointOf db.records e.1 e.2)
        fun _ => rfl).congr fun p => hasPoint_iff.symm
    · rw [Database.answer, hs.query _ (Nat.zero_le _)]
  | receptionsAt ids => exact hs.receptionsAt hc hline
  | productsOf ids => exact hs.productsOf hc hline
  | _ => trivial

/-- What is found last is the newest. -/
theorem Sound.newest {c : Call} (hline : db.books.InLine c) :
    db.books.Newest c (Database.answer c db).1 := by
  cases c with
  | lastProduct reception =>
    rw [Database.answer, hs.query _ (by decide : 1 ≤ maxParameters)]
    have hlined : ∀ e ∈ db.records.products.entries, ∀ e' ∈ db.records.products.entries,
        decide (e.2.reception = reception) = true → decide (e'.2.reception = reception) = true →
          e.2.added.InLine e'.2.added := by
      intro e he e' he' hsame hsame'
      have h := hline (Database.has_row he) (Database.has_row he') (of_decide_eq_true hsame)
        (of_decide_eq_true hsame')
      exact h
    have hrows := productsWhere_rows (fun x => x.reception = reception) hlined
    cases h : (productsWhere db.records fun x => x.reception = reception).getLast? with
    | none => trivial
    | some last =>
      intro y hy hreception
      obtain ⟨e, he, rfl⟩ := has_iff.mp hy
      have hmem := (hrows.mem_iff e).mpr ⟨he, decide_eq_true hreception⟩
      obtain ⟨before, hsplit⟩ := List.getLast?_eq_some_iff.mp h
      have hordered := hrows.ordered
      rw [hsplit] at hmem hordered
      rcases List.mem_append.mp hmem with hmem | hmem
      · exact ((List.pairwise_append.mp hordered).2.2 e hmem last List.mem_cons_self).1
      · rw [List.mem_singleton.mp hmem]
        exact Recency.le_refl _
  | _ => trivial

end Lists
end Database
end PickupLedger
