import PickupLedger.Proofs.ActiveIndex
import PickupLedger.Proofs.StatusMoves

/-!
# Records that are added

A store is asked to add a pickup point, a reception or a product (`Addition`).  It should add
the record under an identifier that is free, or do nothing; every record that is there stays
what it is, and no pickup point comes to have an entry that is not a reception of its own
(`InMemory.AddsOnly`, `Database.AddsOnly`).

A database has a key on each of the three tables and keeps to that in every state.  The store
in memory looks whether the identifier of a pickup point is taken, but not that of a reception
or a product, and replaces the record that has it (`InMemory.Replaces`).

If that is a reception in progress of another pickup point, its entry is lost: the place stays
taken, and no reception of the pickup point can be closed to free it.  Whatever calls follow
that replace no further reception, it may not start another one (`InMemory.Blocked.after`).
-/

namespace PickupLedger

/-- **A record to be added.** -/
inductive Addition where
  | point (p : PickupPoint)
  | reception (r : Reception)
  | product (x : Product)
  deriving DecidableEq, Repr

/-- The call that adds a record. -/
def Addition.call : Addition → Call
  | .point p => .addPickupPoint p
  | .reception r => .addReception r
  | .product x => .addProduct x

namespace Table
variable {κ ρ : Type} [DecidableEq κ] {t : Table κ ρ}

/-- Every row is still there, under its key. -/
def Keeps (t t' : Table κ ρ) : Prop := ∀ ⦃k r⦄, t.get? k = some r → t'.get? k = some r

theorem Keeps.refl (t : Table κ ρ) : t.Keeps t := fun _ _ h => h

/-- A row under a free key replaces none. -/
theorem keeps_put {k : κ} {r : ρ} (h : t.get? k = none) : t.Keeps (t.put k r) := by
  intro k' r' hr'
  rw [get?_put, if_neg fun heq => by rw [heq, h] at hr'; cases hr']
  exact hr'

/-- A row that is kept under its key is the one that was put there. -/
theorem Keeps.eq_of_put {k : κ} {r old : ρ} (h : t.Keeps (t.put k r)) (hold : t.get? k = some old) :
    old = r := by
  have hput := h hold
  rw [get?_put_self] at hput
  exact (Option.some.inj hput).symm

end Table

/-! ## In memory -/

namespace InMemory

/-- The identifier of a record is free. -/
def IsFree (s : InMemory) : Addition → Prop
  | .point p => s.pickupPoints.get? p.id = none
  | .reception r => s.receptions.get? r.id = none
  | .product x => s.products.get? x.id = none

/-- **What the store looks at** before it adds a record: the identifier of a pickup point is
free; a reception is closed, or the place of its pickup point is free; a product belongs to the
reception that has the place. -/
def Admits (s : InMemory) : Addition → Prop
  | .point p => s.pickupPoints.get? p.id = none
  | .reception r => s.kindOf r.statusId = .ok .closed ∨
      s.kindOf r.statusId = .ok .inProgress ∧ s.active.get? r.pickupPoint = none
  | .product x => ∃ r, s.receptions.get? x.reception = some r ∧
      s.active.get? r.pickupPoint = some x.reception

/-- The table `active` with a reception, if it is in progress. -/
def entering (s : InMemory) (r : Reception) : Table Uuid Uuid :=
  match s.kindOf r.statusId with
  | .ok .inProgress => s.active.put r.pickupPoint r.id
  | _ => s.active

/-- **The store with a record.** -/
def entered (s : InMemory) : Addition → InMemory
  | .point p => { s with pickupPoints := s.pickupPoints.put p.id { p with city := none } }
  | .reception r => { s with
      active := s.entering r
      receptions := s.receptions.put r.id { r with status := none } }
  | .product x => { s with products := s.products.put x.id { x with typeName := none } }

/-- **The entry of a pickup point is lost**: it is no reception of that pickup point. -/
def IsLost (s : InMemory) (p : Uuid) : Prop :=
  ∃ id, s.active.get? p = some id ∧ ∀ r, s.receptions.get? id = some r → r.pickupPoint ≠ p

/-- **A record is added, or nothing is done.** -/
structure AddsOnly (s : InMemory) (a : Addition) (s' : InMemory) : Prop where
  added : s' = s ∨ s.IsFree a ∧ s' = s.entered a
  points : s.pickupPoints.Keeps s'.pickupPoints
  receptions : s.receptions.Keeps s'.receptions
  products : s.products.Keeps s'.products
  lost : ∀ p, s'.IsLost p → s.IsLost p

/-- **A record that replaces one**: it is let in, though its identifier is taken, by another
record or by a reception that takes its place only now. -/
def Replaces (s : InMemory) (a : Addition) : Prop :=
  s.Admits a ∧
    match a with
    | .point _ => False
    | .reception r => ∃ old, s.receptions.get? r.id = some old ∧
        (old ≠ { r with status := none } ∨ s.kindOf r.statusId = .ok .inProgress)
    | .product x => ∃ old, s.products.get? x.id = some old ∧ old ≠ { x with typeName := none }

section Additions
variable {s : InMemory} {a : Addition}

/-- **What comes of an addition**: it is let in and made, or refused. -/
theorem answer_addition (s : InMemory) (a : Addition) :
    s.Admits a ∧ ¬ a.call.Refused (answer a.call s).1 ∧ (answer a.call s).2 = s.entered a ∨
    ¬ s.Admits a ∧ a.call.Refused (answer a.call s).1 ∧ (answer a.call s).2 = s := by
  cases a with
  | point p =>
    cases hrow : s.pickupPoints.get? p.id with
    | none =>
      simp only [Addition.call, answer, addPickupPoint, Table.contains, hrow]
      exact .inl ⟨hrow, not_false, rfl⟩
    | some old =>
      simp only [Addition.call, answer, addPickupPoint, Table.contains, hrow]
      exact .inr ⟨by simp [Admits, hrow], trivial, rfl⟩
  | reception r =>
    simp only [Addition.call, answer, addReception, Admits, entered, entering]
    cases hkind : s.kindOf r.statusId with
    | error e => exact .inr ⟨by simp, trivial, rfl⟩
    | ok kind =>
      cases kind with
      | closed => exact .inl ⟨.inl rfl, not_false, rfl⟩
      | inProgress =>
        by_cases htaken : s.active.contains r.pickupPoint = true
        case pos =>
          have hplace : s.active.get? r.pickupPoint ≠ none := fun hnone => by
            rw [Table.contains_of_none hnone] at htaken
            cases htaken
          simp only [htaken, if_true]
          exact .inr ⟨by simp [hplace], trivial, trivial⟩
        case neg =>
          have hplace := Table.get?_of_not_contains htaken
          simp only [htaken]
          exact .inl ⟨.inr ⟨trivial, hplace⟩, not_false, rfl⟩
  | product x =>
    simp only [Addition.call, answer, addProduct, Admits, entered]
    cases hrow : s.receptions.get? x.reception with
    | none => exact .inr ⟨by simp, trivial, rfl⟩
    | some r =>
      by_cases hplace : s.active.get? r.pickupPoint = some x.reception
      case pos =>
        simp only [hplace, if_true]
        exact .inl ⟨⟨r, rfl, hplace⟩, not_false, trivial⟩
      case neg =>
        simp only [hplace, if_false]
        exact .inr ⟨by simp [hplace], trivial, trivial⟩

theorem addsOnly_self (s : InMemory) (a : Addition) : s.AddsOnly a s :=
  ⟨.inl rfl, .refl _, .refl _, .refl _, fun _ h => h⟩

/-- A reception under a free identifier leads no entry away. -/
theorem isLost_of_entered {r : Reception} (hfree : s.receptions.get? r.id = none) {p : Uuid}
    (h : (s.entered (.reception r)).IsLost p) : s.IsLost p := by
  obtain ⟨id, hentry, haway⟩ := h
  have hthere : s.active.get? p = some id → s.IsLost p := fun hentry =>
    ⟨id, hentry, fun r' hr' => haway r' (Table.keeps_put hfree hr')⟩
  simp only [entered, entering] at hentry
  split at hentry
  case h_2 => exact hthere hentry
  case h_1 =>
    rw [Table.get?_put] at hentry
    split at hentry
    case isFalse => exact hthere hentry
    case isTrue hp =>
      -- The new entry is the new reception, which is of this pickup point.
      obtain rfl := Option.some.inj hentry
      exact absurd hp.symm (haway { r with status := none } (Table.get?_put_self ..))

/-- **A record under a free identifier changes nothing else.** -/
theorem addsOnly_entered (hfree : s.IsFree a) : s.AddsOnly a (s.entered a) := by
  cases a with
  | point p =>
    exact ⟨.inr ⟨hfree, rfl⟩, Table.keeps_put hfree, .refl _, .refl _, fun _ h => h⟩
  | reception r =>
    exact ⟨.inr ⟨hfree, rfl⟩, .refl _, Table.keeps_put hfree, .refl _,
      fun _ h => isLost_of_entered hfree h⟩
  | product x =>
    exact ⟨.inr ⟨hfree, rfl⟩, .refl _, .refl _, Table.keeps_put hfree, fun _ h => h⟩

/-- What is let in under an identifier that is taken replaces a record or leaves all as it is. -/
theorem addsOnly_entered_iff (hadmits : s.Admits a) (htaken : ¬ s.IsFree a) :
    s.AddsOnly a (s.entered a) ↔ ¬ s.Replaces a := by
  cases a with
  | point p => exact absurd hadmits htaken
  | reception r =>
    obtain ⟨old, hold⟩ := Option.ne_none_iff_exists'.mp htaken
    constructor
    · rintro hadds ⟨-, old', hold', hother | hkind⟩
      · exact hother (hadds.receptions.eq_of_put hold')
      · -- The place was free and is taken.
        have hplace : s.active.get? r.pickupPoint = none := by
          rcases hadmits with hclosed | ⟨-, hplace⟩
          · rw [hkind] at hclosed
            cases hclosed
          · exact hplace
        rcases hadds.added with hsame | ⟨hfree, -⟩
        · have hentry := congrArg (fun s : InMemory => s.active.get? r.pickupPoint) hsame
          simp only [entered, entering, hkind, Table.get?_put_self, hplace] at hentry
          cases hentry
        · exact htaken hfree
    · intro hnot
      have hsame : old = { r with status := none } := by_contra fun hother =>
        hnot ⟨hadmits, old, hold, .inl hother⟩
      have hclosed : s.kindOf r.statusId ≠ .ok .inProgress := fun hkind =>
        hnot ⟨hadmits, old, hold, .inr hkind⟩
      have hentering : s.entering r = s.active := by
        rw [entering]
        split
        · next hkind => exact absurd hkind hclosed
        · rfl
      rw [entered, hentering, ← hsame, Table.put_of_get? hold]
      exact addsOnly_self s _
  | product x =>
    obtain ⟨old, hold⟩ := Option.ne_none_iff_exists'.mp htaken
    constructor
    · rintro hadds ⟨-, old', hold', hother⟩
      exact hother (hadds.products.eq_of_put hold')
    · intro hnot
      have hsame : old = { x with typeName := none } := by_contra fun hother =>
        hnot ⟨hadmits, old, hold, hother⟩
      rw [entered, ← hsame, Table.put_of_get? hold]
      exact addsOnly_self s _

/-- **The store in memory adds or does nothing, unless it replaces a record.** -/
theorem addsOnly_iff (s : InMemory) (a : Addition) :
    s.AddsOnly a (answer a.call s).2 ↔ ¬ s.Replaces a := by
  rcases s.answer_addition a with ⟨hadmits, -, hmade⟩ | ⟨hnot, -, hsame⟩
  · rw [hmade]
    by_cases hfree : s.IsFree a
    case neg => exact addsOnly_entered_iff hadmits hfree
    refine iff_of_true (addsOnly_entered hfree) ?_
    rintro ⟨-, hreplaced⟩
    cases a with
    | point p => exact hreplaced
    | reception r =>
      obtain ⟨old, hold, -⟩ := hreplaced
      exact absurd (hold.symm.trans hfree) nofun
    | product x =>
      obtain ⟨old, hold, -⟩ := hreplaced
      exact absurd (hold.symm.trans hfree) nofun
  · rw [hsame]
    exact iff_of_true (addsOnly_self s a) fun hreplaces => hnot hreplaces.1

end Additions

/-! ### An entry that is lost -/

/-- **A pickup point that is blocked**: its entry is a reception of another one. -/
def Blocked (s : InMemory) (p id : Uuid) : Prop :=
  s.active.get? p = some id ∧ ∃ r, s.receptions.get? id = some r ∧ r.pickupPoint ≠ p

section Blocking
variable {s : InMemory} {p id : Uuid}

theorem Blocked.isLost (h : s.Blocked p id) : s.IsLost p := by
  obtain ⟨hentry, r, hr, haway⟩ := h
  refine ⟨id, hentry, fun r' hr' => ?_⟩
  rw [hr] at hr'
  exact Option.some.inj hr' ▸ haway

/-- A reception that is not replaced keeps its pickup point. -/
theorem pickupPoint_kept {c : Call} (hanew : c.AddsAnew s) {r : Reception}
    (hr : s.receptions.get? id = some r) :
    ∃ r', (answer c s).2.receptions.get? id = some r' ∧ r'.pickupPoint = r.pickupPoint := by
  have hadded (a : Addition) (hkeeps : s.receptions.Keeps (s.entered a).receptions) :
      ∃ r', (answer a.call s).2.receptions.get? id = some r' ∧ r'.pickupPoint = r.pickupPoint := by
    rcases s.answer_addition a with ⟨-, -, hmade⟩ | ⟨-, -, hsame⟩
    · rw [hmade]
      exact ⟨r, hkeeps hr, rfl⟩
    · rw [hsame]
      exact ⟨r, hr, rfl⟩
  cases c with
  | addPickupPoint p => exact hadded (.point p) (.refl _)
  | addProduct x => exact hadded (.product x) (.refl _)
  | addReception new => exact hadded (.reception new) (Table.keeps_put hanew)
  | moveReception moved source target =>
    have hall := s.moveReception_all_or_nothing moved source target
    simp only [answer]
    generalize s.moveReception moved source target = outcome at hall
    obtain ⟨told, s'⟩ := outcome
    cases told with
    | error e =>
      obtain rfl : s' = s := hall
      exact ⟨r, hr, rfl⟩
    | ok row? =>
      cases row? with
      | none =>
        obtain rfl : s' = s := hall
        exact ⟨r, hr, rfl⟩
      | some moved' =>
        obtain ⟨row, active, hrow, -, hmoved, -, rfl⟩ := hall
        by_cases hid : id = moved
        · subst hid
          rw [hr] at hrow
          exact ⟨_, Table.get?_put_self .., by rw [hmoved, Option.some.inj hrow]⟩
        · exact ⟨r, (Table.get?_put ..).trans ((if_neg hid).trans hr), rfl⟩
  | _ => exact ⟨r, hr, rfl⟩

/-- No change of `active` takes away the entry that blocks a pickup point. -/
theorem Blocked.active (h : s.Blocked p id) {anew : Prop} {active : Table Uuid Uuid}
    {receptions : Table Uuid Reception} (hchange : Change s anew active receptions) :
    active.get? p = some id := by
  obtain ⟨hentry, r, hr, haway⟩ := h
  cases hchange with
  | nothing => exact hentry
  | record => exact hentry
  | again => exact hentry
  | enter new _ hfree =>
    have hne : p ≠ new.pickupPoint := fun heq => by
      rw [← heq, hentry] at hfree
      cases hfree
    rw [Table.get?_put, if_neg hne, hentry]
  | leave row hrow hplace =>
    -- Only a reception of the pickup point itself could give up the place.
    have hne : p ≠ row.pickupPoint := fun heq => by
      rw [← heq, hentry] at hplace
      obtain rfl := Option.some.inj hplace
      rw [hr] at hrow
      exact haway (Option.some.inj hrow ▸ heq.symm)
    rw [Table.get?_erase, if_neg hne, hentry]

theorem Blocked.answer (h : s.Blocked p id) (hf : s.Filed) {c : Call} (hanew : c.AddsAnew s) :
    (InMemory.answer c s).2.Blocked p id := by
  have hentry := h.active (hf.change c)
  obtain ⟨-, r, hr, haway⟩ := h
  obtain ⟨r', hr', hpoint⟩ := pickupPoint_kept hanew hr
  exact ⟨hentry, r', hr', hpoint ▸ haway⟩

/-- **A pickup point that is blocked stays so**, whatever calls follow that replace no
reception. -/
theorem Blocked.after (h : s.Blocked p id) (hf : s.Filed) {calls : List Call}
    (hanew : s.AllAnew calls) : (s.after calls).Blocked p id := by
  induction calls generalizing s with
  | nil => exact h
  | cons c cs ih => exact ih (h.answer hf hanew.1) (hf.answer c) hanew.2

/-- **No reception starts at a pickup point that is blocked.** -/
theorem Blocked.refused (h : s.Blocked p id) (hf : s.Filed) {r : Reception}
    (hpoint : r.pickupPoint = p) (hin : r.statusId = Seed.inProgressId) :
    InMemory.answer (.addReception r) s = (.error (occupied p), s) := by
  have hkind : s.kindOf r.statusId = .ok .inProgress := hin ▸ hf.kindOf .inProgress
  have htaken : s.active.contains p = true := by
    rw [Table.contains, h.1]
    rfl
  simp only [InMemory.answer, addReception, hkind, hpoint, htaken, if_true]

end Blocking
end InMemory

/-! ## In a database -/

namespace Database

/-- The identifier of a record is free. -/
def IsFree (db : Database) : Addition → Prop
  | .point p => db.records.pickupPoints.get? p.id = none
  | .reception r => db.records.receptions.get? r.id = none
  | .product x => db.records.products.get? x.id = none

/-- **The database with a record.** -/
def entered (db : Database) (a : Addition) : Database :=
  { db with records :=
    match a with
    | .point p => { db.records with
        pickupPoints := db.records.pickupPoints.put p.id ⟨p.registered, p.cityId⟩ }
    | .reception r => { db.records with
        receptions := db.records.receptions.put r.id ⟨r.pickupPoint, r.opened, r.statusId⟩ }
    | .product x => { db.records with
        products := db.records.products.put x.id ⟨x.added, x.typeId, x.reception⟩ } }

/-- **A record is added, or nothing is done.** -/
structure AddsOnly (db : Database) (a : Addition) (db' : Database) : Prop where
  added : db' = db ∨ db.IsFree a ∧ db' = db.entered a
  points : db.records.pickupPoints.Keeps db'.records.pickupPoints
  receptions : db.records.receptions.Keeps db'.records.receptions
  products : db.records.products.Keeps db'.records.products

section Additions
variable {db db' : Database}

theorem insertPoint_eq {id : Uuid} {row : PointRow} (h : db.insertPoint id row = .ok db') :
    db.records.pickupPoints.get? id = none ∧ db' = { db with records :=
      { db.records with pickupPoints := db.records.pickupPoints.put id row } } := by
  rw [insertPoint] at h
  split at h
  · cases h
  · next hfree =>
    split at h
    · cases h
    · exact ⟨Table.get?_of_not_contains hfree, (Except.ok.inj h).symm⟩

theorem insertReception_eq {id : Uuid} {row : ReceptionRow}
    (h : db.insertReception id row = .ok db') :
    db.records.receptions.get? id = none ∧ db' = { db with records :=
      { db.records with receptions := db.records.receptions.put id row } } := by
  rw [insertReception] at h
  split at h
  · cases h
  · next hfree =>
    split at h
    · cases h
    · split at h
      · cases h
      · exact ⟨Table.get?_of_not_contains hfree, (Except.ok.inj h).symm⟩

theorem insertProduct_eq {id : Uuid} {row : ProductRow} (h : db.insertProduct id row = .ok db') :
    db.records.products.get? id = none ∧ db' = { db with records :=
      { db.records with products := db.records.products.put id row } } := by
  rw [insertProduct] at h
  split at h
  · cases h
  · next hfree =>
    split at h
    · cases h
    · exact ⟨Table.get?_of_not_contains hfree, (Except.ok.inj h).symm⟩

/-- **What comes of an addition**: it is made under a free identifier, or refused. -/
theorem answer_addition (db : Database) (a : Addition) :
    ¬ a.call.Refused (answer a.call db).1 ∧ db.IsFree a ∧ (answer a.call db).2 = db.entered a ∨
    a.call.Refused (answer a.call db).1 ∧ (answer a.call db).2 = db := by
  cases a with
  | point p =>
    simp only [Addition.call, answer, addPickupPoint]
    split
    · exact .inr ⟨trivial, rfl⟩
    · split
      · exact .inr ⟨trivial, rfl⟩
      · next hinsert =>
        obtain ⟨hfree, rfl⟩ := insertPoint_eq hinsert
        exact .inl ⟨not_false, hfree, rfl⟩
  | reception r =>
    simp only [Addition.call, answer, addReception]
    split
    · exact .inr ⟨trivial, rfl⟩
    · split
      · exact .inr ⟨trivial, rfl⟩
      · next hinsert =>
        obtain ⟨hfree, rfl⟩ := insertReception_eq hinsert
        exact .inl ⟨not_false, hfree, rfl⟩
  | product x =>
    simp only [Addition.call, answer, addProduct]
    split
    · exact .inr ⟨trivial, rfl⟩
    · split
      · exact .inr ⟨trivial, rfl⟩
      · split
        · split
          · exact .inr ⟨trivial, rfl⟩
          · next hinsert =>
            obtain ⟨hfree, rfl⟩ := insertProduct_eq hinsert
            exact .inl ⟨not_false, hfree, rfl⟩
        · exact .inr ⟨trivial, rfl⟩

theorem addsOnly_entered {a : Addition} (hfree : db.IsFree a) : db.AddsOnly a (db.entered a) := by
  cases a with
  | point p => exact ⟨.inr ⟨hfree, rfl⟩, Table.keeps_put hfree, .refl _, .refl _⟩
  | reception r => exact ⟨.inr ⟨hfree, rfl⟩, .refl _, Table.keeps_put hfree, .refl _⟩
  | product x => exact ⟨.inr ⟨hfree, rfl⟩, .refl _, .refl _, Table.keeps_put hfree⟩

/-- **A database adds or does nothing**, whatever its schema and its rows are. -/
theorem addsOnly_answer (db : Database) (a : Addition) : db.AddsOnly a (answer a.call db).2 := by
  rcases db.answer_addition a with ⟨-, hfree, hmade⟩ | ⟨-, hsame⟩
  · rw [hmade]
    exact addsOnly_entered hfree
  · rw [hsame]
    exact ⟨.inl rfl, .refl _, .refl _, .refl _⟩

end Additions
end Database

/-- **When an addition replaces nothing.**  An addition that is refused leaves the store as it
was, and one that is not adds the record if the identifier is free.  In memory it adds or does
nothing exactly if it does not replace a record, and a database never replaces any. -/
theorem additions_replace_nothing_iff (a : Addition) :
    (∀ s : InMemory,
      (a.call.Refused (InMemory.answer a.call s).1 → (InMemory.answer a.call s).2 = s) ∧
      (¬ a.call.Refused (InMemory.answer a.call s).1 → s.IsFree a →
        (InMemory.answer a.call s).2 = s.entered a) ∧
      (s.AddsOnly a (InMemory.answer a.call s).2 ↔ ¬ s.Replaces a)) ∧
    ∀ db : Database,
      (a.call.Refused (Database.answer a.call db).1 → (Database.answer a.call db).2 = db) ∧
      (¬ a.call.Refused (Database.answer a.call db).1 →
        db.IsFree a ∧ (Database.answer a.call db).2 = db.entered a) ∧
      db.AddsOnly a (Database.answer a.call db).2 := by
  refine ⟨fun s => ⟨fun hrefused => ?_, fun hmade _ => ?_, s.addsOnly_iff a⟩,
    fun db => ⟨fun hrefused => ?_, fun hmade => ?_, db.addsOnly_answer a⟩⟩
  · rcases s.answer_addition a with ⟨-, hmade, -⟩ | ⟨-, -, hsame⟩
    · exact absurd hrefused hmade
    · exact hsame
  · rcases s.answer_addition a with ⟨-, -, heq⟩ | ⟨-, hrefused, -⟩
    · exact heq
    · exact absurd hrefused hmade
  · rcases db.answer_addition a with ⟨hmade, -⟩ | ⟨-, hsame⟩
    · exact absurd hrefused hmade
    · exact hsame
  · rcases db.answer_addition a with ⟨-, heq⟩ | ⟨hrefused, -⟩
    · exact heq
    · exact absurd hrefused hmade

/-- Two pickup points, the first of them with a reception in progress. -/
def besideEachOther : List Call :=
  [.addPickupPoint (.inCity (.ofNat 1) .epoch ⟨1, "Москва"⟩),
    .addPickupPoint (.inCity (.ofNat 2) .epoch ⟨1, "Москва"⟩),
    .addReception (.begun (.generated 1) (.ofNat 1) .epoch)]

/-- **A reception is taken over by another pickup point**, and its own one is blocked for good. -/
theorem reception_taken_over :
    let s := InMemory.new.after besideEachOther
    let r : Reception := .begun (.generated 1) (.ofNat 2) .epoch
    let s' := (InMemory.answer (.addReception r) s).2
    (s.receptions.get? r.id).map Reception.pickupPoint = some (.ofNat 1) ∧
      (s'.receptions.get? r.id).map Reception.pickupPoint = some (.ofNat 2) ∧
      ¬ s.AddsOnly (.reception r) s' ∧ s'.IsLost (.ofNat 1) ∧
      ∀ calls, s'.AllAnew calls → ∀ next : Reception, next.pickupPoint = .ofNat 1 →
        next.statusId = Seed.inProgressId →
        InMemory.answer (.addReception next) (s'.after calls) =
          (.error (InMemory.occupied (.ofNat 1)), s'.after calls) := by
  intro s r s'
  have hbefore : (s.receptions.get? r.id).map Reception.pickupPoint = some (.ofNat 1) := by decide
  have hafter : (s'.receptions.get? r.id).map Reception.pickupPoint = some (.ofNat 2) := by decide
  have hf : s'.Filed := (InMemory.new_filed.after besideEachOther).answer (.addReception r)
  have hblocked : s'.Blocked (.ofNat 1) (.generated 1) :=
    ⟨by decide, { r with status := none }, by decide, by decide⟩
  refine ⟨hbefore, hafter, fun hadds => ?_, hblocked.isLost, fun calls hanew next hpoint hin =>
    (hblocked.after hf hanew).refused (hf.after calls) hpoint hin⟩
  obtain ⟨row, hrow, hpoint⟩ := Option.map_eq_some_iff.mp hbefore
  rw [hadds.receptions hrow, Option.map_some, hpoint] at hafter
  exact absurd hafter (by decide)

/-- A product may be replaced as well, and is in another reception then. -/
example :
    let s := InMemory.new.after (besideEachOther ++
      [.addReception (.begun (.generated 2) (.ofNat 2) .epoch),
        .addProduct ⟨.generated 3, .epoch, 1, none, .generated 1⟩])
    s.Replaces (.product ⟨.generated 3, .epoch, 1, none, .generated 2⟩) := by
  intro s
  exact ⟨⟨⟨.generated 2, .ofNat 2, .epoch, Seed.inProgressId, none⟩, by decide, by decide⟩,
    ⟨.generated 3, .epoch, 1, none, .generated 1⟩, by decide, by decide⟩

end PickupLedger
