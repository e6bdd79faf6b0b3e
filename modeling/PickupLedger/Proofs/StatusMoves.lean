import PickupLedger.Proofs.RefusedWrites

/-!
# Moves from one status to another, all or nothing

A store that answers with the reception it has moved, has moved it; after any other answer it
should be as it was (`AllOrNothing`).  The store in memory keeps to that in every state and for
all statuses.

A database moves a reception with one statement and shows it with a second one, and what stops
the second does not undo the first.  Either statement may fail by itself (`Database.Mishaps`);
and the second needs a table that the first does not, and a name that is known.  So a move is
told as a failure although it was made, exactly if it changed the status and the second
statement fails (`moves_all_or_nothing_iff`).
-/

namespace PickupLedger

/-- A row put where it is. -/
theorem Table.put_of_get? {κ ρ : Type} [DecidableEq κ] {t : Table κ ρ} {k : κ} {r : ρ}
    (h : t.get? k = some r) : t.put k r = t := by
  obtain ⟨before, after, hentries⟩ := List.append_of_mem (get?_eq_some_iff.mp h)
  exact ext ((entries_put_of_entries hentries r).trans hentries.symm)

/-- **All or nothing**: the reply that a reception was moved comes with the move, and any other
answer with the store as it was. -/
def AllOrNothing {σ : Type} (Moved : Reception → Prop) (before after : σ) :
    Except StorageFailure (Option Reception) → Prop
  | .ok (some r) => Moved r
  | .ok none | .error _ => after = before

/-! ## In memory -/

namespace InMemory
variable (s : InMemory) (id : Uuid) (source target : RefId)

/-- **The store after a move**: the reception has the other status, and only its pickup point
may have another entry. -/
def Moved (s' : InMemory) (r : Reception) : Prop :=
  ∃ row active, s.receptions.get? id = some row ∧ row.statusId = source ∧
    r = { row with statusId := target } ∧
    (∀ p ≠ row.pickupPoint, active.get? p = s.active.get? p) ∧
    s' = { s with active, receptions := s.receptions.put id r }

variable {s} in
theorem shiftActive_other {r : Reception} {sourceKind targetKind : StatusKind}
    {active : Table Uuid Uuid} (h : s.shiftActive r sourceKind targetKind = .ok (some active))
    {p : Uuid} (hp : p ≠ r.pickupPoint) : active.get? p = s.active.get? p := by
  cases sourceKind <;> cases targetKind <;> simp only [shiftActive] at h
  case inProgress.closed =>
    split at h
    · rw [← Option.some.inj (Except.ok.inj h), Table.get?_erase, if_neg hp]
    · cases h
  case closed.inProgress =>
    split at h
    · cases h
    · rw [← Option.some.inj (Except.ok.inj h), Table.get?_put, if_neg hp]
  all_goals rw [← Option.some.inj (Except.ok.inj h)]

/-- **A move in memory is all or nothing**, whatever the store holds. -/
theorem moveReception_all_or_nothing :
    AllOrNothing (s.Moved id source target (s.moveReception id source target).2) s
      (s.moveReception id source target).2 (s.moveReception id source target).1 := by
  rw [moveReception]
  cases s.kindOf source with
  | error e => exact rfl
  | ok sourceKind =>
    cases s.kindOf target with
    | error e => exact rfl
    | ok targetKind =>
      cases hrow : s.receptions.get? id with
      | none => exact rfl
      | some row =>
        by_cases hsource : row.statusId = source
        case neg =>
          simp only [hsource, if_false]
          exact rfl
        simp only [hsource, if_true]
        cases hshift : s.shiftActive row sourceKind targetKind with
        | error e => exact rfl
        | ok shifted =>
          cases shifted with
          | none => exact rfl
          | some active =>
            exact ⟨row, active, hrow, hsource, rfl, fun p hp => shiftActive_other hshift hp, rfl⟩

end InMemory

/-! ## In a database -/

namespace Database

/-- **What befalls the two statements of a move** from outside: the connection is lost, the disk
is full, another process holds the lock. -/
structure Mishaps where
  update : Option StorageFailure
  lookUp : Option StorageFailure

section Statements
variable (db : Database) (id : Uuid) (source target : RefId)

/-- The first statement: the row of the reception is put under the other status, if there is one
in the first. -/
def updateStatus : Except StorageFailure (Option Database) :=
  match db.obstacle? .execution [.receptions] 0 with
  | some e => .error e
  | none =>
    match db.records.receptions.get? id with
    | none => .ok none
    | some row =>
      if row.statusId = source then
        match db.updateReception id row target with
        | .error fault => .error (writeFailure ("in-progress reception " ++ id.text) fault)
        | .ok db => .ok (some db)
      else .ok none

/-- **A move whose statements may fail**; the second one looks the reception up. -/
def moveUnder (mishaps : Mishaps) : Except StorageFailure (Option Reception) × Database :=
  match mishaps.update.elim (db.updateStatus id source target) .error with
  | .error e => (.error e, db)
  | .ok none => (.ok none, db)
  | .ok (some moved) => (mishaps.lookUp.elim (moved.receptionById id) .error, moved)

/-- Without mishaps it is the move that the database makes. -/
theorem moveUnder_none : db.moveUnder id source target ⟨none, none⟩ =
    db.moveReception id source target := by
  simp only [moveUnder, Option.elim_none, updateStatus, moveReception]
  cases db.obstacle? .execution [.receptions] 0 with
  | some e => rfl
  | none =>
    cases db.records.receptions.get? id with
    | none => rfl
    | some row =>
      by_cases hsource : row.statusId = source
      · simp only [hsource, if_true]
        cases db.updateReception id row target <;> rfl
      · simp only [hsource, if_false]

/-- The database with the row of a reception under another status. -/
def withStatus (row : ReceptionRow) : Database :=
  { db with records := { db.records with
    receptions := db.records.receptions.put id { row with statusId := target } } }

/-- **The database after a move**: the row of the reception has the other status. -/
def Moved (db' : Database) (r : Reception) : Prop :=
  ∃ row, db.records.receptions.get? id = some row ∧ row.statusId = source ∧
    r = ⟨id, row.pickupPoint, row.opened, target, r.status⟩ ∧ db' = db.withStatus id target row

/-- **What stops the second statement**: a mishap, no table of statuses, or a name of the new
status that is not known. -/
def LookUpFails (mishaps : Mishaps) : Prop :=
  mishaps.lookUp ≠ none ∨ ¬ db.schema.has .statuses = true ∨
    ∃ name, db.records.statuses.get? target = some name ∧ StatusKind.ofName? name = none

/-- **A move that is made and not shown**: the first statement puts the reception under another
status, and the second one is stopped. -/
def MadeUnshown (mishaps : Mishaps) : Prop :=
  source ≠ target ∧ mishaps.update = none ∧
    (∃ moved, db.updateStatus id source target = .ok (some moved)) ∧
    db.LookUpFails target mishaps

end Statements

section Moves
variable {db : Database} {id : Uuid} {source target : RefId}

theorem updateReception_eq {row : ReceptionRow} {db' : Database}
    (h : db.updateReception id row target = .ok db') :
    db' = db.withStatus id target row := by
  rw [updateReception] at h
  split at h
  · cases h
  · split at h
    · cases h
    · exact (Except.ok.inj h).symm

/-- What the first statement does. -/
theorem updateStatus_eq {db' : Database} (h : db.updateStatus id source target = .ok (some db')) :
    db.obstacle? .execution [.receptions] 0 = none ∧
    ∃ row, db.records.receptions.get? id = some row ∧ row.statusId = source ∧
      db' = db.withStatus id target row := by
  rw [updateStatus] at h
  cases hobstacle : db.obstacle? .execution [.receptions] 0 with
  | some e => rw [hobstacle] at h; cases h
  | none =>
    cases hrow : db.records.receptions.get? id with
    | none => simp only [hobstacle, hrow] at h; cases h
    | some row =>
      by_cases hsource : row.statusId = source
      · cases hupdate : db.updateReception id row target with
        | error fault => simp only [hobstacle, hrow, hsource, if_true, hupdate] at h; cases h
        | ok updated =>
          simp only [hobstacle, hrow, hsource, if_true, hupdate] at h
          rw [← Option.some.inj (Except.ok.inj h)]
          exact ⟨rfl, row, rfl, hsource, updateReception_eq hupdate⟩
      · simp only [hobstacle, hrow, hsource, if_false] at h
        cases h

/-- A database that could write the receptions needs only the statuses to look one up. -/
theorem obstacle?_receptionTables (h : db.obstacle? .execution [.receptions] 0 = none) :
    db.obstacle? .query receptionTables 1 = none ↔ db.schema.has .statuses = true := by
  have hfew : ¬ maxParameters < 1 := by decide
  simp only [obstacle?] at h ⊢
  split at h
  · cases h
  · next hconnected =>
    rw [if_neg (Nat.not_lt_zero _), Option.map_eq_none_iff, List.find?_eq_none] at h
    have hreceptions : db.schema.has .receptions = true := by
      simpa using h .receptions List.mem_cons_self
    simp [hconnected, hfew, receptionTables, hreceptions]

/-- **The second statement shows the reception**, if nothing stops it. -/
theorem receptionById_eq {row : ReceptionRow}
    (hobstacle : db.obstacle? .execution [.receptions] 0 = none)
    (hrow : db.records.receptions.get? id = some row) :
    (∃ e, db.receptionById id = .error e) ∧ db.LookUpFails row.statusId ⟨none, none⟩ ∨
    (∃ status, db.receptionById id =
      .ok (some ⟨id, row.pickupPoint, row.opened, row.statusId, status⟩)) ∧
      ¬ db.LookUpFails row.statusId ⟨none, none⟩ := by
  simp only [LookUpFails, ne_eq, not_true_eq_false, false_or]
  by_cases hstatuses : db.schema.has .statuses = true
  case neg =>
    have hquery := mt (obstacle?_receptionTables hobstacle).mp hstatuses
    obtain ⟨e, he⟩ := Option.ne_none_iff_exists'.mp hquery
    exact .inl ⟨⟨e, by simp only [receptionById, query, he]⟩, .inl hstatuses⟩
  have hquery := (obstacle?_receptionTables hobstacle).mpr hstatuses
  simp only [receptionById, query, hquery, hrow, receptionOf, hstatuses, not_true_eq_false,
    false_or]
  cases hname : db.records.statuses.get? row.statusId with
  | none => exact .inr ⟨⟨none, rfl⟩, by rintro ⟨name, hname', -⟩; cases hname'⟩
  | some name =>
    simp only [statusKind]
    cases hkind : StatusKind.ofName? name with
    | none => exact .inl ⟨⟨_, rfl⟩, name, rfl, hkind⟩
    | some kind =>
      refine .inr ⟨⟨some kind, rfl⟩, ?_⟩
      rintro ⟨name', hname', hnone⟩
      rw [← Option.some.inj hname', hkind] at hnone
      cases hnone

/-- A move leaves the database as it was if it is to the same status. -/
theorem withStatus_eq_self_iff {row : ReceptionRow}
    (hrow : db.records.receptions.get? id = some row) :
    db.withStatus id target row = db ↔ row.statusId = target := by
  constructor
  · intro heq
    have hget := congrArg (fun db : Database => db.records.receptions.get? id) heq
    simp only [withStatus, Table.get?_put_self, hrow] at hget
    exact (congrArg ReceptionRow.statusId (Option.some.inj hget)).symm
  · rintro rfl
    rw [withStatus, Table.put_of_get? hrow]

/-- **A move in a database is all or nothing, unless it is made and not shown.** -/
theorem moveUnder_all_or_nothing_iff (mishaps : Mishaps) :
    AllOrNothing (db.Moved id source target (db.moveUnder id source target mishaps).2) db
        (db.moveUnder id source target mishaps).2 (db.moveUnder id source target mishaps).1 ↔
      ¬ db.MadeUnshown id source target mishaps := by
  obtain ⟨update, lookUp⟩ := mishaps
  cases update with
  | some e => exact iff_of_true rfl fun hmade => nomatch hmade.2.1
  | none =>
    cases hupdate : db.updateStatus id source target with
    | error e =>
      rw [moveUnder, Option.elim_none, hupdate]
      refine iff_of_true rfl ?_
      rintro ⟨-, -, ⟨moved, hmoved⟩, -⟩
      cases hupdate.symm.trans hmoved
    | ok updated =>
      rw [moveUnder, Option.elim_none, hupdate]
      cases updated with
      | none =>
        refine iff_of_true rfl ?_
        rintro ⟨-, -, ⟨moved, hmoved⟩, -⟩
        cases hupdate.symm.trans hmoved
      | some moved =>
        obtain ⟨hobstacle, row, hrow, rfl, rfl⟩ := updateStatus_eq hupdate
        -- If the second statement is stopped, only a move to the same status changed nothing.
        have hstopped (hfails : db.LookUpFails target ⟨none, lookUp⟩) :
            db.withStatus id target row = db ↔
              ¬ db.MadeUnshown id row.statusId target ⟨none, lookUp⟩ := by
          rw [withStatus_eq_self_iff hrow]
          exact ⟨fun heq hmade => hmade.1 heq, fun hnot => by_contra fun hne =>
            hnot ⟨hne, rfl, ⟨_, hupdate⟩, hfails⟩⟩
        cases lookUp with
        | some e => exact hstopped (.inl nofun)
        | none =>
          have hafter : (db.withStatus id target row).obstacle? .execution [.receptions] 0 = none :=
            hobstacle
          rcases receptionById_eq hafter (Table.get?_put_self ..) with
            ⟨⟨e, he⟩, hfails⟩ | ⟨⟨status, hshown⟩, hfound⟩
          · simp only [Option.elim_none, he]
            exact hstopped hfails
          · simp only [Option.elim_none, hshown]
            exact iff_of_true ⟨row, hrow, rfl, rfl, rfl⟩ fun hmade => hfound hmade.2.2.2

/-- **A sound database shows what it has moved**, between any statuses. -/
theorem Sound.moveReception_all_or_nothing (hs : db.Sound) (id : Uuid) (source target : RefId) :
    AllOrNothing (db.Moved id source target (db.moveReception id source target).2) db
      (db.moveReception id source target).2 (db.moveReception id source target).1 := by
  rw [← moveUnder_none]
  refine moveUnder_all_or_nothing_iff _ |>.mpr ?_
  rintro ⟨-, -, -, hlost | hmissing | ⟨name, hname, hunknown⟩⟩
  · exact hlost rfl
  · rw [hs.schema] at hmissing
    exact hmissing (has_seeded _)
  · have hknown : ∀ e ∈ seeded.records.statuses.entries, StatusKind.ofName? e.2 ≠ none := by decide
    rw [hs.statuses, Table.get?_eq_some_iff] at hname
    exact hknown _ hname hunknown

end Moves
end Database

/-- **When a move is all or nothing.**  In memory it always is.  In a database, under any
failures of its two statements, it is unless the first one changed the status of the reception
and the second one cannot show it. -/
theorem moves_all_or_nothing_iff (id : Uuid) (source target : RefId) :
    (∀ s : InMemory,
      AllOrNothing (s.Moved id source target (s.moveReception id source target).2) s
        (s.moveReception id source target).2 (s.moveReception id source target).1) ∧
    ∀ db : Database,
      db.moveUnder id source target ⟨none, none⟩ = db.moveReception id source target ∧
      ∀ mishaps,
        AllOrNothing (db.Moved id source target (db.moveUnder id source target mishaps).2) db
            (db.moveUnder id source target mishaps).2 (db.moveUnder id source target mishaps).1 ↔
          ¬ db.MadeUnshown id source target mishaps :=
  ⟨fun s => s.moveReception_all_or_nothing id source target,
    fun db => ⟨db.moveUnder_none id source target, fun _ => Database.moveUnder_all_or_nothing_iff _⟩⟩

/-- A reception in progress in a database in which the status `closed` has another name. -/
def renamedStatus : Database :=
  let calls : List Call := [.addPickupPoint (.inCity (.ofNat 1) .epoch ⟨1, "Москва"⟩),
    .addReception (.begun (.generated 1) (.ofNat 1) .epoch)]
  let db := calls.foldl (fun db c => (Database.answer c db).2) Database.seeded
  match db.renameReference .statuses Seed.closedId "archived" with
  | .ok (_, db) => db
  | .error _ => db

/-- **The reception is closed, and the answer is a failure.** -/
theorem move_told_as_failure :
    let moved := renamedStatus.moveReception (.generated 1) Seed.inProgressId Seed.closedId
    let row : Database.ReceptionRow := ⟨.ofNat 1, .epoch, Seed.inProgressId⟩
    renamedStatus.records.receptions.get? (.generated 1) = some row ∧
      moved.1 = .error (.corrupt "unknown reception status 'archived'") ∧
      moved.2.records.receptions.get? (.generated 1) =
        some { row with statusId := Seed.closedId } ∧
      ¬ AllOrNothing (renamedStatus.Moved (.generated 1) Seed.inProgressId Seed.closedId moved.2)
        renamedStatus moved.2 moved.1 := by
  intro moved row
  have hbefore : renamedStatus.records.receptions.get? (.generated 1) = some row := by decide
  have hanswer : moved.1 = .error (.corrupt "unknown reception status 'archived'") := by decide
  have hafter : moved.2.records.receptions.get? (.generated 1) =
      some { row with statusId := Seed.closedId } := by decide
  refine ⟨hbefore, hanswer, hafter, fun hall => ?_⟩
  rw [hanswer] at hall
  have hsame : moved.2 = renamedStatus := hall
  rw [hsame, hbefore] at hafter
  exact absurd hafter (by decide)

end PickupLedger
