import PickupLedger.Proofs.LastWrites
import PickupLedger.Store.Backend

/-!
# Writes that are refused

What a store holds is changed by writes only, and not by a write that is refused.  Of a store in
memory the count of its calls for lists is no record (`Backend.records`).

There is one write after which a store looks again: a database that has moved a reception shows
it with its status.  If that look failed, the move would be told as a failure although it was
made.  It does not, since the status was found by its name before: the table of statuses is
there, and the row has a name that is known (`Database.moveReception_refused`).

None of this asks that the store is in a state that it can get into by itself; a database may
have any schema and any rows, and need not be connected.
-/

namespace PickupLedger

/-! ## In memory -/

namespace InMemory
variable (s : InMemory)

/-- A reception that is moved leaves its place in the table of the active ones at once, so the
store has decided before it changes anything. -/
theorem moveReception_refused {id : Uuid} {source target : RefId}
    (h : (Call.moveReception id source target).Refused (s.moveReception id source target).1) :
    (s.moveReception id source target).2 = s := by
  rw [moveReception] at h ⊢
  split
  · rfl
  · rfl
  · next hsource htarget =>
    rw [hsource, htarget] at h
    split
    · rfl
    · next r hr =>
      split
      · next hid =>
        simp only [hr, hid, if_true] at h
        split
        · rfl
        · rfl
        · next active hshift =>
          simp only [hshift] at h
          exact h.elim
      · rfl

theorem addReception_refused {r : Reception}
    (h : (Call.addReception r).Refused (s.addReception r).1) : (s.addReception r).2 = s := by
  rw [addReception] at h ⊢
  split
  · rfl
  · next hkind => rw [hkind] at h; exact h.elim
  · next hkind =>
    split
    · rfl
    · next hfree =>
      simp only [hkind, hfree] at h
      exact h.elim

/-- **A write that is refused changes nothing.** -/
theorem refused {c : Call} (hc : c.isWrite = true) (h : c.Refused (answer c s).1) :
    (answer c s).2 = s := by
  cases c with
  | addPickupPoint p =>
    rw [answer, addPickupPoint] at h ⊢
    split
    · rfl
    · next hfree =>
      rw [if_neg hfree] at h
      exact h.elim
  | addReception r => exact s.addReception_refused h
  | moveReception id source target => exact s.moveReception_refused h
  | addProduct x =>
    rw [answer, addProduct] at h ⊢
    split
    · rfl
    · next r hr =>
      split
      · next hactive =>
        simp only [hr, hactive, if_true] at h
        exact h.elim
      · rfl
  | deleteProduct id =>
    have hnone : s.products.get? id = none := by
      have hmissing := Call.refused_deleteProduct.mp h
      rwa [Table.contains, Option.isSome_eq_false_iff, Option.isNone_iff_eq_none] at hmissing
    rw [answer, Table.erase_of_none hnone]
  | _ => cases hc

end InMemory

/-! ## In a database -/

namespace Database
variable (db : Database)

/-- What is asked for by its name has that name. -/
theorem statusOfKind_found {kind : StatusKind} {status : Status}
    (h : (answer (.statusOfKind kind) db).1 = .ok (some status)) :
    db.obstacle? .query [.statuses] 1 = none ∧
      db.records.statuses.get? status.id = some kind.name := by
  rw [answer, query] at h
  cases hobstacle : db.obstacle? .query [.statuses] 1 with
  | some e => rw [hobstacle] at h; cases h
  | none =>
    rw [hobstacle] at h
    obtain ⟨e, he, rfl⟩ := Option.map_eq_some_iff.mp (Except.ok.inj h)
    have hname : e.2 = kind.name := by simpa using List.find?_some he
    exact ⟨rfl, Table.get?_eq_some_iff.mpr (hname ▸ List.mem_of_find?_eq_some he)⟩

/-- Tables that are there one by one are there together. -/
theorem obstacle?_cons {refused refused' : SqlFault → DatabaseFault} {t : TableName}
    {tables : List TableName} {n m : Nat} (h : db.obstacle? refused [t] n = none)
    (h' : db.obstacle? refused' tables m = none) :
    db.obstacle? refused' (t :: tables) m = none := by
  simp only [obstacle?] at h h' ⊢
  split at h
  · cases h
  · next hconnected =>
    split at h
    · cases h
    · rw [if_neg hconnected] at h' ⊢
      split at h'
      · cases h'
      · next hfew =>
        rw [if_neg hfew]
        rw [Option.map_eq_none_iff] at h h' ⊢
        simp only [List.find?_eq_none, List.mem_cons, forall_eq_or_imp] at h h' ⊢
        exact ⟨h.1, h'⟩

theorem kindOf_name (kind : StatusKind) : statusKind kind.name = .ok kind := by cases kind <;> rfl

/-- The row that was moved is found again. -/
theorem receptionById_found {id : Uuid} {row : ReceptionRow} {kind : StatusKind}
    (hquery : db.obstacle? .query receptionTables 1 = none)
    (hrow : db.records.receptions.get? id = some row)
    (hstatus : db.records.statuses.get? row.statusId = some kind.name) :
    db.receptionById id =
      .ok (some ⟨id, row.pickupPoint, row.opened, row.statusId, some kind⟩) := by
  simp only [receptionById, query, hquery, hrow, receptionOf, hstatus, kindOf_name, Except.map]

theorem moveReception_refused {id : Uuid} {source : RefId} {kind : StatusKind} {status : Status}
    (hstatus : (answer (.statusOfKind kind) db).1 = .ok (some status))
    (h : (Call.moveReception id source status.id).Refused
      (db.moveReception id source status.id).1) :
    (db.moveReception id source status.id).2 = db := by
  obtain ⟨hthere, hname⟩ := db.statusOfKind_found hstatus
  cases hobstacle : db.obstacle? .execution [.receptions] 0 with
  | some e => simp only [moveReception, hobstacle]
  | none =>
    cases hrow : db.records.receptions.get? id with
    | none => simp only [moveReception, hobstacle, hrow]
    | some row =>
      by_cases hsource : row.statusId = source
      · cases hupdate : db.updateReception id row status.id with
        | error fault => simp only [moveReception, hobstacle, hrow, hsource, if_true, hupdate]
        | ok db' =>
          -- The move was made, and the reception is shown.
          simp only [moveReception, hobstacle, hrow, hsource, if_true, hupdate] at h
          rw [updateReception] at hupdate
          split at hupdate
          · cases hupdate
          split at hupdate
          · cases hupdate
          have hfound := @receptionById_found db' id { row with statusId := status.id } kind
          obtain rfl := Except.ok.inj hupdate
          rw [hfound (db.obstacle?_cons hobstacle hthere) (Table.get?_put_self ..) hname] at h
          exact h.elim
      · simp only [moveReception, hobstacle, hrow, hsource, if_false]

/-- **A write that is refused changes nothing**, a move to a status that was found included. -/
theorem refused {c : Call} (hc : c.isWrite = true)
    (hmove : ∀ id source target, c = .moveReception id source target → ∃ kind status,
      (answer (.statusOfKind kind) db).1 = .ok (some status) ∧ status.id = target)
    (h : c.Refused (answer c db).1) : (answer c db).2 = db := by
  cases c with
  | addPickupPoint p =>
    rw [answer, addPickupPoint] at h ⊢
    split
    · rfl
    · next hobstacle =>
      rw [hobstacle] at h
      split
      · rfl
      · next hinsert => simp only [hinsert] at h; exact h.elim
  | addReception r =>
    rw [answer, addReception] at h ⊢
    split
    · rfl
    · next hobstacle =>
      rw [hobstacle] at h
      split
      · rfl
      · next hinsert => simp only [hinsert] at h; exact h.elim
  | moveReception id source target =>
    obtain ⟨kind, status, hstatus, rfl⟩ := hmove _ _ _ rfl
    exact db.moveReception_refused hstatus h
  | addProduct x =>
    rw [answer, addProduct] at h ⊢
    split
    · rfl
    · next hobstacle =>
      rw [hobstacle] at h
      split
      · rfl
      · next r hr =>
        split
        · next hid =>
          simp only [hr, hid, if_true] at h
          split
          · rfl
          · next hinsert =>
            simp only [hinsert] at h
            exact h.elim
        · rfl
  | deleteProduct id =>
    rw [answer, deleteProduct] at h ⊢
    split
    · rfl
    · next hobstacle =>
      rw [hobstacle] at h
      have hnone : db.records.products.get? id = none := by
        have hmissing := Call.refused_deleteProduct.mp h
        rwa [Table.contains, Option.isSome_eq_false_iff, Option.isNone_iff_eq_none] at hmissing
      rw [Table.erase_of_none hnone]
  | _ => cases hc

end Database

/-! ## Either store -/

namespace Backend

/-- **The records of a store**: all of it but its count of calls for lists. -/
def records : Backend → Backend
  | .memory s => .memory { s with listQueries := 0 }
  | .database db => .database db

/-- A check leaves the records as they are. -/
theorem records_check {c : Call} (hc : c.isWrite = false) (s : Backend) :
    (Storage.answer c s).2.records = s.records := by
  cases s with
  | memory s => cases c <;> first | rfl | cases hc
  | database db => cases c <;> first | rfl | cases hc

/-- A check is answered by the records. -/
theorem check_congr {c : Call} (hc : c.isWrite = false) {s s' : Backend}
    (h : s.records = s'.records) : (Storage.answer c s).1 = (Storage.answer c s').1 := by
  have hrecords : ∀ s : Backend, (Storage.answer c s.records).1 = (Storage.answer c s).1 := by
    intro s
    cases s with
    | memory s => cases c <;> first | rfl | cases hc
    | database db => rfl
  rw [← hrecords s, h, hrecords s']

/-- **A write that is refused changes nothing.** -/
theorem refused {c : Call} (hc : c.isWrite = true) (s : Backend)
    (hmove : ∀ id source target, c = .moveReception id source target → ∃ kind status,
      (Storage.answer (.statusOfKind kind) s).1 = .ok (some status) ∧ status.id = target)
    (h : c.Refused (Storage.answer c s).1) : (Storage.answer c s).2 = s := by
  cases s with
  | memory s => exact congrArg memory (s.refused hc h)
  | database db => exact congrArg database (db.refused hc hmove h)

/-- The checks before a write are answered as if they were made at once. -/
theorem gives_checks {s s' : Backend} {checks : List Exchange} {write : Exchange}
    (hchecks : ∀ e ∈ checks, e.call.isWrite = false) (h : Gives s (checks ++ [write]) s') :
    ∃ now : Backend, now.records = s.records ∧
      (∀ e ∈ checks, e.answer = (Storage.answer e.call now).1) ∧
      write.answer = (Storage.answer write.call now).1 ∧
      s' = (Storage.answer write.call now).2 := by
  induction checks generalizing s with
  | nil => exact ⟨s, rfl, fun e he => absurd he List.not_mem_nil, h.1, h.2⟩
  | cons e es ih =>
    obtain ⟨he, hrest⟩ := h
    have hcheck := hchecks e List.mem_cons_self
    obtain ⟨now, hnow, hanswers, hwrite⟩ :=
      ih (fun e' he' => hchecks e' (List.mem_cons_of_mem e he')) hrest
    rw [records_check hcheck] at hnow
    refine ⟨now, hnow, fun e' he' => ?_, hwrite⟩
    rcases List.mem_cons.mp he' with rfl | he'
    · exact he.trans (check_congr hcheck hnow.symm)
    · exact hanswers e' he'

theorem gives_checks_only {s s' : Backend} {checks : List Exchange}
    (hchecks : ∀ e ∈ checks, e.call.isWrite = false) (h : Gives s checks s') :
    s'.records = s.records := by
  induction checks generalizing s with
  | nil => exact congrArg records h
  | cons e es ih =>
    rw [ih (fun e' he' => hchecks e' (List.mem_cons_of_mem e he')) h.2,
      records_check (hchecks e List.mem_cons_self)]

/-- **A dialogue in which a write comes last leaves the records as they were**, if it fails. -/
theorem records_of_failed {s s' : Backend} {d : List Exchange} {failed : Prop} {q : Request}
    (h : WritesLast q.Cleared failed d) (hfailed : failed) (hgives : Gives s d s') :
    s'.records = s.records := by
  cases h with
  | checks hchecks => exact gives_checks_only hchecks hgives
  | @write checks write hchecks hwrite hcleared hrefused =>
    obtain ⟨now, hnow, hanswers, hanswer, rfl⟩ := gives_checks hchecks hgives
    rw [← hnow, refused hwrite now ?_ (hanswer ▸ hrefused hfailed)]
    rintro id source target hmove
    obtain ⟨e, he, kind, status, rfl, hid⟩ := (hmove ▸ hcleared).status
    exact ⟨kind, status, (hanswers _ he).symm, hid⟩

end Backend
end PickupLedger
