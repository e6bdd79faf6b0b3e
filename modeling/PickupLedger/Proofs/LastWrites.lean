import PickupLedger.Proofs.Dialogues

/-!
# Writes come last

An operation looks before it writes: all calls but its last are checks, and none of the checks
changes a record.  `Request.Cleared` lists for each operation the checks, with the answers that
let it go on, and the write that they clear it for.

So whatever a store answers, the dialogue of an operation is one of two (`WritesLast`): checks
only, or the checks, all of them passed, and then the write.  In the second case the operation
succeeds unless the store has told it that nothing was written (`Call.Refused`).
-/

namespace PickupLedger
open Operation Service

/-- The answer to a write says that nothing has been written. -/
def Call.Refused : (c : Call) → Answer c → Prop
  | .moveReception .., .ok none => True
  | .addProduct _, .ok none => True
  | .deleteProduct _, .ok false => True
  | _, .ok _ => False
  | _, .error _ => True

theorem Call.refused_error (c : Call) (e : StorageFailure) : c.Refused (.error e) := by
  cases c <;> trivial

theorem Call.refused_deleteProduct {id : Uuid} {reply : Bool} :
    (deleteProduct id).Refused (.ok reply) ↔ reply = false := by
  cases reply <;> simp [Refused]

/-- **The checks of an operation, each of them passed**, and the write that follows. -/
inductive Request.Cleared : Request → List Exchange → Call → Prop where
  /-- There is such a city. -/
  | create {stamp : Stamp} {id : Uuid} {cityName : String} {registered : Option Instant}
      {city : City} :
      Cleared (.create stamp id cityName registered) [⟨.cityByName cityName, .ok (some city)⟩]
        (.addPickupPoint (.inCity id (registered.getD stamp.now) city))
  /-- There is the pickup point, it has no reception in progress, and there is the status. -/
  | openAt {stamp : Stamp} {p : Uuid} {point : PickupPoint} {status : Status} :
      Cleared (.openAt stamp p)
        [⟨.pickupPointById p, .ok (some point)⟩,
          ⟨.receptionInStatus .inProgress p, .ok none⟩,
          ⟨.statusOfKind .inProgress, .ok (some status)⟩]
        (.addReception ⟨stamp.fresh, p, stamp.now, status.id, some status.kind⟩)
  /-- There is a reception in progress, and there is the status. -/
  | closeAt {p : Uuid} {r : Reception} {status : Status} :
      Cleared (.closeAt p)
        [⟨.receptionInStatus .inProgress p, .ok (some r)⟩,
          ⟨.statusOfKind .closed, .ok (some status)⟩]
        (.moveReception r.id r.statusId status.id)
  /-- There is a reception in progress, and there is such a type. -/
  | addTo {stamp : Stamp} {p : Uuid} {typeName : String} {r : Reception} {type : ProductType} :
      Cleared (.addTo stamp p typeName)
        [⟨.receptionInStatus .inProgress p, .ok (some r)⟩,
          ⟨.productTypeByName typeName, .ok (some type)⟩]
        (.addProduct (.ofType stamp.fresh r.id stamp.now type))
  /-- There is the pickup point, it has a reception in progress, and that has a product. -/
  | removeFrom {p : Uuid} {point : PickupPoint} {r : Reception} {x : Product} :
      Cleared (.removeFrom p)
        [⟨.pickupPointById p, .ok (some point)⟩,
          ⟨.receptionInStatus .inProgress p, .ok (some r)⟩,
          ⟨.lastProduct r.id, .ok (some x)⟩]
        (.deleteProduct x.id)

/-- A reception is only moved to a status that has been found. -/
theorem Request.Cleared.status {q : Request} {checks : List Exchange} {id : Uuid}
    {source target : RefId} (h : q.Cleared checks (.moveReception id source target)) :
    ∃ e ∈ checks, ∃ kind status, e = ⟨.statusOfKind kind, .ok (some status)⟩ ∧
      status.id = target := by
  cases h with
  | closeAt => exact ⟨_, List.mem_cons_of_mem _ List.mem_cons_self, _, _, rfl, rfl⟩

/-- **A dialogue in which a write comes last**, if there is one, and is cleared by the checks
before it; if the operation has failed, the write was refused. -/
inductive WritesLast (cleared : List Exchange → Call → Prop) (failed : Prop) :
    List Exchange → Prop where
  | checks {d : List Exchange} (hchecks : ∀ e ∈ d, e.call.isWrite = false) :
      WritesLast cleared failed d
  | write {checks : List Exchange} {write : Exchange}
      (hchecks : ∀ e ∈ checks, e.call.isWrite = false) (hwrite : write.call.isWrite = true)
      (hcleared : cleared checks write.call)
      (hrefused : failed → write.call.Refused write.answer) :
      WritesLast cleared failed (checks ++ [write])

/-- **A program checks first and writes last**, whatever it is answered. -/
def Program.Cautious {α : Type} (cleared : List Exchange → Call → Prop) :
    Program (Except Failure α) → List Exchange → Prop
  | .done _, _ => True
  | .count _ next, past => next.Cautious cleared past
  | .ask c next, past =>
    (c.isWrite = false → ∀ answer, (next answer).Cautious cleared (past ++ [⟨c, answer⟩])) ∧
    (c.isWrite = true → cleared past c ∧ ∀ answer, ∃ v, (next answer).settled? = some v ∧
      ((∃ failure, v = .error failure) → c.Refused answer))

/-- **A cautious program writes last** in every dialogue. -/
theorem Program.Cautious.writesLast {α : Type} {cleared : List Exchange → Call → Prop}
    {p : Program (Except Failure α)} {past d : List Exchange} {v : Except Failure α}
    (h : p.Cautious cleared past) (hd : p.Dialogue d v) :
    WritesLast (fun checks => cleared (past ++ checks)) (∃ failure, v = .error failure) d := by
  induction hd generalizing past with
  | done v => exact .checks fun e he => absurd he List.not_mem_nil
  | count hd ih => exact ih h
  | @ask c next answer d v hd ih =>
    cases hc : c.isWrite with
    | true =>
      obtain ⟨hcleared, hlast⟩ := h.2 hc
      obtain ⟨v', hv, hrefused⟩ := hlast answer
      obtain ⟨rfl, rfl⟩ := hd.eq_of_settled hv
      show WritesLast _ _ ([] ++ [⟨c, answer⟩])
      refine .write (fun e he => absurd he List.not_mem_nil) hc ?_ hrefused
      rw [List.append_nil]
      exact hcleared
    | false =>
      have hrest := ih (h.1 hc answer)
      have hcheck : ∀ {checks : List Exchange}, (∀ e ∈ checks, e.call.isWrite = false) →
          ∀ e ∈ (⟨c, answer⟩ :: checks : List Exchange), e.call.isWrite = false := by
        intro checks hchecks e he
        rcases List.mem_cons.mp he with rfl | he
        · exact hc
        · exact hchecks e he
      cases hrest with
      | checks hchecks => exact .checks (hcheck hchecks)
      | @write checks write hchecks hwrite hcleared hrefused =>
        show WritesLast _ _ ((⟨c, answer⟩ :: checks) ++ [write])
        refine .write (hcheck hchecks) hwrite ?_ hrefused
        rw [List.append_assoc] at hcleared
        exact hcleared

namespace Operation
variable {α β : Type} {cleared : List Exchange → Call → Prop} {past : List Exchange}

theorem not_failed {a : α} {P : Prop} (h : ∃ failure : Failure, Except.ok a = .error failure) :
    P := by
  obtain ⟨_, h⟩ := h
  cases h

/-- A check that fails ends the operation. -/
theorem cautious_check (step : String) {c : Call} {f : c.Reply → Operation β}
    (hc : c.isWrite = false)
    (h : ∀ reply, (f reply).program.Cautious cleared (past ++ [⟨c, .ok reply⟩])) :
    (call step c >>= f).program.Cautious cleared past := by
  rw [program_call_bind]
  refine ⟨fun _ answer => ?_, fun hwrite => absurd (hc.symm.trans hwrite) nofun⟩
  cases answer with
  | ok reply => exact h reply
  | error e => trivial

theorem cautious_write (step : String) {c : Call} {f : c.Reply → Operation β}
    (hc : c.isWrite = true) (hcleared : cleared past c)
    (h : ∀ reply, ∃ v, (f reply).program.settled? = some v ∧
      ((∃ failure, v = .error failure) → c.Refused (.ok reply))) :
    (call step c >>= f).program.Cautious cleared past := by
  rw [program_call_bind]
  refine ⟨fun hcheck => absurd (hc.symm.trans hcheck) nofun, fun _ => ⟨hcleared, fun answer => ?_⟩⟩
  cases answer with
  | ok reply => exact h reply
  | error e => exact ⟨_, rfl, fun _ => c.refused_error e⟩

theorem cautious_insert (step : String) (taken : Failure) {c : Call} {f : c.Reply → Operation β}
    (hc : c.isWrite = true) (hcleared : cleared past c)
    (h : ∀ reply, ∃ o, (f reply).program.settled? = some (.ok o)) :
    (insert step taken c >>= f).program.Cautious cleared past := by
  rw [program_insert_bind]
  refine ⟨fun hcheck => absurd (hc.symm.trans hcheck) nofun, fun _ => ⟨hcleared, fun answer => ?_⟩⟩
  cases answer with
  | ok reply =>
    obtain ⟨o, ho⟩ := h reply
    exact ⟨_, ho, not_failed⟩
  | error e => exact ⟨_, rfl, fun _ => c.refused_error e⟩

end Operation

namespace Request

theorem cautious_create (stamp : Stamp) (id : Uuid) (cityName : String)
    (registered : Option Instant) :
    (create stamp id cityName registered).program.Cautious
      (create stamp id cityName registered).Cleared [] := by
  simp only [program, operation, createPickupPoint, bind_assoc]
  refine cautious_check _ rfl fun found => ?_
  cases found with
  | none => trivial
  | some city => exact cautious_insert _ _ rfl .create fun _ => ⟨_, rfl⟩

theorem cautious_openAt (stamp : Stamp) (p : Uuid) :
    (openAt stamp p).program.Cautious (openAt stamp p).Cleared [] := by
  simp only [program, operation, openReception, resolveStatus, bind_assoc]
  refine cautious_check _ rfl fun found => ?_
  cases found with
  | none => trivial
  | some point =>
    simp only [program_require_some]
    refine cautious_check _ rfl fun active => ?_
    cases active with
    | some r => trivial
    | none =>
      simp only [Option.isSome_none, Bool.false_eq_true, if_false, bind_assoc]
      refine cautious_check _ rfl fun found => ?_
      cases found with
      | none => trivial
      | some status => exact cautious_insert _ _ rfl .openAt fun _ => ⟨_, rfl⟩

/-- The store may still find that the reception is in progress no more. -/
theorem cautious_closeAt (p : Uuid) : (closeAt p).program.Cautious (closeAt p).Cleared [] := by
  simp only [program, operation, closeReception, activeReception, resolveStatus, bind_assoc]
  refine cautious_check _ rfl fun active => ?_
  cases active with
  | none => trivial
  | some r =>
    simp only [program_require_some]
    refine cautious_check _ rfl fun found => ?_
    cases found with
    | none => trivial
    | some status =>
      refine cautious_write _ rfl .closeAt fun moved => ?_
      cases moved with
      | none => exact ⟨_, rfl, fun _ => trivial⟩
      | some r' => exact ⟨_, rfl, not_failed⟩

theorem cautious_addTo (stamp : Stamp) (p : Uuid) (typeName : String) :
    (addTo stamp p typeName).program.Cautious (addTo stamp p typeName).Cleared [] := by
  simp only [program, operation, addProduct, activeReception, bind_assoc]
  refine cautious_check _ rfl fun active => ?_
  cases active with
  | none => trivial
  | some r =>
    simp only [program_require_some]
    refine cautious_check _ rfl fun found => ?_
    cases found with
    | none => trivial
    | some type =>
      refine cautious_write _ rfl .addTo fun added => ?_
      cases added with
      | none => exact ⟨_, rfl, fun _ => trivial⟩
      | some x => exact ⟨_, rfl, not_failed⟩

theorem cautious_removeFrom (p : Uuid) :
    (removeFrom p).program.Cautious (removeFrom p).Cleared [] := by
  simp only [program, operation, removeLastProduct, activeReception, bind_assoc]
  refine cautious_check _ rfl fun found => ?_
  cases found with
  | none => trivial
  | some point =>
    simp only [program_require_some]
    refine cautious_check _ rfl fun active => ?_
    cases active with
    | none => trivial
    | some r =>
      simp only [program_require_some]
      refine cautious_check _ rfl fun found => ?_
      cases found with
      | none => trivial
      | some x =>
        refine cautious_write _ rfl .removeFrom fun deleted => ?_
        cases deleted with
        | false => exact ⟨_, rfl, fun _ => trivial⟩
        | true => exact ⟨_, rfl, not_failed⟩

/-- **Every operation checks first and writes last.** -/
theorem cautious (q : Request) : q.program.Cautious q.Cleared [] := by
  cases q with
  | create stamp id cityName registered => exact cautious_create stamp id cityName registered
  | get id =>
    simp only [program, operation, getPickupPoint, bind_assoc]
    refine cautious_check _ rfl fun found => ?_
    cases found <;> trivial
  | openAt stamp p => exact cautious_openAt stamp p
  | closeAt p => exact cautious_closeAt p
  | addTo stamp p typeName => exact cautious_addTo stamp p typeName
  | removeFrom p => exact cautious_removeFrom p

theorem writesLast {q : Request} {d : List Exchange} {v : Verdict} (hd : q.program.Dialogue d v) :
    WritesLast q.Cleared (∃ failure, v = .error failure) d :=
  q.cautious.writesLast hd

end Request
end PickupLedger
