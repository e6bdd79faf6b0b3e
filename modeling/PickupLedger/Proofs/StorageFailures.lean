import PickupLedger.Proofs.FailedOperations

/-!
# Failures of the store

A failure of the store ends an operation: no further call is made, and the report is the failure
itself with the step that met it, unless the step gives it a meaning of its own
(`Command.blame`).  Nothing else is ever reported as an internal failure.

What is shown of it is less.  Two stores that answer a request alike, up to a call that fails on
both sides, cannot be told from the answer to the request, whatever the words of the two
failures are.
-/

namespace PickupLedger
open Operation Service

/-! ## What operations make of failures -/

/-- **The steps of an operation**: the label of each of its calls. -/
def Command.step? : Command → CallName → Option String
  | .request (.create ..), .cityByName => some "create pickup point: find city"
  | .request (.create ..), .addPickupPoint => some "create pickup point: insert"
  | .request (.get _), .pickupPointById => some "get pickup point"
  | .listAll, .allPickupPoints => some "list pickup points"
  | .request (.openAt ..), .pickupPointById => some "open reception: find pickup point"
  | .request (.openAt ..), .receptionInStatus => some "open reception: find active"
  | .request (.openAt ..), .statusOfKind => some "open reception: resolve status"
  | .request (.openAt ..), .addReception => some "open reception: insert"
  | .request (.closeAt _), .receptionInStatus => some "close reception: find active"
  | .request (.closeAt _), .statusOfKind => some "close reception: resolve status"
  | .request (.closeAt _), .moveReception => some "close reception: update"
  | .request (.addTo ..), .receptionInStatus => some "add product: find active reception"
  | .request (.addTo ..), .productTypeByName => some "add product: find product type"
  | .request (.addTo ..), .addProduct => some "add product: insert"
  | .request (.removeFrom _), .pickupPointById => some "remove product: find pickup point"
  | .request (.removeFrom _), .receptionInStatus => some "remove product: find active reception"
  | .request (.removeFrom _), .lastProduct => some "remove product: find last product"
  | .request (.removeFrom _), .deleteProduct => some "remove product: delete"
  | .overview .., .pickupPointPage => some "list overview: pickup points"
  | .overview .., .receptionsAt => some "list overview: receptions"
  | .overview .., .productsOf => some "list overview: products"
  | _, _ => none

/-- What a taken key means to an operation that expects that there may be one. -/
def Command.taken? : Command → CallName → Option Failure
  | .request (.create _ id _ _), .addPickupPoint => some (.duplicatePickupPoint id)
  | .request (.openAt _ p), .addReception => some (.receptionAlreadyInProgress p)
  | _, _ => none

/-- **What an operation makes of a call that has failed**, if it makes such calls. -/
def Command.blame (c : Command) (call : Call) (e : StorageFailure) : Option Failure :=
  match c.taken? call.name, e with
  | some taken, .duplicate _ => some taken
  | _, e => (c.step? call.name).map (.internal · e)

theorem Command.kind_of_taken {c : Command} {name : CallName} {failure : Failure}
    (h : c.taken? name = some failure) : failure.kind = .conflict := by
  unfold taken? at h
  split at h <;> cases h <;> rfl

/-- An internal failure holds the failure of the store, and the label of the step. -/
theorem Command.blame_internal {c : Command} {call : Call} {e source : StorageFailure}
    {label : String} (h : c.blame call e = some (.internal label source)) :
    e = source ∧ c.step? call.name = some label := by
  unfold blame at h
  split at h
  · next htaken =>
    cases h
    cases kind_of_taken htaken
  · obtain ⟨label', hlabel, heq⟩ := Option.map_eq_some_iff.mp h
    cases heq
    exact ⟨rfl, hlabel⟩

/-! ## Forthright programs -/

/-- **A program tells every failure of the store** as `blame` says, at once, and tells no internal
failure of its own. -/
def Program.Forthright {α : Type} (blame : Call → StorageFailure → Option Failure) :
    Program (Except Failure α) → Prop
  | .done (.ok _) => True
  | .done (.error failure) => failure.kind ≠ .internal
  | .count _ next => next.Forthright blame
  | .ask c next =>
    (∀ e, ∃ failure, blame c e = some failure ∧ next (.error e) = .done (.error failure)) ∧
    ∀ reply, (next (.ok reply)).Forthright blame

/-- **A dialogue in which failures are told**: it ends with the first one, and then that is what
has come out; without one, no internal failure has. -/
inductive Told (blame : Call → StorageFailure → Option Failure) :
    List Exchange → Option Failure → Prop where
  | done {failure? : Option Failure}
      (h : ∀ failure, failure? = some failure → failure.kind ≠ .internal) : Told blame [] failure?
  | answered {call : Call} {reply : call.Reply} {d : List Exchange} {failure? : Option Failure}
      (h : Told blame d failure?) : Told blame (⟨call, .ok reply⟩ :: d) failure?
  | failed {call : Call} {e : StorageFailure} {failure : Failure}
      (h : blame call e = some failure) : Told blame [⟨call, .error e⟩] (some failure)

namespace Told
variable {blame : Call → StorageFailure → Option Failure} {d : List Exchange}
  {failure? : Option Failure}

/-- A call that has failed was the last one. -/
theorem last (h : Told blame d failure?) {before after : List Exchange} {call : Call}
    {e : StorageFailure} (hd : d = before ++ ⟨call, .error e⟩ :: after) :
    after = [] ∧ ∃ failure, blame call e = some failure ∧ failure? = some failure := by
  -- From the first call on: a reply is not the call that has failed, and nothing follows a failure.
  induction h generalizing before with
  | done h => cases before <;> cases hd
  | answered h ih =>
    cases before with
    | nil => cases hd
    | cons first before => exact ih (List.cons.inj hd).2
  | failed hblame =>
    cases before with
    | nil =>
      cases hd
      exact ⟨rfl, _, hblame, rfl⟩
    | cons first before => exact absurd (List.cons.inj hd).2 (by simp)

/-- An internal failure comes of a call. -/
theorem internal (h : Told blame d failure?) {label : String} {source : StorageFailure}
    (hinternal : failure? = some (.internal label source)) : ∃ before call e,
      d = before ++ [⟨call, .error e⟩] ∧ blame call e = some (.internal label source) := by
  induction h with
  | done h => exact absurd rfl (h _ hinternal)
  | answered h ih =>
    obtain ⟨before, call, e, rfl, hblame⟩ := ih hinternal
    exact ⟨_ :: before, call, e, rfl, hblame⟩
  | failed hblame => exact ⟨[], _, _, rfl, hblame.trans hinternal⟩

end Told

/-- The failure of an operation, if it has failed. -/
def Operation.failure? {α : Type} : Except Failure α → Option Failure
  | .ok _ => none
  | .error failure => some failure

/-- **Failures are told in every dialogue** of a forthright program. -/
theorem Program.Forthright.told {α : Type} {blame : Call → StorageFailure → Option Failure}
    {p : Program (Except Failure α)} {d : List Exchange} {v : Except Failure α}
    (h : p.Forthright blame) (hd : p.Dialogue d v) : Told blame d (failure? v) := by
  induction hd with
  | done v =>
    cases v with
    | ok a => exact .done fun failure heq => absurd heq (Option.some_ne_none failure).symm
    | error failure => exact .done fun _ heq => Option.some.inj heq ▸ h
  | count hd ih => exact ih h
  | ask answer hd ih =>
    cases answer with
    | ok reply => exact .answered (ih (h.2 reply))
    | error e =>
      obtain ⟨failure, hblame, hnext⟩ := h.1 e
      -- The program is at its end, so the dialogue is.
      rw [hnext] at hd
      cases hd
      exact .failed hblame

namespace Operation
variable {α β : Type} {blame : Call → StorageFailure → Option Failure}

theorem forthright_call {step : String} {c : Call} {f : c.Reply → Operation β}
    (hblame : ∀ e, blame c e = some (.internal step e))
    (h : ∀ reply, (f reply).program.Forthright blame) :
    (call step c >>= f).program.Forthright blame := by
  rw [program_call_bind]
  exact ⟨fun e => ⟨_, hblame e, rfl⟩, h⟩

theorem forthright_insert {step : String} {taken : Failure} {c : Call} {f : c.Reply → Operation β}
    (hblame : ∀ e, blame c e = some (Operation.blame step taken e))
    (h : ∀ reply, (f reply).program.Forthright blame) :
    (insert step taken c >>= f).program.Forthright blame := by
  rw [program_insert_bind]
  exact ⟨fun e => ⟨_, hblame e, rfl⟩, h⟩

theorem forthright_fail {failure : Failure} (h : failure.kind ≠ .internal) :
    (fail failure : Operation α).program.Forthright blame := h

theorem forthright_require {missing : Failure} (hmissing : missing.kind ≠ .internal)
    {found : Option α} {f : α → Operation β} (h : ∀ a, (f a).program.Forthright blame) :
    (require missing found >>= f).program.Forthright blame := by
  cases found with
  | none => exact hmissing
  | some a => exact h a

end Operation

/-! ## The operations -/

namespace Request
variable {blame : Call → StorageFailure → Option Failure}

theorem forthright_create (stamp : Stamp) (id : Uuid) (cityName : String)
    (registered : Option Instant) : (create stamp id cityName registered).program.Forthright
      (Command.request (create stamp id cityName registered)).blame := by
  simp only [program, operation, createPickupPoint, bind_assoc]
  refine forthright_call (fun _ => rfl) fun found => ?_
  refine forthright_require (by simp [Failure.kind]) fun city => ?_
  exact forthright_insert (fun e => by cases e <;> rfl) fun _ => trivial

theorem forthright_openAt (stamp : Stamp) (p : Uuid) :
    (openAt stamp p).program.Forthright (Command.request (openAt stamp p)).blame := by
  simp only [program, operation, openReception, resolveStatus, bind_assoc]
  refine forthright_call (fun _ => rfl) fun found => ?_
  refine forthright_require (by simp [Failure.kind]) fun point => ?_
  refine forthright_call (fun _ => rfl) fun active => ?_
  cases active with
  | some r => exact forthright_fail (by simp [Failure.kind])
  | none =>
    -- The check that there is none passes, and leaves no trace.
    simp only [Option.isSome_none, Bool.false_eq_true, if_false, bind_assoc]
    refine forthright_call (fun _ => rfl) fun found => ?_
    refine forthright_require (by simp [Failure.kind]) fun status => ?_
    exact forthright_insert (fun e => by cases e <;> rfl) fun _ => trivial

theorem forthright_closeAt (p : Uuid) :
    (closeAt p).program.Forthright (Command.request (closeAt p)).blame := by
  simp only [program, operation, closeReception, activeReception, resolveStatus, bind_assoc]
  refine forthright_call (fun _ => rfl) fun active => ?_
  refine forthright_require (by simp [Failure.kind]) fun r => ?_
  refine forthright_call (fun _ => rfl) fun found => ?_
  refine forthright_require (by simp [Failure.kind]) fun status => ?_
  refine forthright_call (fun _ => rfl) fun moved => ?_
  exact forthright_require (by simp [Failure.kind]) fun _ => trivial

theorem forthright_addTo (stamp : Stamp) (p : Uuid) (typeName : String) :
    (addTo stamp p typeName).program.Forthright
      (Command.request (addTo stamp p typeName)).blame := by
  simp only [program, operation, addProduct, activeReception, bind_assoc]
  refine forthright_call (fun _ => rfl) fun active => ?_
  refine forthright_require (by simp [Failure.kind]) fun r => ?_
  refine forthright_call (fun _ => rfl) fun found => ?_
  refine forthright_require (by simp [Failure.kind]) fun type => ?_
  refine forthright_call (fun _ => rfl) fun added => ?_
  exact forthright_require (by simp [Failure.kind]) fun _ => trivial

theorem forthright_removeFrom (p : Uuid) :
    (removeFrom p).program.Forthright (Command.request (removeFrom p)).blame := by
  simp only [program, operation, removeLastProduct, activeReception, bind_assoc]
  refine forthright_call (fun _ => rfl) fun found => ?_
  refine forthright_require (by simp [Failure.kind]) fun point => ?_
  refine forthright_call (fun _ => rfl) fun active => ?_
  refine forthright_require (by simp [Failure.kind]) fun r => ?_
  refine forthright_call (fun _ => rfl) fun found => ?_
  refine forthright_require (by simp [Failure.kind]) fun x => ?_
  refine forthright_call (fun _ => rfl) fun deleted => ?_
  cases deleted with
  | false => exact forthright_fail (by simp [Failure.kind])
  | true => trivial

theorem forthright (q : Request) : q.program.Forthright (Command.request q).blame := by
  cases q with
  | create stamp id cityName registered => exact forthright_create stamp id cityName registered
  | get id =>
    simp only [program, operation, getPickupPoint, bind_assoc]
    refine forthright_call (fun _ => rfl) fun found => ?_
    exact forthright_require (by simp [Failure.kind]) fun _ => trivial
  | openAt stamp p => exact forthright_openAt stamp p
  | closeAt p => exact forthright_closeAt p
  | addTo stamp p typeName => exact forthright_addTo stamp p typeName
  | removeFrom p => exact forthright_removeFrom p

end Request

theorem forthright_listPickupPoints :
    listPickupPoints.program.Forthright Command.listAll.blame := by
  rw [listPickupPoints, ← bind_pure (call _ _)]
  exact forthright_call (fun _ => rfl) fun _ => trivial

theorem forthright_overview (window : DateWindow) (page : Page) :
    (overview window page).program.Forthright (Command.overview window page).blame := by
  by_cases hvalid : Overview.Valid window page
  case neg =>
    obtain ⟨text, htext⟩ := Overview.program_of_not_valid hvalid
    rw [htext]
    exact forthright_fail (by simp [Failure.kind])
  rw [Overview.program_of_valid hvalid]
  refine forthright_call (fun _ => rfl) fun points => ?_
  split
  · trivial
  refine forthright_call (fun _ => rfl) fun receptions => ?_
  rw [overviewProducts]
  split
  · trivial
  · exact forthright_call (fun _ => rfl) fun _ => trivial

/-- The failure that is reported, if the operation has failed. -/
def Report.failure? : Report → Option Failure
  | .verdict v => Operation.failure? v
  | .points answer => Operation.failure? answer
  | .overview answer => Operation.failure? answer

/-- **Every operation tells the failures of the store**, whatever it is answered. -/
theorem Command.told {c : Command} {d : List Exchange} {report : Report}
    (h : c.Dialogue d report) : Told c.blame d report.failure? := by
  obtain ⟨q, v, rfl, rfl, hd⟩ | ⟨answer, rfl, rfl, hd⟩ | ⟨window, page, answer, rfl, rfl, hd⟩ :=
    h.of_program
  · exact q.forthright.told hd
  · exact forthright_listPickupPoints.told hd
  · exact (forthright_overview window page).told hd

/-! ## What is shown -/

/-- The failures are of the same kind: they differ in their words at most. -/
def StorageFailure.SameKind : StorageFailure → StorageFailure → Prop
  | .database _, .database _ | .duplicate _, .duplicate _ | .corrupt _, .corrupt _ => True
  | _, _ => False

/-- **Two stores have answered alike**: the same all along, or the same up to a call that has
failed on both sides, with failures of the same kind. -/
def AnsweredAlike (d d' : List Exchange) : Prop :=
  d = d' ∨ ∃ before after after' call e e', StorageFailure.SameKind e e' ∧
    d = before ++ ⟨call, .error e⟩ :: after ∧ d' = before ++ ⟨call, .error e'⟩ :: after'

namespace Http

/-- Failures of the same kind are blamed in answers that are the same. -/
theorem failureResponse_blame {c : Command} {call : Call} {e e' : StorageFailure}
    {failure failure' : Failure} (hkind : e.SameKind e') (h : c.blame call e = some failure)
    (h' : c.blame call e' = some failure') :
    failureResponse failure = failureResponse failure' := by
  -- An internal failure is told without the step and without its source.
  have hstep (h : (c.step? call.name).map (Failure.internal · e) = some failure)
      (h' : (c.step? call.name).map (Failure.internal · e') = some failure') :
      failureResponse failure = failureResponse failure' := by
    obtain ⟨label, -, rfl⟩ := Option.map_eq_some_iff.mp h
    obtain ⟨label', -, rfl⟩ := Option.map_eq_some_iff.mp h'
    rfl
  unfold Command.blame at h h'
  cases htaken : c.taken? call.name with
  | none =>
    rw [htaken] at h h'
    exact hstep h h'
  | some taken =>
    rw [htaken] at h h'
    cases e with
    | duplicate what =>
      cases e' with
      | duplicate what' => rw [← Option.some.inj h, ← Option.some.inj h']
      | _ => exact hkind.elim
    | _ =>
      cases e' with
      | duplicate what' => exact hkind.elim
      | _ => exact hstep h h'

theorem response_of_failure {c : Command} {report : Report} {failure : Failure}
    (h : report.failure? = some failure) : c.response report = failureResponse failure := by
  cases report with
  | verdict v => cases v <;> cases h; rfl
  | points answer => cases answer <;> cases h; rfl
  | overview answer => cases answer <;> cases h; rfl

/-- **The answer to a request does not tell apart** dialogues that are alike. -/
theorem response_alike {c : Command} {d d' : List Exchange} {report report' : Report}
    (hd : c.Dialogue d report) (hd' : c.Dialogue d' report') (h : AnsweredAlike d d') :
    c.response report = c.response report' := by
  rcases h with rfl | ⟨before, after, after', call, e, e', hkind, heq, heq'⟩
  · rw [hd.unique hd']
  · obtain ⟨-, failure, hblame, hfailure⟩ := (Command.told hd).last heq
    obtain ⟨-, failure', hblame', hfailure'⟩ := (Command.told hd').last heq'
    rw [response_of_failure hfailure, response_of_failure hfailure',
      failureResponse_blame hkind hblame hblame']

/-! ## Requests to the server -/

/-- What a request asks for of a resource; one for the head asks for what one to read does. -/
def asked? (stamp : Stamp) (r : Request) (x : Resource) : Option Inquiry :=
  match r.method with
  | .get | .head => getInquiry r x
  | .post => postInquiry stamp r x
  | _ => none

namespace Server
variable {σ : Type} [Storage σ] [Monitored σ]

omit [Monitored σ] in
/-- **The calls that a request makes** of the store, each with its answer. -/
def exchanges (s : Server σ) (m : Moment) (r : Request) : List Exchange :=
  match (Resource.ofPath s.metrics r.path).bind (asked? m.stamp r) with
  | some i => i.exchanges s.world
  | none => []

/-- An answer as the method of its request has it. -/
def trimmed (r : Request) (response : Response) : Response :=
  if r.method = .head then response.withoutBody else response

variable {s : Server σ} {m : Moment} {r : Request} {x : Resource}

theorem read_refused (hapi : x.isApi = true) (h : getInquiry r x = none) :
    s.read m r x = (refusal x, s) := by
  have hcan : x.canGet = false := by
    cases x <;> first | rfl | exact absurd hapi Bool.false_ne_true | cases h
  rw [read, hcan]
  rfl

/-- **A resource of the interface** is asked for, or refuses the method. -/
theorem handle_api (hapi : x.isApi = true) : s.handle m r x =
    match asked? m.stamp r x with
    | some i => (trimmed r (i.answer s.world).1, s.after i)
    | none => (trimmed r (refusal x), s) := by
  rw [handle]
  cases hmethod : r.method with
  | get | head =>
    simp only [asked?, trimmed, hmethod]
    cases hi : getInquiry r x with
    | some i => simp [read_eq hi]
    | none => simp [read_refused hapi hi]
  | post =>
    simp only [asked?, trimmed, hmethod]
    cases hi : postInquiry m.stamp r x with
    | some i =>
      obtain ⟨p, hp, hrun⟩ := post_eq (s := s) hi
      simp [hp, hrun]
    | none => simp [postProgram_none hi]
  | _ => simp [asked?, trimmed, hmethod]

/-- **The answers of a request's calls are those of the store**, and lead to the store after it. -/
theorem gives_respond (hx : Resource.ofPath s.metrics r.path = some x) (hapi : x.isApi = true) :
    Gives s.world.store (s.exchanges m r) (s.respond m r).2.world.store := by
  by_cases hoptions : r.method = .options
  · simp [respond, exchanges, hx, asked?, hoptions, Gives]
  simp only [respond, if_neg hoptions, hx, exchanges, Option.bind_some, handle_api hapi,
    counted_world]
  cases asked? m.stamp r x with
  | none => exact rfl
  | some i =>
    cases i with
    | error rejection => exact rfl
    | ok c => exact c.gives_run s.world

end Server

/-- With metrics or without, the interface is under the same paths. -/
theorem Resource.ofSegments_api {metrics metrics' : Bool} {segments : List String} {x : Resource}
    (hapi : x.isApi = true) (h : ofSegments metrics segments = some x) :
    ofSegments metrics' segments = some x := by
  rw [← h]
  unfold ofSegments at h ⊢
  split at h <;> first | rfl | skip
  -- Only the path of the metrics asks whether they are on.
  split at h <;> cases h
  cases hapi

theorem Resource.ofPath_api {metrics metrics' : Bool} {path : String} {x : Resource}
    (hapi : x.isApi = true) (h : ofPath metrics path = some x) : ofPath metrics' path = some x := by
  rw [ofPath] at h ⊢
  split at h
  · exact ofSegments_api hapi h
  · cases h

section TwoStores
variable {σ σ' : Type} [Storage σ] [Monitored σ] [Storage σ'] [Monitored σ']

/-- **The answer to a request does not tell apart** stores that have answered it alike. -/
theorem Server.respond_alike {s : Server σ} {s' : Server σ'} {m : Moment} {r : Request}
    {x : Resource} (hx : Resource.ofPath s.metrics r.path = some x) (hapi : x.isApi = true)
    (h : AnsweredAlike (s.exchanges m r) (s'.exchanges m r)) :
    (s.respond m r).1 = (s'.respond m r).1 := by
  have hx' : Resource.ofPath s'.metrics r.path = some x := Resource.ofPath_api hapi hx
  by_cases hoptions : r.method = .options
  · simp only [respond, if_pos hoptions, hx, hx']
  simp only [exchanges, hx, hx', Option.bind_some] at h
  simp only [respond, if_neg hoptions, hx, hx', handle_api hapi]
  cases hasked : asked? m.stamp r x with
  | none => rfl
  | some i =>
    rw [hasked] at h
    cases i with
    | error rejection => rfl
    | ok c =>
      -- What is put around the answer depends on the moment and the request alone.
      refine congrArg (fun response => finished m r (trimmed r response)) ?_
      exact response_alike (c.dialogue_run s.world) (c.dialogue_run s'.world) h

end TwoStores
end Http

open Http in
/-- **Failures of the store are told to the caller and kept from the client.**  Whatever a store
answers, the first call that fails is the last one, and the operation reports what it makes of
that failure: an internal one with the failure and the label of the step, or that the key of its
record is taken; and an internal failure is reported of no other cause.  The answer to a request
of the interface is the same over any two stores that answer it alike up to a call that fails on
both, whatever the words of the failures are. -/
theorem storage_failures_told_not_shown :
    (∀ (c : Command) (d : List Exchange) (report : Report), c.Dialogue d report →
      (∀ before call e after, d = before ++ ⟨call, .error e⟩ :: after → after = [] ∧
        ∃ failure, c.blame call e = some failure ∧ report.failure? = some failure) ∧
      (∀ label e, report.failure? = some (.internal label e) →
        ∃ before call, d = before ++ [⟨call, .error e⟩] ∧ c.step? call.name = some label)) ∧
    (∀ (σ σ' : Type) [Storage σ] [Monitored σ] [Storage σ'] [Monitored σ'] (s : Server σ)
      (s' : Server σ') (m : Moment) (r : Http.Request) (x : Resource),
      Resource.ofPath s.metrics r.path = some x → x.isApi = true →
      AnsweredAlike (s.exchanges m r) (s'.exchanges m r) →
        (s.respond m r).1 = (s'.respond m r).1) := by
  refine ⟨fun c d report hd => ⟨fun before call e after heq => (Command.told hd).last heq,
    fun label e hfailure => ?_⟩, fun _ _ _ _ _ _ s s' m r x => Server.respond_alike⟩
  obtain ⟨before, call, source, heq, hblame⟩ := (Command.told hd).internal hfailure
  obtain ⟨rfl, hlabel⟩ := Command.blame_internal hblame
  exact ⟨before, call, heq, hlabel⟩

/-- A request for all pickup points. -/
def allPointsRequest : Http.Request := ⟨.get, "/api/v1/pvz/all", none, [], ""⟩

open Http in
/-- **A missing table and a lost connection** are two failures to the caller and one answer to the
client; a taken identifier is told as what it is. -/
theorem missing_table_shown_as_lost_connection :
    let m : Moment := ⟨⟨.epoch, .generated 0⟩, "1", 0, 0⟩
    let missing : Server Backend := .start (.database .empty) true
    let lost : Server Backend := .start (.database Database.empty.disconnect) true
    let again := Command.request (.create ⟨.epoch, .generated 3⟩ (.ofNat 1) "Москва" none)
    (missing.respond m allPointsRequest).1 = (lost.respond m allPointsRequest).1 ∧
    (Command.listAll.run missing.world).1.failure? = some (.internal "list pickup points"
      (.database (.query (.noSuchTable "pickup_points")))) ∧
    (Command.listAll.run lost.world).1.failure? =
      some (.internal "list pickup points" (.database .disconnected)) ∧
    (again.run stockedWorld).1.failure? = some (.duplicatePickupPoint (.ofNat 1)) := by
  intro m missing lost again
  obtain ⟨htold, hshown⟩ := storage_failures_told_not_shown
  have hpath : ∀ metrics,
      Resource.ofPath metrics allPointsRequest.path = some .allPoints := by decide +kernel
  have hmissing : Command.listAll.exchanges missing.world =
      [⟨.allPickupPoints, .error (.database (.query (.noSuchTable "pickup_points")))⟩] := rfl
  have hlost : Command.listAll.exchanges lost.world =
      [⟨.allPickupPoints, .error (.database .disconnected)⟩] := rfl
  have halike : AnsweredAlike (missing.exchanges m allPointsRequest)
      (lost.exchanges m allPointsRequest) := by
    refine .inr ⟨[], [], [], .allPickupPoints, .database (.query (.noSuchTable "pickup_points")),
      .database .disconnected, trivial, ?_, ?_⟩
    · rw [Server.exchanges, hpath]
      exact hmissing
    · rw [Server.exchanges, hpath]
      exact hlost
  refine ⟨hshown _ _ missing lost m _ _ (hpath _) rfl halike, ?_, ?_, ?_⟩
  · obtain ⟨-, failure, hblame, hfailure⟩ :=
      (htold _ _ _ (Command.listAll.dialogue_run missing.world)).1 [] _ _ _ hmissing
    exact hfailure.trans hblame.symm
  · obtain ⟨-, failure, hblame, hfailure⟩ :=
      (htold _ _ _ (Command.listAll.dialogue_run lost.world)).1 [] _ _ _ hlost
    exact hfailure.trans hblame.symm
  · rfl

end PickupLedger
