import PickupLedger.Proofs.Inquiries

/-!
# Envelopes

An answer of the interface wears its envelope (`Http.Response.Enveloped`) if it is a JSON object
that says whether the request has succeeded, as the status does, with data or with an error in
words.

Reports on operations wear it, failures included, whatever the store has answered, and so do
rejections of a body or a query.  One rejection does not: that of a path whose segment is no
identifier is told as plain text.  So an answer of the interface wears its envelope exactly if
the segment of its path, where there is one, can be read.
-/

namespace PickupLedger
open Json

namespace Http

/-- **A response in its envelope**, of success with data or of failure with an error. -/
structure Response.Enveloped (r : Response) : Prop where
  type : ("content-type", "application/json") ∈ r.headers
  body :
    (r.Succeeds ∧ ∃ data, data ≠ Json.null ∧
      r.body = .json (.object [("success", .bool true), ("data", data)])) ∨
    (¬ r.Succeeds ∧ ∃ error, error ≠ "" ∧ r.body =
      .json (.object [("success", .bool false), ("data", .null), ("error", .string error)]))

/-! ## Words -/

theorem append_ne_empty {a b : String} (h : a ≠ "") : a ++ b ≠ "" := fun hempty =>
  h (String.append_eq_empty_iff.mp hempty).1

theorem ne_empty_append {a b : String} (h : b ≠ "") : a ++ b ≠ "" := fun hempty =>
  h (String.append_eq_empty_iff.mp hempty).2

/-- A failure is told in words. -/
theorem message_ne_empty (failure : Failure) : failure.message ≠ "" := by
  cases failure with
  | internal step source => exact append_ne_empty (ne_empty_append (by decide))
  | _ =>
    repeat refine append_ne_empty ?_
    decide

theorem publicMessage_ne_empty (failure : Failure) : publicMessage failure ≠ "" := by
  rw [publicMessage]
  split
  · decide
  · exact message_ne_empty failure

theorem queryMessage_ne_empty (problem : Problem) : queryMessage problem ≠ "" := by
  cases problem with
  | malformed => decide
  | unfit path misfit => exact append_ne_empty (by decide)

/-- Words with a separator between them are words. -/
theorem intercalate_ne_empty (separator text : String) (texts : List String) (h : text ≠ "") :
    separator.intercalate (text :: texts) ≠ "" := by
  cases texts with
  | nil => simpa using h
  | cons next rest =>
    rw [String.intercalate_cons_cons]
    exact append_ne_empty (append_ne_empty h)

/-- A body is refused in words; if it is for its fields, some of them are faulty. -/
theorem jsonBody_message_ne_empty {α : Type} {reader : Reader α} {faults : α → List FieldFault}
    {r : Request} {fault : BodyFault} (h : jsonBody reader faults r = .error fault) :
    fault.message ≠ "" := by
  cases fault with
  | notJson | tooLarge => decide
  | problem problem =>
    cases problem with
    | malformed => decide
    | unfit path misfit => exact append_ne_empty (by decide)
  | invalid found =>
    -- Only the last of the checks refuses a body for its fields, and only if there are faults.
    have hfound : found ≠ [] := by
      rw [jsonBody] at h
      split at h
      · cases h
      split at h
      · cases h
      split at h
      · cases h
      · split at h
        · cases h
        · next hfaults =>
          rw [← BodyFault.invalid.inj (Except.error.inj h)]
          exact fun hempty => hfaults (hempty ▸ rfl)
    obtain ⟨first, rest, rfl⟩ := List.exists_cons_of_ne_nil hfound
    exact intercalate_ne_empty _ _ _ (append_ne_empty (ne_empty_append (by decide)))

/-! ## Reports and rejections -/

theorem enveloped_error {status : Nat} {error : String} (hstatus : ¬ (200 ≤ status ∧ status < 300))
    (herror : error ≠ "") : (errorResponse status error).Enveloped :=
  ⟨List.mem_singleton.mpr rfl, .inr ⟨hstatus, error, herror, rfl⟩⟩

/-- A failure has the status of its kind, and none of these is one of success. -/
theorem enveloped_failure (failure : Failure) : (failureResponse failure).Enveloped := by
  refine enveloped_error ?_ (publicMessage_ne_empty failure)
  cases failure.kind <;> decide

theorem shown_ne_null {report : Report} {data : Json} (h : report.shown = .ok data) :
    data ≠ .null := by
  cases report with
  | verdict v =>
    cases v with
    | error failure => cases h
    | ok outcome => cases outcome <;> cases h <;> exact nofun
  | points answer => cases answer <;> cases h; exact nofun
  | overview answer => cases answer <;> cases h; exact nofun

/-- **Every report wears the envelope.** -/
theorem enveloped_report (c : Command) (report : Report) : (c.response report).Enveloped := by
  rw [Command.response]
  cases h : report.shown with
  | error failure => exact enveloped_failure failure
  | ok data =>
    exact ⟨List.mem_singleton.mpr rfl, .inl ⟨c.status_succeeds, data, shown_ne_null h, rfl⟩⟩

theorem not_enveloped_segment (fault : SegmentFault) :
    ¬ (Rejection.segment fault).response.Enveloped := by
  rintro ⟨htype, -⟩
  exact absurd (List.mem_singleton.mp htype) (by decide)

/-! ## Requests -/

/-- The segment of a path that should be an identifier. -/
def Resource.segment? : Resource → Option String
  | .point segment | .closing segment | .removal segment => some segment
  | _ => none

theorem segmentId_of_uuid {segment : String} {id : Uuid} (value : String)
    (htext : segmentText? segment = some value) (hid : Uuid.ofString? value = some id) :
    segmentId segment = .ok id := by
  simp only [segmentId, htext, hid]

theorem segmentId_of_text {segment : String} (value : String)
    (htext : segmentText? segment = some value)
    (hid : Uuid.ofString? value = none) : segmentId segment = .error (.notIdentifier value) := by
  simp only [segmentId, htext, hid]

/-- **What an inquiry is read from**: a segment, a body, a query, or nothing at all. -/
inductive Inquiry.ReadFrom (r : Request) : Option String → Inquiry → Prop where
  | segment {segment : String} {command : Uuid → Command} :
      ReadFrom r (some segment) (((segmentId segment).mapError .segment).map command)
  | body {α : Type} {reader : Reader α} {faults : α → List FieldFault} {command : α → Command} :
      ReadFrom r none (((jsonBody reader faults r).mapError .body).map command)
  | query {command : OverviewParams → Command} :
      ReadFrom r none (((OverviewParams.ofQuery (r.query.getD "")).mapError .query).map command)
  | nothing (c : Command) : ReadFrom r none (.ok c)

section Inquiry
variable {stamp : Stamp} {r : Request} {x : Resource} {i : Inquiry}

theorem inquiry_readFrom (h : inquiry stamp r x = some i) : i.ReadFrom r x.segment? := by
  rw [inquiry] at h
  split at h
  · cases x <;> cases h
    · exact .query
    · exact .nothing .listAll
    · exact .segment
  · cases x <;> cases h
    · exact .body
    · exact .segment
    · exact .segment
    · exact .body
    · exact .body
  · cases h

/-- **A segment that cannot be read is why the request is turned away**, and the only reason that
is not told in an envelope. -/
theorem enveloped_answer_iff {σ : Type} [Storage σ] {segment? : Option String}
    (h : i.ReadFrom r segment?) (w : Program.World σ) : (i.answer w).1.Enveloped ↔
      ∀ segment, segment? = some segment → ∃ id, segmentId segment = .ok id := by
  cases h with
  | @segment segment command =>
    cases hid : segmentId segment with
    | ok id =>
      refine iff_of_true (enveloped_report (command id) _) fun segment' heq => ⟨id, ?_⟩
      rw [← Option.some.inj heq, hid]
    | error fault =>
      -- The one rejection that is told as plain text.
      refine iff_of_false (not_enveloped_segment fault) fun hall => ?_
      obtain ⟨id, hok⟩ := hall segment rfl
      exact absurd (hid.symm.trans hok) nofun
  | @body α reader faults command =>
    refine iff_of_true ?_ fun _ => nofun
    cases hbody : jsonBody reader faults r with
    | ok body => exact enveloped_report (command body) _
    | error fault => exact enveloped_error (by decide) (jsonBody_message_ne_empty hbody)
  | @query command =>
    refine iff_of_true ?_ fun _ => nofun
    cases OverviewParams.ofQuery (r.query.getD "") with
    | ok params => exact enveloped_report (command params) _
    | error problem => exact enveloped_error (by decide) (queryMessage_ne_empty problem)
  | nothing c => exact iff_of_true (enveloped_report c _) fun _ => nofun

theorem answer_of_segment {σ : Type} [Storage σ] {segment : String} {fault : SegmentFault}
    (h : i.ReadFrom r (some segment)) (hfault : segmentId segment = .error fault)
    (w : Program.World σ) : i.answer w = ((Rejection.segment fault).response, w) := by
  cases h with
  | segment =>
    rw [hfault]
    rfl

/-- Each of the routes of the interface asks for something. -/
theorem exists_inquiry (stamp : Stamp) (hapi : x.isApi = true)
    (hmethod : (r.method = .get ∧ x.canGet = true) ∨ (r.method = .post ∧ x.canPost = true)) :
    ∃ i, inquiry stamp r x = some i := by
  rcases hmethod with ⟨hmethod, hcan⟩ | ⟨hmethod, hcan⟩
  · simp only [inquiry, hmethod]
    cases x <;> first
      | exact ⟨_, rfl⟩
      | exact absurd hcan Bool.false_ne_true
      | exact absurd hapi Bool.false_ne_true
  · simp only [inquiry, hmethod]
    cases x <;> first | exact ⟨_, rfl⟩ | exact absurd hcan Bool.false_ne_true

end Inquiry

/-! ## The server -/

/-- The header fields that every answer has take nothing off an envelope. -/
theorem enveloped_finished {m : Moment} {r : Request} {response : Response} :
    (Server.finished m r response).Enveloped ↔ response.Enveloped := by
  have htype : ("content-type", "application/json") ∈ (Server.finished m r response).headers ↔
      ("content-type", "application/json") ∈ response.headers := by
    simp [Server.finished, Response.withHeader]
  exact ⟨fun ⟨h, hbody⟩ => ⟨htype.mp h, hbody⟩, fun ⟨h, hbody⟩ => ⟨htype.mpr h, hbody⟩⟩

/-- A request whose segment cannot be read is turned away before the store is asked anything. -/
theorem Server.respond_segment {σ : Type} [Storage σ] [Monitored σ] (s : Server σ) (m : Moment)
    {r : Request} {x : Resource} {i : Inquiry} {segment : String} {fault : SegmentFault}
    (hx : Resource.ofPath s.metrics r.path = some x) (hi : inquiry m.stamp r x = some i)
    (hsegment : x.segment? = some segment) (hfault : segmentId segment = .error fault) :
    (s.respond m r).1 = Server.finished m r (Rejection.segment fault).response := by
  rw [Server.respond_inquiry hx hi, answer_of_segment (hsegment ▸ inquiry_readFrom hi) hfault]

end Http

open Http in
/-- **Answers of the interface wear the envelope**, whatever the store is and whatever it answers,
and whatever the headers, the query and the body of the request are: they do exactly if the
segment of the path that should be an identifier can be read as one.  If it cannot, the answer is
a bad request in plain text. -/
theorem api_answers_wear_envelope_iff {σ : Type} [Storage σ] [Monitored σ] (s : Server σ)
    (m : Moment) {r : Http.Request} {x : Resource} (hx : Resource.ofPath s.metrics r.path = some x)
    (hapi : x.isApi = true)
    (hmethod : (r.method = .get ∧ x.canGet = true) ∨ (r.method = .post ∧ x.canPost = true)) :
    ((s.respond m r).1.Enveloped ↔
      ∀ segment, x.segment? = some segment → ∃ id, segmentId segment = .ok id) ∧
    (∀ segment fault, x.segment? = some segment → segmentId segment = .error fault →
      (s.respond m r).1.status = 400 ∧ (s.respond m r).1.body = .text fault.message) := by
  obtain ⟨i, hi⟩ := exists_inquiry m.stamp hapi hmethod
  refine ⟨?_, fun segment fault hsegment hfault => ?_⟩
  · rw [Server.respond_inquiry hx hi, enveloped_finished,
      enveloped_answer_iff (inquiry_readFrom hi)]
  · rw [s.respond_segment m hx hi hsegment hfault]
    exact ⟨rfl, rfl⟩

/-- A request for the pickup point that the last segment of the path names. -/
def pointRequest (segment : String) : Http.Request :=
  ⟨.get, "/api/v1/pvz/" ++ segment, none, [], ""⟩

open Http in
/-- **A segment that is no identifier** is told in plain text, although the path is one of the
interface and the method one of its own. -/
theorem unreadable_segment_has_no_envelope :
    let s := Server.start (Backend.memory .new) true
    let m : Moment := ⟨⟨.epoch, .generated 0⟩, "1", 0, 0⟩
    Resource.ofPath s.metrics (pointRequest "xyz").path = some (.point "xyz") ∧
    (Resource.point "xyz").isApi = true ∧ (Resource.point "xyz").canGet = true ∧
    (s.respond m (pointRequest "xyz")).1.body =
      .text (SegmentFault.notIdentifier "xyz").message ∧
    ¬ (s.respond m (pointRequest "xyz")).1.Enveloped := by
  intro s m
  have hpath : Resource.ofPath true (pointRequest "xyz").path = some (.point "xyz") := by
    decide +kernel
  have hfault : segmentId "xyz" = .error (.notIdentifier "xyz") :=
    segmentId_of_text "xyz" (by decide +kernel) (by decide +kernel)
  obtain ⟨i, hi⟩ := exists_inquiry (r := pointRequest "xyz") m.stamp
    (x := .point "xyz") rfl (.inl ⟨rfl, rfl⟩)
  rw [s.respond_segment m hpath hi rfl hfault]
  exact ⟨hpath, rfl, rfl, rfl, fun h => not_enveloped_segment _ (enveloped_finished.mp h)⟩

open Http in
/-- **A segment that is an identifier** is answered in an envelope, found or not. -/
theorem readable_segment_has_envelope :
    let s := Server.start (Backend.memory .new) true
    let m : Moment := ⟨⟨.epoch, .generated 0⟩, "1", 0, 0⟩
    (s.respond m (pointRequest "00000000-0000-0000-0000-000000000001")).1.Enveloped := by
  intro s m
  have hpath : Resource.ofPath s.metrics (pointRequest "00000000-0000-0000-0000-000000000001").path
      = some (.point "00000000-0000-0000-0000-000000000001") := by
    decide +kernel
  obtain ⟨henveloped, -⟩ := api_answers_wear_envelope_iff s m hpath rfl (.inl ⟨rfl, rfl⟩)
  refine henveloped.mpr fun segment hsegment => ⟨.ofNat 1, ?_⟩
  rw [← Option.some.inj hsegment]
  exact segmentId_of_uuid "00000000-0000-0000-0000-000000000001"
    (by decide +kernel) (by decide +kernel)

end PickupLedger
