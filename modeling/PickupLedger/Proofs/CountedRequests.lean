import PickupLedger.Http.Server
import Mathlib.Data.List.Count

/-!
# Requests that are counted

Each request that is answered should be counted once: under its method, the template of its
path, or `unmatched` if the path names no resource, and the status of its answer
(`Server.CountsAll`).

The server counts where a resource is asked for (`Server.respond`), and two kinds of requests
do not come so far: those whose path names no resource, and those for the allowed methods.  All
others are counted once, whatever else becomes of them: answered by the service, refused for
their method, or rejected for what they say.  So after any requests the counts are those of the
requests that came so far, and they are complete exactly if all did
(`requests_counted_once_iff`).
-/

namespace PickupLedger
namespace Http

/-! ## Counts -/

namespace RequestCounts
variable (c : RequestCounts) (l l' : RequestLabel)

theorem together_filter_cons (e : RequestLabel × Nat) (es : List (RequestLabel × Nat)) :
    together ((e :: es).filter fun e => e.1 = l) =
      (if e.1 = l then e.2 else 0) + together (es.filter fun e => e.1 = l) := by
  by_cases h : e.1 = l <;> simp [h, together]

theorem get_add : (c.add l).get l' = c.get l' + if l = l' then 1 else 0 := by
  obtain ⟨es⟩ := c
  simp only [get, add]
  induction es with
  | nil => simp only [bump, together_filter_cons, List.filter_nil, together, Nat.add_comm]
  | cons e es ih =>
    simp only [bump]
    split
    case isTrue h =>
      rw [together_filter_cons, together_filter_cons, h]
      split <;> omega
    case isFalse h =>
      rw [together_filter_cons, together_filter_cons, ih, Nat.add_assoc]

variable {c l}

/-- Each label is counted in one place. -/
def Distinct (c : RequestCounts) : Prop := (c.counts.map Prod.fst).Nodup

theorem mem_labels_bump {es : List (RequestLabel × Nat)} :
    l' ∈ (bump l es).map Prod.fst ↔ l' = l ∨ l' ∈ es.map Prod.fst := by
  induction es with
  | nil => simp [bump]
  | cons e es ih =>
    simp only [bump]
    split
    case isTrue h => simp [h]
    case isFalse h =>
      simp only [List.map_cons, List.mem_cons, ih]
      exact or_left_comm

theorem Distinct.add (h : c.Distinct) (l : RequestLabel) : (c.add l).Distinct := by
  obtain ⟨es⟩ := c
  simp only [Distinct, RequestCounts.add] at h ⊢
  induction es with
  | nil => simp [bump]
  | cons e es ih =>
    rw [List.map_cons, List.nodup_cons] at h
    simp only [bump]
    split
    case isTrue heq => simpa [heq] using h
    case isFalse hne =>
      rw [List.map_cons, List.nodup_cons, mem_labels_bump]
      exact ⟨not_or.mpr ⟨hne, h.1⟩, ih h.2⟩

end RequestCounts

/-! ## What a request is counted under -/

/-- **The label of a request that has been answered.** -/
def Request.label (r : Request) (metrics : Bool) (response : Response) : RequestLabel where
  method := r.method.name
  path := ((Resource.ofPath metrics r.path).map Resource.template).getD "unmatched"
  status := response.status

/-- **A request that asks for a resource**: its path names one, and it does not ask for the
allowed methods. -/
def Request.AsksResource (r : Request) (metrics : Bool) : Prop :=
  r.method ≠ .options ∧ (Resource.ofPath metrics r.path).isSome = true

instance (r : Request) (metrics : Bool) : Decidable (r.AsksResource metrics) :=
  inferInstanceAs (Decidable (_ ∧ _))

namespace Server
variable {σ : Type}

section Counting
variable [Storage σ] [Monitored σ]

/-! ## One request -/

omit [Monitored σ] in
theorem running_kept (s : Server σ) (p : Program Response) :
    (s.running p).2.requests = s.requests ∧ (s.running p).2.metrics = s.metrics := ⟨rfl, rfl⟩

theorem read_kept (s : Server σ) (m : Moment) (r : Request) (x : Resource) :
    (s.read m r x).2.requests = s.requests ∧ (s.read m r x).2.metrics = s.metrics := by
  rw [read]
  split
  · split
    · exact s.running_kept _
    · exact ⟨rfl, rfl⟩
  · exact ⟨rfl, rfl⟩

/-- To answer a request counts nothing yet. -/
theorem handle_kept (s : Server σ) (m : Moment) (r : Request) (x : Resource) :
    (s.handle m r x).2.requests = s.requests ∧ (s.handle m r x).2.metrics = s.metrics := by
  rw [handle]
  split
  · exact s.read_kept m r x
  · exact s.read_kept m r x
  · split
    · exact s.running_kept _
    · exact ⟨rfl, rfl⟩
  · exact ⟨rfl, rfl⟩

/-- **One request is counted once if it asks for a resource**, and else not at all. -/
theorem respond_requests {s : Server σ} (hs : s.metrics = true) (m : Moment) (r : Request) :
    (s.respond m r).2.metrics = true ∧
    (s.respond m r).2.requests =
      if r.AsksResource true then s.requests.add (r.label true (s.respond m r).1)
      else s.requests := by
  rw [respond, hs]
  by_cases hoptions : r.method = .options
  case pos => simp [Request.AsksResource, hoptions, hs]
  cases hx : Resource.ofPath true r.path with
  | none => simp [Request.AsksResource, hoptions, hx, hs]
  | some x =>
    have hasks : r.AsksResource true := ⟨hoptions, by rw [hx]; rfl⟩
    obtain ⟨hrequests, hmetrics⟩ := s.handle_kept m r x
    rw [hs] at hmetrics
    simp only [if_neg hoptions, if_pos hasks, counted, hmetrics, if_true, hrequests]
    refine ⟨trivial, congrArg s.requests.add ?_⟩
    simp only [Request.label, hx]
    rfl

/-! ## Any requests -/

/-- **The server after requests**, and these with their answers. -/
def serve (s : Server σ) : List (Moment × Request) → List (Request × Response) × Server σ
  | [] => ([], s)
  | (m, r) :: rest =>
    let (response, s) := s.respond m r
    let (answered, s) := s.serve rest
    ((r, response) :: answered, s)

end Counting

/-- **All requests that were answered are counted**, each of them once under its label. -/
def CountsAll (s : Server σ) (answered : List (Request × Response)) : Prop :=
  (∀ l, s.requests.get l = answered.countP fun e => e.1.label true e.2 = l) ∧
    s.requests.total = answered.length

theorem serve_requests [Storage σ] [Monitored σ] (s : Server σ)
    (arrivals : List (Moment × Request)) :
    (s.serve arrivals).1.map Prod.fst = arrivals.map Prod.snd := by
  induction arrivals generalizing s with
  | nil => rfl
  | cons a rest ih => exact congrArg (a.2 :: ·) (ih _)

/-- **After any requests** those that asked for a resource are counted on top of what was. -/
theorem serve_counts [Storage σ] [Monitored σ] {s : Server σ} (hs : s.metrics = true)
    (hdistinct : s.requests.Distinct) (arrivals : List (Moment × Request)) :
    (s.serve arrivals).2.requests.Distinct ∧
    (∀ l, (s.serve arrivals).2.requests.get l = s.requests.get l +
      (s.serve arrivals).1.countP fun e => e.1.AsksResource true ∧ e.1.label true e.2 = l) ∧
    (s.serve arrivals).2.requests.total = s.requests.total +
      (s.serve arrivals).1.countP fun e => e.1.AsksResource true := by
  induction arrivals generalizing s with
  | nil => exact ⟨hdistinct, fun _ => rfl, rfl⟩
  | cons a rest ih =>
    obtain ⟨m, r⟩ := a
    obtain ⟨hmetrics, hstep⟩ := respond_requests hs m r
    simp only [serve, List.countP_cons]
    generalize s.respond m r = outcome at hmetrics hstep ⊢
    obtain ⟨response, s'⟩ := outcome
    by_cases hasks : r.AsksResource true
    case pos =>
      simp only [if_pos hasks] at hstep
      obtain ⟨hnodup, hget, htotal⟩ := ih hmetrics (hstep ▸ hdistinct.add _)
      refine ⟨hnodup, fun l => ?_, ?_⟩
      · rw [hget, hstep, RequestCounts.get_add]
        simp only [hasks, true_and, decide_eq_true_eq]
        omega
      · rw [htotal, hstep, RequestCounts.total_add]
        simp only [hasks, decide_true, if_true]
        omega
    case neg =>
      simp only [if_neg hasks] at hstep
      obtain ⟨hnodup, hget, htotal⟩ := ih hmetrics (hstep ▸ hdistinct)
      refine ⟨hnodup, fun l => ?_, ?_⟩
      · rw [hget, hstep]
        simp [hasks]
      · rw [htotal, hstep]
        simp [hasks]

/-- The counts are complete if every request asked for a resource. -/
theorem countsAll_iff {s' : Server σ} {answered : List (Request × Response)}
    (hget : ∀ l, s'.requests.get l =
      answered.countP fun e => e.1.AsksResource true ∧ e.1.label true e.2 = l)
    (htotal : s'.requests.total = answered.countP fun e => e.1.AsksResource true) :
    s'.CountsAll answered ↔ ∀ e ∈ answered, e.1.AsksResource true := by
  constructor
  · rintro ⟨-, hall⟩ e he
    rw [htotal, List.countP_eq_length] at hall
    exact of_decide_eq_true (hall e he)
  · intro hall
    refine ⟨fun l => ?_, ?_⟩
    · rw [hget]
      refine List.countP_congr fun e he => ?_
      simp [hall e he]
    · rw [htotal, List.countP_eq_length]
      exact fun e he => decide_eq_true (hall e he)

end Server
end Http

open Http in
/-- **Which requests are counted.**  After any requests to a server with metrics, over any store
and whatever it answers, each request that asked for a resource is counted once, under its
method, the template of its path and the status of its answer, and nothing else is counted.  So
all requests that were answered are counted once exactly if none asked for the allowed methods
or had a path that names no resource. -/
theorem requests_counted_once_iff {σ : Type} [Storage σ] [Monitored σ] (store : σ)
    (arrivals : List (Moment × Http.Request)) :
    let run := (Server.start store true).serve arrivals
    run.2.requests.Distinct ∧
    (∀ l, run.2.requests.get l =
      run.1.countP fun e => e.1.AsksResource true ∧ e.1.label true e.2 = l) ∧
    run.2.requests.total = run.1.countP (fun e => e.1.AsksResource true) ∧
    (run.2.CountsAll run.1 ↔ ∀ a ∈ arrivals, a.2.AsksResource true) := by
  intro run
  obtain ⟨hdistinct, hget, htotal⟩ :=
    Server.serve_counts (s := Server.start store true) rfl List.nodup_nil arrivals
  have hget : ∀ l, run.2.requests.get l =
      run.1.countP fun e => e.1.AsksResource true ∧ e.1.label true e.2 = l := fun l =>
    (hget l).trans (Nat.zero_add _)
  have htotal := htotal.trans (Nat.zero_add _)
  refine ⟨hdistinct, hget, htotal, (Server.countsAll_iff hget htotal).trans ?_⟩
  -- The requests that were answered are those that came.
  have hserved : run.1.map Prod.fst = arrivals.map Prod.snd := Server.serve_requests _ arrivals
  calc (∀ e ∈ run.1, e.1.AsksResource true)
      ↔ ∀ r ∈ run.1.map Prod.fst, r.AsksResource true := by rw [List.forall_mem_map]
    _ ↔ ∀ r ∈ arrivals.map Prod.snd, r.AsksResource true := by rw [hserved]
    _ ↔ ∀ a ∈ arrivals, a.2.AsksResource true := by rw [List.forall_mem_map]

/-- A request to read what a path names. -/
def readingOf (path : String) : Http.Request := ⟨.get, path, none, [], ""⟩

open Http in
/-- **A request for a path that names nothing** is answered and not counted. -/
theorem stray_request_not_counted :
    let m : Moment := ⟨⟨.epoch, .generated 0⟩, "1", 0, 0⟩
    let run := (Server.start (Backend.memory .new) true).serve [(m, readingOf "/nosuch")]
    (run.1.map fun e => e.1.label true e.2) = [⟨"GET", "unmatched", 404⟩] ∧
      run.2.requests.total = 0 ∧ ¬ run.2.CountsAll run.1 := by
  intro m run
  have hlabels : (run.1.map fun e => e.1.label true e.2) = [⟨"GET", "unmatched", 404⟩] := by
    decide +kernel
  have htotal : run.2.requests.total = 0 := by decide +kernel
  refine ⟨hlabels, htotal, fun hall => ?_⟩
  have hlength := congrArg List.length hlabels
  rw [List.length_map, ← hall.2, htotal] at hlength
  cases hlength

open Http in
/-- A request for the methods that a resource allows is not counted either. -/
example :
    let m : Moment := ⟨⟨.epoch, .generated 0⟩, "1", 0, 0⟩
    let r := { readingOf "/api/v1/pvz" with method := .options }
    let run := (Server.start (Backend.memory .new) true).serve [(m, r)]
    (run.1.map fun e => e.1.label true e.2) = [⟨"OPTIONS", "/api/v1/pvz", 200⟩] ∧
      run.2.requests.total = 0 := by
  decide +kernel

end PickupLedger
