import PickupLedger.Proofs.Conduct
import PickupLedger.Proofs.DatabaseLists
import PickupLedger.Proofs.InMemoryBooks

/-!
# Operations that any store carries out alike

Two stores with the same books do not always give the same answer: a duplicate is told in
the words of the store, and a reception that has been moved is shown as it was or as it is.
That is all (`Books.Step.unique`), and no operation makes anything of it: of an answer it
looks at nothing but what is the same everywhere (`Call.seen`).

So an operation is portable (`Program.Portable`, `Request.portable`), and from stores with
the same books it comes out the same and leaves the same books (`Program.Portable.run`).
-/

namespace PickupLedger
open Operation Service

/-! ## Answers -/

namespace Call

/-- **What is looked at in an answer**: of a duplicate, that it is one; of a reception that
has been moved, all but its status. -/
def seen : (c : Call) → Answer c → Answer c
  | .addPickupPoint _, .error (.duplicate _) => .error (.duplicate "")
  | .addReception _, .error (.duplicate _) => .error (.duplicate "")
  | .moveReception .., .ok (some moved) => .ok (some (Reception.ended moved))
  | _, a => a

/-- The answer is told by the books, but for what is not looked at. -/
def IsTold : Call → Prop
  | .cityById _ | .pickupPointPage _ | .allPickupPoints | .receptionInStatus .closed _
  | .receptionsAt _ | .productsOf _ => False
  | _ => True

end Call

namespace Books
variable {b : Books}

/-- Products of one place in the order of recency are one. -/
theorem Has.eq_of_recency {x y : Product} (hx : b.Has x) (hy : b.Has y)
    (h : x.recency.le y.recency = true) (h' : y.recency.le x.recency = true) : x = y := by
  have hid : x.id = y.id := congrArg Recency.id (Recency.le_antisymm h h')
  have hsame : b.product? y.id = some x := hid ▸ hx
  exact Option.some.inj (hsame.symm.trans hy)

/-- **Books tell the answer** to a call, and the books after it. -/
theorem Step.unique {c : Call} (hc : c.IsTold)
    (hsingle : ∀ {r₁ r₂}, b.InProgress r₁ → b.InProgress r₂ → r₁.pickupPoint = r₂.pickupPoint →
      r₁ = r₂)
    {a₁ a₂ : Answer c} {b₁ b₂ : Books} (h₁ : b.Step c a₁ b₁) (hlast₁ : b.Newest c a₁)
    (h₂ : b.Step c a₂ b₂) (hlast₂ : b.Newest c a₂) : c.seen a₁ = c.seen a₂ ∧ b₁ = b₂ := by
  cases c with
  | cityByName name => exact ⟨by rw [h₁.1, h₂.1], h₁.2.trans h₂.2.symm⟩
  | addPickupPoint p =>
    rcases h₁ with ⟨hfree, rfl, rfl⟩ | ⟨htaken, ⟨_, rfl⟩, rfl⟩
    · rcases h₂ with ⟨-, rfl, rfl⟩ | ⟨htaken, -, -⟩
      · exact ⟨rfl, rfl⟩
      · exact absurd hfree htaken
    · rcases h₂ with ⟨hfree, -, -⟩ | ⟨-, ⟨_, rfl⟩, rfl⟩
      · exact absurd hfree htaken
      · exact ⟨rfl, rfl⟩
  | pickupPointById id => exact ⟨by rw [h₁.1, h₂.1], h₁.2.trans h₂.2.symm⟩
  | statusOfKind kind => exact ⟨by rw [h₁.1, h₂.1], h₁.2.trans h₂.2.symm⟩
  | addReception r =>
    rcases h₁ with ⟨hfree, rfl, rfl⟩ | ⟨htaken, ⟨_, rfl⟩, rfl⟩
    · rcases h₂ with ⟨-, rfl, rfl⟩ | ⟨htaken, -, -⟩
      · exact ⟨rfl, rfl⟩
      · exact absurd htaken hfree
    · rcases h₂ with ⟨hfree, -, -⟩ | ⟨-, ⟨_, rfl⟩, rfl⟩
      · exact absurd htaken hfree
      · exact ⟨rfl, rfl⟩
  | receptionInStatus kind p =>
    cases kind with
    | closed => exact hc.elim
    | inProgress =>
      refine ⟨?_, h₁.1.trans h₂.1.symm⟩
      rcases h₁.2 with ⟨r₁, rfl, hr₁, hp₁⟩ | ⟨rfl, hfree⟩
      · rcases h₂.2 with ⟨r₂, rfl, hr₂, hp₂⟩ | ⟨-, hfree⟩
        · rw [hsingle hr₁ hr₂ (hp₁.trans hp₂.symm)]
        · exact absurd ⟨r₁, hr₁, hp₁⟩ hfree
      · rcases h₂.2 with ⟨r₂, -, hr₂, hp₂⟩ | ⟨rfl, -⟩
        · exact absurd ⟨r₂, hr₂, hp₂⟩ hfree
        · rfl
  | moveReception id source target =>
    rcases h₁ with ⟨r₁, moved₁, hid₁, hr₁, rfl, hmoved₁, rfl⟩ | ⟨hnone, rfl, rfl⟩
    · rcases h₂ with ⟨r₂, moved₂, hid₂, hr₂, rfl, hmoved₂, rfl⟩ | ⟨hnone, -, -⟩
      · have hsame := hr₁.eq_of_id hr₂ (hid₁.trans hid₂.symm)
        rw [← hsame] at hmoved₂ ⊢
        simp only [Call.seen, hmoved₁, hmoved₂, and_self]
      · exact absurd hr₁ (hnone r₁ hid₁)
    · rcases h₂ with ⟨r₂, -, hid₂, hr₂, -, -, -⟩ | ⟨-, rfl, rfl⟩
      · exact absurd hr₂ (hnone r₂ hid₂)
      · exact ⟨rfl, rfl⟩
  | productTypeByName name => exact ⟨by rw [h₁.1, h₂.1], h₁.2.trans h₂.2.symm⟩
  | addProduct x =>
    rcases h₁ with ⟨r₁, hid₁, hr₁, rfl, rfl⟩ | ⟨hnone, rfl, rfl⟩
    · rcases h₂ with ⟨-, -, -, rfl, rfl⟩ | ⟨hnone, -, -⟩
      · exact ⟨rfl, rfl⟩
      · exact absurd hr₁ (hnone r₁ hid₁)
    · rcases h₂ with ⟨r₂, hid₂, hr₂, -, -⟩ | ⟨-, rfl, rfl⟩
      · exact absurd hr₂ (hnone r₂ hid₂)
      · exact ⟨rfl, rfl⟩
  | lastProduct reception =>
    refine ⟨?_, h₁.1.trans h₂.1.symm⟩
    -- The step names some product of the reception; that it is the newest is what makes it one.
    rcases h₁.2 with ⟨x₁, rfl, hx₁, hreception₁⟩ | ⟨rfl, hnone⟩
    · rcases h₂.2 with ⟨x₂, rfl, hx₂, hreception₂⟩ | ⟨-, hnone⟩
      · rw [hx₁.eq_of_recency hx₂ (hlast₂ x₁ hx₁ hreception₁) (hlast₁ x₂ hx₂ hreception₂)]
      · exact absurd hreception₁ (hnone x₁ hx₁)
    · rcases h₂.2 with ⟨x₂, -, hx₂, hreception₂⟩ | ⟨rfl, -⟩
      · exact absurd hreception₂ (hnone x₂ hx₂)
      · rfl
  | deleteProduct id => exact ⟨by rw [h₁.1, h₂.1], h₁.2.trans h₂.2.symm⟩
  | _ => exact hc.elim

end Books

/-! ## Programs -/

/-- **A portable program**: all its calls are told by the books, fit a database, and go on in
the same way whatever is not looked at in their answers. -/
def Program.Portable {α : Type} : Program α → Prop
  | .done _ => True
  | .count _ next => next.Portable
  | .ask c next => c.IsTold ∧ c.Fits ∧ ∀ a, next (c.seen a) = next a ∧ (next a).Portable

namespace Operation
variable {α : Type}

/-- A call of which everything is looked at. -/
theorem portable_call (step : String) {c : Call} {f : c.Reply → Operation α} (htold : c.IsTold)
    (hfits : c.Fits) (hseen : ∀ a, c.seen a = a) (h : ∀ reply, (f reply).program.Portable) :
    (call step c >>= f).program.Portable := by
  rw [program_call_bind]
  refine ⟨htold, hfits, fun a => ⟨by rw [hseen], ?_⟩⟩
  cases a with
  | error e => trivial
  | ok reply => exact h reply

theorem portable_require {ρ : Type} (missing : Failure) {f : ρ → Operation α} {found : Option ρ}
    (h : ∀ value, (f value).program.Portable) :
    (require missing found >>= f).program.Portable := by
  cases found with
  | none => trivial
  | some value => exact h value

end Operation

namespace Request

/-- All times that a request comes with are in the years 0 to 9999. -/
def InYears : Request → Prop
  | .create stamp _ _ registered =>
    stamp.now.InYears ∧ ∀ time, registered = some time → time.InYears
  | .openAt stamp _ => stamp.now.InYears
  | .addTo stamp _ _ => stamp.now.InYears
  | _ => True

theorem portable_create (stamp : Stamp) (id : Uuid) (cityName : String)
    (registered : Option Instant) (h : (create stamp id cityName registered).InYears) :
    (create stamp id cityName registered).program.Portable := by
  simp only [program, operation, createPickupPoint, bind_assoc]
  refine portable_call _ trivial trivial (fun _ => rfl) fun found =>
    portable_require _ fun city => ?_
  have hyears : (registered.getD stamp.now).InYears := by
    cases registered with
    | none => exact h.1
    | some time => exact h.2 time rfl
  rw [program_insert_bind]
  refine ⟨trivial, hyears, ?_⟩
  rintro (e | p)
  · cases e <;> exact ⟨rfl, trivial⟩
  · exact ⟨rfl, trivial⟩

theorem portable_get (id : Uuid) : (get id).program.Portable := by
  simp only [program, operation, getPickupPoint, bind_assoc]
  exact portable_call _ trivial trivial (fun _ => rfl) fun found =>
    portable_require _ fun p => trivial

theorem portable_openAt (stamp : Stamp) (p : Uuid) (h : stamp.now.InYears) :
    (openAt stamp p).program.Portable := by
  simp only [program, operation, openReception, resolveStatus, bind_assoc]
  refine portable_call _ trivial trivial (fun _ => rfl) fun found =>
    portable_require _ fun point => ?_
  refine portable_call _ trivial trivial (fun _ => rfl) ?_
  rintro (_ | active)
  · simp only [Option.isSome_none, Bool.false_eq_true, if_false, bind_assoc]
    refine portable_call _ trivial trivial (fun _ => rfl) fun found =>
      portable_require _ fun status => ?_
    rw [program_insert_bind]
    refine ⟨trivial, h, ?_⟩
    rintro (e | r)
    · cases e <;> exact ⟨rfl, trivial⟩
    · exact ⟨rfl, trivial⟩
  · trivial

theorem portable_closeAt (p : Uuid) : (closeAt p).program.Portable := by
  simp only [program, operation, closeReception, activeReception, resolveStatus, bind_assoc]
  refine portable_call _ trivial trivial (fun _ => rfl) fun found =>
    portable_require _ fun active => ?_
  refine portable_call _ trivial trivial (fun _ => rfl) fun found =>
    portable_require _ fun status => ?_
  rw [program_call_bind]
  refine ⟨trivial, trivial, ?_⟩
  -- The status of the moved reception is overwritten in the end.
  rintro (e | (_ | moved)) <;> exact ⟨rfl, trivial⟩

theorem portable_addTo (stamp : Stamp) (p : Uuid) (typeName : String) (h : stamp.now.InYears) :
    (addTo stamp p typeName).program.Portable := by
  simp only [program, operation, addProduct, activeReception, bind_assoc]
  refine portable_call _ trivial trivial (fun _ => rfl) fun found =>
    portable_require _ fun active => ?_
  refine portable_call _ trivial trivial (fun _ => rfl) fun found =>
    portable_require _ fun type => ?_
  exact portable_call _ trivial h (fun _ => rfl) fun added => portable_require _ fun x => trivial

theorem portable_removeFrom (p : Uuid) : (removeFrom p).program.Portable := by
  simp only [program, operation, removeLastProduct, activeReception, bind_assoc]
  refine portable_call _ trivial trivial (fun _ => rfl) fun found =>
    portable_require _ fun point => ?_
  refine portable_call _ trivial trivial (fun _ => rfl) fun found =>
    portable_require _ fun active => ?_
  refine portable_call _ trivial trivial (fun _ => rfl) fun found =>
    portable_require _ fun last => ?_
  refine portable_call _ trivial trivial (fun _ => rfl) fun deleted => ?_
  cases deleted <;> trivial

/-- **Every operation is portable.** -/
theorem portable (q : Request) (h : q.InYears) : q.program.Portable := by
  cases q with
  | create stamp id cityName registered => exact portable_create stamp id cityName registered h
  | get id => exact portable_get id
  | openAt stamp p => exact portable_openAt stamp p h
  | closeAt p => exact portable_closeAt p
  | addTo stamp p typeName => exact portable_addTo stamp p typeName h
  | removeFrom p => exact portable_removeFrom p

end Request

/-! ## Both stores -/

/-- **Stores in step**: sound, and with the same books, whose times are in the years. -/
structure InStep (s : InMemory) (db : Database) (b : Books) : Prop where
  memory : s.Sound
  database : db.Sound
  memory_books : s.books = b
  database_books : db.books = b
  years : b.InYears

theorem inStep_new : InStep .new .seeded .empty where
  memory := InMemory.new_sound
  database := Database.seeded_sound
  memory_books := InMemory.books_new
  database_books := Database.books_seeded
  years := Books.inYears_empty

/-- Of two receptions in progress at one pickup point both are the one that `active` names. -/
theorem InMemory.Sound.single {s : InMemory} (hs : s.Sound) {r₁ r₂ : Reception}
    (h₁ : s.books.InProgress r₁) (h₂ : s.books.InProgress r₂)
    (hp : r₁.pickupPoint = r₂.pickupPoint) : r₁ = r₂ := by
  have hactive := hs.active_iff_inProgress.mpr ⟨r₁, rfl, h₁, rfl⟩
  have hactive' := hs.active_iff_inProgress.mpr ⟨r₂, rfl, h₂, rfl⟩
  rw [hp, hactive'] at hactive
  exact h₁.eq_of_id h₂ (Option.some.inj hactive).symm

/-- **One call** leaves stores in step, and what is looked at in their answers is the same. -/
theorem InStep.answer {s : InMemory} {db : Database} {b : Books} (h : InStep s db b) {c : Call}
    (htold : c.IsTold) (hfits : c.Fits) (hproper : b.Proper c) :
    ∃ b', b.Step c (InMemory.answer c s).1 b' ∧
      c.seen (InMemory.answer c s).1 = c.seen (Database.answer c db).1 ∧
      InStep (InMemory.answer c s).2 (Database.answer c db).2 b' := by
  obtain ⟨hs, hdb, rfl, hbooks, hyears⟩ := h
  -- Both answers are steps of the books in memory, which are those of the database.
  have hproper' : db.books.Proper c := hbooks ▸ hproper
  have hyears' : db.books.InYears := hbooks ▸ hyears
  have hstep := hs.step hproper
  have hstep' := hdb.step hproper'
  have hlast' := hdb.newest (hyears'.inLine hfits)
  rw [hbooks] at hstep' hlast'
  obtain ⟨hseen, hsame⟩ := Books.Step.unique htold hs.single hstep (hs.newest c) hstep' hlast'
  exact ⟨_, hstep, hseen, hs.answer hproper, hdb.answer hproper', rfl, hsame.symm,
    hyears.step hfits hstep⟩

/-- **A portable program is carried out alike**: with the same result and the same books, which
are a decision on the request that it follows. -/
theorem Program.Portable.run {q : Request} {p : Program Verdict} (hp : p.Portable) {a : Account}
    {b : Books} (hfollows : p.Follows q a b) (ha : a.Regular) (hq : a.Unissued q)
    {w : World InMemory} {w' : World Database} (h : InStep w.store w'.store b) :
    (p.run w).1 = (p.run w').1 ∧ ∃ b', a.books.Decides q (p.run w).1 b' ∧
      InStep (p.run w).2.store (p.run w').2.store b' := by
  induction p generalizing b w w' with
  | done v => exact ⟨rfl, b, hfollows, h⟩
  | count k next ih => exact ih hp hfollows h
  | ask c next ih =>
    obtain ⟨htold, hfits, hnext⟩ := hp
    obtain ⟨rfl, hfollows⟩ := hfollows
    obtain ⟨hproper, hfollows⟩ := hfollows a (.refl a) ha hq
    obtain ⟨b', hstep, hseen, h⟩ := h.answer htold hfits hproper
    have hsame : next (Storage.answer c w'.store).1 = next (Storage.answer c w.store).1 :=
      calc next (Storage.answer c w'.store).1
        _ = next (c.seen (Storage.answer c w'.store).1) := (hnext _).1.symm
        _ = next (c.seen (Storage.answer c w.store).1) := congrArg next hseen.symm
        _ = next (Storage.answer c w.store).1 := (hnext _).1
    simp only [Program.run, hsame]
    exact ih _ (hnext _).2 (hfollows _ _ hstep) h

end PickupLedger
