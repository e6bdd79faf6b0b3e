import Mathlib.Logic.Relation
import PickupLedger.Proofs.Books
import PickupLedger.Proofs.Requests

/-!
# Accounts

An operation makes several calls, but only its last one changes records, and with it the
operation is decided.  `Books.Decides` says what one decision may be and what it does:
which verdicts a request can get from the books, and the books after it.

An `Account` is what has been decided so far, the latest decision first, with the books
that follow from it.  It goes on by one decision at a time (`Account.Next`), each under an
identifier that no earlier one was issued.  Two kinds of facts hold of it:

* what is true of every account that starts from nothing (`Account.Regular`): records stand
  under their own identifiers, which have been issued; a reception has one of two forms,
  and a pickup point at most one that is in progress;
* what a later account leaves of an earlier one (`Account.Reaches`): a pickup point stays,
  a reception may have ended, and a product may be gone, but for good.

The second kind is all that an operation can rely on between two of its calls.
-/

namespace PickupLedger

/-! ## Decisions -/

/-- **What a request may be told**, and the books after it. -/
inductive Books.Decides (b : Books) : Request → Verdict → Books → Prop where
  | refused (q : Request) (failure : Failure) : Decides b q (.error failure) b
  | created {stamp : Stamp} {id : Uuid} {cityName : String} {registered : Option Instant}
      {city : City} (hcity : Seed.city? cityName = some city) (hfree : b.point? id = none) :
      Decides b (.create stamp id cityName registered)
        (.ok (.point (.inCity id (registered.getD stamp.now) city)))
        (b.putPoint (.inCity id (registered.getD stamp.now) city))
  | found {id : Uuid} {p : PickupPoint} (hp : b.point? id = some p) :
      Decides b (.get id) (.ok (.point p)) b
  | opened {stamp : Stamp} {p : Uuid} (hnew : b.reception? stamp.fresh = none)
      (hfree : ¬ b.Occupied p) :
      Decides b (.openAt stamp p) (.ok (.reception (.begun stamp.fresh p stamp.now)))
        (b.putReception (.begun stamp.fresh p stamp.now))
  | closed {r : Reception} (hr : b.InProgress r) :
      Decides b (.closeAt r.pickupPoint) (.ok (.reception r.ended)) (b.putReception r.ended)
  | added {stamp : Stamp} {r : Reception} {typeName : String} {type : ProductType}
      (htype : Seed.productType? typeName = some type) (hnew : b.product? stamp.fresh = none)
      (hr : b.InProgress r) :
      Decides b (.addTo stamp r.pickupPoint typeName)
        (.ok (.product (.ofType stamp.fresh r.id stamp.now type)))
        (b.putProduct (.ofType stamp.fresh r.id stamp.now type))
  | removed {x : Product} {r : Reception} (hx : b.Has x) (hr : b.reception? x.reception = some r) :
      Decides b (.removeFrom r.pickupPoint) (.ok (.product x)) (b.dropProduct x.id)

/-- **A decision** on the request of a task. -/
structure Decision where
  task : Nat
  request : Request
  verdict : Verdict

/-- **What has been decided**, the latest first, and the books that follow. -/
structure Account where
  decided : List Decision
  books : Books

namespace Account

/-- Nothing decided. -/
def start : Account := ⟨[], .empty⟩

/-- The identifiers that decided requests came with. -/
def issued (a : Account) : List Uuid := a.decided.filterMap fun d => d.request.fresh?

/-- The request has an identifier that no other was issued. -/
def Unissued (a : Account) (q : Request) : Prop := ∀ id, q.fresh? = some id → id ∉ a.issued

/-- **One more decision.** -/
inductive Next (a : Account) : Account → Prop where
  | decide {d : Decision} {b : Books} (h : a.books.Decides d.request d.verdict b)
      (hfresh : a.Unissued d.request) : Next a ⟨d :: a.decided, b⟩

/-- **Later accounts.** -/
def Reaches : Account → Account → Prop := Relation.ReflTransGen Next

theorem Reaches.refl (a : Account) : a.Reaches a := Relation.ReflTransGen.refl

theorem Reaches.trans {a₁ a₂ a₃ : Account} (h : a₁.Reaches a₂) (h' : a₂.Reaches a₃) :
    a₁.Reaches a₃ := Relation.ReflTransGen.trans h h'

theorem mem_issued_cons {a : Account} {d : Decision} {b : Books} {id : Uuid} :
    id ∈ issued ⟨d :: a.decided, b⟩ ↔ d.request.fresh? = some id ∨ id ∈ a.issued := by
  simp only [issued, List.mem_filterMap, List.mem_cons, exists_eq_or_imp]

theorem Next.issued {a a' : Account} (h : a.Next a') {id : Uuid} (hid : id ∈ a.issued) :
    id ∈ a'.issued := by
  cases h with
  | decide h hfresh => exact mem_issued_cons.mpr (.inr hid)

end Account

/-! ## What is true of every account -/

/-- **What holds from the start on**, with the identifiers that were issued so far. -/
structure Books.Regular (b : Books) (issued : List Uuid) : Prop where
  reception_id : ∀ {id r}, b.reception? id = some r → r.id = id
  product_id : ∀ {id x}, b.product? id = some x → x.id = id
  reception_issued : ∀ {id r}, b.reception? id = some r → id ∈ issued
  product_issued : ∀ {id x}, b.product? id = some x → id ∈ issued
  /-- A reception is as it began, or as it ended. -/
  form : ∀ {id r}, b.reception? id = some r →
    r = .begun r.id r.pickupPoint r.opened ∨
      r = (Reception.begun r.id r.pickupPoint r.opened).ended
  /-- A pickup point has at most one reception in progress. -/
  single : ∀ {r₁ r₂}, b.InProgress r₁ → b.InProgress r₂ → r₁.pickupPoint = r₂.pickupPoint →
    r₁ = r₂

namespace Books

theorem regular_empty : empty.Regular [] := by
  constructor <;> simp [empty, InProgress]

section Regular
variable {b : Books} {ids : List Uuid} (hb : b.Regular ids)
include hb

theorem Regular.mono {ids' : List Uuid} (h : ∀ id ∈ ids, id ∈ ids') : b.Regular ids' :=
  { hb with
    reception_issued := fun hr => h _ (hb.reception_issued hr)
    product_issued := fun hx => h _ (hb.product_issued hx) }

theorem Regular.reception?_unissued {id : Uuid} (hid : id ∉ ids) : b.reception? id = none := by
  cases h : b.reception? id with
  | none => rfl
  | some r => exact absurd (hb.reception_issued h) hid

theorem Regular.product?_unissued {id : Uuid} (hid : id ∉ ids) : b.product? id = none := by
  cases h : b.product? id with
  | none => rfl
  | some x => exact absurd (hb.product_issued h) hid

theorem Regular.putPoint (p : PickupPoint) : (b.putPoint p).Regular ids := { hb with }

/-- A reception in progress is as it began. -/
theorem Regular.begun {r : Reception} (hr : b.InProgress r) :
    r = .begun r.id r.pickupPoint r.opened := by
  rcases hb.form hr.1 with h | h
  · exact h
  · rw [h] at hr
    cases hr.2

theorem Regular.statusId {r : Reception} (hr : b.InProgress r) :
    r.statusId = Seed.inProgressId := by
  rw [hb.begun hr]; rfl

theorem Regular.begin {r : Reception} (hid : r.id ∈ ids)
    (hr : r = .begun r.id r.pickupPoint r.opened) (hfree : ¬ b.Occupied r.pickupPoint) :
    (b.putReception r).Regular ids where
  reception_id {id r'} h := by
    rw [putReception_reception?] at h
    split at h
    · next heq => rw [← Option.some.inj h, heq]
    · exact hb.reception_id h
  product_id := hb.product_id
  reception_issued {id r'} h := by
    rw [putReception_reception?] at h
    split at h
    · next heq => rw [heq]; exact hid
    · exact hb.reception_issued h
  product_issued := hb.product_issued
  form {id r'} h := by
    rw [putReception_reception?] at h
    split at h
    · rw [← Option.some.inj h]; exact .inl hr
    · exact hb.form h
  single {r₁ r₂} h₁ h₂ hp := by
    rcases (inProgress_putReception ..).mp h₁ with ⟨h₁, -⟩ | ⟨-, h₁⟩
    · rcases (inProgress_putReception ..).mp h₂ with ⟨h₂, -⟩ | ⟨-, h₂⟩
      · rw [h₁, h₂]
      · exact absurd ⟨r₂, h₂, by rw [← hp, h₁]⟩ hfree
    · rcases (inProgress_putReception ..).mp h₂ with ⟨h₂, -⟩ | ⟨-, h₂⟩
      · exact absurd ⟨r₁, h₁, by rw [hp, h₂]⟩ hfree
      · exact hb.single h₁ h₂ hp

theorem Regular.finish {r : Reception} (hr : b.InProgress r) :
    (b.putReception r.ended).Regular ids where
  reception_id {id r'} h := by
    rw [putReception_ended] at h
    split at h
    · next heq => rw [← Option.some.inj h, heq]; rfl
    · exact hb.reception_id h
  product_id := hb.product_id
  reception_issued {id r'} h := by
    rw [putReception_ended] at h
    split at h
    · next heq => rw [heq]; exact hb.reception_issued hr.1
    · exact hb.reception_issued h
  product_issued := hb.product_issued
  form {id r'} h := by
    rw [putReception_ended] at h
    split at h
    · rw [← Option.some.inj h]
      exact .inr (congrArg Reception.ended (hb.begun hr))
    · exact hb.form h
  single {r₁ r₂} h₁ h₂ hp :=
    hb.single ((inProgress_putReception_ended ..).mp h₁).2
      ((inProgress_putReception_ended ..).mp h₂).2 hp

theorem Regular.putProduct {x : Product} (hid : x.id ∈ ids) : (b.putProduct x).Regular ids :=
  { hb with
    product_id := fun {id y} h => by
      rw [putProduct_product?] at h
      split at h
      · next heq => rw [← Option.some.inj h, heq]
      · exact hb.product_id h
    product_issued := fun {id y} h => by
      rw [putProduct_product?] at h
      split at h
      · next heq => rw [heq]; exact hid
      · exact hb.product_issued h }

theorem Regular.dropProduct (gone : Uuid) : (b.dropProduct gone).Regular ids :=
  { hb with
    product_id := fun {id x} h => by
      rw [dropProduct_product?] at h
      split at h
      · cases h
      · exact hb.product_id h
    product_issued := fun {id x} h => by
      rw [dropProduct_product?] at h
      split at h
      · cases h
      · exact hb.product_issued h }

end Regular
end Books

namespace Account

/-- The account is as one that starts from nothing. -/
def Regular (a : Account) : Prop := a.books.Regular a.issued

theorem start_regular : start.Regular := Books.regular_empty

section Fresh
variable {a : Account} (ha : a.Regular) {q : Request} (hq : a.Unissued q) {id : Uuid}
  (hid : q.fresh? = some id)
include ha hq hid

theorem Regular.reception?_fresh : a.books.reception? id = none :=
  ha.reception?_unissued (hq id hid)

theorem Regular.product?_fresh : a.books.product? id = none := ha.product?_unissued (hq id hid)

end Fresh

theorem Next.regular {a a' : Account} (h : a.Next a') (ha : a.Regular) : a'.Regular := by
  have hkeep := fun id (hid : id ∈ a.issued) => h.issued hid
  cases h with
  | @decide d b h hfresh =>
    obtain ⟨task, request, verdict⟩ := d
    have hown : ∀ id, request.fresh? = some id →
        id ∈ Account.issued ⟨⟨task, request, verdict⟩ :: a.decided, b⟩ :=
      fun id hid => mem_issued_cons.mpr (.inl hid)
    have hmono := ha.mono hkeep
    cases h with
    | refused q failure => exact hmono
    | created hcity hfree => exact hmono.putPoint _
    | found hp => exact hmono
    | opened hnew hfree => exact hmono.begin (hown _ rfl) rfl hfree
    | closed hr => exact hmono.finish hr
    | added htype hnew hr => exact hmono.putProduct (hown _ rfl)
    | removed hx hr => exact hmono.dropProduct _

theorem Reaches.regular {a a' : Account} (h : a.Reaches a') (ha : a.Regular) : a'.Regular := by
  induction h with
  | refl => exact ha
  | tail _ h ih => exact h.regular ih

/-! ## What later accounts leave -/

theorem Reaches.issued {a a' : Account} (h : a.Reaches a') {id : Uuid} (hid : id ∈ a.issued) :
    id ∈ a'.issued := by
  induction h with
  | refl => exact hid
  | tail _ h ih => exact h.issued ih

theorem Next.point {a a' : Account} (h : a.Next a') {id : Uuid} {p : PickupPoint}
    (hp : a.books.point? id = some p) : a'.books.point? id = some p := by
  cases h with
  | @decide d b h hfresh =>
    obtain ⟨task, request, verdict⟩ := d
    cases h with
    | @created stamp id' _ registered city hcity hfree =>
      have hne : id ≠ id' := fun heq => by rw [← heq, hp] at hfree; cases hfree
      exact (if_neg hne).trans hp
    | _ => exact hp

/-- **A pickup point stays.** -/
theorem Reaches.point {a a' : Account} (h : a.Reaches a') {id : Uuid} {p : PickupPoint}
    (hp : a.books.point? id = some p) : a'.books.point? id = some p := by
  induction h with
  | refl => exact hp
  | tail _ h ih => exact h.point ih

theorem Next.reception {a a' : Account} (h : a.Next a') {id : Uuid} {r : Reception}
    (hr : a.books.reception? id = some r) :
    a'.books.reception? id = some r ∨
      (a.books.InProgress r ∧ a'.books.reception? id = some r.ended) := by
  cases h with
  | @decide d b h hfresh =>
    obtain ⟨task, request, verdict⟩ := d
    cases h with
    | @opened stamp p hnew hfree =>
      have hne : id ≠ stamp.fresh := fun heq => by rw [← heq, hr] at hnew; cases hnew
      exact .inl ((if_neg hne).trans hr)
    | @closed r' hr' =>
      rw [Books.putReception_ended]
      split
      · next heq =>
        have hsame : r = r' := Option.some.inj (hr.symm.trans (heq ▸ hr'.1))
        exact .inr ⟨hsame ▸ hr', by rw [hsame]⟩
      · exact .inl hr
    | _ => exact .inl hr

/-- **A reception stays**, as it is or ended. -/
theorem Reaches.reception {a a' : Account} (h : a.Reaches a') {id : Uuid} {r : Reception}
    (hr : a.books.reception? id = some r) :
    a'.books.reception? id = some r ∨ a'.books.reception? id = some r.ended := by
  induction h with
  | refl => exact .inl hr
  | tail _ h ih =>
    rcases ih with ih | ih
    · rcases h.reception ih with h | ⟨-, h⟩
      · exact .inl h
      · exact .inr h
    · rcases h.reception ih with h | ⟨-, h⟩
      · exact .inr h
      · exact .inr h

/-- **A closed reception stays closed.** -/
theorem Reaches.closed {a a' : Account} (h : a.Reaches a') (ha : a.Regular) {r : Reception}
    (hr : a.books.Closed r) : a'.books.Closed r := by
  refine ⟨?_, hr.2⟩
  -- What is closed has ended, and to end once more would change nothing.
  have hended : r.ended = r := by
    rcases ha.form hr.1 with hform | hform
    · have hstatus := hr.2
      rw [hform] at hstatus
      cases hstatus
    · rw [hform]; rfl
  rcases h.reception hr.1 with h | h
  · exact h
  · rw [h, hended]

/-- Whatever is in progress later under the identifier of a reception in progress, is it. -/
theorem Reaches.inProgress_unique {a a' : Account} (h : a.Reaches a') {r r' : Reception}
    (hr : a.books.InProgress r) (hr' : a'.books.InProgress r') (hid : r'.id = r.id) : r' = r := by
  have hsame := hr'.1
  rw [hid] at hsame
  rcases h.reception hr.1 with h | h
  · exact Option.some.inj (hsame.symm.trans h)
  · have hstatus := hr'.2
    rw [Option.some.inj (hsame.symm.trans h)] at hstatus
    cases hstatus

theorem Next.product {a a' : Account} (h : a.Next a') {id : Uuid} (hid : id ∈ a.issued) :
    a'.books.product? id = a.books.product? id ∨ a'.books.product? id = none := by
  cases h with
  | @decide d b h hfresh =>
    obtain ⟨task, request, verdict⟩ := d
    cases h with
    | @added stamp r _ type htype hnew hr =>
      have hne : id ≠ stamp.fresh := fun heq => hfresh _ rfl (heq ▸ hid)
      exact .inl (if_neg hne)
    | @removed x r hx hr =>
      rw [Books.dropProduct_product?]
      split
      · exact .inr rfl
      · exact .inl rfl
    | _ => exact .inl rfl

/-- **A product stays or is gone**, since its identifier is not issued again. -/
theorem Reaches.product {a a' : Account} (h : a.Reaches a') {id : Uuid} (hid : id ∈ a.issued) :
    a'.books.product? id = a.books.product? id ∨ a'.books.product? id = none := by
  induction h with
  | refl => exact .inl rfl
  | tail hreach h ih =>
    rcases h.product (Reaches.issued hreach hid) with h | h
    · rw [h]; exact ih
    · exact .inr h

end Account
end PickupLedger
