import PickupLedger.Proofs.OverviewView

/-!
# The index of receptions in progress

The store in memory answers from the table `active` which reception of a pickup point is in
progress.  The operations call it with care, and then the table is right because the store
is sound.  Here it is asked anything at all: receptions are added in any status and under
identifiers that are taken, and moved from any status to any other, back to `inProgress`
as well.

Whatever a call does to the receptions and to `active` is one of five changes
(`InMemory.Change`): a closed reception that is reopened enters its place like a new one.
Each of them leaves an entry with every reception in progress (`InMemory.Indexed`), and as
long as no reception is replaced while it is in progress, nothing but these
(`InMemory.Exact`).  So the answer from `active` is what a scan of all receptions finds.
-/

namespace PickupLedger

/-- **A call that replaces no reception**: if it adds one, the identifier is free. -/
def Call.AddsAnew (s : InMemory) : Call → Prop
  | .addReception r => s.receptions.get? r.id = none
  | _ => True

namespace InMemory

/-- No call of a run replaces a reception. -/
def AllAnew (s : InMemory) : List Call → Prop
  | [] => True
  | c :: cs => c.AddsAnew s ∧ AllAnew (InMemory.answer c s).2 cs

/-- **A scan of all receptions** for those in progress at a pickup point. -/
def scan (s : InMemory) (pickupPoint : Uuid) : List Reception :=
  s.receptions.rows.filter fun r =>
    r.pickupPoint = pickupPoint && r.statusId = Seed.inProgressId

/-- **Every reception in progress is the entry of its pickup point.** -/
def Indexed (s : InMemory) : Prop :=
  ∀ {id r}, s.receptions.get? id = some r → r.statusId = Seed.inProgressId →
    s.active.get? r.pickupPoint = some id

/-- **Every entry is a reception in progress** at that pickup point. -/
def Exact (s : InMemory) : Prop :=
  ∀ {p id}, s.active.get? p = some id →
    ∃ r, s.receptions.get? id = some r ∧ r.pickupPoint = p ∧ r.statusId = Seed.inProgressId

/-! ## What a call changes -/

/-- **What a call may do to the receptions and to `active`**; if it replaces no reception, none
that is in progress goes. -/
inductive Change (s : InMemory) (anew : Prop) : Table Uuid Uuid → Table Uuid Reception → Prop where
  | nothing : Change s anew s.active s.receptions
  /-- A reception gets a row in progress and takes the free place of its pickup point. -/
  | enter (r : Reception) (hstatus : r.statusId = Seed.inProgressId)
      (hfree : s.active.get? r.pickupPoint = none)
      (hanew : anew → ∀ row, s.receptions.get? r.id = some row →
        row.statusId ≠ Seed.inProgressId) :
      Change s anew (s.active.put r.pickupPoint r.id) (s.receptions.put r.id r)
  /-- A reception gets a row that is closed. -/
  | record (r : Reception) (hstatus : r.statusId = Seed.closedId)
      (hanew : anew → ∀ row, s.receptions.get? r.id = some row →
        row.statusId ≠ Seed.inProgressId) :
      Change s anew s.active (s.receptions.put r.id r)
  /-- A reception is closed and gives up its place. -/
  | leave (row : Reception) (hrow : s.receptions.get? row.id = some row)
      (hplace : s.active.get? row.pickupPoint = some row.id) :
      Change s anew (s.active.erase row.pickupPoint)
        (s.receptions.put row.id { row with statusId := Seed.closedId })
  /-- A row is written again. -/
  | again (row : Reception) (hrow : s.receptions.get? row.id = some row) :
      Change s anew s.active (s.receptions.put row.id row)

section Changes
variable {s : InMemory} (hs : s.Filed)
include hs

/-- Two numbers of one status are the same. -/
theorem Filed.eq_of_kindOf {id id' : RefId} {kind : StatusKind} (h : s.kindOf id = .ok kind)
    (h' : s.kindOf id' = .ok kind) : id = id' :=
  (hs.of_kindOf h).trans (hs.of_kindOf h').symm

theorem Filed.change_addReception (r : Reception) :
    Change s (s.receptions.get? r.id = none) (s.addReception r).2.active
      (s.addReception r).2.receptions := by
  have hanew : s.receptions.get? r.id = none → ∀ row, s.receptions.get? r.id = some row →
      row.statusId ≠ Seed.inProgressId := fun hnone row hrow => by
    rw [hnone] at hrow
    cases hrow
  rw [InMemory.addReception]
  cases hkind : s.kindOf r.statusId with
  | error e => exact .nothing
  | ok kind =>
    cases kind with
    | closed => exact .record { r with status := none } (hs.of_kindOf hkind) hanew
    | inProgress =>
      simp only
      split
      case isTrue => exact .nothing
      case isFalse htaken =>
        exact .enter { r with status := none } (hs.of_kindOf hkind) (Table.get?_of_not_contains htaken) hanew

/-- A move writes the row of the reception with another status, or with the same. -/
theorem Filed.change_moveReception (id : Uuid) (source target : RefId) (anew : Prop) :
    Change s anew (s.moveReception id source target).2.active
      (s.moveReception id source target).2.receptions := by
  rw [InMemory.moveReception]
  cases hsource : s.kindOf source with
  | error e => exact .nothing
  | ok sourceKind =>
    cases htarget : s.kindOf target with
    | error e => exact .nothing
    | ok targetKind =>
      cases hrow : s.receptions.get? id with
      | none => exact .nothing
      | some row =>
        obtain rfl : row.id = id := hs.reception_id hrow
        by_cases hstatus : row.statusId = source
        case neg => simpa only [hstatus, if_false] using .nothing
        simp only [hstatus, if_true]
        -- Two different statuses move the place; one status leaves the row as it was.
        cases sourceKind <;> cases targetKind <;> simp only [shiftActive]
        case inProgress.closed =>
          obtain rfl := hs.of_kindOf htarget
          by_cases hplace : s.active.get? row.pickupPoint = some row.id
          · simp only [hplace, if_true]
            exact .leave row hrow hplace
          · simp only [hplace, if_false]
            exact .nothing
        case closed.inProgress =>
          obtain rfl := hs.of_kindOf htarget
          by_cases htaken : s.active.contains row.pickupPoint = true
          · simp only [htaken, if_true]
            exact .nothing
          · simp only [htaken]
            refine .enter { row with statusId := Seed.inProgressId } rfl (Table.get?_of_not_contains htaken)
              fun _ row' hrow' => ?_
            rw [hrow] at hrow'
            rw [← Option.some.inj hrow', hstatus, hs.of_kindOf hsource]
            exact closedId_ne_inProgressId
        all_goals
          obtain rfl := hs.eq_of_kindOf hsource htarget
          subst hstatus
          exact .again row hrow

/-- **Every call makes one of the changes.** -/
theorem Filed.change (c : Call) :
    Change s (c.AddsAnew s) (InMemory.answer c s).2.active (InMemory.answer c s).2.receptions := by
  cases c with
  | addReception r => exact hs.change_addReception r
  | moveReception id source target => exact hs.change_moveReception id source target _
  | addPickupPoint p =>
    rw [InMemory.answer, addPickupPoint]
    split <;> exact .nothing
  | addProduct x =>
    rw [InMemory.answer, addProduct]
    split
    · exact .nothing
    · split <;> exact .nothing
  | _ => exact .nothing

end Changes

section Kept
variable {s s' : InMemory} {anew : Prop}

/-- **The changes leave every reception in progress with its entry.** -/
theorem Change.indexed (h : Change s anew s'.active s'.receptions) (hs : s.Indexed) :
    s'.Indexed := by
  intro id r hr hin
  generalize s'.active = active, s'.receptions = receptions at h hr
  cases h with
  | nothing => exact hs hr hin
  | enter new hstatus hfree =>
    rw [Table.get?_put] at hr ⊢
    split at hr
    case isTrue hid =>
      rw [← Option.some.inj hr, if_pos rfl, hid]
    case isFalse =>
      have hplace := hs hr hin
      -- The place was free, so it is not that of another reception in progress.
      have hne : r.pickupPoint ≠ new.pickupPoint := fun heq => by
        rw [heq, hfree] at hplace
        cases hplace
      rw [if_neg hne]
      exact hplace
  | record new hstatus =>
    rw [Table.get?_put] at hr
    split at hr
    case isTrue =>
      rw [← Option.some.inj hr, hstatus] at hin
      exact absurd hin closedId_ne_inProgressId
    case isFalse => exact hs hr hin
  | leave row hrow hplace =>
    rw [Table.get?_put] at hr
    split at hr
    case isTrue =>
      rw [← Option.some.inj hr] at hin
      exact absurd hin closedId_ne_inProgressId
    case isFalse hid =>
      have hother := hs hr hin
      have hne : r.pickupPoint ≠ row.pickupPoint := fun heq => by
        rw [heq, hplace] at hother
        exact hid (Option.some.inj hother).symm
      rw [Table.get?_erase, if_neg hne]
      exact hother
  | again row hrow =>
    rw [Table.get?_put] at hr
    split at hr
    case isTrue hid =>
      obtain rfl := Option.some.inj hr
      rw [hid]
      exact hs hrow hin
    case isFalse => exact hs hr hin

/-- **If no reception is replaced, every entry stays one in progress.** -/
theorem Change.exact (h : Change s anew s'.active s'.receptions) (hs : s.Exact) (ha : anew) :
    s'.Exact := by
  intro p id hp
  generalize s'.active = active, s'.receptions = receptions at h hp ⊢
  cases h with
  | nothing => exact hs hp
  | enter new hstatus hfree hanew =>
    rw [Table.get?_put] at hp
    simp only [Table.get?_put]
    split at hp
    case isTrue heq =>
      obtain rfl := Option.some.inj hp
      exact ⟨new, if_pos rfl, heq.symm, hstatus⟩
    case isFalse =>
      obtain ⟨r, hr, hpoint, hin⟩ := hs hp
      have hid : id ≠ new.id := fun heq => hanew ha r (heq ▸ hr) hin
      exact ⟨r, by rw [if_neg hid]; exact hr, hpoint, hin⟩
  | record new hstatus hanew =>
    obtain ⟨r, hr, hpoint, hin⟩ := hs hp
    have hid : id ≠ new.id := fun heq => hanew ha r (heq ▸ hr) hin
    exact ⟨r, by rw [Table.get?_put, if_neg hid]; exact hr, hpoint, hin⟩
  | leave row hrow hplace =>
    rw [Table.get?_erase] at hp
    split at hp
    case isTrue => cases hp
    case isFalse hne =>
      obtain ⟨r, hr, hpoint, hin⟩ := hs hp
      have hid : id ≠ row.id := fun heq => by
        rw [heq, hrow] at hr
        exact hne (by rw [Option.some.inj hr, hpoint])
      exact ⟨r, by rw [Table.get?_put, if_neg hid]; exact hr, hpoint, hin⟩
  | again row hrow =>
    obtain ⟨r, hr, hpoint, hin⟩ := hs hp
    refine ⟨r, ?_, hpoint, hin⟩
    rw [Table.get?_put]
    split
    case isTrue hid => rw [← hr, hid, hrow]
    case isFalse => exact hr

end Kept

/-! ## Any calls -/

theorem Indexed.after {s : InMemory} (hf : s.Filed) (hs : s.Indexed) (calls : List Call) :
    (s.after calls).Indexed := by
  induction calls generalizing s with
  | nil => exact hs
  | cons c cs ih => exact ih (hf.answer c) ((hf.change c).indexed hs)

theorem Exact.after {s : InMemory} (hf : s.Filed) (hs : s.Exact) {calls : List Call}
    (hanew : s.AllAnew calls) : (s.after calls).Exact := by
  induction calls generalizing s with
  | nil => exact hs
  | cons c cs ih => exact ih (hf.answer c) ((hf.change c).exact hs hanew.1) hanew.2

section Scan
variable {s : InMemory} (hf : s.Filed)

theorem mem_scan {p : Uuid} {r : Reception} :
    r ∈ s.scan p ↔ r ∈ s.receptions.rows ∧ r.pickupPoint = p ∧ r.statusId = Seed.inProgressId := by
  simp only [scan, List.mem_filter, Bool.and_eq_true, decide_eq_true_eq]

include hf

/-- A row is found under its identifier. -/
theorem Filed.get?_of_mem_rows {r : Reception} (h : r ∈ s.receptions.rows) :
    s.receptions.get? r.id = some r := by
  obtain ⟨⟨id, row⟩, hmem, rfl⟩ := List.mem_map.mp h
  have hrow := Table.get?_eq_some_iff.mpr hmem
  rw [hf.reception_id hrow]
  exact hrow

/-- **A pickup point has at most one reception in progress.** -/
theorem Indexed.length_scan (hs : s.Indexed) (p : Uuid) : (s.scan p).length ≤ 1 := by
  have hids : ((s.scan p).map Reception.id).Nodup :=
    (nodup_ids hf.reception_id).sublist (List.filter_sublist.map _)
  have hentry : ∀ r ∈ s.scan p, s.active.get? p = some r.id := fun r hr => by
    obtain ⟨hmem, rfl, hin⟩ := mem_scan.mp hr
    exact hs (hf.get?_of_mem_rows hmem) hin
  match hscan : s.scan p with
  | [] => exact Nat.zero_le _
  | [r] => exact Nat.le_refl _
  | r :: r' :: rest =>
    rw [hscan] at hids hentry
    have hsame : r.id = r'.id := Option.some.inj
      ((hentry r List.mem_cons_self).symm.trans
        (hentry r' (List.mem_cons_of_mem _ List.mem_cons_self)))
    exact absurd (hsame ▸ List.mem_cons_self) (List.nodup_cons.mp hids).1

/-- The entry of a pickup point is what the scan finds. -/
theorem Exact.bind_active (hexact : s.Exact) (hs : s.Indexed) (p : Uuid) :
    (s.active.get? p).bind s.receptions.get? = (s.scan p).head? := by
  cases hactive : s.active.get? p with
  | none =>
    have hnil : s.scan p = [] := List.eq_nil_iff_forall_not_mem.mpr fun r hr => by
      obtain ⟨hmem, rfl, hin⟩ := mem_scan.mp hr
      rw [hs (hf.get?_of_mem_rows hmem) hin] at hactive
      cases hactive
    rw [hnil]
    rfl
  | some id =>
    obtain ⟨r, hr, hpoint, hin⟩ := hexact hactive
    have hrows : r ∈ s.receptions.rows := List.mem_map_of_mem (Table.get?_eq_some_iff.mp hr)
    have hmem : r ∈ s.scan p := mem_scan.mpr ⟨hrows, hpoint, hin⟩
    have hone := hs.length_scan hf p
    -- The scan finds this one, and there is no room for another.
    match hscan : s.scan p with
    | [] => rw [hscan] at hmem; cases hmem
    | r' :: rest =>
      rw [hscan, List.length_cons] at hone
      obtain rfl : rest = [] := List.eq_nil_of_length_eq_zero (by omega)
      rw [hscan, List.mem_singleton] at hmem
      rw [Option.bind_some, hr, hmem]
      rfl

/-- **The answer from the index is that of a scan.** -/
theorem Exact.receptionInStatus (hexact : s.Exact) (hs : s.Indexed) (p : Uuid) :
    (InMemory.answer (.receptionInStatus .inProgress p) s).1 =
      .ok ((s.scan p).head?.map fun r => { r with status := some .inProgress }) := by
  have hstatus : s.statusOf? .inProgress = some (Seed.status .inProgress) := by
    rw [statusOf?, hf.statuses]
    rfl
  have hfound : s.inStatus? .inProgress p = (s.scan p).head? := by
    simp only [inStatus?, hstatus]
    exact hexact.bind_active hf hs p
  simp only [InMemory.answer, hfound]
  cases hhead : (s.scan p).head? with
  | none => rfl
  | some r =>
    obtain ⟨-, -, hin⟩ := mem_scan.mp (List.mem_of_head? hhead)
    have hkind : s.kindOf r.statusId = .ok .inProgress := hin ▸ hf.kindOf .inProgress
    simp only [InMemory.resolveReception, hkind, Except.map, Option.map_some]

end Scan
end InMemory

open InMemory

/-- **The index is right, whatever the store is asked.**  After any calls every reception in
progress is the entry of its pickup point, which therefore has at most one; and if no call has
added a reception under an identifier that was taken, the index holds nothing else, and the
answer from it is the reception in progress that a scan finds, or none. -/
theorem active_index_right (calls : List Call) :
    let s := InMemory.new.after calls
    (∀ r ∈ s.receptions.rows, r.statusId = Seed.inProgressId →
      s.active.get? r.pickupPoint = some r.id) ∧
    (∀ p, (s.scan p).length ≤ 1) ∧
    (InMemory.new.AllAnew calls →
      (∀ p id, s.active.get? p = some id ↔ ∃ r ∈ s.scan p, r.id = id) ∧
      ∀ p, (InMemory.answer (.receptionInStatus .inProgress p) s).1 =
        .ok ((s.scan p).head?.map fun r => { r with status := some .inProgress })) := by
  intro s
  have hf : s.Filed := new_filed.after calls
  have hs : s.Indexed := Indexed.after new_filed nofun calls
  refine ⟨fun r hr hin => hs (hf.get?_of_mem_rows hr) hin, hs.length_scan hf, fun hanew => ?_⟩
  have hexact : s.Exact := Exact.after new_filed nofun hanew
  refine ⟨fun p id => ⟨fun hactive => ?_, ?_⟩, hexact.receptionInStatus hf hs⟩
  · obtain ⟨r, hr, hpoint, hin⟩ := hexact hactive
    have hrows : r ∈ s.receptions.rows := List.mem_map_of_mem (Table.get?_eq_some_iff.mp hr)
    exact ⟨r, mem_scan.mpr ⟨hrows, hpoint, hin⟩, hf.reception_id hr⟩
  · rintro ⟨r, hr, rfl⟩
    obtain ⟨hmem, rfl, hin⟩ := mem_scan.mp hr
    exact hs (hf.get?_of_mem_rows hmem) hin

/-- A pickup point with a reception that is closed and one that is entered closed and then
reopened; a third may not start, nor may the first reopen. -/
def reopening : List Call :=
  [.addReception (.begun (.generated 1) (.ofNat 1) .epoch),
    .moveReception (.generated 1) Seed.inProgressId Seed.closedId,
    .addReception ⟨.generated 2, .ofNat 1, .epoch, Seed.closedId, none⟩,
    .moveReception (.generated 2) Seed.closedId Seed.inProgressId,
    .addReception (.begun (.generated 3) (.ofNat 1) .epoch),
    .moveReception (.generated 1) Seed.closedId Seed.inProgressId]

/-- **The reception that was reopened is found**, as the only one in progress. -/
theorem reopened_reception_found :
    let s := InMemory.new.after reopening
    let r : Reception := ⟨.generated 2, .ofNat 1, .epoch, Seed.inProgressId, none⟩
    InMemory.new.AllAnew reopening ∧ s.receptions.rows.length = 2 ∧ s.scan (.ofNat 1) = [r] ∧
      s.active.get? (.ofNat 1) = some (.generated 2) ∧
      (InMemory.answer (.receptionInStatus .inProgress (.ofNat 1)) s).1 =
        .ok (some { r with status := some .inProgress }) := by
  intro s r
  have hanew : InMemory.new.AllAnew reopening := ⟨rfl, trivial, rfl, trivial, rfl, trivial, trivial⟩
  have hscan : s.scan (.ofNat 1) = [r] := by decide
  obtain ⟨hentry, -, hright⟩ := active_index_right reopening
  refine ⟨hanew, by decide, hscan, hentry r (by decide) rfl, ?_⟩
  have hanswer := (hright hanew).2 (.ofNat 1)
  rwa [hscan] at hanswer

/-- An identifier that is used again may leave an entry without a reception in progress. -/
example :
    let closed : Reception := ⟨.generated 1, .ofNat 1, .epoch, Seed.closedId, none⟩
    let s := InMemory.new.after
      [.addReception (.begun (.generated 1) (.ofNat 1) .epoch), .addReception closed]
    s.active.get? (.ofNat 1) = some (.generated 1) ∧ s.scan (.ofNat 1) = [] := by
  decide

end PickupLedger
