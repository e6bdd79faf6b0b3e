import PickupLedger.Toml.Document

/-!
# Whole numbers of a document

Every whole number of a document fits 64 bits, however deep it stands in it and however it is
written (`Toml.inRange_of_read?`): a number that does not fit is read nowhere, and tables in the
making only take over what has been read.
-/

namespace PickupLedger.Toml

/-- **A value whose numbers fit 64 bits**, and those of the values in it. -/
inductive Value.InRange : Value → Prop where
  | string (s : String) : InRange (.string s)
  | integer {i : Int} (h : -0x8000000000000000 ≤ i ∧ i ≤ 0x7fffffffffffffff) :
    InRange (.integer i)
  | float : InRange .float
  | bool (b : Bool) : InRange (.bool b)
  | moment : InRange .moment
  | array {items : List Value} (h : ∀ v ∈ items, v.InRange) : InRange (.array items)
  | table {members : List (String × Value)} (h : ∀ m ∈ members, m.2.InRange) :
    InRange (.table members)

/-- A node that is made of such values. -/
inductive Node.InRange : Node → Prop where
  | value {v : Value} (h : v.InRange) : InRange (.value v)
  | table {origin : Origin} {members : List (String × Node)} (h : ∀ m ∈ members, m.2.InRange) :
    InRange (.table origin members)
  | tables {last : List (String × Node)} {earlier : List (List (String × Node))}
    (hlast : ∀ m ∈ last, m.2.InRange) (hearlier : ∀ ms ∈ earlier, ∀ m ∈ ms, m.2.InRange) :
    InRange (.tables last earlier)

/-! ## Scalars -/

section Scalars
variable {cs rest : List Char} {v : Value}

theorem integer?_inRange {i : Int} (h : integer? i = some v) : v.InRange := by
  rw [integer?] at h
  split at h
  · next hi => exact Option.some.inj h ▸ .integer hi
  · cases h

theorem float?_inRange {negative : Bool} {ds : List Char} {exponent : Int}
    (h : float? negative ds exponent = some v) : v.InRange := by
  rw [float?] at h
  split at h
  · exact Option.some.inj h ▸ .float
  · cases h

theorem based?_inRange {base : Nat} {isDigit : Char → Bool}
    (h : based? base isDigit cs = some (v, rest)) : v.InRange := by
  simp only [based?, Option.bind_eq_some_iff, Option.map_eq_some_iff] at h
  obtain ⟨⟨ds, _⟩, -, w, hw, heq⟩ := h
  exact (Prod.mk.inj heq).1 ▸ integer?_inRange hw

theorem decimal?_inRange {negative : Bool} (h : decimal? negative cs = some (v, rest)) :
    v.InRange := by
  simp only [decimal?, Option.bind_eq_bind, Option.bind_eq_some_iff] at h
  obtain ⟨⟨whole, cs'⟩, -, h⟩ := h
  split at h
  · simp only [Option.bind_eq_some_iff] at h
    obtain ⟨⟨fraction, cs'⟩, -, h⟩ := h
    split at h
    · simp only [Option.bind_eq_some_iff] at h
      obtain ⟨⟨e, _⟩, -, w, hw, heq⟩ := h
      exact (Prod.mk.inj (Option.some.inj heq)).1 ▸ float?_inRange hw
    · simp only [Option.bind_eq_some_iff] at h
      obtain ⟨w, hw, heq⟩ := h
      exact (Prod.mk.inj (Option.some.inj heq)).1 ▸ float?_inRange hw
  · split at h
    · simp only [Option.bind_eq_some_iff] at h
      obtain ⟨⟨e, _⟩, -, w, hw, heq⟩ := h
      exact (Prod.mk.inj (Option.some.inj heq)).1 ▸ float?_inRange hw
    · simp only [Option.bind_eq_some_iff] at h
      obtain ⟨w, hw, heq⟩ := h
      exact (Prod.mk.inj (Option.some.inj heq)).1 ▸ integer?_inRange hw

theorem signed?_inRange {negative : Bool} (h : signed? negative cs = some (v, rest)) :
    v.InRange := by
  rw [signed?] at h
  split at h
  · exact (Prod.mk.inj (Option.some.inj h)).1 ▸ .float
  · exact decimal?_inRange h

theorem scalar?_inRange (h : scalar? cs = some (v, rest)) : v.InRange := by
  have hmap {α : Type} {o : Option (α × List Char)} {f : α → Value} (hf : ∀ a, (f a).InRange)
      (h : (o.map fun p => (f p.1, p.2)) = some (v, rest)) : v.InRange := by
    obtain ⟨p, -, heq⟩ := Option.map_eq_some_iff.mp h
    exact (Prod.mk.inj heq).1 ▸ hf p.1
  have hmoment {o : Option (List Char)}
      (h : (o.map fun rest => (Value.moment, rest)) = some (v, rest)) : v.InRange := by
    obtain ⟨_, -, heq⟩ := Option.map_eq_some_iff.mp h
    exact (Prod.mk.inj heq).1 ▸ .moment
  rw [scalar?.eq_def] at h
  split at h
  · exact hmap (fun cs => .string (String.ofList cs)) h
  · exact hmap (fun cs => .string (String.ofList cs)) h
  · exact (Prod.mk.inj (Option.some.inj h)).1 ▸ .bool true
  · exact (Prod.mk.inj (Option.some.inj h)).1 ▸ .bool false
  · exact based?_inRange h
  · exact based?_inRange h
  · exact based?_inRange h
  · exact signed?_inRange h
  · exact signed?_inRange h
  · split at h
    · exact hmoment h
    · split at h
      · exact hmoment h
      · exact signed?_inRange h

end Scalars

/-! ## Tables in the making -/

namespace Members

/-- Members that are made of such values. -/
def InRange (ms : Members) : Prop := ∀ m ∈ ms, m.2.InRange

variable {ms ms' : Members}

theorem inRange_nil : InRange [] := fun _ h => absurd h List.not_mem_nil

theorem InRange.find? (h : ms.InRange) {key : String} {node : Node}
    (hnode : ms.find? key = some node) : node.InRange := by
  obtain ⟨m, hm, rfl⟩ := Option.map_eq_some_iff.mp hnode
  exact h m (List.mem_of_find?_eq_some hm)

theorem InRange.put (h : ms.InRange) {node : Node} (hnode : node.InRange) (key : String) :
    (ms.put key node).InRange := by
  induction ms with
  | nil =>
    intro m hm
    rw [Members.put, List.mem_singleton] at hm
    exact hm ▸ hnode
  | cons e ms ih =>
    obtain ⟨he, hms⟩ := List.forall_mem_cons.mp h
    rw [Members.put]
    split
    · exact List.forall_mem_cons.mpr ⟨hnode, hms⟩
    · exact List.forall_mem_cons.mpr ⟨he, ih hms⟩

theorem InRange.within {change : Members → Option Members}
    (hchange : ∀ {ms ms' : Members}, ms.InRange → change ms = some ms' → ms'.InRange)
    (h : ms.InRange) {path : List String} (hms' : ms.within change path = some ms') :
    ms'.InRange := by
  induction path generalizing ms ms' with
  | nil => exact hchange h hms'
  | cons key path ih =>
    rw [Members.within] at hms'
    split at hms'
    · obtain ⟨inner, hinner, rfl⟩ := Option.map_eq_some_iff.mp hms'
      exact h.put (.table (ih inRange_nil hinner)) key
    · cases hms'
    · next hfind =>
      obtain ⟨inner', hinner, rfl⟩ := Option.map_eq_some_iff.mp hms'
      cases h.find? hfind with
      | table hold => exact h.put (.table (ih hold hinner)) key
    · next hfind =>
      obtain ⟨last', hlast, rfl⟩ := Option.map_eq_some_iff.mp hms'
      cases h.find? hfind with
      | tables hold hearlier => exact h.put (.tables (ih hold hlast) hearlier) key

theorem InRange.openTable (h : ms.InRange) {key : String}
    (hms' : ms.openTable key = some ms') : ms'.InRange := by
  rw [Members.openTable] at hms'
  split at hms'
  · exact Option.some.inj hms' ▸ h.put (.table inRange_nil) key
  · next hfind =>
    cases h.find? hfind with
    | table hold => exact Option.some.inj hms' ▸ h.put (.table hold) key
  · cases hms'

theorem InRange.pushTable (h : ms.InRange) {key : String}
    (hms' : ms.pushTable key = some ms') : ms'.InRange := by
  rw [Members.pushTable] at hms'
  split at hms'
  · exact Option.some.inj hms' ▸
      h.put (.tables inRange_nil fun _ hm => absurd hm List.not_mem_nil) key
  · next hfind =>
    cases h.find? hfind with
    | tables hlast hearlier =>
      exact Option.some.inj hms' ▸
        h.put (.tables inRange_nil (List.forall_mem_cons.mpr ⟨hlast, hearlier⟩)) key
  · cases hms'

theorem InRange.assign (h : ms.InRange) {v : Value} (hv : v.InRange) {here : Bool}
    {path : List String} (hms' : ms.assign v here path = some ms') : ms'.InRange := by
  induction path generalizing ms ms' here with
  | nil => cases hms'
  | cons key path ih =>
    cases path with
    | nil =>
      rw [Members.assign] at hms'
      split at hms'
      · cases hms'
        intro m hm
        rcases List.mem_append.mp hm with hm | hm
        · exact h m hm
        · exact List.mem_singleton.mp hm ▸ .value hv
      · cases hms'
    | cons next path =>
      rw [Members.assign] at hms'
      case x_2 => nofun
      split at hms'
      · obtain ⟨inner, hinner, rfl⟩ := Option.map_eq_some_iff.mp hms'
        exact h.put (.table (ih inRange_nil hinner)) key
      · cases hms'
      · cases hms'
      · next hfind =>
        obtain ⟨inner', hinner, rfl⟩ := Option.map_eq_some_iff.mp hms'
        cases h.find? hfind with
        | table hold => exact h.put (.table (ih hold hinner)) key
      · next hfind =>
        obtain ⟨last', hlast, rfl⟩ := Option.map_eq_some_iff.mp hms'
        cases h.find? hfind with
        | tables hold hearlier => exact h.put (.tables (ih hold hlast) hearlier) key

end Members

/-! ## Values -/

section Values
variable {read : List Char → Part Value}
  (hread : ∀ {cs v rest}, read cs = some (v, rest) → v.InRange)
include hread

theorem items?_inRange {fuel : Nat} {before : List Value} {cs : List Char} {vs : List Value}
    {rest : List Char} (hbefore : ∀ v ∈ before, v.InRange)
    (h : items? read fuel before cs = some (vs, rest)) : ∀ v ∈ vs, v.InRange := by
  have hreverse {before : List Value} (hbefore : ∀ v ∈ before, v.InRange) {rest' : List Char}
      (h : some (before.reverse, rest') = some (vs, rest)) : ∀ v ∈ vs, v.InRange := by
    cases h
    exact fun v hv => hbefore v (List.mem_reverse.mp hv)
  induction fuel generalizing before cs with
  | zero => cases h
  | succ fuel ih =>
    rw [items?] at h
    split at h
    · exact hreverse hbefore h
    · split at h
      · cases h
      · next v _ hv =>
        have hmore := List.forall_mem_cons.mpr ⟨hread hv, hbefore⟩
        split at h
        · exact ih hmore h
        · exact hreverse hmore h
        · cases h

theorem assignment?_inRange {cs : List Char} {path : List String} {v : Value} {rest : List Char}
    (h : assignment? read cs = some ((path, v), rest)) : v.InRange := by
  simp only [assignment?, Option.bind_eq_bind, Option.bind_eq_some_iff] at h
  obtain ⟨⟨_, _⟩, -, _, -, ⟨w, _⟩, hw, heq⟩ := h
  cases heq
  exact hread hw

theorem braced?_inRange {fuel : Nat} {ms ms' : Members} {cs rest : List Char} (hms : ms.InRange)
    (h : braced? read fuel ms cs = some (ms', rest)) : ms'.InRange := by
  induction fuel generalizing ms cs with
  | zero => cases h
  | succ fuel ih =>
    rw [braced?] at h
    split at h
    · cases h
    · next hassignment =>
      split at h
      · cases h
      · next hassign =>
        have hmore := hms.assign (assignment?_inRange hread hassignment) hassign
        split at h
        · exact ih hmore h
        · cases h
          exact hmore
        · cases h

end Values

theorem memberValues_eq_map (ms : Members) :
    memberValues ms = ms.map fun m => (m.1, m.2.toValue) := by
  induction ms with
  | nil => rw [memberValues, List.map_nil]
  | cons m ms ih => rw [memberValues, ih, List.map_cons]

theorem mem_tableValues {after : List Value} {tables : List Members} {v : Value} :
    v ∈ tableValues after tables ↔
      v ∈ after ∨ ∃ ms ∈ tables, v = .table (memberValues ms) := by
  induction tables generalizing after with
  | nil => simp [tableValues]
  | cons ms tables ih =>
    rw [tableValues, ih, List.mem_cons]
    simp [or_assoc, or_left_comm]

/-- **A node that is made of such values** has one. -/
theorem Node.InRange.toValue {n : Node} (h : n.InRange) : n.toValue.InRange := by
  have hmembers {ms : Members} (ih : ∀ m ∈ ms, m.2.toValue.InRange) :
      (Value.table (memberValues ms)).InRange := by
    rw [memberValues_eq_map]
    exact .table (List.forall_mem_map.mpr ih)
  induction h with
  | value h =>
    rw [Node.toValue]
    exact h
  | table h ih =>
    rw [Node.toValue]
    exact hmembers ih
  | tables hlast hearlier ihlast ihearlier =>
    rw [Node.toValue]
    refine .array fun v hv => ?_
    rcases mem_tableValues.mp hv with hv | ⟨ms, hms, rfl⟩
    · exact absurd hv List.not_mem_nil
    · rcases List.mem_cons.mp hms with rfl | hms
      · exact hmembers ihlast
      · exact hmembers (ihearlier ms hms)

theorem Members.InRange.memberValues {ms : Members} (h : ms.InRange) :
    ∀ m ∈ memberValues ms, m.2.InRange := by
  rw [memberValues_eq_map]
  exact List.forall_mem_map.mpr fun m hm => (h m hm).toValue

/-- **A value that is read fits.** -/
theorem value?_inRange {depth : Nat} {cs : List Char} {v : Value} {rest : List Char}
    (h : value? depth cs = some (v, rest)) : v.InRange := by
  induction depth generalizing cs v rest with
  | zero =>
    rw [value?] at h
    case x_3 => nofun
    case x_4 => nofun
    exact scalar?_inRange h
  | succ depth ih =>
    rw [value?.eq_def] at h
    split at h
    · next heq =>
      cases heq
      obtain ⟨⟨vs, _⟩, hitems, heq⟩ := Option.map_eq_some_iff.mp h
      cases heq
      exact .array (items?_inRange ih (fun _ hv => absurd hv List.not_mem_nil) hitems)
    · next heq =>
      cases heq
      split at h
      · cases h
        exact .table fun _ hm => absurd hm List.not_mem_nil
      · obtain ⟨⟨ms, _⟩, hms, heq⟩ := Option.map_eq_some_iff.mp h
        cases heq
        exact .table (braced?_inRange ih Members.inRange_nil hms).memberValues
    · exact scalar?_inRange h

/-! ## Lines -/

/-- A line whose value fits. -/
def Line.InRange : Line → Prop
  | .assign _ v => v.InRange
  | _ => True

theorem content?_inRange {cs : List Char} {l : Line} {rest : List Char}
    (h : content? cs = some (l, rest)) : l.InRange := by
  rw [content?.eq_def] at h
  split at h
  · simp only [Option.bind_eq_bind, Option.bind_eq_some_iff] at h
    obtain ⟨_, -, _, -, _, -, _, -, heq⟩ := h
    cases heq
    trivial
  · simp only [Option.bind_eq_bind, Option.bind_eq_some_iff] at h
    obtain ⟨_, -, _, -, _, -, heq⟩ := h
    cases heq
    trivial
  · simp only [Option.bind_eq_bind, Option.bind_eq_some_iff] at h
    obtain ⟨⟨⟨_, _⟩, _⟩, hassignment, _, -, heq⟩ := h
    cases heq
    exact assignment?_inRange value?_inRange hassignment

theorem lines?_inRange {fuel : Nat} {cs : List Char} {ls : List Line}
    (h : lines? fuel cs = some ls) : ∀ l ∈ ls, l.InRange := by
  induction fuel generalizing cs ls with
  | zero =>
    rw [lines?] at h
    split at h
    · cases h
      exact fun _ hl => absurd hl List.not_mem_nil
    · cases h
  | succ fuel ih =>
    rw [lines?] at h
    split at h
    · cases h
      exact fun _ hl => absurd hl List.not_mem_nil
    · split at h
      · exact ih h
      · obtain ⟨⟨l, rest⟩, hl, h⟩ := Option.bind_eq_some_iff.mp h
        obtain ⟨more, hmore, rfl⟩ := Option.map_eq_some_iff.mp h
        exact List.forall_mem_cons.mpr ⟨content?_inRange hl, ih hmore⟩

theorem Draft.add_inRange {d d' : Draft} {l : Line} (hd : d.members.InRange) (hl : l.InRange)
    (h : d.add l = some d') : d'.members.InRange := by
  cases l with
  | assign path v =>
    obtain ⟨ms, hms, rfl⟩ := Option.map_eq_some_iff.mp h
    exact hd.within (fun h hassign => h.assign hl hassign) hms
  | header path =>
    rw [Draft.add] at h
    split at h
    · cases h
    · obtain ⟨ms, hms, rfl⟩ := Option.map_eq_some_iff.mp h
      exact hd.within (fun h hopen => h.openTable hopen) hms
  | element path =>
    rw [Draft.add] at h
    split at h
    · cases h
    · obtain ⟨ms, hms, rfl⟩ := Option.map_eq_some_iff.mp h
      exact hd.within (fun h hpush => h.pushTable hpush) hms

theorem foldlM_inRange {ls : List Line} (hls : ∀ l ∈ ls, l.InRange) {d d' : Draft}
    (hd : d.members.InRange) (h : ls.foldlM Draft.add d = some d') : d'.members.InRange := by
  induction ls generalizing d with
  | nil =>
    cases h
    exact hd
  | cons l ls ih =>
    obtain ⟨hl, hls⟩ := List.forall_mem_cons.mp hls
    obtain ⟨d₁, hadd, hmore⟩ := Option.bind_eq_some_iff.mp h
    exact ih hls (Draft.add_inRange hd hl hadd) hmore

/-- **Every whole number of a document fits 64 bits.** -/
theorem inRange_of_read? {text : String} {doc : List (String × Value)}
    (h : read? text = some doc) : ∀ m ∈ doc, m.2.InRange := by
  obtain ⟨ls, hls, h⟩ := Option.bind_eq_some_iff.mp h
  obtain ⟨d, hd, rfl⟩ := Option.map_eq_some_iff.mp h
  exact (foldlM_inRange (lines?_inRange hls) Members.inRange_nil hd).memberValues

end PickupLedger.Toml
