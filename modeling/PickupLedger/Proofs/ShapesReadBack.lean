import Mathlib.Data.List.Forall2
import Mathlib.Data.List.Nodup
import PickupLedger.Json.Form
import PickupLedger.Proofs.JsonReadBack

/-!
# Records read back

A record is read from an object by the keys of its members, so their order does not matter, nor
what stands among them under other keys.  A `Variation` says what may become of a value on the way:
in a record (`Variation.Record`) the members may be reordered and strange ones may be added, in the
record itself and in every record inside it.

That a form reads back whatever variation there is of what it writes (`Form.ReadsBack`) is put
together like the form itself.  A record is built from its fields one by one, and so is the list of
its parts (`Shape.Reads`); what the parts have in common, that each is found under its key and
passes its check, is shown once for all records (`Shape.Reads.read`).
-/

namespace PickupLedger.Json

/-- **What may become of a value**: the drafts that stand for the same. -/
abbrev Variation := Json → Draft → Prop

namespace Variation

/-- Nothing becomes of a value. -/
def exact : Variation := fun v d => d = v.draft

/-- A null stays one. -/
def nullable (V : Variation) : Variation
  | .null, d => d = .null
  | v, d => V v d

/-- Each item of an array by itself. -/
inductive Items (V : Variation) : Variation where
  | mk {vs : List Json} {ds : List Draft} (hitems : List.Forall₂ V vs ds) :
      Items V (.array vs) (.array ds true)

/-- A member that a record has written: still under its key, with its value as the field allows. -/
def Keeps (fields : List (String × Variation)) (m : String × Json) (m' : Option String × Draft) :
    Prop :=
  m'.1 = some m.1 ∧ ∃ V, (m.1, V) ∈ fields ∧ V m.2 m'.2

/-- A member that a record does not know, whatever it holds. -/
def Strange (fields : List (String × Variation)) (m : Option String × Draft) : Prop :=
  m.2.isWhole = true ∧ ∃ key, m.1 = some key ∧ key ∉ fields.map Prod.fst

/-- **The members of a record in any order, and strange ones among them.** -/
inductive Record (fields : List (String × Variation)) : Variation where
  | mk {members : List (String × Json)} {written strange all : List (Option String × Draft)}
      (hwritten : List.Forall₂ (Keeps fields) members written)
      (hstrange : ∀ m ∈ strange, Strange fields m) (horder : all.Perm (written ++ strange)) :
      Record fields (.object members) (.object all true)

theorem nullable_of_ne {V : Variation} {v : Json} {d : Draft} (hv : v ≠ .null) :
    V.nullable v d ↔ V v d := by
  cases v with
  | null => exact absurd rfl hv
  | _ => rfl

end Variation

/-! ## The members of an object -/

namespace Shape

/-- A member that stops no scan. -/
inductive Passes (fields : List Field) : Option String × Draft → Prop where
  | strange {key : String} {d : Draft} :
      field? fields key = none → d.isWhole = true → Passes fields (some key, d)
  | known {key : String} {f : Field} {d : Draft} :
      field? fields key = some f → f.check d = .ok () → Passes fields (some key, d)

/-- Two members that are not under the same of some keys. -/
def Apart (keys : List String) (m m' : Option String × Draft) : Prop :=
  ∀ key ∈ keys, m.1 = some key → m'.1 ≠ some key

theorem Apart.symm {keys : List String} {m m' : Option String × Draft} (h : Apart keys m m') :
    Apart keys m' m := fun key hkey hm' hm => h key hkey hm hm'

theorem field?_eq_none {fields : List Field} {key : String} (h : key ∉ fields.map Field.key) :
    field? fields key = none :=
  List.find?_eq_none.mpr fun _ hf hkey => h (of_decide_eq_true hkey ▸ List.mem_map_of_mem hf)

theorem mem_keys_of_field? {fields : List Field} {key : String} {f : Field}
    (h : field? fields key = some f) : key ∈ fields.map Field.key := by
  have hkey : f.key = key := by simpa using List.find?_some h
  exact hkey ▸ List.mem_map_of_mem (List.mem_of_find?_eq_some h)

section Members
variable {fields : List Field} {keys : List String} {members : List (Option String × Draft)}

/-- **The members of an object pass** if each does, no known key comes twice, and none has been
seen before. -/
theorem scan_ok {seen : List String} (hpasses : ∀ m ∈ members, Passes fields m)
    (hapart : members.Pairwise (Apart (fields.map Field.key)))
    (hseen : ∀ key ∈ seen, key ∈ fields.map Field.key → ∀ m ∈ members, m.1 ≠ some key) :
    scan fields seen members = .ok () := by
  induction members generalizing seen with
  | nil => rfl
  | cons m members ih =>
    obtain ⟨hfirst, hrest⟩ := List.forall_mem_cons.mp hpasses
    obtain ⟨hm, hmembers⟩ := List.pairwise_cons.mp hapart
    have hlater : ∀ key ∈ seen, key ∈ fields.map Field.key → ∀ m ∈ members, m.1 ≠ some key :=
      fun key hkey hknown m hm => hseen key hkey hknown m (List.mem_cons_of_mem _ hm)
    cases hfirst with
    | @strange key d hfield hwhole =>
      rw [scan, hfield]
      simp only [Reader.ignored, hwhole, if_true]
      exact ih hrest hmembers hlater
    | @known key f d hfield hcheck =>
      have hknown := mem_keys_of_field? hfield
      have hnew : seen.contains key = false := by
        refine Bool.eq_false_iff.mpr fun hkey => ?_
        exact hseen key (List.contains_iff_mem.mp hkey) hknown _ List.mem_cons_self rfl
      rw [scan, hfield]
      simp only [hnew, hcheck, located, Bool.false_eq_true, if_false]
      refine ih hrest hmembers (List.forall_mem_cons.mpr ⟨fun _ m' hm' => ?_, hlater⟩)
      exact hm m' hm' key hknown rfl

/-- Under a known key the member is found, wherever it stands. -/
theorem member?_of_mem {key : String} {d : Draft} (hapart : members.Pairwise (Apart keys))
    (hkey : key ∈ keys) (hmem : (some key, d) ∈ members) : member? members key = some d := by
  induction members with
  | nil => cases hmem
  | cons m members ih =>
    obtain ⟨hm, hmembers⟩ := List.pairwise_cons.mp hapart
    rcases List.mem_cons.mp hmem with rfl | hmem
    · simp [member?]
    · have hne : m.1 ≠ some key := fun heq => hm _ hmem key hkey heq rfl
      have hfound := ih hmembers hmem
      rw [member?] at hfound ⊢
      rw [List.find?_cons_of_neg (by simpa using hne), hfound]

theorem member?_eq_none {key : String} (h : ∀ m ∈ members, m.1 ≠ some key) :
    member? members key = none := by
  rw [member?, List.find?_eq_none.mpr (by simpa using h), Option.map_none]

end Members
end Shape

/-! ## The parts of a record -/

/-- What stands on the right of a pairing has something on its left. -/
theorem exists_of_mem_right {α β : Type} {R : α → β → Prop} {as : List α} {bs : List β}
    (h : List.Forall₂ R as bs) : ∀ b ∈ bs, ∃ a ∈ as, R a b := by
  induction h with
  | nil => exact fun _ hb => absurd hb List.not_mem_nil
  | cons hfirst _ ih =>
    refine List.forall_mem_cons.mpr ⟨⟨_, List.mem_cons_self, hfirst⟩, fun b hb => ?_⟩
    obtain ⟨a, ha, hab⟩ := ih b hb
    exact ⟨a, List.mem_cons_of_mem _ ha, hab⟩

/-- **A part of a record** that is written: its key, what may become of its value, and the value,
unless it is left out. -/
structure Part where
  key : String
  varies : Variation
  value? : Option Json

namespace Part

/-- The part as a field of the variation of its record. -/
def field (p : Part) : String × Variation := (p.key, p.varies)

/-- The member that is written, if there is one. -/
def member? (p : Part) : Option (String × Json) := p.value?.map fun v => (p.key, v)

/-- The value under the key of the part is one of it. -/
def FoundIn (p : Part) (values : String → Option Draft) : Prop :=
  Option.Rel p.varies p.value? (values p.key)

/-- The field of the part lets its value pass, whatever has become of it. -/
structure Suits (p : Part) (f : Field) : Prop where
  key : f.key = p.key
  refl : ∀ v ∈ p.value?, p.varies v v.draft
  check : ∀ v ∈ p.value?, ∀ d, p.varies v d → f.check d = .ok ()

/-- The member holds the value of the part. -/
structure IsHeld (p : Part) (m : Option String × Draft) : Prop where
  key : m.1 = some p.key
  value : ∃ v ∈ p.value?, p.varies v m.2

/-- **The members of an object hold the parts of a record**, and strange ones are among them. -/
structure AllHeld (parts : List Part) (members : List (Option String × Draft)) : Prop where
  each : ∀ m ∈ members, (∃ p ∈ parts, p.IsHeld m) ∨ Variation.Strange (parts.map field) m
  apart : members.Pairwise (Shape.Apart (parts.map key))
  present : ∀ p ∈ parts, p.value?.isSome = true → ∃ m ∈ members, p.IsHeld m

section
variable {parts : List Part} {written : List (Option String × Draft)}

theorem map_field_fst (parts : List Part) : (parts.map field).map Prod.fst = parts.map key := by
  rw [List.map_map]
  rfl

/-- What is kept of the member of a part holds its value. -/
theorem isHeld_of_keeps (hkeys : (parts.map key).Nodup) {p : Part} (hp : p ∈ parts)
    {m : String × Json} {m' : Option String × Draft} (hm : p.member? = some m)
    (h : Variation.Keeps (parts.map field) m m') : p.IsHeld m' := by
  obtain ⟨v, hv, rfl⟩ := Option.map_eq_some_iff.mp hm
  obtain ⟨hkey, V, hV, hvaries⟩ := h
  obtain ⟨q, hq, heq⟩ := List.mem_map.mp hV
  obtain ⟨hqkey, rfl⟩ := Prod.mk.inj heq
  obtain rfl := List.inj_on_of_nodup_map hkeys hq hp hqkey
  exact ⟨hkey, v, hv, hvaries⟩

/-- The parts that are written, in pairs with what is kept of them. -/
theorem forall₂_isHeld (hkeys : (parts.map key).Nodup) {present : List Part}
    (hsub : present ⊆ parts)
    (h : List.Forall₂ (Variation.Keeps (parts.map field)) (present.filterMap member?) written) :
    List.Forall₂ IsHeld (present.filter fun p => p.value?.isSome) written := by
  induction present generalizing written with
  | nil =>
    cases h
    exact .nil
  | cons p present ih =>
    obtain ⟨hp, hrest⟩ := List.cons_subset.mp hsub
    -- A part that is left out has no member on either side.
    cases hvalue : p.value? with
    | none =>
      have hnone : p.member? = none := by rw [member?, hvalue, Option.map_none]
      rw [List.filterMap_cons_none hnone] at h
      rw [List.filter_cons_of_neg (by simp [hvalue])]
      exact ih hrest h
    | some v =>
      have hsome : p.member? = some (p.key, v) := by rw [member?, hvalue, Option.map_some]
      rw [List.filterMap_cons_some hsome] at h
      rw [List.filter_cons_of_pos (by simp [hvalue])]
      cases h with
      | cons hfirst hmore => exact .cons (isHeld_of_keeps hkeys hp hsome hfirst) (ih hrest hmore)

theorem keys_of_isHeld {present : List Part} (h : List.Forall₂ IsHeld present written) :
    written.map Prod.fst = (present.map key).map some := by
  induction h with
  | nil => rfl
  | cons hfirst _ ih => rw [List.map_cons, List.map_cons, List.map_cons, hfirst.key, ih]

/-- No two members that were written are under one key. -/
theorem apart_of_isHeld (hkeys : (parts.map key).Nodup) {present : List Part}
    (hsub : present.Sublist parts) (h : List.Forall₂ IsHeld present written) :
    written.Pairwise (Shape.Apart (parts.map key)) := by
  have hnodup : (written.map Prod.fst).Nodup := by
    rw [keys_of_isHeld h]
    exact ((hsub.map key).nodup hkeys).map fun _ _ => Option.some.inj
  exact (List.pairwise_map.mp hnodup).imp fun hne _ _ hm hm' => hne (hm.trans hm'.symm)

/-- **Whatever the order and whatever is added, an object holds what was written.** -/
theorem allHeld_of_record (hkeys : (parts.map key).Nodup) {d : Draft}
    (h : Variation.Record (parts.map field) (.object (parts.filterMap member?)) d) :
    ∃ members, d = .object members true ∧ AllHeld parts members := by
  cases h with
  | @mk _ written strange members hkept hstrange horder =>
  have hheld := forall₂_isHeld hkeys (List.Subset.refl parts) hkept
  have hnew : ∀ m ∈ strange, ∀ key ∈ parts.map Part.key, m.1 ≠ some key := by
    intro m hm key hkey heq
    obtain ⟨-, key', hkey', hnot⟩ := hstrange m hm
    obtain rfl := Option.some.inj (hkey'.symm.trans heq)
    rw [map_field_fst] at hnot
    exact hnot hkey
  refine ⟨members, rfl, fun m hm => ?_, ?_, fun p hp hvalue => ?_⟩
  · refine (List.mem_append.mp (horder.mem_iff.mp hm)).imp (fun hm => ?_) (hstrange m)
    obtain ⟨p, hp, hpm⟩ := exists_of_mem_right hheld m hm
    exact ⟨p, List.mem_of_mem_filter hp, hpm⟩
  · refine (horder.pairwise_iff Shape.Apart.symm).mpr (List.pairwise_append.mpr ⟨?_, ?_, ?_⟩)
    · exact apart_of_isHeld hkeys List.filter_sublist hheld
    · exact List.pairwise_of_forall_mem_list fun m hm _ _ key hkey heq =>
        absurd heq (hnew m hm key hkey)
    · exact fun _ _ m hm key hkey _ => hnew m hm key hkey
  · obtain ⟨m, hm, hpm⟩ := exists_of_mem_right hheld.flip p (List.mem_filter.mpr ⟨hp, hvalue⟩)
    exact ⟨m, horder.mem_iff.mpr (List.mem_append_left _ hm), hpm⟩

/-- The fields that suit the parts have their keys. -/
theorem keys_of_suits {fields : List Field} (h : List.Forall₂ (fun f p => Suits p f) fields parts) :
    fields.map Field.key = parts.map key := by
  induction h with
  | nil => rfl
  | cons hfirst _ ih => rw [List.map_cons, List.map_cons, hfirst.key, ih]

/-- The field under the key of a part suits it. -/
theorem exists_field? {fields : List Field} (hkeys : (parts.map key).Nodup)
    (h : List.Forall₂ (fun f p => Suits p f) fields parts) {p : Part} (hp : p ∈ parts) :
    ∃ f, Shape.field? fields p.key = some f ∧ p.Suits f := by
  induction h with
  | nil => cases hp
  | @cons f q fields parts hfirst _ ih =>
    obtain ⟨hnew, hkeys⟩ := List.nodup_cons.mp hkeys
    rcases List.mem_cons.mp hp with rfl | hp
    · exact ⟨f, List.find?_cons_of_pos (by simpa using hfirst.key), hfirst⟩
    · have hne : f.key ≠ p.key := fun heq => hnew (hfirst.key ▸ heq ▸ List.mem_map_of_mem hp)
      obtain ⟨f', hfield, hsuits⟩ := ih hkeys hp
      exact ⟨f', (List.find?_cons_of_neg (by simpa using hne)).trans hfield, hsuits⟩

end
end Part

namespace Shape

variable {α β : Type}

/-- **A record is read from its parts**: its fields let them pass, and it is built from them. -/
structure Reads (s : Shape α) (parts : List Part) (a : α) : Prop where
  fields : List.Forall₂ (fun f p => Part.Suits p f) s.fields parts
  build : ∀ values, (∀ p ∈ parts, p.FoundIn values) → s.build values = .ok a

namespace Reads

variable {s : Shape α} {parts more : List Part} {a : α}

/-- A record under a function. -/
theorem map (g : α → β) (h : s.Reads parts a) : (g <$> s).Reads parts (g a) where
  fields := h.fields
  build values hvalues := congrArg (Except.map g) (h.build values hvalues)

/-- One more field. -/
theorem seq {f : Shape (α → β)} {g : α → β} (hf : f.Reads parts g) (hs : s.Reads more a) :
    (f <*> s).Reads (parts ++ more) (g a) where
  fields := List.rel_append hf.fields hs.fields
  build values hvalues := by
    have hg := hf.build values fun p hp => hvalues p (List.mem_append_left _ hp)
    have ha := hs.build values fun p hp => hvalues p (List.mem_append_right _ hp)
    change (do
      let g ← f.build values
      let a ← s.build values
      return g a) = Except.ok (g a)
    rw [hg, ha]
    rfl

section Object
variable {members : List (Option String × Draft)}

/-- Each member passes: it is held by a part, whose field lets it, or strange. -/
theorem passes (h : s.Reads parts a) (hkeys : (parts.map Part.key).Nodup)
    (hheld : Part.AllHeld parts members) : ∀ m ∈ members, Passes s.fields m := by
  rintro ⟨key, d⟩ hm
  obtain ⟨p, hp, hpm⟩ | ⟨hwhole, k, hk, hnew⟩ := hheld.each _ hm
  · obtain ⟨v, hv, hvaries⟩ := hpm.value
    obtain ⟨f, hfield, hsuits⟩ := Part.exists_field? hkeys h.fields hp
    obtain rfl := hpm.key
    exact .known hfield (hsuits.check v hv d hvaries)
  · obtain rfl := hk
    rw [Part.map_field_fst, ← Part.keys_of_suits h.fields] at hnew
    exact .strange (field?_eq_none hnew) hwhole

/-- Each part is found, and what was left out is not. -/
theorem foundIn (hkeys : (parts.map Part.key).Nodup) (hheld : Part.AllHeld parts members)
    {p : Part} (hp : p ∈ parts) : p.FoundIn (member? members) := by
  have hkey : p.key ∈ parts.map Part.key := List.mem_map_of_mem hp
  rw [Part.FoundIn]
  cases hvalue : p.value? with
  | some v =>
    obtain ⟨m, hm, hpm⟩ := hheld.present p hp (by rw [hvalue, Option.isSome_some])
    obtain ⟨v', hv', hvaries⟩ := hpm.value
    obtain rfl := Option.some.inj (hvalue.symm.trans hv')
    obtain ⟨key, d⟩ := m
    obtain rfl := hpm.key
    rw [member?_of_mem hheld.apart hkey hm]
    exact .some hvaries
  | none =>
    -- A member under the key would be another part's, whose key is not the same, or strange.
    have hnone : ∀ m ∈ members, m.1 ≠ some p.key := by
      intro m hm heq
      obtain ⟨q, hq, hqm⟩ | ⟨-, k, hk, hnew⟩ := hheld.each m hm
      · obtain ⟨v, hv, -⟩ := hqm.value
        have hsame : q.key = p.key := Option.some.inj (hqm.key.symm.trans heq)
        obtain rfl := List.inj_on_of_nodup_map hkeys hq hp hsame
        cases hvalue.symm.trans hv
      · obtain rfl := Option.some.inj (hk.symm.trans heq)
        rw [Part.map_field_fst] at hnew
        exact hnew hkey
    rw [member?_eq_none hnone]
    exact .none

end Object

/-- **A record is read from any variation of what was written of it.** -/
theorem read (h : s.Reads parts a) (hkeys : (parts.map Part.key).Nodup) (name : String) {d : Draft}
    (hd : Variation.Record (parts.map Part.field) (.object (parts.filterMap Part.member?)) d) :
    s.read name d = .ok a := by
  obtain ⟨members, rfl, hheld⟩ := Part.allHeld_of_record hkeys hd
  have hscan : scan s.fields [] members = .ok () :=
    scan_ok (h.passes hkeys hheld) (Part.keys_of_suits h.fields ▸ hheld.apart)
      fun _ hkey => absurd hkey List.not_mem_nil
  rw [Shape.read, hscan]
  exact h.build _ fun p hp => foundIn hkeys hheld hp

end Reads
end Shape

/-! ## Forms -/

/-- **A form reads back what it writes**, whatever variation of it there is. -/
structure Form.ReadsBack {α : Type} (form : Form α) (V : Variation) : Prop where
  refl : ∀ a, V (form.write a) (form.write a).draft
  read : ∀ a d, V (form.write a) d → form.reader d = .ok a
  /-- Null stands for no value. -/
  null : ∀ a, form.reader .null ≠ .ok a

namespace Form.ReadsBack

variable {α : Type} {form : Form α} {V : Variation}

theorem write_ne_null (h : form.ReadsBack V) (a : α) : form.write a ≠ .null := by
  intro hnull
  have hdraft := h.read a _ (h.refl a)
  rw [hnull] at hdraft
  exact h.null a hdraft

theorem draft_ne_null (h : form.ReadsBack V) {a : α} {d : Draft} (hd : V (form.write a) d) :
    d ≠ .null := by
  rintro rfl
  exact h.null a (h.read a _ hd)

/-- A value or null is read back. -/
theorem read_nullable (h : form.ReadsBack V) (o : Option α) {d : Draft}
    (hd : V.nullable (form.nullable.write o) d) : form.reader.nullable d = .ok o := by
  cases o with
  | none =>
    obtain rfl : d = .null := hd
    rfl
  | some a =>
    have hvaries := (Variation.nullable_of_ne (h.write_ne_null a)).mp hd
    have hread := h.read a d hvaries
    rw [Reader.nullable, hread]
    · rfl
    · exact h.draft_ne_null hvaries

theorem refl_nullable (h : form.ReadsBack V) (o : Option α) :
    V.nullable (form.nullable.write o) (form.nullable.write o).draft := by
  cases o with
  | none => rfl
  | some a => exact (Variation.nullable_of_ne (h.write_ne_null a)).mpr (h.refl a)

/-- Items are read one by one, wherever they stand. -/
theorem read_items (h : form.ReadsBack V) {as : List α} {ds : List Draft}
    (hds : List.Forall₂ V (as.map form.write) ds) (i : Nat) :
    Reader.items form.reader i ds = .ok as := by
  induction as generalizing ds i with
  | nil =>
    cases hds
    rfl
  | cons a as ih =>
    cases hds with
    | cons hfirst hrest =>
      rw [Reader.items, h.read a _ hfirst, ih hrest (i + 1)]
      rfl

/-- A list is read back item by item. -/
theorem list (h : form.ReadsBack V) : form.list.ReadsBack V.Items where
  refl as := by
    refine .mk ?_
    rw [itemDrafts_eq, List.forall₂_map_right_iff, List.forall₂_same, List.forall_mem_map]
    exact fun a _ => h.refl a
  read as d hd := by
    change V.Items (.array (as.map form.write)) d at hd
    obtain ⟨hds⟩ := hd
    change (do
      let values ← Reader.items form.reader 0 _
      if true then return values else .error .malformed) = Except.ok as
    rw [h.read_items hds 0]
    rfl
  null as := nofun

end Form.ReadsBack

namespace Shape.Reads

variable {α : Type} {form : Form α} {V : Variation} {a : α}

/-- A record of one field is read from its part. -/
theorem field {p : Part} {mayEnd : Bool} {reader : Reader α} {absent : Except Problem α}
    (hrefl : ∀ v ∈ p.value?, p.varies v v.draft)
    (hread : ∀ v ∈ p.value?, ∀ d, p.varies v d → reader d = .ok a)
    (habsent : p.value? = none → absent = .ok a) :
    (Shape.field p.key mayEnd reader absent).Reads [p] a where
  fields := by
    refine .cons ⟨rfl, hrefl, fun v hv d hd => ?_⟩ .nil
    simp only [hread v hv d hd, Except.map]
  build values hvalues := by
    have hfound := hvalues p List.mem_cons_self
    rw [Part.FoundIn] at hfound
    simp only [Shape.field]
    generalize values p.key = value? at hfound
    cases hv : p.value? with
    | none =>
      rw [hv] at hfound
      cases hfound
      exact habsent hv
    | some v =>
      rw [hv] at hfound
      cases hfound with
      | some hvaries => exact hread v hv _ hvaries

/-- A field that must be there. -/
theorem required (h : form.ReadsBack V) (key : String) (a : α) :
    (Shape.required key form.reader).Reads [⟨key, V, some (form.write a)⟩] a := by
  refine field (p := ⟨key, V, some (form.write a)⟩) ?_ ?_ nofun
  · rintro _ ⟨⟩
    exact h.refl a
  · rintro _ ⟨⟩ d hd
    exact h.read a d hd

/-- A field that is null without a value. -/
theorem optional (h : form.ReadsBack V) (key : String) (o : Option α) :
    (Shape.optional key form.reader).Reads [⟨key, V.nullable, some (form.nullable.write o)⟩] o := by
  refine field (p := ⟨key, V.nullable, some (form.nullable.write o)⟩) ?_ ?_ nofun
  · rintro _ ⟨⟩
    exact h.refl_nullable o
  · rintro _ ⟨⟩ d hd
    exact h.read_nullable o hd

/-- A field that is left out without a value. -/
theorem omitted (h : form.ReadsBack V) (key : String) (o : Option α) :
    (Shape.optional key form.reader).Reads [⟨key, V, o.map form.write⟩] o := by
  refine field (p := ⟨key, V, o.map form.write⟩) ?_ ?_ ?_
  · intro v hv
    obtain ⟨a, rfl, rfl⟩ := Option.map_eq_some_iff.mp hv
    exact h.refl a
  · intro v hv d hd
    obtain ⟨a, rfl, rfl⟩ := Option.map_eq_some_iff.mp hv
    exact h.read_nullable (some a) ((Variation.nullable_of_ne (h.write_ne_null a)).mpr hd)
  · intro hnone
    obtain rfl := Option.map_eq_none_iff.mp hnone
    rfl

end Shape.Reads

/-- **A record is read back** if it is written and read by the same parts. -/
theorem Form.readsBack_record {α : Type} {name : String} {s : Shape α} {write : α → Json}
    {fields : List (String × Variation)} (parts : α → List Part)
    (hreads : ∀ a, s.Reads (parts a) a)
    (hwrite : ∀ a, write a = .object ((parts a).filterMap Part.member?))
    (hfields : ∀ a, (parts a).map Part.field = fields)
    (hkeys : (fields.map Prod.fst).Nodup) :
    Form.ReadsBack ⟨write, s.read name⟩ (.Record fields) where
  refl a := by
    change Variation.Record fields (write a) (write a).draft
    rw [hwrite a]
    refine @Variation.Record.mk _ _ (memberDrafts ((parts a).filterMap Part.member?)) [] _ ?_ nofun ?_
    · rw [memberDrafts_eq, List.forall₂_map_right_iff, List.forall₂_same]
      intro m hm
      obtain ⟨p, hp, hmember⟩ := List.mem_filterMap.mp hm
      obtain ⟨v, hv, rfl⟩ := Option.map_eq_some_iff.mp hmember
      obtain ⟨f, -, hsuits⟩ := exists_of_mem_right (hreads a).fields p hp
      exact ⟨rfl, p.varies, hfields a ▸ List.mem_map_of_mem hp, hsuits.refl v hv⟩
    · rw [List.append_nil]
  read a d hd := by
    change Variation.Record fields (write a) d at hd
    have hnodup : ((parts a).map Part.key).Nodup := by
      rw [← Part.map_field_fst, hfields a]
      exact hkeys
    rw [hwrite a, ← hfields a] at hd
    exact (hreads a).read hnodup name hd
  null a := nofun

end PickupLedger.Json
