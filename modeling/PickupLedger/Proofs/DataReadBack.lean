import PickupLedger.Http.Views
import PickupLedger.Proofs.ShapesReadBack

/-!
# Data read back

Every type of data that is written as JSON is read back from it as it was: the records themselves,
the views of the interface, lists of them and answers around them (`DataType`).  What is read may
be any text of any variation of what was written (`DataType.variation`).
-/

namespace PickupLedger

/-! ## Identifiers and instants -/

namespace Uuid

theorem hexValue?_hexDigit (n : Nat) : hexValue? (hexDigit n) = some (n % 16) := by
  have hall : ∀ i < 16, hexValue? (if i < 10 then Char.ofNat (48 + i) else Char.ofNat (87 + i)) =
      some i := by decide
  exact hall _ (Nat.mod_lt _ (by decide))

theorem length_hexDigits (width n : Nat) : (hexDigits width n).length = width := by
  induction width generalizing n with
  | zero => rfl
  | succ width ih => rw [hexDigits, List.length_append, ih, List.length_singleton]

/-- Two groups of digits that follow on each other are one. -/
theorem hexDigits_append (front back : Nat) {n m : Nat} (h : m = n >>> (4 * back)) :
    hexDigits front m ++ hexDigits back n = hexDigits (front + back) n := by
  have hpow : 2 ^ (4 * back) = 16 ^ back := Nat.pow_mul 2 4 back
  rw [h, Nat.shiftRight_eq_div_pow, hpow]
  clear h hpow
  induction back generalizing n with
  | zero => simp [hexDigits]
  | succ back ih =>
    rw [hexDigits, ← List.append_assoc, Nat.pow_succ', ← Nat.div_div_eq_div_mul, ih,
      ← Nat.add_assoc, hexDigits]

/-- A group of digits stands for the last digits of its number. -/
theorem readHex?_hexDigits (width n m : Nat) (rest : List Char) :
    readHex? (hexDigits width n ++ rest) m = readHex? rest (16 ^ width * m + n % 16 ^ width) := by
  induction width generalizing n rest with
  | zero => simp [hexDigits, Nat.mod_one]
  | succ width ih =>
    rw [hexDigits, List.append_assoc, ih, List.singleton_append, readHex?, hexValue?_hexDigit]
    simp only
    congr 1
    rw [Nat.pow_succ', Nat.mod_mul, Nat.mul_assoc]
    omega

/-- The hyphens between the groups are dropped. -/
theorem dropHyphens?_groups {a b c d e : List Char} (ha : a.length = 8) (hb : b.length = 4)
    (hc : c.length = 4) (hd : d.length = 4) (he : e.length = 12) :
    dropHyphens? (a ++ '-' :: b ++ '-' :: c ++ '-' :: d ++ '-' :: e) =
      some (a ++ b ++ c ++ d ++ e) := by
  simp [dropHyphens?, ha, hb, hc, hd, he, List.drop_append, List.drop_of_length_le]

/-- The groups of an identifier are its 32 digits. -/
theorem hexDigits_groups (n : Nat) : hexDigits 8 (n >>> 96) ++ hexDigits 4 (n >>> 80) ++
    hexDigits 4 (n >>> 64) ++ hexDigits 4 (n >>> 48) ++ hexDigits 12 n = hexDigits 32 n := by
  rw [hexDigits_append 8 4 (Nat.shiftRight_add n 80 16),
    hexDigits_append 12 4 (Nat.shiftRight_add n 64 16),
    hexDigits_append 16 4 (Nat.shiftRight_add n 48 16), hexDigits_append 20 12 rfl]

/-- **An identifier is read back** from its written form. -/
theorem ofString?_text (u : Uuid) : ofString? u.text = some u := by
  have hhyphens : dropHyphens? u.chars = some (hexDigits 32 u.value) := by
    rw [chars, dropHyphens?_groups (length_hexDigits ..) (length_hexDigits ..)
      (length_hexDigits ..) (length_hexDigits ..) (length_hexDigits ..), hexDigits_groups]
  have hlength : u.chars.length = 36 := by simp [chars, length_hexDigits]
  have hread : readHex? (hexDigits 32 u.value) 0 = some u.value := by
    have hall := readHex?_hexDigits 32 u.value 0 []
    rw [List.append_nil, Nat.mul_zero, Nat.zero_add, readHex?,
      Nat.mod_eq_of_lt (lt_of_lt_of_eq u.value_lt (by decide))] at hall
    exact hall
  have hself : ofNat u.value = u := ext (Nat.mod_eq_of_lt u.value_lt)
  rw [ofString?, text, String.toList_ofList, read?, hlength]
  simp only [readHyphenated?, hhyphens, Option.bind_some, readPlain?, length_hexDigits, hread,
    if_true, Option.map_some, hself]
  rfl

end Uuid

/-- The written form of an instant reads back as the instant. -/
theorem Instant.ofString?_text (i : Instant) : ofString? i.text = some i := by
  rw [ofString?, text, String.toList_ofList]
  exact read?_localText i (by decide) (by decide) (by simp [EndsTime])

/-! ## Scalars -/

open Json

namespace Json

/-- An integer of 64 bits is read back from its spelling. -/
theorem Numeral.integer?_ofInt {i : Int} (hleast : -0x8000000000000000 ≤ i)
    (hmost : i < 0x10000000000000000) :
    (Numeral.ofInt i).integer? = some i := by
  simp only [integer?, ofInt, ne_eq, not_true_eq_false, or_self, if_false, decide_eq_true_eq,
    Nat.shiftLeft_eq]
  split
  · rw [if_pos (by omega)]
    congr 1
    omega
  · rw [if_pos (by omega)]
    congr 1
    omega

namespace Form

/-- A scalar is read back if it is read from its own draft. -/
theorem readsBack_exact {α : Type} {form : Form α}
    (h : ∀ a, form.reader (form.write a).draft = .ok a) (hnull : ∀ a, form.reader .null ≠ .ok a) :
    form.ReadsBack .exact where
  refl a := rfl
  read a d hd := by
    obtain rfl : d = (form.write a).draft := hd
    exact h a
  null := hnull

theorem readsBack_string : string.ReadsBack .exact := readsBack_exact (fun _ => rfl) nofun

theorem readsBack_bool : bool.ReadsBack .exact := readsBack_exact (fun _ => rfl) nofun

theorem readsBack_refId : refId.ReadsBack .exact := by
  refine readsBack_exact (fun id => ?_) nofun
  have hleast := id.le_toInt
  have hmost := id.toInt_lt
  have hinteger : (Numeral.ofInt id.toInt).integer? = some id.toInt :=
    Numeral.integer?_ofInt (by omega) (by omega)
  simp only [refId, int, draft, Reader.int32, Reader.integer, hinteger]
  rw [if_pos (by omega), Except.map, Int32.ofInt_toInt]

/-- What is written as a string is read back if the string is. -/
theorem readsBack_parsed {α : Type} {expected : String} {read : String → Option α}
    {fault : Misfit} {text : α → String} (h : ∀ a, read (text a) = some a) :
    ReadsBack ⟨fun a => .string (text a), .parsed expected read fault⟩ .exact := by
  refine readsBack_exact (fun a => ?_) nofun
  simp only [draft, Reader.parsed, h]

theorem readsBack_uuid : uuid.ReadsBack .exact := readsBack_parsed Uuid.ofString?_text

theorem readsBack_instant : instant.ReadsBack .exact := readsBack_parsed Instant.ofString?_text

theorem readsBack_status : status.ReadsBack .exact := by
  refine readsBack_exact (fun k => ?_) nofun
  simp only [status, draft, Reader.status, Reader.named, Reader.named.known, StatusKind.ofName?_name]

end Form
end Json

/-! ## Records -/

open Form Shape.Reads

/-- What may become of a city. -/
def City.variation : Variation := .Record [("id", .exact), ("name", .exact)]

theorem City.readsBack : City.form.ReadsBack City.variation :=
  readsBack_record _
    (fun c => ((required readsBack_refId "id" c.id).map City.mk).seq
      (required readsBack_string "name" c.name))
    (fun _ => rfl) (fun _ => rfl) (by decide)

/-- What may become of a pickup point. -/
def PickupPoint.variation : Variation :=
  .Record [("id", .exact), ("registration_date", .exact), ("city_id", .exact),
    ("city", City.variation.nullable)]

theorem PickupPoint.readsBack : PickupPoint.form.ReadsBack PickupPoint.variation :=
  readsBack_record _
    (fun p => ((((required readsBack_uuid "id" p.id).map PickupPoint.mk).seq
      (required readsBack_instant "registration_date" p.registered)).seq
      (required readsBack_refId "city_id" p.cityId)).seq
      (optional City.readsBack "city" p.city))
    (fun _ => rfl) (fun _ => rfl) (by decide)

/-- What may become of a product type. -/
def ProductType.variation : Variation := .Record [("id", .exact), ("name", .exact)]

theorem ProductType.readsBack : ProductType.form.ReadsBack ProductType.variation :=
  readsBack_record _
    (fun t => ((required readsBack_refId "id" t.id).map ProductType.mk).seq
      (required readsBack_string "name" t.name))
    (fun _ => rfl) (fun _ => rfl) (by decide)

/-- What may become of a product. -/
def Product.variation : Variation :=
  .Record [("id", .exact), ("date_time", .exact), ("type_id", .exact),
    ("product_type", .nullable .exact), ("reception_id", .exact)]

theorem Product.readsBack : Product.form.ReadsBack Product.variation :=
  readsBack_record _
    (fun p => (((((required readsBack_uuid "id" p.id).map Product.mk).seq
      (required readsBack_instant "date_time" p.added)).seq
      (required readsBack_refId "type_id" p.typeId)).seq
      (optional readsBack_string "product_type" p.typeName)).seq
      (required readsBack_uuid "reception_id" p.reception))
    (fun _ => rfl) (fun _ => rfl) (by decide)

/-- What may become of a reception. -/
def Reception.variation : Variation :=
  .Record [("id", .exact), ("pickup_point_id", .exact), ("date_time", .exact),
    ("status_id", .exact), ("status", .nullable .exact)]

theorem Reception.readsBack : Reception.form.ReadsBack Reception.variation :=
  readsBack_record _
    (fun r => (((((required readsBack_uuid "id" r.id).map Reception.mk).seq
      (required readsBack_uuid "pickup_point_id" r.pickupPoint)).seq
      (required readsBack_instant "date_time" r.opened)).seq
      (required readsBack_refId "status_id" r.statusId)).seq
      (optional readsBack_status "status" r.status))
    (fun _ => rfl) (fun _ => rfl) (by decide)

/-! ## Views -/

namespace Http

/-- What may become of a pickup point's view. -/
def PointView.variation : Variation :=
  .Record [("id", .exact), ("registrationDate", .exact), ("city", .nullable .exact)]

theorem PointView.readsBack : PointView.form.ReadsBack PointView.variation :=
  readsBack_record _
    (fun v => (((required readsBack_uuid "id" v.id).map PointView.mk).seq
      (required readsBack_instant "registrationDate" v.registered)).seq
      (optional readsBack_string "city" v.city))
    (fun _ => rfl) (fun _ => rfl) (by decide)

/-- What may become of a reception's view. -/
def ReceptionView.variation : Variation :=
  .Record [("id", .exact), ("dateTime", .exact), ("pvzId", .exact), ("status", .nullable .exact)]

theorem ReceptionView.readsBack : ReceptionView.form.ReadsBack ReceptionView.variation :=
  readsBack_record _
    (fun v => ((((required readsBack_uuid "id" v.id).map ReceptionView.mk).seq
      (required readsBack_instant "dateTime" v.opened)).seq
      (required readsBack_uuid "pvzId" v.pickupPoint)).seq
      (optional readsBack_string "status" v.status))
    (fun _ => rfl) (fun _ => rfl) (by decide)

/-- What may become of a product's view. -/
def ProductView.variation : Variation :=
  .Record [("id", .exact), ("dateTime", .exact), ("type", .nullable .exact), ("receptionId", .exact)]

theorem ProductView.readsBack : ProductView.form.ReadsBack ProductView.variation :=
  readsBack_record _
    (fun v => ((((required readsBack_uuid "id" v.id).map ProductView.mk).seq
      (required readsBack_instant "dateTime" v.added)).seq
      (optional readsBack_string "type" v.type)).seq
      (required readsBack_uuid "receptionId" v.reception))
    (fun _ => rfl) (fun _ => rfl) (by decide)

/-- What may become of a reception's view with its products. -/
def ReceptionOverviewView.variation : Variation :=
  .Record [("reception", ReceptionView.variation), ("products", ProductView.variation.Items)]

theorem ReceptionOverviewView.readsBack :
    ReceptionOverviewView.form.ReadsBack ReceptionOverviewView.variation :=
  readsBack_record _
    (fun v => ((required ReceptionView.readsBack "reception" v.reception).map
      ReceptionOverviewView.mk).seq (required ProductView.readsBack.list "products" v.products))
    (fun _ => rfl) (fun _ => rfl) (by decide)

/-- What may become of a pickup point's view with its receptions. -/
def PointOverviewView.variation : Variation :=
  .Record [("pvz", PointView.variation), ("receptions", ReceptionOverviewView.variation.Items)]

theorem PointOverviewView.readsBack : PointOverviewView.form.ReadsBack PointOverviewView.variation :=
  readsBack_record _
    (fun v => ((required PointView.readsBack "pvz" v.point).map PointOverviewView.mk).seq
      (required ReceptionOverviewView.readsBack.list "receptions" v.receptions))
    (fun _ => rfl) (fun _ => rfl) (by decide)

/-- What may become of an answer; the key of an error that was left out is known all the same. -/
def Envelope.variation (data : Variation) : Variation :=
  .Record [("success", .exact), ("data", data.nullable), ("error", .exact)]

/-- An answer is read back whether its error was written or left out. -/
theorem Envelope.readsBack {α : Type} {data : Form α} {V : Variation} (h : data.ReadsBack V) :
    (Envelope.form data).ReadsBack (Envelope.variation V) := by
  refine readsBack_record _
    (fun e => (((required readsBack_bool "success" e.success).map Envelope.mk).seq
      (optional h "data" e.data)).seq (omitted readsBack_string "error" e.error))
    (fun e => ?_) (fun _ => rfl) (show ["success", "data", "error"].Nodup by decide)
  obtain ⟨success, data, error⟩ := e
  cases error <;> rfl

end Http

/-! ## Types of data -/

open Http

/-- **A type of data that is written as JSON.** -/
inductive DataType where
  | city
  | pickupPoint
  | productType
  | product
  | reception
  | statusKind
  | pointView
  | receptionView
  | productView
  | receptionOverviewView
  | pointOverviewView
  /-- A list. -/
  | list (items : DataType)
  /-- An answer. -/
  | envelope (data : DataType)

namespace DataType

/-- The values of a type of data. -/
@[reducible] def Value : DataType → Type
  | city => City
  | pickupPoint => PickupPoint
  | productType => ProductType
  | product => Product
  | reception => Reception
  | statusKind => StatusKind
  | pointView => PointView
  | receptionView => ReceptionView
  | productView => ProductView
  | receptionOverviewView => ReceptionOverviewView
  | pointOverviewView => PointOverviewView
  | list items => List items.Value
  | envelope data => Envelope data.Value

/-- The form of a type of data. -/
def form : (t : DataType) → Form t.Value
  | city => City.form
  | pickupPoint => PickupPoint.form
  | productType => ProductType.form
  | product => Product.form
  | reception => Reception.form
  | statusKind => Form.status
  | pointView => PointView.form
  | receptionView => ReceptionView.form
  | productView => ProductView.form
  | receptionOverviewView => ReceptionOverviewView.form
  | pointOverviewView => PointOverviewView.form
  | list items => items.form.list
  | envelope data => Envelope.form data.form

/-- What may become of data: members reordered and strange ones added, in any of its records. -/
def variation : DataType → Variation
  | city => City.variation
  | pickupPoint => PickupPoint.variation
  | productType => ProductType.variation
  | product => Product.variation
  | reception => Reception.variation
  | statusKind => .exact
  | pointView => PointView.variation
  | receptionView => ReceptionView.variation
  | productView => ProductView.variation
  | receptionOverviewView => ReceptionOverviewView.variation
  | pointOverviewView => PointOverviewView.variation
  | list items => items.variation.Items
  | envelope data => Envelope.variation data.variation

theorem readsBack (t : DataType) : t.form.ReadsBack t.variation := by
  induction t with
  | city => exact City.readsBack
  | pickupPoint => exact PickupPoint.readsBack
  | productType => exact ProductType.readsBack
  | product => exact Product.readsBack
  | reception => exact Reception.readsBack
  | statusKind => exact readsBack_status
  | pointView => exact PointView.readsBack
  | receptionView => exact ReceptionView.readsBack
  | productView => exact ProductView.readsBack
  | receptionOverviewView => exact ReceptionOverviewView.readsBack
  | pointOverviewView => exact PointOverviewView.readsBack
  | list items ih => exact ih.list
  | envelope data ih => exact Envelope.readsBack ih

/-- **Data is read back from its text as it was**, and from the text of any variation of it: the
members of its records in any order, strange ones among them with any values, in any spelling. -/
theorem any_variation_reads_back (t : DataType) (a : t.Value) :
    t.form.reader.run (t.form.write a).text = .ok a ∧
      (∀ v : Json, t.variation (t.form.write a) v.draft → t.form.reader.run v.text = .ok a) ∧
      ∀ (text : String) (d : Draft), Draft.ofString text = ⟨d, true⟩ →
        t.variation (t.form.write a) d → t.form.reader.run text = .ok a := by
  have hspelled : ∀ (text : String) (d : Draft), Draft.ofString text = ⟨d, true⟩ →
      t.variation (t.form.write a) d → t.form.reader.run text = .ok a := by
    intro text d htext hd
    have hread := t.readsBack.read a d hd
    rw [Reader.run, Reader.value, htext]
    simp only [hread, if_true]
  have hvaried : ∀ v : Json, t.variation (t.form.write a) v.draft →
      t.form.reader.run v.text = .ok a :=
    fun v => hspelled v.text v.draft (ofString_text v)
  exact ⟨hvaried _ (t.readsBack.refl a), hvaried, hspelled⟩

/-- A pickup point that was registered in a leap second of the year 10000. -/
def leapPoint : PickupPoint :=
  ⟨.ofNat 1, ⟨253418025599, 1250000000, by decide, by decide, by decide, by decide⟩, 1,
    some ⟨1, "Москва"⟩⟩

/-- An answer from its end, with a strange member in each of its records. -/
def strangeAnswer : Json :=
  .object
    [("trace", .array [.null, .nat 3]),
      ("data", .object
        [("hours", .object [("id", .string "9-18")]),
          ("city", .object [("region", .null), ("name", .string "Москва"), ("id", .nat 1)]),
          ("city_id", .nat 1),
          ("registration_date", .string "+10000-06-30T23:59:60.250Z"),
          ("id", .string "00000000-0000-0000-0000-000000000001")]),
      ("success", .bool true)]

theorem strange_answer_reads_back :
    (envelope pickupPoint).variation ((envelope pickupPoint).form.write (.ok leapPoint))
        strangeAnswer.draft ∧
      (envelope pickupPoint).form.reader.run strangeAnswer.text = .ok (.ok leapPoint) := by
  have hid : "00000000-0000-0000-0000-000000000001" = leapPoint.id.text := by decide
  have htime : "+10000-06-30T23:59:60.250Z" = leapPoint.registered.text := by decide
  have hcity : City.variation (City.form.write ⟨1, "Москва"⟩)
      (.object [(some "region", .null), (some "name", .string (some "Москва")),
        (some "id", .number (.ofInt 1))] true) := by
    refine @Variation.Record.mk _ _ [_, _] [_] _ ?_ ?_ (List.reverse_perm'.mp (.refl _))
    · exact .cons ⟨rfl, .exact, .head _, rfl⟩ (.cons ⟨rfl, .exact, .tail _ (.head _), rfl⟩ .nil)
    · exact List.forall_mem_singleton.mpr ⟨rfl, "region", rfl, by decide⟩
  have hvaried : (envelope pickupPoint).variation
      ((envelope pickupPoint).form.write (.ok leapPoint)) strangeAnswer.draft := by
    refine @Variation.Record.mk _ _ [_, _] [_] _ ?_ ?_ (List.reverse_perm'.mp (.refl _))
    · refine .cons ⟨rfl, .exact, .head _, rfl⟩ (.cons ⟨rfl, _, .tail _ (.head _), ?_⟩ .nil)
      refine @Variation.Record.mk _ _ [_, _, _, _] [_] _ ?_ ?_ (List.reverse_perm'.mp (.refl _))
      · exact .cons ⟨rfl, .exact, .head _, congrArg (Draft.string ∘ some) hid⟩
          (.cons ⟨rfl, .exact, .tail _ (.head _), congrArg (Draft.string ∘ some) htime⟩
            (.cons ⟨rfl, .exact, .tail _ (.tail _ (.head _)), rfl⟩
              (.cons ⟨rfl, _, .tail _ (.tail _ (.tail _ (.head _))), hcity⟩ .nil)))
      · exact List.forall_mem_singleton.mpr ⟨rfl, "hours", rfl, by decide⟩
    · exact List.forall_mem_singleton.mpr ⟨rfl, "trace", rfl, by decide⟩
  exact ⟨hvaried,
    (any_variation_reads_back (envelope pickupPoint) (.ok leapPoint)).2.1 strangeAnswer hvaried⟩

end DataType
end PickupLedger
