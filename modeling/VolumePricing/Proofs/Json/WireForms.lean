import VolumePricing.Notice.Wire
import VolumePricing.Proofs.Database.Bindings
import VolumePricing.Proofs.Json.Records
import VolumePricing.Summary.Wire
import VolumePricing.Tier.Wire

/-!
# Wire forms

What is sent as JSON is read back as it was. Tiers, updates of tiers, summaries and notifications
are written and read by rules of their own, and here the rules are seen to match, field by field.
A tier may also be written by others, in another order, as an array, in part or with more than it
has. What is read from that is written with everything that was given, and with the values of a
plain tier in all other places.
-/

namespace VolumePricing

/-! ### Values -/

@[simp] theorem decode_encode_bool (b : Bool) : decode (encode b) = .ok b := rfl

@[simp] theorem decode_encode_string (s : String) : decode (encode s) = .ok s := rfl

@[simp] theorem decode_encode_uint32 (n : UInt32) : decode (encode n) = .ok n := by
  have hlt := n.toNat_lt
  simp only [encode, decode, Json.bounded]
  rw [if_pos (by simp [UInt32.size]; omega)]
  simp [Except.map]

@[simp] theorem decode_encode_int32 (n : Int32) : decode (encode n) = .ok n := by
  simp only [encode, decode, Json.bounded]
  rw [if_pos ⟨n.minValue_le_toInt, n.toInt_le⟩]
  simp [Except.map]

@[simp] theorem decode_encode_int64 (n : Int64) : decode (encode n) = .ok n := by
  simp only [encode, decode, Json.bounded]
  rw [if_pos ⟨n.minValue_le_toInt, n.toInt_le⟩]
  simp [Except.map]

@[simp] theorem decode_encode_float {x : Float} (h : x.isFinite = true) :
    decode (encode x) = .ok x := by
  simp only [encode, Json.ofFloat, if_pos h]
  rfl

@[simp] theorem decode_encode_formula {f : Formula} (h : f.Canonical) :
    decode (encode f) = .ok f := congrArg Except.ok h

@[simp] theorem decode_encode_kind (k : NoticeKind) : decode (encode k) = .ok k := by
  cases k <;> rfl

namespace Uuid

theorem ofSimple?_chars (u : Uuid) : ofSimple? u.chars = some u := by
  have hdigits : u.chars.mapM Text.hexValue? = some u.digits := by
    unfold chars
    induction u.digits with
    | nil => rfl
    | cons d ds ih => simp [ih]
  rw [ofSimple?, hdigits, Option.bind_some, ofDigits?, dif_pos u.length_digits]

theorem ofHyphenated?_groups {a b c d : List Char} (e : List Char) (ha : a.length = 8)
    (hb : b.length = 4) (hc : c.length = 4) (hd : d.length = 4) :
    ofHyphenated? (a ++ ['-'] ++ b ++ ['-'] ++ c ++ ['-'] ++ d ++ ['-'] ++ e) =
      ofSimple? (a ++ b ++ c ++ d ++ e) := by
  unfold ofHyphenated?
  simp [List.drop_append, List.take_append, ha, hb, hc, hd, List.drop_eq_nil_of_le]

theorem parse?_text (u : Uuid) : parse? u.text = some u := by
  have hlength : u.chars.length = 32 := by simp [chars, u.length_digits]
  have hchars : u.chars.take 8 ++ (u.chars.drop 8).take 4 ++ (u.chars.drop 12).take 4 ++
      (u.chars.drop 16).take 4 ++ u.chars.drop 20 = u.chars := by
    rw [← List.take_add, ← List.take_add, ← List.take_add, List.take_append_drop]
  simp only [parse?, text, String.toList_ofList]
  rw [if_neg (by simp [hlength]), if_pos (by simp [hlength]),
    ofHyphenated?_groups _ (by simp [hlength]) (by simp [hlength]) (by simp [hlength])
      (by simp [hlength]), hchars, ofSimple?_chars]

end Uuid

@[simp] theorem decode_encode_uuid (u : Uuid) : decode (encode u) = .ok u := by
  simp only [encode, decode, Uuid.parse?_text]

/-- No value of the type is read from nothing. -/
class NeverNull (α : Type) [FromJson α] : Prop where
  decode_null (a : α) : decode .null ≠ .ok a

instance : NeverNull Bool := ⟨nofun⟩
instance : NeverNull String := ⟨nofun⟩
instance : NeverNull Float := ⟨nofun⟩
instance : NeverNull UInt32 := ⟨nofun⟩
instance : NeverNull Int32 := ⟨nofun⟩
instance : NeverNull Int64 := ⟨nofun⟩
instance : NeverNull Formula := ⟨nofun⟩
instance : NeverNull PriceTier := ⟨nofun⟩
instance : NeverNull NextTier := ⟨nofun⟩

section Containers

variable {α : Type} [FromJson α] [ToJson α]

theorem decode_encode_option [NeverNull α] {o : Option α}
    (h : ∀ a, o = some a → decode (encode a) = .ok a) : decode (encode o) = .ok o := by
  cases o with
  | none => rfl
  | some a =>
    have hback := h a rfl
    have hsome : (decode (encode a) : Decoded (Option α)) =
        (decode (encode a) : Decoded α).map some := by
      cases hj : encode a with
      | null =>
        rw [hj] at hback
        exact absurd hback (NeverNull.decode_null a)
      | _ => rfl
    change (decode (encode a) : Decoded (Option α)) = _
    rw [hsome, hback]
    rfl

theorem decode_encode_list {xs : List α} (h : ∀ x ∈ xs, decode (encode x) = .ok x) :
    decode (encode xs) = .ok xs := by
  change (xs.map encode).mapM decode = .ok xs
  induction xs with
  | nil => rfl
  | cons x xs ih =>
    rw [List.map_cons, List.mapM_cons, h x List.mem_cons_self,
      ih fun y hy => h y (List.mem_cons_of_mem _ hy)]
    rfl

end Containers

/-! ### What is sent -/

/-- The tier has finite numbers, and its formula is not a known one under another name. -/
structure PriceTier.Plain (t : PriceTier) : Prop where
  formula : t.formula.Canonical
  multiplier : t.multiplier.isFinite = true
  percentage : t.percentage.isFinite = true
  flatAmount : t.flatAmount.isFinite = true

theorem PriceTier.decode_encode {t : PriceTier} (h : t.Plain) : decode (encode t) = .ok t := by
  obtain ⟨hformula, hmultiplier, hpercentage, hflat⟩ := h
  have hwrites : Record.Writes fields t.members :=
    .of (decode_encode_uint32 t.id) <| .of (decode_encode_string t.name) <|
    .of (decode_encode_string t.displayName) <| .of (decode_encode_formula hformula) <|
    .of (decode_encode_float hmultiplier) <| .of (decode_encode_float hpercentage) <|
    .of (decode_encode_float hflat) <| .of (decode_encode_int64 t.minQuantity) <|
    .of (decode_encode_int32 t.orderIndex) <| .of (decode_encode_bool t.active) <|
    .of (decode_encode_string t.description) <| .of (decode_encode_bool t.isDefault) <|
    .of (decode_encode_bool t.showInPublic) <| .of (decode_encode_string t.colorCode) .nil
  have hrecord : ofRecord t.members = .ok t := by
    simp [ofRecord, members, Record.getD, List.lookup_cons, hformula, hmultiplier, hpercentage,
      hflat, bind, Except.bind, pure, Except.pure]
  change Record.read fields (.object t.members) >>= ofRecord = _
  rw [Record.read_object (by decide) hwrites]
  exact hrecord

/-- What the update gives, it gives as a tier has it. -/
structure TierUpdate.Plain (u : TierUpdate) : Prop where
  formula : ∀ f, u.formula = some f → f.Canonical
  multiplier : ∀ x, u.multiplier = some x → x.isFinite = true
  percentage : ∀ x, u.percentage = some x → x.isFinite = true
  flatAmount : ∀ x, u.flatAmount = some x → x.isFinite = true

theorem TierUpdate.decode_encode {u : TierUpdate} (h : u.Plain) : decode (encode u) = .ok u := by
  have text : ∀ o : Option String, decode (encode o) = .ok o := fun _ =>
    decode_encode_option fun s _ => decode_encode_string s
  have flag : ∀ o : Option Bool, decode (encode o) = .ok o := fun _ =>
    decode_encode_option fun b _ => decode_encode_bool b
  have hformula : decode (encode u.formula) = .ok u.formula :=
    decode_encode_option fun f hf => decode_encode_formula (h.formula f hf)
  have hmultiplier : decode (encode u.multiplier) = .ok u.multiplier :=
    decode_encode_option fun x hx => decode_encode_float (h.multiplier x hx)
  have hpercentage : decode (encode u.percentage) = .ok u.percentage :=
    decode_encode_option fun x hx => decode_encode_float (h.percentage x hx)
  have hflat : decode (encode u.flatAmount) = .ok u.flatAmount :=
    decode_encode_option fun x hx => decode_encode_float (h.flatAmount x hx)
  have hquantity : decode (encode u.minQuantity) = .ok u.minQuantity :=
    decode_encode_option fun n _ => decode_encode_int64 n
  have hindex : decode (encode u.orderIndex) = .ok u.orderIndex :=
    decode_encode_option fun n _ => decode_encode_int32 n
  have hwrites : Record.Writes fields u.members :=
    .of (text u.name) <| .of (text u.displayName) <| .of hformula <| .of hmultiplier <|
    .of hpercentage <| .of hflat <| .of hquantity <| .of hindex <| .of (flag u.active) <|
    .of (text u.description) <| .of (flag u.isDefault) <| .of (flag u.showInPublic) <|
    .of (text u.colorCode) .nil
  have hrecord : ofRecord u.members = .ok u := by
    simp [ofRecord, members, Record.getOption, List.lookup_cons, text, flag, hformula, hmultiplier,
      hpercentage, hflat, hquantity, hindex, bind, Except.bind, pure, Except.pure]
  change Record.read fields (.object u.members) >>= ofRecord = _
  rw [Record.read_object (by decide) hwrites]
  exact hrecord

@[simp] theorem NextTier.decode_encode (n : NextTier) : decode (encode n) = .ok n := by
  have hwrites : Record.Writes fields
      [("display_name", encode n.displayName), ("min_quantity", encode n.minQuantity),
       ("quantity_to_unlock", encode n.quantityToUnlock)] :=
    .of (decode_encode_string n.displayName) <| .of (decode_encode_int64 n.minQuantity) <|
    .of (decode_encode_int64 n.quantityToUnlock) .nil
  change Record.read fields (.object _) >>= ofRecord = _
  rw [Record.read_object (by decide) hwrites]
  simp [ofRecord, Record.get, List.lookup_cons, bind, Except.bind, pure, Except.pure]

structure ItemSummary.Plain (i : ItemSummary) : Prop where
  cost : i.cost.isFinite = true
  unitPrice : i.unitPrice.isFinite = true
  subtotal : i.subtotal.isFinite = true

theorem ItemSummary.decode_encode {i : ItemSummary} (h : i.Plain) : decode (encode i) = .ok i := by
  obtain ⟨hcost, hprice, hsubtotal⟩ := h
  have hwrites : Record.Writes fields
      [("cart_item_id", encode i.cartItemId), ("product_id", encode i.productId),
       ("product_name", encode i.productName), ("variant_name", encode i.variantName),
       ("quantity", encode i.quantity), ("cost_price", encode i.cost),
       ("unit_price", encode i.unitPrice), ("subtotal", encode i.subtotal),
       ("image_url", encode i.imageUrl)] :=
    .of (decode_encode_uint32 i.cartItemId) <| .of (decode_encode_uint32 i.productId) <|
    .of (decode_encode_string i.productName) <| .of (decode_encode_string i.variantName) <|
    .of (decode_encode_int64 i.quantity) <| .of (decode_encode_float hcost) <|
    .of (decode_encode_float hprice) <| .of (decode_encode_float hsubtotal) <|
    .of (decode_encode_string i.imageUrl) .nil
  change Record.read fields (.object _) >>= ofRecord = _
  rw [Record.read_object (by decide) hwrites]
  simp [ofRecord, Record.get, List.lookup_cons, hcost, hprice, hsubtotal, bind, Except.bind, pure,
    Except.pure]

structure CartSummary.Plain (s : CartSummary) : Prop where
  subtotal : s.subtotal.isFinite = true
  items : ∀ i ∈ s.items, i.Plain
  tier : ∀ t, s.tier = some t → t.Plain
  allTiers : ∀ t ∈ s.allTiers, t.Plain

theorem CartSummary.decode_encode {s : CartSummary} (h : s.Plain) : decode (encode s) = .ok s := by
  have hid : decode (encode s.cartId) = .ok s.cartId :=
    decode_encode_option fun n _ => decode_encode_uint32 n
  have hsubtotal := h.subtotal
  have hitems : decode (encode s.items) = .ok s.items :=
    decode_encode_list fun i hi => ItemSummary.decode_encode (h.items i hi)
  have htier : decode (encode s.tier) = .ok s.tier :=
    decode_encode_option fun t ht => PriceTier.decode_encode (h.tier t ht)
  have hnext : decode (encode s.nextTier) = .ok s.nextTier :=
    decode_encode_option fun n _ => NextTier.decode_encode n
  have htiers : decode (encode s.allTiers) = .ok s.allTiers :=
    decode_encode_list fun t ht => PriceTier.decode_encode (h.allTiers t ht)
  have hwrites : Record.Writes fields
      [("cart_id", encode s.cartId), ("total_quantity", encode s.totalQuantity),
       ("subtotal", encode s.subtotal), ("items", encode s.items), ("tier", encode s.tier),
       ("next_tier", encode s.nextTier), ("all_tiers", encode s.allTiers)] :=
    .of hid <| .of (decode_encode_int64 s.totalQuantity) <| .of (decode_encode_float hsubtotal) <|
    .of hitems <| .of htier <| .of hnext <| .of htiers .nil
  change Record.read fields (.object _) >>= ofRecord = _
  rw [Record.read_object (by decide) hwrites]
  simp [ofRecord, Record.get, Record.getOption, List.lookup_cons, hid, hsubtotal, hitems, htier,
    hnext, htiers, bind, Except.bind, pure, Except.pure]

/-- What the notification tells of savings is finite. -/
def CartNotification.Plain (c : CartNotification) : Prop :=
  ∀ x, c.notification.notice.savings = some x → x.isFinite = true

theorem whenSome_none {α : Type} [ToJson α] (name : String) :
    whenSome name (none : Option α) = [] := rfl

/-- What is written of a value is written of there being one. -/
theorem whenSome_some {α : Type} [ToJson α] (name : String) (a : α) :
    whenSome name (some a) = [(name, encode (some a))] := rfl

theorem Record.Writes.optional {α : Type} [FromJson α] [ToJson α] {name : String} {o : Option α}
    {fields : List Field} {members : List (String × Json)} (h : decode (encode o) = .ok o)
    (hrest : Writes fields members) :
    Writes (.of (Option α) name .fromObjects :: fields) (whenSome name o ++ members) := by
  cases o with
  | none => exact .skip (by simp [Field.of]) hrest
  | some a => exact .of h hrest

theorem PriceNotification.decode_encode {p : PriceNotification}
    (h : ∀ x, p.notice.savings = some x → x.isFinite = true) : decode (encode p) = .ok p := by
  have hid : decode (encode p.notice.tierId) = .ok p.notice.tierId :=
    decode_encode_option fun n _ => decode_encode_uint32 n
  have hsavings : decode (encode p.notice.savings) = .ok p.notice.savings :=
    decode_encode_option fun x hx => decode_encode_float (h x hx)
  have hneeded : decode (encode p.notice.itemsNeeded) = .ok p.notice.itemsNeeded :=
    decode_encode_option fun n _ => decode_encode_int64 n
  have hwrites : Record.Writes fields
      (("id", encode p.id) :: p.notice.members ++ [("timestamp", encode p.timestamp)]) := by
    unfold Notice.members
    rw [List.cons_append, List.append_assoc, List.append_assoc]
    exact .of (decode_encode_uuid p.id) <| .of (decode_encode_kind p.notice.kind) <|
      .of (decode_encode_string p.notice.message) <| .of hid <|
      .of (decode_encode_string p.notice.tierName) <| .optional hsavings <| .optional hneeded <|
      .of (decode_encode_int64 p.timestamp) .nil
  change Record.read fields (.object _) >>= ofRecord = _
  rw [Record.read_object (by decide) hwrites]
  obtain ⟨id, ⟨kind, message, tierId, tierName, savings, needed⟩, timestamp⟩ := p
  dsimp only at hid hsavings hneeded
  cases savings <;> cases needed <;>
    simp [ofRecord, Notice.members, whenSome_none, whenSome_some, Record.get, Record.getOption,
      List.lookup_cons, hid, hsavings, hneeded, bind, Except.bind, pure, Except.pure]

theorem CartNotification.decode_encode {c : CartNotification} (h : c.Plain) :
    decode (encode c) = .ok c := by
  have hnotification : decode (encode c.notification) = .ok c.notification :=
    PriceNotification.decode_encode h
  have hwrites : Record.Writes fields
      [("user_id", encode c.userId), ("notification", encode c.notification)] :=
    .of (decode_encode_string c.userId) <| .of hnotification .nil
  change Record.read fields (.object _) >>= ofRecord = _
  rw [Record.read_object (by decide) hwrites]
  simp [ofRecord, Record.get, List.lookup_cons, hnotification, bind, Except.bind, pure, Except.pure]

/-! ### What a tier is read from -/

/-- What is written of a value says what it was read from. -/
class Restating (α : Type) [FromJson α] [ToJson α] : Prop where
  restates {j : Json} {a : α} (hj : j.finite = true) (h : decode j = .ok a) : j.Restates (encode a)

instance : Restating Bool where
  restates {j a} _ h := by
    cases j <;> cases h
    exact .same _

instance : Restating String where
  restates {j a} _ h := by
    cases j <;> cases h
    exact .same _

theorem isFinite_of_decode {j : Json} {x : Float} (hj : j.finite = true)
    (h : decode j = .ok x) : x.isFinite = true := by
  cases j <;> cases h <;> exact hj

instance : Restating Float where
  restates {j x} hj h := by
    have hx := isFinite_of_decode hj h
    have hencode : encode x = .real x := by simp only [encode, Json.ofFloat, if_pos hx]
    rw [hencode]
    cases j <;> cases h
    · exact .double _
    · exact .same _

theorem Json.restates_of_bounded {α : Type} [ToJson α] {low high : ℤ} {f : ℤ → α} {j : Json} {a : α}
    (hf : ∀ n, low ≤ n → n ≤ high → encode (f n) = .int n)
    (h : (j.bounded low high).map f = .ok a) : j.Restates (encode a) := by
  cases j with
  | int n =>
    by_cases hn : low ≤ n ∧ n ≤ high
    · rw [bounded, if_pos hn] at h
      cases h
      rw [hf n hn.1 hn.2]
      exact .same _
    · rw [bounded, if_neg hn] at h
      cases h
  | _ => cases h

instance : Restating UInt32 where
  restates _ h := by
    refine Json.restates_of_bounded (fun n hlow hhigh => ?_) h
    have hlt : n.toNat < UInt32.size := by omega
    simp only [encode, UInt32.toNat_ofNat_of_lt' hlt, Int.toNat_of_nonneg hlow]

instance : Restating Int32 where
  restates _ h := by
    refine Json.restates_of_bounded (fun n hlow hhigh => ?_) h
    simp only [encode, Int32.toInt_ofInt_of_le hlow (Int.lt_of_le_of_lt hhigh (by decide))]

instance : Restating Int64 where
  restates _ h := by
    refine Json.restates_of_bounded (fun n hlow hhigh => ?_) h
    simp only [encode, Int64.toInt_ofInt_of_le hlow (Int.lt_of_le_of_lt hhigh (by decide))]

/-- A tag is written as it was read, known or not. -/
instance : Restating Formula where
  restates {j f} _ h := by
    cases j <;> cases h
    simp only [encode, Formula.tag_ofTag]
    exact .same _

namespace PriceTier

/-- The tier that is read where nothing is written. -/
def unwritten : PriceTier := { formula := .other "" }

/-- The member says what is written of its field, or is that of a tier of which nothing is. -/
def Fills (j : Json) (m : String × Json) : Prop :=
  match j.written? fields m.1 with
  | some v => v.Restates m.2
  | none => unwritten.members.lookup m.1 = some m.2

end PriceTier

theorem Decoded.bind_eq_ok {α β : Type} {x : Decoded α} {f : α → Decoded β} {b : β} :
    (x >>= f) = .ok b ↔ ∃ a, x = .ok a ∧ f a = .ok b := by
  cases x <;> simp [bind, Except.bind]

namespace PriceTier

variable {r : Record} {j : Json} {t : PriceTier}

/-- A field that may be left out is read from what is written of it, or it has its default. -/
theorem getD_cases {α : Type} [FromJson α] {name : String} {d a : α}
    (hread : Record.read fields j = .ok r) (hfield : Field.of α name .always ∈ fields)
    (h : r.getD name d = .ok a) :
    (∃ v, j.written? fields name = some v ∧ decode v = .ok a) ∨
      (j.written? fields name = none ∧ a = d) := by
  have hlookup : r.lookup name = j.written? fields name := Record.lookup_of_read hread hfield
  rw [← hlookup]
  unfold Record.getD at h
  cases hv : r.lookup name with
  | none =>
    rw [hv] at h
    cases h
    exact Or.inr ⟨rfl, rfl⟩
  | some v =>
    rw [hv] at h
    exact Or.inl ⟨v, rfl, h⟩

/-- A field that was read has the value that is written, or that of a tier of which nothing is. -/
theorem fills_of_getD {α : Type} [FromJson α] [ToJson α] [Restating α] {name : String} {d a : α}
    (hread : Record.read fields j = .ok r) (hj : j.finite = true)
    (hfield : Field.of α name .always ∈ fields)
    (hd : unwritten.members.lookup name = some (encode d)) (h : r.getD name d = .ok a) :
    Fills j (name, encode a) := by
  unfold Fills
  rcases getD_cases hread hfield h with ⟨v, hv, hdecode⟩ | ⟨hv, rfl⟩ <;> rw [hv]
  · exact Restating.restates (Record.finite_of_written hj hv) hdecode
  · exact hd

theorem isFinite_of_getD {name : String} {d x : Float}
    (hread : Record.read fields j = .ok r) (hj : j.finite = true)
    (hfield : Field.of Float name .always ∈ fields) (hd : d.isFinite = true)
    (h : r.getD name d = .ok x) : x.isFinite = true := by
  rcases getD_cases hread hfield h with ⟨v, hv, hdecode⟩ | ⟨-, rfl⟩
  · exact isFinite_of_decode (Record.finite_of_written hj hv) hdecode
  · exact hd

theorem canonical_of_getD {name : String} {f : Formula}
    (h : r.getD name (.other "") = .ok f) : f.Canonical := by
  unfold Record.getD at h
  split at h
  · cases h
    exact Formula.canonical_ofTag ""
  · exact Formula.canonical_of_decode h

theorem plain_of_decode (hj : j.finite = true) (h : decode j = .ok t) : t.Plain := by
  obtain ⟨r, hread, h⟩ := Decoded.bind_eq_ok.mp h
  simp only [ofRecord, Decoded.bind_eq_ok] at h
  obtain ⟨_, -, _, -, _, -, _, hformula, _, hmultiplier, _, hpercentage, _, hflat, _, -, _, -, _, -,
    _, -, _, -, _, -, _, -, h⟩ := h
  cases h
  exact {
    formula := canonical_of_getD hformula
    multiplier := isFinite_of_getD hread hj (by simp [fields]) (by decide) hmultiplier
    percentage := isFinite_of_getD hread hj (by simp [fields]) (by decide) hpercentage
    flatAmount := isFinite_of_getD hread hj (by simp [fields]) (by decide) hflat }

theorem fills_of_decode (hj : j.finite = true) (h : decode j = .ok t) :
    ∀ m ∈ t.members, Fills j m := by
  obtain ⟨r, hread, h⟩ := Decoded.bind_eq_ok.mp h
  simp only [ofRecord, Decoded.bind_eq_ok] at h
  obtain ⟨id, hid, name, hname, displayName, hdisplay, formula, hformula, multiplier, hmultiplier,
    percentage, hpercentage, flatAmount, hflat, minQuantity, hquantity, orderIndex, hindex, active,
    hactive, description, hdescription, isDefault, hdefault, showInPublic, hpublic, colorCode,
    hcolor, h⟩ := h
  cases h
  simp only [members, List.forall_mem_cons]
  refine ⟨fills_of_getD hread hj ?_ rfl hid, fills_of_getD hread hj ?_ rfl hname,
    fills_of_getD hread hj ?_ rfl hdisplay, fills_of_getD hread hj ?_ rfl hformula,
    fills_of_getD hread hj ?_ rfl hmultiplier, fills_of_getD hread hj ?_ rfl hpercentage,
    fills_of_getD hread hj ?_ rfl hflat, fills_of_getD hread hj ?_ rfl hquantity,
    fills_of_getD hread hj ?_ rfl hindex, fills_of_getD hread hj ?_ rfl hactive,
    fills_of_getD hread hj ?_ rfl hdescription, fills_of_getD hread hj ?_ rfl hdefault,
    fills_of_getD hread hj ?_ rfl hpublic, fills_of_getD hread hj ?_ rfl hcolor, nofun⟩
  -- what is left is that each of them is a field
  all_goals simp [fields]

end PriceTier

/-- What is sent is read back as it was. And a tier that is read from anything is read from its own
form again, in which every field says what was written of it, and has the value of a tier of which
nothing is written where nothing was. -/
theorem wire_forms_match :
    (∀ t : PriceTier, t.Plain → decode (encode t) = .ok t) ∧
      (∀ u : TierUpdate, u.Plain → decode (encode u) = .ok u) ∧
      (∀ s : CartSummary, s.Plain → decode (encode s) = .ok s) ∧
      (∀ c : CartNotification, c.Plain → decode (encode c) = .ok c) ∧
      ∀ (j : Json) (t : PriceTier), j.finite = true → decode j = .ok t →
        decode (encode t) = .ok t ∧ ∀ m ∈ t.members, PriceTier.Fills j m := by
  refine ⟨fun _ => PriceTier.decode_encode, fun _ => TierUpdate.decode_encode,
    fun _ => CartSummary.decode_encode, fun _ => CartNotification.decode_encode, fun j t hj h => ?_⟩
  exact ⟨PriceTier.decode_encode (PriceTier.plain_of_decode hj h), PriceTier.fills_of_decode hj h⟩

/-- The first fields of a tier in an array, with a tag that nothing is known of. -/
def Json.surcharge : Json :=
  .array [.int 7, .string "vip", .string "Vip", .string "surcharge", .int 2]

/-- The tier that is read from it keeps the tag and is active like any tier. -/
theorem wire_forms_match_surcharge : ∃ t : PriceTier, decode Json.surcharge = .ok t ∧
    (t.formula = .other "surcharge" ∧ t.multiplier = Float.ofInt 2 ∧ t.active = true) ∧
    decode (encode t) = .ok t ∧ ∀ m ∈ t.members, PriceTier.Fills Json.surcharge m := by
  obtain ⟨t, hdecode, hfields⟩ : ∃ t : PriceTier, decode Json.surcharge = .ok t ∧
      t.formula = .other "surcharge" ∧ t.multiplier = Float.ofInt 2 ∧ t.active = true :=
    ⟨_, rfl, rfl, rfl, rfl⟩
  obtain ⟨-, -, -, -, hread⟩ := wire_forms_match
  exact ⟨t, hdecode, hfields, hread _ _ (by decide) hdecode⟩

end VolumePricing
