import Mathlib.Data.List.Sort
import SmartHome.Device.Listing
import SmartHome.Proofs.Bytes
import SmartHome.Proofs.Registered

/-!
# Listings say what they say in one way

A listing is written from the fields of its entries (`listing_eq`). It has one entry for each device
type, the identifiers strictly ascending (`entries_eq`), and the fields of an entry describe the
type (`describes_ofType`): the names of its attributes ascend as well, and what is empty is left
out, without two entries becoming the same (`fields_inj`). As lists that ascend strictly are equal
if they have the same elements, the entries are the same exactly if the registries list the same
(`listing_canonical`).
-/

namespace SmartHome

section Ascending

variable {α : Type} {key : α → String} {l l' : List α}

theorem pairwise_toUTF8_lt (h : l.Pairwise fun a b => key a < key b) :
    l.Pairwise fun a b => (key a).toUTF8.toList < (key b).toUTF8.toList :=
  h.imp lt_iff_toUTF8_lt.1

/-- Lists that ascend strictly are equal if they have the same elements. -/
theorem eq_of_ascending (h : l.Pairwise fun a b => key a < key b)
    (h' : l'.Pairwise fun a b => key a < key b) (hm : ∀ a, a ∈ l ↔ a ∈ l') : l = l' := by
  have hirrefl : Std.Irrefl fun a b : α => key a < key b := ⟨fun a => String.lt_irrefl (key a)⟩
  have hantisymm : Std.Antisymm fun a b : α => key a < key b :=
    ⟨fun a b hab hba => absurd hba (String.lt_asymm hab)⟩
  exact h.eq_of_mem_iff h' hm

end Ascending

namespace ListingEntry

/-- What stands behind a field's name. -/
inductive Content where
  | text (s : String)
  | names (names : List String)
  deriving DecidableEq

/-- The fields that the entry is written with: what is empty has none. -/
def fields (e : ListingEntry) : List (String × Content) :=
  ("device_type", .text e.id)
    :: (if e.description = "" then [] else [("desc", .text e.description)])
    ++ if e.attributes = [] then [] else [("supported_attributes", .names e.attributes)]

/-- A field as it is written. -/
def renderField : String × Content → String
  | (name, .text s) => name ++ ": " ++ Yaml.Written.text depth s
  | (name, .names names) =>
    name ++ ":\n" ++ String.join (names.map fun n => "  - " ++ Yaml.Written.text depth n)

/-- Fields as an item of a list. -/
def renderItem (fields : List (String × Content)) : String :=
  "- " ++ "  ".intercalate (fields.map renderField)

/-- The text of entries with these fields. -/
def renderItems (entries : List (List (String × Content))) : String :=
  "---\n" ++ if entries = [] then "[]\n" else String.join (entries.map renderItem)

/-- The fields say of the type what it is called, what it is about unless that is empty, and which
attributes it supports unless there are none: those of either kind, each once. -/
structure Describes (fields : List (String × Content)) (t : DeviceType) : Prop where
  order : (fields.map Prod.fst).Sublist ["device_type", "desc", "supported_attributes"]
  id : ∀ c, ("device_type", c) ∈ fields ↔ c = .text t.id
  description : ∀ c, ("desc", c) ∈ fields ↔ t.description ≠ "" ∧ c = .text t.description
  attributes : ∀ c, ("supported_attributes", c) ∈ fields ↔ ∃ names ≠ [], c = .names names
    ∧ names.Pairwise (fun a b => a.toUTF8.toList < b.toUTF8.toList)
    ∧ ∀ name, name ∈ names ↔ ∃ kind, t.kind? name = some kind

variable {e e' : ListingEntry} {t t' : DeviceType}

theorem mem_fields_iff {f : String × Content} : f ∈ e.fields ↔ f = ("device_type", .text e.id)
    ∨ e.description ≠ "" ∧ f = ("desc", .text e.description)
    ∨ e.attributes ≠ [] ∧ f = ("supported_attributes", .names e.attributes) := by
  unfold fields
  split_ifs with hd ha ha <;> simp [hd, ha]

theorem mem_fields_id {c : Content} : ("device_type", c) ∈ e.fields ↔ c = .text e.id := by
  simp [mem_fields_iff]

theorem mem_fields_description {c : Content} :
    ("desc", c) ∈ e.fields ↔ e.description ≠ "" ∧ c = .text e.description := by
  simp [mem_fields_iff]

theorem mem_fields_attributes {c : Content} :
    ("supported_attributes", c) ∈ e.fields ↔ e.attributes ≠ [] ∧ c = .names e.attributes := by
  simp [mem_fields_iff]

/-- What is left out if it is empty can be told from what is shown. -/
theorem eq_of_shown {α : Type} (empty : α) {a b : α}
    (h : ∀ x, a ≠ empty ∧ x = a ↔ b ≠ empty ∧ x = b) : a = b := by
  by_cases ha : a = empty
  · by_contra hne
    exact hne ((h b).2 ⟨fun hb => hne (ha.trans hb.symm), rfl⟩).2.symm
  · exact ((h a).1 ⟨ha, rfl⟩).2

theorem fields_inj (h : e.fields = e'.fields) : e = e' := by
  have hid : e.id = e'.id := Content.text.inj (mem_fields_id.1 (h ▸ mem_fields_id.2 rfl))
  have hdescription : e.description = e'.description := eq_of_shown "" fun s => by
    simpa [mem_fields_description] using iff_of_eq (congrArg (("desc", .text s) ∈ ·) h)
  have hattributes : e.attributes = e'.attributes := eq_of_shown [] fun names => by
    simpa [mem_fields_attributes] using
      iff_of_eq (congrArg (("supported_attributes", .names names) ∈ ·) h)
  calc e = ⟨e.id, e.description, e.attributes⟩ := rfl
    _ = ⟨e'.id, e'.description, e'.attributes⟩ := by rw [hid, hdescription, hattributes]
    _ = e' := rfl

theorem render_eq (e : ListingEntry) : e.render = renderItem e.fields := by
  have hid : "- device_type: " = "- " ++ ("device_type" ++ ": ") := rfl
  have hdescription : "  desc: " = "  " ++ ("desc" ++ ": ") := rfl
  have hattributes : "  supported_attributes:\n" = "  " ++ ("supported_attributes" ++ ":\n") := rfl
  unfold render renderItem fields
  rw [hid, hdescription, hattributes]
  by_cases hd : e.description = "" <;> by_cases ha : e.attributes = []
  all_goals
    simp only [hd, ha, String.isEmpty_iff, List.isEmpty_iff, if_true, if_false, renderField,
      List.map_cons, List.map_nil, List.cons_append, List.nil_append, List.append_nil,
      String.intercalate_cons_cons, String.intercalate_singleton, String.append_assoc,
      -String.reduceAppend]
  · rw [String.empty_append, String.append_empty]
  · rw [String.empty_append]
  · rw [String.append_empty]

theorem mem_attributes_ofType {name : String} :
    name ∈ (ofType t).attributes ↔ ∃ kind, t.kind? name = some kind :=
  (Sorted.perm_sort _ _).mem_iff.trans Dict.mem_keys_iff

theorem ascending_ofType (t : DeviceType) : (ofType t).attributes.Pairwise (· < ·) :=
  Sorted.pairwise_lt_sort (by rw [List.map_id']; exact t.kinds.nodup)

/-- There is one way to list the names that a type supports. -/
theorem eq_attributes_ofType {names : List String}
    (h : names.Pairwise fun a b => a.toUTF8.toList < b.toUTF8.toList)
    (hm : ∀ name, name ∈ names ↔ ∃ kind, t.kind? name = some kind) :
    names = (ofType t).attributes :=
  eq_of_ascending (h.imp lt_iff_toUTF8_lt.2) (ascending_ofType t)
    fun name => (hm name).trans mem_attributes_ofType.symm

theorem describes_ofType (t : DeviceType) : Describes (ofType t).fields t where
  order := by
    unfold fields
    split_ifs <;> simp
  id _ := mem_fields_id
  description _ := mem_fields_description
  attributes c := by
    rw [mem_fields_attributes]
    constructor
    · rintro ⟨hne, rfl⟩
      exact ⟨_, hne, rfl, pairwise_toUTF8_lt (ascending_ofType t), fun _ => mem_attributes_ofType⟩
    · rintro ⟨names, hne, rfl, hnames, hmem⟩
      rw [← eq_attributes_ofType hnames hmem]
      exact ⟨hne, rfl⟩

/-- The entries of types are the same if they are described alike. -/
theorem ofType_eq_iff : ofType t = ofType t' ↔ t.id = t'.id ∧ t.description = t'.description
    ∧ ∀ name, (∃ kind, t.kind? name = some kind) ↔ ∃ kind, t'.kind? name = some kind := by
  simp only [← mem_attributes_ofType]
  constructor
  · intro h
    exact ⟨congrArg ListingEntry.id h, congrArg description h, fun name => by rw [h]⟩
  · rintro ⟨hid, hdescription, hnames⟩
    have hattributes : (ofType t).attributes = (ofType t').attributes :=
      eq_of_ascending (ascending_ofType t) (ascending_ofType t') hnames
    calc ofType t = ⟨t.id, t.description, (ofType t).attributes⟩ := rfl
      _ = ⟨t'.id, t'.description, (ofType t').attributes⟩ := by rw [hid, hdescription, hattributes]
      _ = ofType t' := rfl

end ListingEntry

namespace Registry

open ListingEntry (ofType)

variable {r r' : Registry}

/-- The registries have the same identifiers, with the same descriptions and the same supported
names. -/
structure ListsAlike (r r' : Registry) : Prop where
  ids : ∀ id, (∃ t, r.get? id = some t) ↔ ∃ t, r'.get? id = some t
  descriptions : ∀ id t t', r.get? id = some t → r'.get? id = some t' →
    t.description = t'.description
  attributes : ∀ id t t', r.get? id = some t → r'.get? id = some t' → ∀ name,
    (∃ kind, t.kind? name = some kind) ↔ ∃ kind, t'.kind? name = some kind

theorem ListsAlike.symm (h : ListsAlike r r') : ListsAlike r' r where
  ids id := (h.ids id).symm
  descriptions id t t' ht ht' := (h.descriptions id t' t ht' ht).symm
  attributes id t t' ht ht' name := (h.attributes id t' t ht' ht name).symm

theorem entries_eq (r : Registry) :
    r.entries = (Sorted.sort DeviceType.id r.list).map ofType :=
  Sorted.sort_map ListingEntry.id ofType r.list

theorem ascending_types (r : Registry) :
    (Sorted.sort DeviceType.id r.list).Pairwise fun t t' => t.id < t'.id :=
  Sorted.pairwise_lt_sort r.identified.nodup

theorem ascending_entries (r : Registry) : r.entries.Pairwise fun e e' => e.id < e'.id := by
  rw [entries_eq, List.pairwise_map]
  exact r.ascending_types

theorem mem_entries_iff {e : ListingEntry} :
    e ∈ r.entries ↔ ∃ t, r.get? e.id = some t ∧ ofType t = e := by
  rw [entries_eq, List.mem_map]
  refine exists_congr fun t => and_congr_left fun ht => ?_
  rw [(Sorted.perm_sort _ _).mem_iff, r.identified.get?_iff, ← ht]
  exact (and_iff_left rfl).symm

theorem listing_eq (r : Registry) :
    r.listing = ListingEntry.renderItems (r.entries.map ListingEntry.fields) := by
  unfold listing renderListing ListingEntry.renderItems
  rw [List.map_map, funext ListingEntry.render_eq]
  simp only [List.isEmpty_iff, List.map_eq_nil_iff]
  rfl

theorem ListsAlike.mem_entries (h : ListsAlike r r') {e : ListingEntry} (he : e ∈ r.entries) :
    e ∈ r'.entries := by
  obtain ⟨t, ht, rfl⟩ := mem_entries_iff.1 he
  obtain ⟨t', ht'⟩ := (h.ids t.id).1 ⟨t, ht⟩
  have hid : t.id = t'.id := ((r'.identified.get?_iff _ _).1 ht').2.symm
  refine mem_entries_iff.2 ⟨t', ht', Eq.symm ?_⟩
  exact ListingEntry.ofType_eq_iff.2
    ⟨hid, h.descriptions _ t t' ht ht', h.attributes _ t t' ht ht'⟩

theorem exists_of_entries_eq (h : r.entries = r'.entries) {id : String} {t : DeviceType}
    (ht : r.get? id = some t) : ∃ t', r'.get? id = some t' ∧ ofType t' = ofType t := by
  obtain rfl := ((r.identified.get?_iff _ _).1 ht).2
  have hmem : ofType t ∈ r.entries := mem_entries_iff.2 ⟨t, ht, rfl⟩
  exact mem_entries_iff.1 (h ▸ hmem)

theorem ofType_eq_of_entries_eq (h : r.entries = r'.entries) {id : String} {t t' : DeviceType}
    (ht : r.get? id = some t) (ht' : r'.get? id = some t') : ofType t = ofType t' := by
  obtain ⟨u, hu, heq⟩ := exists_of_entries_eq h ht
  obtain rfl := Option.some.inj (hu.symm.trans ht')
  exact heq.symm

theorem entries_eq_iff : r.entries = r'.entries ↔ ListsAlike r r' := by
  constructor
  · intro h
    refine ⟨fun id => ⟨?_, ?_⟩, fun id t t' ht ht' => ?_, fun id t t' ht ht' => ?_⟩
    · rintro ⟨t, ht⟩
      obtain ⟨t', ht', -⟩ := exists_of_entries_eq h ht
      exact ⟨t', ht'⟩
    · rintro ⟨t, ht⟩
      obtain ⟨t', ht', -⟩ := exists_of_entries_eq h.symm ht
      exact ⟨t', ht'⟩
    · exact (ListingEntry.ofType_eq_iff.1 (ofType_eq_of_entries_eq h ht ht')).2.1
    · exact (ListingEntry.ofType_eq_iff.1 (ofType_eq_of_entries_eq h ht ht')).2.2
  · intro h
    exact eq_of_ascending r.ascending_entries r'.ascending_entries
      fun e => ⟨h.mem_entries, h.symm.mem_entries⟩

/-- The listing of a registry is written from the fields of its entries. These describe its types,
each type once, and the identifiers ascend strictly by their bytes. Two registries have the same
entries, be it with or without what is empty, exactly if they list the same: in which order the
types came in and what else they hold does not matter. -/
theorem listing_canonical (r : Registry) :
    r.listing = ListingEntry.renderItems (r.entries.map ListingEntry.fields)
      ∧ (∃ ts : List DeviceType, ts.Perm r.list
        ∧ ts.Pairwise (fun t t' => t.id.toUTF8.toList < t'.id.toUTF8.toList)
        ∧ List.Forall₂ ListingEntry.Describes (r.entries.map ListingEntry.fields) ts)
      ∧ ∀ r' : Registry, (r.entries = r'.entries ↔ ListsAlike r r')
        ∧ (r.entries.map ListingEntry.fields = r'.entries.map ListingEntry.fields
          ↔ ListsAlike r r') := by
  refine ⟨r.listing_eq, ⟨_, Sorted.perm_sort DeviceType.id r.list,
    pairwise_toUTF8_lt r.ascending_types, ?_⟩, fun r' => ⟨entries_eq_iff, ?_⟩⟩
  · rw [entries_eq, List.map_map, List.forall₂_map_left_iff]
    exact List.forall₂_same.2 fun t _ => ListingEntry.describes_ofType t
  · rw [← entries_eq_iff]
    exact (List.map_injective_iff.2 fun _ _ => ListingEntry.fields_inj).eq_iff

/-- Cameras with other presets are listed alike. -/
example : (collect [cameraType, lampType]).listing
    = (collect [lampType, blankCameraType]).listing := by
  rfl

end Registry

end SmartHome
