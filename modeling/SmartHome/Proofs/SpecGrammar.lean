import Mathlib.Data.List.Basic
import SmartHome.Device.Spec

/-!
# The grammar of supported attributes

A supported attribute is written as one name or as two with an equals sign between them. A name is
not empty and has no equals sign in it, so the first equals sign of a text is where the names part,
and reading is the inverse of writing (`parse?_eq_some_iff`). What an attribute is called on the
entity and on the device, and whether these names were given apart, is all there is to a text
(`text_eq`); so different texts are never read alike (`parse?_spelling`).
-/

namespace SmartHome

namespace AttributeSpec

/-- A name that an attribute can be given: some text without an equals sign. -/
def IsName (s : String) : Prop := s ≠ "" ∧ '=' ∉ s.toList

instance (s : String) : Decidable (IsName s) := inferInstanceAs (Decidable (_ ∧ _))

/-- The names are names that can be given. -/
def WellNamed : AttributeSpec → Prop
  | direct name => IsName name
  | renamed entity device => IsName entity ∧ IsName device

variable {s entity device : String} {a : AttributeSpec}

section Parts

theorem isName_iff {cs : List Char} : IsName (.ofList cs) ↔ cs ≠ [] ∧ '=' ∉ cs := by
  rw [IsName, String.toList_ofList, Ne, ← String.toList_eq_nil_iff, String.toList_ofList]

theorem splitFirst?_of_isName (h : IsName s) : Split.splitFirst? '=' s.toList = none :=
  Split.splitFirst?_eq_none_iff.2 h.2

theorem splitFirst?_renamed (h : IsName entity) :
    Split.splitFirst? '=' (entity ++ "=" ++ device).toList
      = some (entity.toList, device.toList) := by
  refine Split.splitFirst?_eq_some_iff.2 ⟨?_, h.2⟩
  simp [String.toList_append]

end Parts

section Inverse

theorem parse?_text (h : a.WellNamed) : parse? a.text = some a := by
  cases a with
  | direct name =>
    have hempty : name.isEmpty = false := by simpa [String.isEmpty_iff] using h.1
    simp [parse?, text, splitFirst?_of_isName h, hempty]
  | renamed entity device =>
    obtain ⟨he, hd⟩ := h
    have hentity : entity.toList ≠ [] := fun hn => he.1 (String.toList_eq_nil_iff.1 hn)
    have hdevice : device.toList ≠ [] := fun hn => hd.1 (String.toList_eq_nil_iff.1 hn)
    unfold parse? text
    rw [splitFirst?_renamed he]
    simp [hentity, hdevice, hd.2]

theorem wellNamed_of_parse? (h : parse? s = some a) : a.WellNamed ∧ a.text = s := by
  unfold parse? at h
  split at h
  · rename_i hs
    split_ifs at h with hempty
    cases h
    exact ⟨⟨fun he => hempty (String.isEmpty_iff.2 he), Split.splitFirst?_eq_none_iff.1 hs⟩, rfl⟩
  · rename_i e d hs
    obtain ⟨hsplit, he⟩ := Split.splitFirst?_eq_some_iff.1 hs
    split_ifs at h with hbad
    cases h
    simp only [Bool.or_eq_true, List.isEmpty_iff, List.contains_iff_mem, not_or] at hbad
    obtain ⟨⟨hne, hnd⟩, hd⟩ := hbad
    refine ⟨⟨isName_iff.2 ⟨hne, he⟩, isName_iff.2 ⟨hnd, hd⟩⟩, ?_⟩
    rw [← String.toList_inj, hsplit]
    simp [text, String.toList_append]

theorem parse?_eq_some_iff : parse? s = some a ↔ a.WellNamed ∧ a.text = s := by
  constructor
  · exact wellNamed_of_parse?
  · rintro ⟨h, rfl⟩
    exact parse?_text h

theorem text_eq (a : AttributeSpec) :
    a.text = if a.isRenamed then a.entityKey ++ "=" ++ a.deviceKey else a.entityKey := by
  cases a <;> rfl

end Inverse

/-- The texts that are read as supported attributes are the names, and the pairs of names around an
equals sign; a name is meant for entity and device alike, and of a pair the first is the entity's.
What is read is written as the text that it was read from, and read from it again; so two texts that
are read with the same names, given in the same way, are one. -/
theorem parse?_spelling :
    (∀ s, (∃ a, parse? s = some a)
        ↔ IsName s ∨ ∃ entity device, s = entity ++ "=" ++ device ∧ IsName entity ∧ IsName device)
      ∧ (∀ s a, parse? s = some a → a.text = s ∧ parse? a.text = some a)
      ∧ (∀ s, IsName s → ∃ a, parse? s = some a ∧ a.entityKey = s ∧ a.deviceKey = s
        ∧ a.isRenamed = false)
      ∧ (∀ entity device, IsName entity → IsName device →
        ∃ a, parse? (entity ++ "=" ++ device) = some a ∧ a.entityKey = entity
          ∧ a.deviceKey = device ∧ a.isRenamed = true)
      ∧ ∀ s s' a a', parse? s = some a → parse? s' = some a' → a.entityKey = a'.entityKey →
        a.deviceKey = a'.deviceKey → a.isRenamed = a'.isRenamed → s = s' := by
  have hdirect : ∀ s, IsName s → parse? s = some (direct s) := fun s h =>
    parse?_text (a := direct s) h
  have hrenamed : ∀ entity device, IsName entity → IsName device →
      parse? (entity ++ "=" ++ device) = some (renamed entity device) := fun entity device he hd =>
    parse?_text (a := renamed entity device) ⟨he, hd⟩
  refine ⟨fun s => ?_, fun s a h => ?_, fun s h => ⟨_, hdirect s h, rfl, rfl, rfl⟩,
    fun entity device he hd => ⟨_, hrenamed entity device he hd, rfl, rfl, rfl⟩,
    fun s s' a a' h h' hentity hdevice halias => ?_⟩
  · constructor
    · rintro ⟨a, ha⟩
      obtain ⟨hnamed, rfl⟩ := parse?_eq_some_iff.1 ha
      cases a with
      | direct name => exact .inl hnamed
      | renamed entity device => exact .inr ⟨entity, device, rfl, hnamed⟩
    · rintro (h | ⟨entity, device, rfl, he, hd⟩)
      · exact ⟨_, hdirect s h⟩
      · exact ⟨_, hrenamed entity device he hd⟩
  · obtain ⟨hnamed, htext⟩ := parse?_eq_some_iff.1 h
    exact ⟨htext, parse?_text hnamed⟩
  · rw [← (parse?_eq_some_iff.1 h).2, ← (parse?_eq_some_iff.1 h').2, text_eq, text_eq, hentity,
      hdevice, halias]

/-- The entity's name is in front; with a second equals sign there is nothing to be read. -/
theorem parse?_spelling_brightness :
    (∃ a, parse? "brightness=level" = some a ∧ a.entityKey = "brightness" ∧ a.deviceKey = "level"
        ∧ a.text = "brightness=level")
      ∧ (∃ a, parse? "level" = some a ∧ a.entityKey = "level" ∧ a.deviceKey = "level")
      ∧ ¬ ∃ a, parse? "brightness=level=high" = some a := by
  have hlevel : IsName "level" := by decide
  obtain ⟨hiff, hinverse, hdirect, hrenamed, -⟩ := parse?_spelling
  refine ⟨?_, ?_, ?_⟩
  · obtain ⟨a, ha, he, hd, -⟩ := hrenamed "brightness" "level" (by decide) hlevel
    exact ⟨a, ha, he, hd, (hinverse _ a ha).1⟩
  · obtain ⟨a, ha, he, hd, -⟩ := hdirect "level" hlevel
    exact ⟨a, ha, he, hd⟩
  · rintro ⟨a, ⟨⟩⟩

end AttributeSpec

end SmartHome
