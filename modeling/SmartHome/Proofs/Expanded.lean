import SmartHome.Proofs.Loading

/-!
# Expanded values

A value is expanded if no directive stands in it (`Expanded`). What a value is expanded to is
expanded if what is loaded for it is (`Becomes.expanded`), and an expanded value expands to itself
in every workspace, as part of every document (`expand_of_expanded`). So what is loaded is expanded,
and stays as it is when it is expanded again (`load_expanded`).
-/

namespace SmartHome

namespace Document

open Yaml (Value)

/-- No directive stands in the value, where tags are expanded. -/
def Expanded (v : Value) : Prop := ∀ d a, ¬ Holds v d a

variable {w : Workspace} {base s : Path} {load : Path → Except DocumentError Value}
  {tag : String} {k u v : Value} {us vs : List Value} {ps qs : List (Value × Value)}

section Shape

theorem expanded_of_isScalar (h : IsScalar v) : Expanded v := by
  intro d a hh
  cases hh <;> exact h.elim

theorem expanded_nil : Expanded (.sequence []) := by
  intro d a hh
  cases hh with
  | item hmem => cases hmem

theorem expanded_empty : Expanded (.mapping []) := by
  intro d a hh
  cases hh with
  | pair hmem => cases hmem

theorem expanded_cons :
    Expanded (.sequence (v :: vs)) ↔ Expanded v ∧ Expanded (.sequence vs) := by
  constructor
  · exact fun h => ⟨fun d a hh => h d a (.item List.mem_cons_self hh),
      fun d a hh => h d a hh.of_tail_items⟩
  · rintro ⟨hv, hvs⟩ d a (_ | _ | ⟨hmem, hh⟩)
    rcases List.mem_cons.1 hmem with rfl | hmem
    · exact hv d a hh
    · exact hvs d a (.item hmem hh)

theorem expanded_cons_pair :
    Expanded (.mapping ((k, v) :: ps)) ↔ Expanded v ∧ Expanded (.mapping ps) := by
  constructor
  · exact fun h => ⟨fun d a hh => h d a (.pair List.mem_cons_self hh),
      fun d a hh => h d a hh.of_tail_pairs⟩
  · rintro ⟨hv, hps⟩ d a (_ | _ | _ | ⟨hmem, hh⟩)
    rcases List.mem_cons.1 hmem with heq | hmem
    · cases heq
      exact hv d a hh
    · exact hps d a (.pair hmem hh)

theorem expanded_tagged :
    Expanded (.tagged tag v) ↔ Directive.ofTag? tag = none ∧ Expanded v := by
  constructor
  · intro h
    rcases ht : Directive.ofTag? tag with _ | d
    · exact ⟨rfl, fun d a hh => h d a (.under ht hh)⟩
    · exact (h d v (.here ht)).elim
  · rintro ⟨ht, hv⟩ d a hh
    cases hh with
    | here ht' => simp [ht] at ht'
    | under _ hh => exact hv d a hh

theorem expanded_mappingOf {names : List OsText} {u : OsText → Value}
    (h : ∀ n ∈ names, Expanded (u n)) : Expanded (mappingOf names u) := by
  rintro d a (_ | _ | _ | ⟨hmem, hh⟩)
  obtain ⟨e, he, heq⟩ := List.mem_map.1 hmem
  obtain ⟨n, hn, rfl⟩ := List.mem_map.1 (Dict.mem_ofList he)
  cases heq
  exact h n hn d a hh

end Shape

section Loaded

theorem expanded_of_replacement {d : Directive} (hl : ∀ p u, load p = .ok u → Expanded u)
    (h : replacement w base load s d v = .ok u) : Expanded u := by
  cases d with
  | document =>
    obtain ⟨p, -, hload⟩ := bind_eq_ok_iff.1 h
    exact hl p u hload
  | directory =>
    obtain ⟨p, -, hmapping⟩ := bind_eq_ok_iff.1 h
    obtain ⟨names, -, hall, rfl⟩ := directoryMapping_eq_ok hmapping
    exact expanded_mappingOf fun n hn => hl _ _ (hall n hn)
  | environment =>
    obtain ⟨name, text, -, -, rfl⟩ := variableText_eq_ok h
    exact expanded_of_isScalar trivial

/-- If what is loaded is expanded, so is what a value is expanded to. -/
theorem Becomes.expanded (h : Becomes w base load s v u)
    (hl : ∀ p u, load p = .ok u → Expanded u) : Expanded u := by
  induction h with
  | scalar hv => exact expanded_of_isScalar hv
  | nil => exact expanded_nil
  | item _ _ ihv ihvs => exact expanded_cons.2 ⟨ihv, ihvs⟩
  | empty => exact expanded_empty
  | pair _ _ ihv ihps => exact expanded_cons_pair.2 ⟨ihv, ihps⟩
  | other ht _ ih => exact expanded_tagged.2 ⟨ht, ih⟩
  | replaced _ h => exact expanded_of_replacement hl h

/-- What is loaded is expanded, whatever the listings of directories leave out. -/
theorem expanded_of_loadWithin : ∀ (fuel : Nat) (within : List Path) {p : Path} {u : Value},
    loadWithin w base fuel within p = .ok u → Expanded u
  | 0, _, _, _, h => by cases h
  | fuel + 1, within, p, u, h => by
    rw [loadWithin_succ] at h
    split_ifs at h
    obtain ⟨v, -, hv⟩ := bind_eq_ok_iff.1 h
    exact (becomes_of_expand hv).expanded fun _ _ => expanded_of_loadWithin fuel _

end Loaded

section Again

variable (w base load s)

mutual

/-- An expanded value expands to itself; nothing is loaded. -/
theorem expand_of_expanded : ∀ {v : Value}, Expanded v → expand w base load s v = .ok v
  | .null, _ | .bool _, _ | .number _, _ | .string _, _ => rfl
  | .sequence vs, h => by
    rw [expand, expandItems_of_expanded h]
    rfl
  | .mapping ps, h => by
    rw [expand, expandPairs_of_expanded h]
    rfl
  | .tagged tag v, h => by
    obtain ⟨ht, hv⟩ := expanded_tagged.1 h
    rw [expand_tagged, ht, expand_of_expanded hv]
    rfl

theorem expandItems_of_expanded : ∀ {vs : List Value}, Expanded (.sequence vs) →
    expandItems w base load s vs = .ok vs
  | [], _ => rfl
  | v :: vs, h => by
    obtain ⟨hv, hvs⟩ := expanded_cons.1 h
    rw [expandItems, expand_of_expanded hv, expandItems_of_expanded hvs]
    rfl

theorem expandPairs_of_expanded : ∀ {ps : List (Value × Value)}, Expanded (.mapping ps) →
    expandPairs w base load s ps = .ok ps
  | [], _ => rfl
  | (k, v) :: ps, h => by
    obtain ⟨hv, hps⟩ := expanded_cons_pair.1 h
    rw [expandPairs, expand_of_expanded hv, expandPairs_of_expanded hps]
    rfl

end

end Again

theorem keys_expandPairs (h : expandPairs w base load s ps = .ok qs) :
    qs.map Prod.fst = ps.map Prod.fst := by
  induction ps generalizing qs with
  | nil =>
    cases h
    rfl
  | cons p ps ih =>
    rw [expandPairs] at h
    obtain ⟨u, -, hrest⟩ := bind_eq_ok_iff.1 h
    obtain ⟨qs', hqs', hpure⟩ := bind_eq_ok_iff.1 hrest
    cases hpure
    rw [List.map_cons, List.map_cons, ih hqs']

/-- In what is loaded, from a file or from a text, no directive stands; only keys keep their tags.
To expand it again changes nothing, whatever the workspace and the document it is taken for a part
of. -/
theorem load_expanded (w : Workspace) (base path : Path) (text : String) (source : Path) (u : Value)
    (h : Document.load w base path = .ok u ∨ loadText w base text source = .ok u) :
    (∀ d a, ¬ Holds u d a)
      ∧ (∀ w' base' load' source', expand w' base' load' source' u = .ok u)
      ∧ ∀ w' base' load' source' ps qs, expandPairs w' base' load' source' ps = .ok qs →
        qs.map Prod.fst = ps.map Prod.fst := by
  have hloaded : ∀ p u, Document.load w base p = .ok u → Expanded u := fun _ _ =>
    expanded_of_loadWithin _ _
  have hexpanded : Expanded u := by
    rcases h with h | h
    · exact hloaded path u h
    · rw [loadText, expandText] at h
      rcases hv : Value.ofText? text with _ | v <;> simp only [hv] at h
      · cases h
      · exact (becomes_of_expand h).expanded hloaded
  exact ⟨hexpanded,
    fun w' base' load' source' => expand_of_expanded w' base' source' load' hexpanded,
    fun _ _ _ _ _ _ => keys_expandPairs⟩

/-- Directives below an unknown tag, at the root of an included document, in a directory's document
and in a key. -/
def roomFiles : FileTree where
  workingDirectory := ["home"]
  entries := ⟨[
    (["home", "home.yaml"], .file (some ("!include name: !room\n  - !include lamp.yaml\n"
      ++ "  - !env_var NAME\nall: !include_dir_named parts\n"))),
    (["home", "lamp.yaml"], .file (some "!include parts/bulb.yml")),
    (["home", "parts", "bulb.yml"], .file (some "!env_var NAME\n"))], by decide⟩

theorem load_expanded_room :
    let u : Value := .mapping [
      (.tagged "include" (.string "name"),
        .tagged "room" (.sequence [.string "lamp", .string "lamp"])),
      (.string "all", .mapping [(.string "bulb", .string "lamp")])]
    Document.load ⟨roomFiles, ⟨[("NAME", "lamp")], by decide⟩⟩ here ⟨"home.yaml"⟩ = .ok u
      ∧ ∀ d a, ¬ Holds u d a := by
  intro u
  have hload : Document.load ⟨roomFiles, ⟨[("NAME", "lamp")], by decide⟩⟩ here ⟨"home.yaml"⟩
      = .ok u := by decide +kernel
  exact ⟨hload, (load_expanded _ here ⟨"home.yaml"⟩ "" ⟨""⟩ u (.inl hload)).1⟩

end Document

end SmartHome
