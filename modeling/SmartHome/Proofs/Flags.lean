import Mathlib.Data.Nat.Bitwise
import SmartHome.Proofs.Demand

/-!
# Feature flags as sets of bits

A feature flag is an integer of 64 bits or a symbol for one (`IsFlag`), and nothing else is. The
flags of a value come together in the number that has a bit just if one of them has it (`Unites`),
so neither their order counts nor how often each is there, and the flags of two lists behind one
another are those of both lists (`unites_append_iff`). What the walk over a list has put together so
far unites the flags that it has passed (`Unites.concat`); it gives a word just if all are flags
(`flags_eq_ok_iff`), and else fails as the first one that is none, whatever the flags before it are
(`featureFlags_outcome`).
-/

namespace SmartHome

namespace Json

theorem toWord?_eq_some_iff {v : Json} {w : UInt64} : v.toWord? = some w ↔ v = ofWord w := by
  constructor
  · intro h
    cases v with
    | number x =>
      rcases x with (n | n) | x
      · simp only [toWord?, Number.toWord?] at h
        split_ifs at h with hn
        cases h
        rw [ofWord, UInt64.toNat_ofNat_of_lt' hn]
        rfl
      · cases h
      · cases h
    | _ => cases h
  · rintro rfl
    exact toWord?_ofWord w

/-- What a message calls a feature flag: a text by itself, anything else as it is written. -/
def shown : Json → String
  | string s => s
  | v => v.compact

end Json

namespace Substitution

/-- The item is this flag: an integer of 64 bits, or a symbol for one. -/
inductive IsFlag (resolver : Resolver) : Json → ℕ → Prop
  | integer {n : ℕ} (hn : n < 2 ^ 64) : IsFlag resolver (.number (.int n)) n
  | symbol {s : String} {n : ℕ} (hs : Denotes resolver s (.number (.int n))) (hn : n < 2 ^ 64) :
    IsFlag resolver (.string s) n

/-- All items are flags, and the number has the bits that any of them has. -/
structure Unites (resolver : Resolver) (items : List Json) (n : ℕ) : Prop where
  isFlag : ∀ item ∈ items, ∃ k, IsFlag resolver item k
  testBit_iff : ∀ i, n.testBit i = true
    ↔ ∃ item ∈ items, ∃ k, IsFlag resolver item k ∧ k.testBit i = true

variable {resolver : Resolver} {item v : Json} {items others : List Json} {k n : ℕ} {w : UInt64}
  {e : HomeError}

section Flag

theorem IsFlag.lt (h : IsFlag resolver item n) : n < 2 ^ 64 := by
  cases h <;> assumption

theorem flag_eq_ok_iff : flag resolver item = .ok w ↔ IsFlag resolver item w.toNat := by
  rcases ht : item.toText? with _ | s
  · have hw : flag resolver item = .ok w ↔ item.toWord? = some w := by
      rw [flag_of_not_text ht]
      cases item.toWord? <;> simp
    rw [hw, Json.toWord?_eq_some_iff]
    constructor
    · rintro rfl
      exact .integer w.toNat_lt
    · rintro (⟨-⟩ | -)
      · rfl
      · cases ht
  · obtain rfl := Json.toText?_eq_some_iff.1 ht
    have hw : flag resolver (.string s) = .ok w
        ↔ ∃ u, Denotes resolver s u ∧ u.toWord? = some w := by
      rw [flag_string, bind_eq_ok_iff]
      refine exists_congr fun u => and_congr token_eq_ok_iff ?_
      cases u.toWord? <;> simp
    simp only [hw, Json.toWord?_eq_some_iff, exists_eq_right]
    constructor
    · exact fun h => .symbol h w.toNat_lt
    · rintro ⟨⟩
      assumption

theorem IsFlag.eq_ok (h : IsFlag resolver item n) : flag resolver item = .ok (.ofNat n) := by
  rw [flag_eq_ok_iff, UInt64.toNat_ofNat_of_lt' h.lt]
  exact h

theorem IsFlag.unique (hk : IsFlag resolver item k) (hn : IsFlag resolver item n) : k = n := by
  have h : UInt64.ofNat k = .ofNat n := Except.ok.inj (hk.eq_ok.symm.trans hn.eq_ok)
  rw [← UInt64.toNat_ofNat_of_lt' hk.lt, h, UInt64.toNat_ofNat_of_lt' hn.lt]

theorem exists_isFlag_iff :
    (∃ n, IsFlag resolver item n) ↔ failure? (flag resolver item) = none := by
  rw [failure?_eq_none_iff]
  constructor
  · rintro ⟨n, h⟩
    exact ⟨_, h.eq_ok⟩
  · rintro ⟨w, h⟩
    exact ⟨_, flag_eq_ok_iff.1 h⟩

end Flag

section Unites

theorem Unites.unique (hk : Unites resolver items k) (hn : Unites resolver items n) : k = n := by
  refine Nat.eq_of_testBit_eq fun i => ?_
  rw [Bool.eq_iff_iff, hk.testBit_iff, hn.testBit_iff]

theorem Unites.congr (hm : ∀ item, item ∈ items ↔ item ∈ others) (h : Unites resolver items n) :
    Unites resolver others n := by
  constructor
  · simp only [← hm]
    exact h.isFlag
  · simp only [← hm]
    exact h.testBit_iff

theorem unites_nil : Unites resolver [] 0 where
  isFlag := by simp
  testBit_iff := by simp

theorem unites_singleton (h : IsFlag resolver item n) : Unites resolver [item] n where
  isFlag := List.forall_mem_singleton.2 ⟨n, h⟩
  testBit_iff i := by
    simp only [List.mem_singleton, exists_eq_left]
    constructor
    · exact fun hi => ⟨n, h, hi⟩
    · rintro ⟨m, hm, hi⟩
      rwa [h.unique hm]

theorem unites_singleton_iff : Unites resolver [item] n ↔ IsFlag resolver item n := by
  constructor
  · intro h
    obtain ⟨k, hk⟩ := h.isFlag item (List.mem_singleton.2 rfl)
    rwa [h.unique (unites_singleton hk)]
  · exact unites_singleton

theorem Unites.append (hk : Unites resolver items k) (hn : Unites resolver others n) :
    Unites resolver (items ++ others) (k ||| n) where
  isFlag item hi := (List.mem_append.1 hi).elim (hk.isFlag item) (hn.isFlag item)
  testBit_iff i := by
    rw [Nat.testBit_or, Bool.or_eq_true, hk.testBit_iff, hn.testBit_iff]
    simp only [List.mem_append, or_and_right, exists_or]

theorem Unites.concat (h : Unites resolver items n) (hk : IsFlag resolver item k) :
    Unites resolver (items ++ [item]) (n ||| k) :=
  h.append (unites_singleton hk)

theorem unites_of_flags (h : flags resolver v = .ok w) :
    Unites resolver v.flagItems w.toNat := by
  cases v with
  | array items =>
    -- the word that is carried along unites the items that the walk has passed
    refine foldlM_done (P := fun done word => Unites resolver done word.toNat)
      (fun done word item next hdone hnext => ?_) unites_nil h
    obtain ⟨u, hu, ⟨⟩⟩ := bind_eq_ok_iff.1 hnext
    rw [UInt64.toNat_or]
    exact hdone.concat (flag_eq_ok_iff.1 hu)
  | _ => exact unites_singleton (flag_eq_ok_iff.1 h)

theorem exists_flags_iff :
    (∃ w, flags resolver v = .ok w) ↔ ∀ item ∈ v.flagItems, ∃ n, IsFlag resolver item n := by
  rw [← failure?_eq_none_iff, failure?_flags, List.findSome?_eq_none_iff]
  simp only [exists_isFlag_iff]

theorem flags_eq_ok_iff : flags resolver v = .ok w ↔ Unites resolver v.flagItems w.toNat := by
  constructor
  · exact unites_of_flags
  · intro h
    obtain ⟨u, hu⟩ := exists_flags_iff.2 h.isFlag
    rw [hu, UInt64.toNat_inj.1 ((unites_of_flags hu).unique h)]

theorem exists_unites (h : ∀ item ∈ items, ∃ n, IsFlag resolver item n) :
    ∃ n < 2 ^ 64, Unites resolver items n := by
  obtain ⟨w, hw⟩ := (exists_flags_iff (v := .array items)).2 h
  exact ⟨w.toNat, w.toNat_lt, unites_of_flags hw⟩

theorem Unites.lt (h : Unites resolver items n) : n < 2 ^ 64 := by
  obtain ⟨k, hlt, hk⟩ := exists_unites h.isFlag
  rwa [h.unique hk]

theorem unites_append_iff : Unites resolver (items ++ others) n
    ↔ ∃ k m, Unites resolver items k ∧ Unites resolver others m ∧ n = k ||| m := by
  constructor
  · intro h
    obtain ⟨k, -, hk⟩ := exists_unites fun item hi => h.isFlag item (List.mem_append_left _ hi)
    obtain ⟨m, -, hm⟩ := exists_unites fun item hi => h.isFlag item (List.mem_append_right _ hi)
    exact ⟨k, m, hk, hm, h.unique (hk.append hm)⟩
  · rintro ⟨k, m, hk, hm, rfl⟩
    exact hk.append hm

theorem flags_singleton (h : ∀ items, item ≠ .array items) :
    flags resolver (.array [item]) = flags resolver item := by
  have hflag : flags resolver item = flag resolver item := by
    cases item with
    | array items => exact absurd rfl (h items)
    | _ => rfl
  rw [hflag, flags, List.foldlM_cons]
  rcases flag resolver item with e | w
  · rfl
  · change Except.ok (0 ||| w) = .ok w
    rw [UInt64.zero_or]

end Unites

end Substitution

namespace Entity

open Substitution

/-- What an entity makes of the device's value for its feature flags. -/
abbrev featureFlags (resolver : Resolver) (v : Json) : Except HomeError Json :=
  attributeValue resolver "supported_features" v

variable {resolver : Resolver} {v u : Json} {n : ℕ} {e : HomeError}

theorem featureFlags_eq (resolver : Resolver) (v : Json) :
    featureFlags resolver v = (flags resolver v).map .ofWord :=
  if_pos rfl

theorem featureFlags_eq_ok_iff :
    featureFlags resolver v = .ok u ↔ ∃ n : ℕ, Unites resolver v.flagItems n ∧ u = .number (.int n) := by
  rw [featureFlags_eq, map_eq_ok_iff]
  constructor
  · rintro ⟨w, hw, rfl⟩
    exact ⟨w.toNat, unites_of_flags hw, rfl⟩
  · rintro ⟨n, hn, rfl⟩
    have hw : (UInt64.ofNat n).toNat = n := UInt64.toNat_ofNat_of_lt' hn.lt
    refine ⟨.ofNat n, flags_eq_ok_iff.2 (by rwa [hw]), ?_⟩
    rw [Json.ofWord, hw]

theorem featureFlags_eq_ok_int_iff :
    featureFlags resolver v = .ok (.number (.int n)) ↔ Unites resolver v.flagItems n := by
  rw [featureFlags_eq_ok_iff]
  constructor
  · rintro ⟨k, hk, hn⟩
    cases hn
    exact hk
  · exact fun h => ⟨n, h, rfl⟩

theorem exists_unresolved_of_refused {item : Json}
    (h : Demand.Refused resolver (.flag item) e) : ∃ problem, e = .unresolved item.shown problem := by
  cases h with
  | flagSymbol h => cases h <;> exact ⟨_, rfl⟩
  | symbolNotAFlag => exact ⟨_, rfl⟩
  | notAFlag ht =>
    cases item with
    | string s => cases ht
    | _ => exact ⟨_, rfl⟩

theorem featureFlags_eq_error_iff : featureFlags resolver v = .error e ↔ ∃ item,
    FirstFailing (fun item => ∃ n, IsFlag resolver item n) v.flagItems item
      ∧ Demand.Refused resolver (.flag item) e := by
  rw [featureFlags_eq, map_eq_error_iff, ← failure?_eq_some_iff, failure?_flags,
    FirstFailing.findSome?_iff fun _ _ => exists_isFlag_iff]
  simp only [Demand.refused_iff]
  rfl

/-- A value gives feature flags if it is a flag or a list of flags, and then an integer of 64 bits
that has a bit just if some flag has it; else it fails as the first item that is none, which the
error names. So the order of the flags does not count, nor how often one is there; a flag alone is
what it is, and lists behind one another have the bits of both. -/
theorem featureFlags_outcome (resolver : Resolver) :
    (∀ v, (∃ u, featureFlags resolver v = .ok u)
        ↔ ∀ item ∈ v.flagItems, ∃ n, IsFlag resolver item n)
      ∧ (∀ v u, featureFlags resolver v = .ok u ↔ ∃ n : ℕ, n < 2 ^ 64 ∧ u = .number (.int n)
        ∧ Unites resolver v.flagItems n)
      ∧ (∀ v e, featureFlags resolver v = .error e ↔ ∃ item problem,
        FirstFailing (fun item => ∃ n, IsFlag resolver item n) v.flagItems item
          ∧ e = .unresolved item.shown problem ∧ Demand.Refused resolver (.flag item) e)
      ∧ featureFlags resolver (.array []) = .ok (.number (.int 0))
      ∧ (∀ (item : Json) (n : ℕ), featureFlags resolver (.array [item]) = .ok (.number (.int n))
        ↔ IsFlag resolver item n)
      ∧ (∀ item, (∀ items, item ≠ .array items) →
        featureFlags resolver (.array [item]) = featureFlags resolver item)
      ∧ (∀ items others, (∀ item, item ∈ items ↔ item ∈ others) → ∀ u,
        featureFlags resolver (.array items) = .ok u ↔ featureFlags resolver (.array others) = .ok u)
      ∧ ∀ items others u, featureFlags resolver (.array (items ++ others)) = .ok u ↔ ∃ k m : ℕ,
        featureFlags resolver (.array items) = .ok (.number (.int k))
          ∧ featureFlags resolver (.array others) = .ok (.number (.int m))
          ∧ u = .number (.int (k ||| m : ℕ)) := by
  refine ⟨fun v => ?_, fun v u => ?_, fun v e => ?_, rfl,
    fun item n => featureFlags_eq_ok_int_iff.trans unites_singleton_iff, fun item hi => ?_,
    fun items others hm u => ?_, fun items others u => ?_⟩
  · rw [← failure?_eq_none_iff, featureFlags_eq, failure?_map, failure?_eq_none_iff, exists_flags_iff]
  · rw [featureFlags_eq_ok_iff]
    refine exists_congr fun n => ?_
    constructor
    · rintro ⟨hn, rfl⟩
      exact ⟨hn.lt, rfl, hn⟩
    · rintro ⟨-, rfl, hn⟩
      exact ⟨hn, rfl⟩
  · rw [featureFlags_eq_error_iff]
    refine exists_congr fun item => ?_
    constructor
    · rintro ⟨hf, hr⟩
      obtain ⟨problem, rfl⟩ := exists_unresolved_of_refused hr
      exact ⟨problem, hf, rfl, hr⟩
    · rintro ⟨problem, hf, -, hr⟩
      exact ⟨hf, hr⟩
  · rw [featureFlags_eq, featureFlags_eq, flags_singleton hi]
  · rw [featureFlags_eq_ok_iff, featureFlags_eq_ok_iff]
    refine exists_congr fun n => and_congr_left fun _ => ?_
    exact ⟨Unites.congr hm, Unites.congr fun item => (hm item).symm⟩
  · simp only [featureFlags_eq_ok_int_iff]
    rw [featureFlags_eq_ok_iff]
    constructor
    · rintro ⟨n, hn, rfl⟩
      obtain ⟨k, m, hk, hm, rfl⟩ := unites_append_iff.1 hn
      exact ⟨k, m, hk, hm, rfl⟩
    · rintro ⟨k, m, hk, hm, rfl⟩
      exact ⟨_, hk.append hm, rfl⟩

/-- Of a door's features one has a name. -/
def doorTable : SymbolTable :=
  SymbolTable.empty.register "cover" "CoverEntityFeature" "CLOSE" (.number (.int 2))

def closeFeature : Json := .string "cover.CoverEntityFeature.CLOSE"

/-- A feature that is there twice counts once, and a number with a point is no feature even if it is
a whole one. -/
theorem featureFlags_outcome_door :
    featureFlags doorTable.resolve (.array [.number (.int 2), .number (.int 9), closeFeature])
        = .ok (.number (.int 11))
      ∧ featureFlags doorTable.resolve (.array [closeFeature, .number (.int 9), .number (.int 2)])
        = .ok (.number (.int 11))
      ∧ featureFlags doorTable.resolve (.array [closeFeature, .number (.float (.ofInt 9)), .null])
        = .error (.unresolved "9.0" .notAFlag) := by
  have hlist : featureFlags doorTable.resolve
      (.array [.number (.int 2), .number (.int 9), closeFeature]) = .ok (.number (.int 11)) := rfl
  have hclose : Denotes doorTable.resolve "cover.CoverEntityFeature.CLOSE" (.number (.int 2)) :=
    token_eq_ok_iff.1 rfl
  have hfloat : ¬ ∃ n, IsFlag doorTable.resolve (.number (.float (.ofInt 9))) n := by
    rintro ⟨n, ⟨⟩⟩
  have htext : "9.0" = (Json.number (.float (.ofInt 9))).compact := by decide +kernel
  refine ⟨hlist, ((featureFlags_outcome _).2.2.2.2.2.2.1 _ _ (fun item => ?_) _).1 hlist,
    ((featureFlags_outcome _).2.2.1 _ _).2 ⟨.number (.float (.ofInt 9)), .notAFlag,
      ⟨[closeFeature], [.null], rfl, ?_, hfloat⟩,
      congrArg (HomeError.unresolved · .notAFlag) htext, ?_⟩⟩
  · exact (List.reverse_perm [.number (.int 2), .number (.int 9), closeFeature]).mem_iff.symm
  · exact List.forall_mem_singleton.2 ⟨2, .symbol hclose (by decide)⟩
  · rw [htext]
    exact .notAFlag rfl rfl

end Entity

end SmartHome
