import SmartHome.Entity.Expansion
import SmartHome.Proofs.Failure

/-!
# What expanding a device asks of a resolver

To expand a device is to meet its demands: each attribute that a template takes over asks for the
values of the symbols in it, or for feature flags. The demands are listed without a resolver, in
the order of the templates, their attributes and the texts in a value, and expanding the device
fails as the first of them that is refused (`Entity.failure?_ofDevice`).
-/

namespace SmartHome

/-- What is asked of a resolver. -/
inductive Demand where
  /-- The text has to be a symbol with a value. -/
  | symbol (token : String)
  /-- The value has to be a 64-bit word, or a symbol for one. -/
  | flag (item : Json)

/-- The text is a symbol, and the value is the resolver's for it. -/
def Denotes (resolver : Resolver) (token : String) (v : Json) : Prop :=
  ∃ symbol, Symbol.parse token = .ok symbol ∧ resolver symbol = some v

namespace Demand

variable (resolver : Resolver)

/-- The resolver meets the demand. -/
def Met : Demand → Prop
  | symbol token => ∃ v, Denotes resolver token v
  | flag (.string token) => ∃ v w, Denotes resolver token v ∧ v.toWord? = some w
  | flag item => ∃ w, item.toWord? = some w

/-- The error that a demand causes which is not met. -/
inductive Refused : Demand → HomeError → Prop
  | malformed {token error} (h : Symbol.parse token = .error error) :
    Refused (symbol token) (.unresolved token (.malformed error))
  | unknown {token symbol} (h : Symbol.parse token = .ok symbol) (hr : resolver symbol = none) :
    Refused (.symbol token) (.unresolved token .unknown)
  | flagSymbol {token error} (h : Refused (symbol token) error) :
    Refused (flag (.string token)) error
  | symbolNotAFlag {token v} (h : Denotes resolver token v) (hw : v.toWord? = none) :
    Refused (flag (.string token)) (.unresolved token .notAFlag)
  | notAFlag {item} (h : item.toText? = none) (hw : item.toWord? = none) :
    Refused (flag item) (.unresolved item.compact .notAFlag)

end Demand

namespace Json

mutual

/-- The texts in a value that are meant as symbols, from left to right; a field's name is none. -/
def tokens : Json → List String
  | string s => if Symbol.isCandidate s then [s] else []
  | array vs => tokensOfItems vs
  | object fs => tokensOfFields fs
  | _ => []

def tokensOfItems : List Json → List String
  | [] => []
  | v :: vs => tokens v ++ tokensOfItems vs

def tokensOfFields : List (String × Json) → List String
  | [] => []
  | (_, v) :: fs => tokens v ++ tokensOfFields fs

end

/-- The feature flags of a value: its items if it is a list, else the value itself. -/
def flagItems : Json → List Json
  | array vs => vs
  | v => [v]

end Json

namespace Demand

/-- What it takes to take a value over under a name. -/
def ofValue (entityKey : String) (v : Json) : List Demand :=
  if entityKey = Entity.featuresKey then v.flagItems.map flag else v.tokens.map symbol

/-- What a template asks for a device's attributes. -/
def ofTemplate (attributes : Attributes) (t : EntityTemplate) : List Demand :=
  t.specs.flatMap fun s => match attributes.get? s.deviceKey with
    | some v => ofValue s.entityKey v
    | none => []

/-- What the templates of a type ask for a device. -/
def ofDevice (d : Device) (t : DeviceType) : List Demand :=
  t.templates.flatMap fun e => ofTemplate d.attributes e.2

/-- The failure of the work that a demand causes. -/
def refusal? (resolver : Resolver) : Demand → Option HomeError
  | symbol token => failure? (Substitution.token resolver token)
  | flag item => failure? (Substitution.flag resolver item)

end Demand

section Substitution

variable (resolver : Resolver)

open Substitution Demand

mutual

theorem failure?_value : ∀ v : Json,
    failure? (value resolver v) = v.tokens.findSome? fun s => failure? (token resolver s)
  | .null | .bool _ | .number _ => by simp [value, Json.tokens]
  | .string s => by
    simp only [value, Json.tokens]
    split
    · rw [List.findSome?_singleton]
    · rfl
  | .array vs => by
    rw [value, Json.tokens, ← failure?_items vs]
    exact failure?_bind_pure _ _
  | .object fs => by
    rw [value, Json.tokens, ← failure?_fields fs]
    exact failure?_bind_pure _ _

theorem failure?_items : ∀ vs : List Json, failure? (items resolver vs)
    = (Json.tokensOfItems vs).findSome? fun s => failure? (token resolver s)
  | [] => rfl
  | v :: vs => by
    rw [items, Json.tokensOfItems, List.findSome?_append, ← failure?_value v, ← failure?_items vs]
    exact failure?_bind fun _ _ => failure?_bind_pure _ _

theorem failure?_fields : ∀ fs : List (String × Json), failure? (fields resolver fs)
    = (Json.tokensOfFields fs).findSome? fun s => failure? (token resolver s)
  | [] => rfl
  | (_, v) :: fs => by
    rw [fields, Json.tokensOfFields, List.findSome?_append, ← failure?_value v,
      ← failure?_fields fs]
    exact failure?_bind fun _ _ => failure?_bind_pure _ _

end

theorem failure?_flags (v : Json) :
    failure? (flags resolver v) = v.flagItems.findSome? fun w => failure? (flag resolver w) := by
  cases v with
  | array vs =>
    refine failure?_foldlM (fun word w => ?_) vs 0
    exact failure?_bind_pure _ _
  | _ => simp only [flags, Json.flagItems, List.findSome?_singleton]

theorem Entity.failure?_attributeValue (entityKey : String) (v : Json) :
    failure? (Entity.attributeValue resolver entityKey v)
      = (Demand.ofValue entityKey v).findSome? (refusal? resolver) := by
  unfold Entity.attributeValue Demand.ofValue
  split_ifs with h
  · rw [failure?_map, failure?_flags, List.findSome?_map]
    rfl
  · rw [failure?_value, List.findSome?_map]
    rfl

theorem Entity.failure?_ofTemplate (d : Device) (p : Platform) (t : EntityTemplate) :
    failure? (Entity.ofTemplate resolver d p t)
      = (Demand.ofTemplate d.attributes t).findSome? (refusal? resolver) := by
  unfold Entity.ofTemplate Demand.ofTemplate
  rw [failure?_bind_pure, findSome?_flatMap]
  refine failure?_foldlM (fun taken s => ?_) t.specs Dict.empty
  unfold Entity.takeOver
  rcases d.attributes.get? s.deviceKey with _ | v
  · rfl
  · exact (failure?_map _ _).trans (Entity.failure?_attributeValue resolver s.entityKey v)

/-- Expanding a device fails as the first of its demands that is refused. -/
theorem Entity.failure?_ofDevice (d : Device) (t : DeviceType) :
    failure? (Entity.ofDevice resolver d t)
      = (Demand.ofDevice d t).findSome? (refusal? resolver) := by
  unfold Entity.ofDevice Demand.ofDevice
  rw [failure?_mapM, findSome?_flatMap]
  simp only [Entity.failure?_ofTemplate]

end Substitution

section Refusal

variable {resolver : Resolver}

theorem token_eq_ok_iff {s : String} {v : Json} :
    Substitution.token resolver s = .ok v ↔ Denotes resolver s v := by
  unfold Substitution.token Denotes
  rcases Symbol.parse s with e | symbol
  · simp
  · rcases hr : resolver symbol with _ | u <;> simp [hr]

theorem token_eq_error_iff {s : String} {e : HomeError} :
    Substitution.token resolver s = .error e ↔ Demand.Refused resolver (.symbol s) e := by
  constructor
  · intro h
    unfold Substitution.token at h
    split at h
    · rename_i p hp
      cases h
      exact .malformed hp
    · rename_i symbol hs
      split at h
      · cases h
      · rename_i hr
        cases h
        exact .unknown hs hr
  · rintro (⟨hp⟩ | ⟨hs, hr⟩)
    · simp only [Substitution.token, hp]
    · simp only [Substitution.token, hs, hr]

theorem flag_string (s : String) : Substitution.flag resolver (.string s)
    = Substitution.token resolver s >>= fun v => match v.toWord? with
      | some w => .ok w
      | none => .error (.unresolved s .notAFlag) := by
  rcases ht : Substitution.token resolver s with e | v
  · simp only [Substitution.flag, ht, bind, Except.bind]
  · simp only [Substitution.flag, ht, bind, Except.bind, pure, Except.pure]
    rcases v.toWord? with _ | w <;> rfl

theorem flag_of_not_text {v : Json} (h : v.toText? = none) : Substitution.flag resolver v
    = match v.toWord? with
      | some w => .ok w
      | none => .error (.unresolved v.compact .notAFlag) := by
  cases v with
  | string s => cases h
  | _ => rfl

namespace Demand

theorem refused_iff {q : Demand} {e : HomeError} :
    Refused resolver q e ↔ q.refusal? resolver = some e := by
  constructor
  · intro h
    induction h with
    | malformed hp => exact failure?_eq_some_iff.2 (token_eq_error_iff.2 (.malformed hp))
    | unknown hs hr => exact failure?_eq_some_iff.2 (token_eq_error_iff.2 (.unknown hs hr))
    | flagSymbol _ ih =>
      refine failure?_eq_some_iff.2 ?_
      rw [flag_string, failure?_eq_some_iff.1 ih]
      rfl
    | symbolNotAFlag hv hw =>
      refine failure?_eq_some_iff.2 ?_
      rw [flag_string, token_eq_ok_iff.2 hv]
      simp only [bind, Except.bind, hw]
    | notAFlag ht hw =>
      refine failure?_eq_some_iff.2 ?_
      rw [flag_of_not_text ht, hw]
  · intro h
    rcases q with s | v <;> have h := failure?_eq_some_iff.1 h
    · exact token_eq_error_iff.1 h
    · rcases ht : v.toText? with _ | s
      · rw [flag_of_not_text ht] at h
        split at h <;> cases h
        exact .notAFlag ht ‹_›
      · obtain rfl := Json.toText?_eq_some_iff.1 ht
        rw [flag_string] at h
        rcases hv : Substitution.token resolver s with e' | u <;> rw [hv] at h
        · cases h
          exact .flagSymbol (token_eq_error_iff.1 hv)
        · simp only [bind, Except.bind] at h
          split at h <;> cases h
          exact .symbolNotAFlag (token_eq_ok_iff.1 hv) ‹_›

theorem met_iff {q : Demand} : q.Met resolver ↔ q.refusal? resolver = none := by
  rcases q with s | v
  · simp only [Met, refusal?, failure?_eq_none_iff, token_eq_ok_iff]
  · rcases ht : v.toText? with _ | s
    · have hm : (flag v).Met resolver ↔ ∃ w, v.toWord? = some w := by
        cases v <;> first | rfl | cases ht
      rw [hm, refusal?, failure?_eq_none_iff, flag_of_not_text ht]
      cases v.toWord? <;> simp
    · obtain rfl := Json.toText?_eq_some_iff.1 ht
      simp only [Met, refusal?, failure?_eq_none_iff, flag_string, bind_eq_ok_iff,
        token_eq_ok_iff]
      constructor
      · rintro ⟨u, w, hu, hw⟩
        exact ⟨w, u, hu, by rw [hw]⟩
      · rintro ⟨w, u, hu, h⟩
        refine ⟨u, w, hu, ?_⟩
        split at h <;> cases h
        assumption

end Demand

end Refusal

end SmartHome
