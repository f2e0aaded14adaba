import Mathlib.Data.List.Basic
import SmartHome.Json.Symbol
import SmartHome.Proofs.Failure

/-!
# The grammar of symbols

A symbol is written as a domain, an enum name and a member with dots between them, and these texts
are the ones that are read (`exists_parse_iff`). No part has a dot in it, so the text of a symbol
falls into its parts again (`splitAll_text`), and reading is the inverse of writing
(`parse_eq_ok_iff`); as the parts have no character that would be escaped, the same holds in a JSON
document (`ofJson_eq_ok_iff`, `compact_ofSymbol`). A candidate has the first two parts of a symbol
(`isCandidate_iff`), whence only its last one can be wrong (`parse_eq_error_iff`).
-/

namespace SmartHome

namespace Split

variable {c : Char} {s a b d : List Char}

/-- A text has three pieces if there are two occurrences of the character in it. -/
theorem splitAll_eq_three_iff :
    splitAll c s = [a, b, d] ↔ s = a ++ c :: (b ++ c :: d) ∧ c ∉ a ∧ c ∉ b ∧ c ∉ d := by
  constructor
  · intro h
    have hnot : ∀ p ∈ [a, b, d], c ∉ p := fun p hp => not_mem_of_mem_splitAll (h ▸ hp)
    refine ⟨?_, hnot a (by simp), hnot b (by simp), hnot d (by simp)⟩
    rw [← join_splitAll c s, h]
    rfl
  · rintro ⟨rfl, ha, hb, hd⟩
    rw [splitAll_append, splitAll_append, splitAll_of_not_mem ha, splitAll_of_not_mem hb,
      splitAll_of_not_mem hd]
    rfl

end Split

namespace Symbol

/-- One of the letters `a` to `z`; like the next two, only of ASCII. -/
def LowerCase (c : Char) : Prop := 'a' ≤ c ∧ c ≤ 'z'

def UpperCase (c : Char) : Prop := 'A' ≤ c ∧ c ≤ 'Z'

def Digit (c : Char) : Prop := '0' ≤ c ∧ c ≤ '9'

/-- A word of characters of a class, not without any. -/
def Word (P : Char → Prop) (s : List Char) : Prop := s ≠ [] ∧ ∀ c ∈ s, P c

def IsDomainWord : List Char → Prop := Word fun c => LowerCase c ∨ Digit c ∨ c = '_'

def IsEnumWord (s : List Char) : Prop := ∃ c cs, s = c :: cs ∧ UpperCase c
  ∧ ∀ x ∈ cs, UpperCase x ∨ LowerCase x ∨ Digit x

def IsMemberWord : List Char → Prop := Word fun c => UpperCase c ∨ Digit c ∨ c = '_'

section Words

variable {c : Char} {d e m s : List Char}

theorem isLower_iff : c.isLower = true ↔ LowerCase c := by
  have h : c.isLower = (decide ('a' ≤ c) && decide (c ≤ 'z')) := rfl
  rw [h, Bool.and_eq_true, decide_eq_true_iff, decide_eq_true_iff, LowerCase]

theorem isUpper_iff : c.isUpper = true ↔ UpperCase c := by
  have h : c.isUpper = decide ('A' ≤ c ∧ c ≤ 'Z') := rfl
  rw [h, decide_eq_true_iff, UpperCase]

theorem isDigit_iff : c.isDigit = true ↔ Digit c := by
  have h : c.isDigit = (decide ('0' ≤ c) && decide (c ≤ '9')) := rfl
  rw [h, Bool.and_eq_true, decide_eq_true_iff, decide_eq_true_iff, Digit]

theorem isAlphanum_iff : c.isAlphanum = true ↔ UpperCase c ∨ LowerCase c ∨ Digit c := by
  have h : c.isAlphanum = (c.isUpper || c.isLower || c.isDigit) := rfl
  rw [h, Bool.or_eq_true, Bool.or_eq_true, isUpper_iff, isLower_iff, isDigit_iff, or_assoc]

theorem isDomain_iff : isDomain d = true ↔ IsDomainWord d := by
  simp [isDomain, isDomainChar, IsDomainWord, Word, isLower_iff, isDigit_iff, or_assoc]

theorem isMember_iff : isMember m = true ↔ IsMemberWord m := by
  simp [isMember, isMemberChar, IsMemberWord, Word, isUpper_iff, isDigit_iff, or_assoc]

theorem isEnumName_iff : isEnumName e = true ↔ IsEnumWord e := by
  cases e with
  | nil => simp [isEnumName, IsEnumWord]
  | cons c cs => simp [isEnumName, IsEnumWord, isUpper_iff, isAlphanum_iff]

theorem not_lowerCase_dot : ¬ LowerCase '.' := fun h => absurd h.1 (by decide)

theorem not_upperCase_dot : ¬ UpperCase '.' := fun h => absurd h.1 (by decide)

theorem not_digit_dot : ¬ Digit '.' := fun h => absurd h.1 (by decide)

theorem IsDomainWord.dot_not_mem (h : IsDomainWord d) : '.' ∉ d := by
  intro hm
  rcases h.2 _ hm with h | h | h
  · exact not_lowerCase_dot h
  · exact not_digit_dot h
  · exact absurd h (by decide)

theorem IsMemberWord.dot_not_mem (h : IsMemberWord m) : '.' ∉ m := by
  intro hm
  rcases h.2 _ hm with h | h | h
  · exact not_upperCase_dot h
  · exact not_digit_dot h
  · exact absurd h (by decide)

theorem IsEnumWord.dot_not_mem (h : IsEnumWord e) : '.' ∉ e := by
  obtain ⟨c, cs, rfl, hc, hcs⟩ := h
  intro hm
  rcases List.mem_cons.1 hm with rfl | hm
  · exact not_upperCase_dot hc
  · rcases hcs _ hm with h | h | h
    · exact not_upperCase_dot h
    · exact not_lowerCase_dot h
    · exact not_digit_dot h

theorem IsEnumWord.ne_nil (h : IsEnumWord e) : e ≠ [] := by
  obtain ⟨c, cs, rfl, -⟩ := h
  exact List.cons_ne_nil c cs

end Words

section Parts

variable {d e m : String} {y : Symbol} {error : SymbolError}

theorem isEmpty_eq_false_iff {s : String} : s.isEmpty = false ↔ s.toList ≠ [] := by
  rw [Ne, String.toList_eq_nil_iff, ← String.isEmpty_iff, Bool.not_eq_true]

theorem ofParts_eq_ok_iff :
    ofParts d e m = .ok y ↔ y.domain = d ∧ y.enumName = e ∧ y.member = m := by
  constructor
  · intro h
    unfold ofParts at h
    split_ifs at h
    cases h
    exact ⟨rfl, rfl, rfl⟩
  · rintro ⟨rfl, rfl, rfl⟩
    have hd := isEmpty_eq_false_iff.2 (isDomain_iff.1 y.validDomain).1
    have he := isEmpty_eq_false_iff.2 (isEnumName_iff.1 y.validEnumName).ne_nil
    have hm := isEmpty_eq_false_iff.2 (isMember_iff.1 y.validMember).1
    unfold ofParts
    rw [hd, he, hm, if_neg (by decide), dif_pos y.validDomain, dif_pos y.validEnumName,
      dif_pos y.validMember]

/-- Once the first two parts are right, only the third can be wrong. -/
theorem ofParts_eq_error_iff (hd : IsDomainWord d.toList) (he : IsEnumWord e.toList) :
    ofParts d e m = .error error ↔ m.toList = [] ∧ error = .emptyPart
      ∨ m.toList ≠ [] ∧ ¬ IsMemberWord m.toList ∧ error = .invalidMember := by
  unfold ofParts
  rw [isEmpty_eq_false_iff.2 hd.1, isEmpty_eq_false_iff.2 he.ne_nil, dif_pos (isDomain_iff.2 hd),
    dif_pos (isEnumName_iff.2 he), Bool.false_or, Bool.false_or]
  by_cases hm : m.toList = []
  · have hempty : m.isEmpty = true := String.isEmpty_iff.2 (String.toList_eq_nil_iff.1 hm)
    simp [hm, hempty, eq_comm (a := error)]
  · rw [isEmpty_eq_false_iff.2 hm, if_neg (by decide)]
    by_cases hw : IsMemberWord m.toList
    · rw [dif_pos (isMember_iff.2 hw)]
      simp [hm, hw]
    · rw [dif_neg fun h => hw (isMember_iff.1 h)]
      simp [hm, hw, eq_comm (a := error)]

end Parts

section Text

variable {s : String} {y : Symbol} {error : SymbolError}

theorem toList_text (y : Symbol) : y.text.toList
    = y.domain.toList ++ '.' :: (y.enumName.toList ++ '.' :: y.member.toList) := by
  simp [text, String.toList_append]

theorem splitAll_text (y : Symbol) : Split.splitAll '.' y.text.toList
    = [y.domain.toList, y.enumName.toList, y.member.toList] :=
  Split.splitAll_eq_three_iff.2 ⟨toList_text y, (isDomain_iff.1 y.validDomain).dot_not_mem,
    (isEnumName_iff.1 y.validEnumName).dot_not_mem, (isMember_iff.1 y.validMember).dot_not_mem⟩

theorem parse_of_splitAll {d e m : List Char} (h : Split.splitAll '.' s.toList = [d, e, m]) :
    parse s = ofParts (.ofList d) (.ofList e) (.ofList m) := by
  unfold parse
  rw [h]

theorem parse_eq_ok_iff : parse s = .ok y ↔ y.text = s := by
  constructor
  · intro h
    unfold parse at h
    split at h
    · rename_i d e m hs
      obtain ⟨hd, he, hm⟩ := ofParts_eq_ok_iff.1 h
      rw [← String.toList_inj, toList_text, hd, he, hm]
      simp only [String.toList_ofList]
      exact (Split.splitAll_eq_three_iff.1 hs).1.symm
    · cases h
  · rintro rfl
    rw [parse_of_splitAll (splitAll_text y), ofParts_eq_ok_iff]
    simp only [String.ofList_toList, and_self]

theorem exists_parse_iff : (∃ y, parse s = .ok y) ↔ ∃ d e m, s.toList = d ++ '.' :: (e ++ '.' :: m)
    ∧ IsDomainWord d ∧ IsEnumWord e ∧ IsMemberWord m := by
  constructor
  · rintro ⟨y, hy⟩
    obtain rfl := parse_eq_ok_iff.1 hy
    exact ⟨_, _, _, toList_text y, isDomain_iff.1 y.validDomain, isEnumName_iff.1 y.validEnumName,
      isMember_iff.1 y.validMember⟩
  · rintro ⟨d, e, m, hs, hd, he, hm⟩
    let y : Symbol := {
      domain := .ofList d
      enumName := .ofList e
      member := .ofList m
      validDomain := by rwa [String.toList_ofList, isDomain_iff]
      validEnumName := by rwa [String.toList_ofList, isEnumName_iff]
      validMember := by rwa [String.toList_ofList, isMember_iff] }
    refine ⟨y, parse_eq_ok_iff.2 ?_⟩
    rw [← String.toList_inj, toList_text, hs]
    simp only [y, String.toList_ofList]

/-- A candidate has the first two parts of a symbol, and any third one without a dot. -/
theorem isCandidate_iff : isCandidate s = true ↔ ∃ d e m,
    s.toList = d ++ '.' :: (e ++ '.' :: m) ∧ IsDomainWord d ∧ IsEnumWord e ∧ '.' ∉ m := by
  constructor
  · intro h
    unfold isCandidate at h
    split at h
    · rename_i d e m hs
      rw [Bool.and_eq_true, isDomain_iff, isEnumName_iff] at h
      obtain ⟨hs, -, -, hm⟩ := Split.splitAll_eq_three_iff.1 hs
      exact ⟨d, e, m, hs, h.1, h.2, hm⟩
    · cases h
  · rintro ⟨d, e, m, hs, hd, he, hm⟩
    unfold isCandidate
    rw [Split.splitAll_eq_three_iff.2 ⟨hs, hd.dot_not_mem, he.dot_not_mem, hm⟩]
    exact Bool.and_eq_true_iff.2 ⟨isDomain_iff.2 hd, isEnumName_iff.2 he⟩

theorem isCandidate_text (y : Symbol) : isCandidate y.text = true :=
  isCandidate_iff.2 ⟨_, _, _, toList_text y, isDomain_iff.1 y.validDomain,
    isEnumName_iff.1 y.validEnumName, (isMember_iff.1 y.validMember).dot_not_mem⟩

theorem parse_eq_error_iff {d e m : List Char} (hs : s.toList = d ++ '.' :: (e ++ '.' :: m))
    (hd : IsDomainWord d) (he : IsEnumWord e) (hm : '.' ∉ m) : parse s = .error error
      ↔ m = [] ∧ error = .emptyPart ∨ m ≠ [] ∧ ¬ IsMemberWord m ∧ error = .invalidMember := by
  rw [parse_of_splitAll (Split.splitAll_eq_three_iff.2 ⟨hs, hd.dot_not_mem, he.dot_not_mem, hm⟩),
    ofParts_eq_error_iff (by rwa [String.toList_ofList]) (by rwa [String.toList_ofList]),
    String.toList_ofList]

end Text

section Json

variable {y : Symbol} {v : Json} {c : Char}

theorem ofJson_eq_ok_iff : ofJson v = .ok y ↔ v = Json.ofSymbol y := by
  unfold ofJson Json.ofSymbol
  rcases hv : v.toText? with _ | s
  · constructor
    · rintro ⟨⟩
    · rintro rfl
      cases hv
  · obtain rfl := Json.toText?_eq_some_iff.1 hv
    rw [mapError_eq_ok_iff, parse_eq_ok_iff]
    simp [eq_comm]

/-- A character from the dot on, but no backslash, stands for itself in a quoted text. -/
def Plain (c : Char) : Prop := '.' ≤ c ∧ c ≠ '\\'

theorem Plain.escape (h : Plain c) : Json.escape c = c.toString := by
  have hnat : 46 ≤ c.toNat := h.1
  unfold Json.escape
  split
  case h_2 => exact absurd rfl h.2
  case h_8 => rw [if_neg (by omega)]
  all_goals exact absurd h.1 (by decide)

theorem LowerCase.plain (h : LowerCase c) : Plain c := by
  refine ⟨Char.le_trans (by decide) h.1, ?_⟩
  rintro rfl
  exact absurd h.1 (by decide)

theorem UpperCase.plain (h : UpperCase c) : Plain c := by
  refine ⟨Char.le_trans (by decide) h.1, ?_⟩
  rintro rfl
  exact absurd h.2 (by decide)

theorem Digit.plain (h : Digit c) : Plain c := by
  refine ⟨Char.le_trans (by decide) h.1, ?_⟩
  rintro rfl
  exact absurd h.2 (by decide)

theorem plain_underscore : Plain '_' := ⟨by decide, by decide⟩

theorem plain_dot : Plain '.' := ⟨by decide, by decide⟩

theorem plain_of_mem_text (h : c ∈ y.text.toList) : Plain c := by
  simp only [toList_text, List.mem_append, List.mem_cons] at h
  rcases h with h | rfl | h | rfl | h
  · rcases (isDomain_iff.1 y.validDomain).2 c h with h | h | rfl
    · exact h.plain
    · exact h.plain
    · exact plain_underscore
  · exact plain_dot
  · obtain ⟨f, fs, hf, hfirst, hrest⟩ := isEnumName_iff.1 y.validEnumName
    rw [hf, List.mem_cons] at h
    rcases h with rfl | h
    · exact hfirst.plain
    · rcases hrest c h with h | h | h <;> exact h.plain
  · exact plain_dot
  · rcases (isMember_iff.1 y.validMember).2 c h with h | h | rfl
    · exact h.plain
    · exact h.plain
    · exact plain_underscore

/-- The text of a symbol needs no escapes in a JSON document. -/
theorem compact_ofSymbol (y : Symbol) : (Json.ofSymbol y).compact = "\"" ++ y.text ++ "\"" := by
  have hescape : ∀ c ∈ y.text.toList, Json.escape c = c.toString := fun c hc =>
    (plain_of_mem_text hc).escape
  have hjoin : String.join (y.text.toList.map Json.escape) = y.text := by
    rw [List.map_congr_left hescape, ← String.toList_inj, String.toList_join]
    simp [List.flatMap_map]
  rw [Json.ofSymbol, Json.compact, Json.quote, hjoin]

end Json

/-- The texts that are read as symbols are those of the grammar, and a symbol is read from the text
that it is written as and from no other, also in a JSON document. Such a text is a candidate; a
candidate that is read as none has its fault in the last part, which is empty or has a wrong
character. -/
theorem parse_exact :
    (∀ s, (∃ y, parse s = .ok y) ↔ ∃ d e m, s.toList = d ++ '.' :: (e ++ '.' :: m)
        ∧ IsDomainWord d ∧ IsEnumWord e ∧ IsMemberWord m)
      ∧ (∀ s y, parse s = .ok y ↔ y.text = s)
      ∧ (∀ d e m y, ofParts d e m = .ok y → y.domain = d ∧ y.enumName = e ∧ y.member = m
        ∧ parse y.text = .ok y ∧ ofJson (Json.ofSymbol y) = .ok y)
      ∧ (∀ v y, ofJson v = .ok y ↔ v = Json.ofSymbol y)
      ∧ (∀ y, (Json.ofSymbol y).compact = "\"" ++ y.text ++ "\"")
      ∧ (∀ s, isCandidate s = true ↔ ∃ d e m, s.toList = d ++ '.' :: (e ++ '.' :: m)
        ∧ IsDomainWord d ∧ IsEnumWord e ∧ '.' ∉ m)
      ∧ (∀ s y, parse s = .ok y → isCandidate s = true)
      ∧ ∀ s d e m error, s.toList = d ++ '.' :: (e ++ '.' :: m) → IsDomainWord d → IsEnumWord e →
        '.' ∉ m → (parse s = .error error
          ↔ m = [] ∧ error = .emptyPart ∨ m ≠ [] ∧ ¬ IsMemberWord m ∧ error = .invalidMember) := by
  refine ⟨fun s => exists_parse_iff, fun s y => parse_eq_ok_iff, fun d e m y h => ?_,
    fun v y => ofJson_eq_ok_iff, compact_ofSymbol, fun s => isCandidate_iff, fun s y h => ?_,
    fun s d e m error hs hd he hm => parse_eq_error_iff hs hd he hm⟩
  · obtain ⟨hd, he, hm⟩ := ofParts_eq_ok_iff.1 h
    exact ⟨hd, he, hm, parse_eq_ok_iff.2 rfl, ofJson_eq_ok_iff.2 rfl⟩
  · obtain ⟨d, e, m, hs, hd, he, hm⟩ := exists_parse_iff.1 ⟨y, h⟩
    exact isCandidate_iff.2 ⟨d, e, m, hs, hd, he, hm.dot_not_mem⟩

/-- A member in lower case and a missing one are reported, each in its way. -/
theorem parse_exact_open :
    (∃ y, parse "cover.CoverEntityFeature.OPEN" = .ok y)
      ∧ isCandidate "cover.CoverEntityFeature.OPEN" = true
      ∧ parse "cover.CoverEntityFeature.open" = .error .invalidMember
      ∧ parse "cover.CoverEntityFeature." = .error .emptyPart := by
  have hd : IsDomainWord ['c', 'o', 'v', 'e', 'r'] := isDomain_iff.1 rfl
  have he : IsEnumWord "CoverEntityFeature".toList := isEnumName_iff.1 rfl
  have hm : IsMemberWord ['O', 'P', 'E', 'N'] := isMember_iff.1 rfl
  have hopen : ¬ IsMemberWord ['o', 'p', 'e', 'n'] := fun h => by cases isMember_iff.2 h
  obtain ⟨y, hy⟩ := (parse_exact.1 "cover.CoverEntityFeature.OPEN").2 ⟨_, _, _, rfl, hd, he, hm⟩
  refine ⟨⟨y, hy⟩, parse_exact.2.2.2.2.2.2.1 _ y hy, ?_, ?_⟩
  · exact (parse_exact.2.2.2.2.2.2.2 _ _ _ _ _ rfl hd he (by decide)).2
      (.inr ⟨List.cons_ne_nil _ _, hopen, rfl⟩)
  · exact (parse_exact.2.2.2.2.2.2.2 _ _ _ _ _ rfl hd he (by decide)).2 (.inl ⟨rfl, rfl⟩)

end Symbol

end SmartHome
