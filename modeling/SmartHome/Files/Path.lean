import SmartHome.Files.OsText
import SmartHome.Text.Split

/-!
# Paths as they are written

A path is kept as the bytes it was given as: joining puts bytes together, and nothing is normalised.
Two paths are compared by their components, where a repeated separator and a single dot count for
nothing except a dot in front, and `..` is a component like any other.
-/

namespace SmartHome

structure Path where
  raw : OsText
  deriving DecidableEq, Inhabited

namespace Path

def bytes (p : Path) : List UInt8 := p.raw.bytes

@[simp] theorem bytes_mk (bs : List UInt8) : bytes ⟨⟨bs⟩⟩ = bs := rfl

/-- The path as messages show it. -/
def text (p : Path) : String := p.raw.shown

def slash : UInt8 := '/'.toUInt8
def dot : UInt8 := '.'.toUInt8

theorem dot_ne_slash : dot ≠ slash := by decide

/-- The pieces between the separators. -/
def segments (p : Path) : List (List UInt8) := Split.splitAll slash p.bytes

def isAbsolute (p : Path) : Bool := p.bytes.head? = some slash

/-- The piece names nothing. -/
def isIdle (s : List UInt8) : Bool := s = [] || s = [dot]

/-- What counts when paths are compared. -/
def components (p : Path) : List OsText :=
  let names := (p.segments.filter fun s => !isIdle s).map OsText.mk
  if p.isAbsolute then "/" :: names
  else if p.segments.head? = some [dot] then "." :: names
  else names

/-- The path of a path read from a directory; an absolute one needs no directory. -/
def join (base p : Path) : Path :=
  if p.isAbsolute || base.bytes.isEmpty then p
  else if base.bytes.getLast? = some slash then ⟨⟨base.bytes ++ p.bytes⟩⟩
  else ⟨⟨base.bytes ++ slash :: p.bytes⟩⟩

/-- The pieces without those at the end that name nothing. -/
def dropIdle (ss : List (List UInt8)) : List (List UInt8) :=
  (ss.reverse.dropWhile isIdle).reverse

/-- The directory in which the last component stands, if there is one: what is left of the bytes
without that component and the separators around it. -/
def parent? (p : Path) : Option Path :=
  let (front, body) :=
    if p.isAbsolute then (some [slash], p.segments.drop 1)
    else if p.segments.head? = some [dot] then (some [dot], p.segments.drop 1)
    else (none, p.segments)
  match dropIdle body with
  | [] => if front = some [dot] then some ⟨""⟩ else none
  | b :: bs =>
    let rest := dropIdle (b :: bs).dropLast
    let text := Split.join slash rest
    some ⟨⟨if front = some [dot] then if rest.isEmpty then [dot] else dot :: slash :: text
      else front.getD [] ++ text⟩⟩

/-- The last dot of a name that has something before it. -/
def splitName? (name : OsText) : Option (OsText × OsText) :=
  match Split.splitFirst? dot name.bytes.reverse with
  | some (after, before) =>
    if before.isEmpty then none else some (⟨before.reverse⟩, ⟨after.reverse⟩)
  | none => none

/-- A file's name without its extension. -/
def front (name : OsText) : OsText :=
  match splitName? name with
  | some (before, _) => before
  | none => name

/-- A file's name without its extension, as a text; if it is none, the empty text stands for it. -/
def stem (name : OsText) : String := (front name).toText?.getD ""

def extension? (name : OsText) : Option OsText := (splitName? name).map (·.2)

section Name

variable {name before after s ext : OsText}

/-- The two sides of the last dot of a name that has something before it. -/
theorem splitName?_eq_some_iff : splitName? name = some (before, after)
    ↔ before ≠ "" ∧ name = before ++ "." ++ after ∧ dot ∉ after.bytes := by
  have hfirst : ∀ a b, Split.splitFirst? dot name.bytes.reverse = some (a, b)
      ↔ name = ⟨b.reverse ++ dot :: a.reverse⟩ ∧ dot ∉ a.reverse := by
    intro a b
    rw [Split.splitFirst?_eq_some_iff, List.mem_reverse, List.reverse_eq_iff, List.reverse_append,
      List.reverse_cons, List.append_assoc, List.singleton_append]
    exact and_congr_left' ⟨congrArg OsText.mk, congrArg OsText.bytes⟩
  have hjoin : ∀ a b : OsText, a ++ "." ++ b = ⟨a.bytes ++ dot :: b.bytes⟩ := fun a b =>
    congrArg OsText.mk (List.append_assoc _ _ _)
  rw [splitName?, hjoin]
  constructor
  · intro h
    split at h
    · rename_i a b hab
      obtain ⟨rfl, ha⟩ := (hfirst a b).1 hab
      split at h
      · cases h
      · rename_i hb
        cases h
        refine ⟨fun hempty => hb ?_, rfl, ha⟩
        have hnil : b.reverse = [] := congrArg OsText.bytes hempty
        rw [List.isEmpty_iff, ← List.reverse_eq_nil_iff, hnil]
    · cases h
  · rintro ⟨hne, hname, ha⟩
    have hsplit := (hfirst after.bytes.reverse before.bytes.reverse).2 (by simpa using ⟨hname, ha⟩)
    have hb : ¬ before.bytes.reverse.isEmpty = true := by
      rw [List.isEmpty_iff, List.reverse_eq_nil_iff]
      exact fun hnil => hne (congrArg OsText.mk hnil)
    simp only [hsplit, if_neg hb, List.reverse_reverse]

theorem front_append (hs : s ≠ "") (hext : dot ∉ ext.bytes) : front (s ++ "." ++ ext) = s := by
  rw [front, splitName?_eq_some_iff.2 ⟨hs, rfl, hext⟩]

theorem extension?_eq_some_iff (hext : dot ∉ ext.bytes) :
    extension? name = some ext ↔ ∃ s ≠ ("" : OsText), name = s ++ "." ++ ext := by
  rw [extension?, Option.map_eq_some_iff]
  constructor
  · rintro ⟨⟨before, after⟩, h, rfl⟩
    obtain ⟨hbefore, hname, -⟩ := splitName?_eq_some_iff.1 h
    exact ⟨before, hbefore, hname⟩
  · rintro ⟨s, hs, hname⟩
    exact ⟨(s, ext), splitName?_eq_some_iff.2 ⟨hs, hname, hext⟩, rfl⟩

/-- A name without its extension is a text, or the empty text stands for it. -/
theorem stem_eq_iff {k : String} :
    stem name = k ↔ front name = k ∨ k = "" ∧ ∀ t : String, front name ≠ t := by
  rw [stem]
  rcases h : (front name).toText? with _ | t
  · have hnone : ∀ t : String, front name ≠ t := by
      intro t ht
      rw [OsText.toText?_eq_some_iff.2 ht] at h
      cases h
    simp [hnone, eq_comm]
  · simp [OsText.toText?_eq_some_iff.1 h, OsText.ofText_inj]

theorem append_yaml (s : OsText) : s ++ ".yaml" = s ++ "." ++ "yaml" := by
  have hext : OsText.ofText ".yaml" = ⟨dot :: (OsText.ofText "yaml").bytes⟩ := rfl
  rw [hext]
  exact congrArg OsText.mk (List.append_assoc _ [dot] _).symm

theorem append_yml (s : OsText) : s ++ ".yml" = s ++ "." ++ "yml" := by
  have hext : OsText.ofText ".yml" = ⟨dot :: (OsText.ofText "yml").bytes⟩ := rfl
  rw [hext]
  exact congrArg OsText.mk (List.append_assoc _ [dot] _).symm

/-- The stem of `s.yaml` and of `s.yml` is `s`, or empty if that is no text. -/
theorem stem_document (hs : s ≠ "") (hname : name = s ++ ".yaml" ∨ name = s ++ ".yml")
    {k : String} : stem name = k ↔ s = k ∨ k = "" ∧ ∀ t : String, s ≠ t := by
  have hfront : front name = s := by
    rcases hname with rfl | rfl
    · rw [append_yaml, front_append hs (by decide)]
    · rw [append_yml, front_append hs (by decide)]
  rw [stem_eq_iff, hfront]

example : stem (⟨[0xFE]⟩ ++ ".yaml") = "" := by decide +kernel

end Name

end Path

end SmartHome
