/-!
# Sorting by a key

Elements are sorted by their keys: by a text, which is the order of its code points and of its
bytes, or by bytes. `sort` keeps exactly the elements it is given (`perm_sort`) and puts them in
order (`pairwise_sort`), in strict order if no two have the same key (`pairwise_lt_sort`).
-/

namespace SmartHome

namespace Sorted

variable {α β κ : Type} [LT κ] [DecidableLT κ]

/-- Put an element before the first one that its key does not exceed. -/
def place (key : α → κ) (a : α) : List α → List α
  | [] => [a]
  | b :: bs => if key b < key a then b :: place key a bs else a :: b :: bs

/-- The elements by ascending key. -/
def sort (key : α → κ) (as : List α) : List α := as.foldr (place key) []

theorem perm_place (key : α → κ) (a : α) (bs : List α) :
    (place key a bs).Perm (a :: bs) := by
  induction bs with
  | nil => exact .refl _
  | cons b bs ih =>
    simp only [place]
    split
    · exact (ih.cons b).trans (.swap a b bs)
    · exact .refl _

theorem perm_sort (key : α → κ) (as : List α) : (sort key as).Perm as := by
  induction as with
  | nil => exact .refl _
  | cons a as ih => exact (perm_place key a _).trans (ih.cons a)

section Order

variable [LE κ] [Std.IsLinearOrder κ] [Std.LawfulOrderLT κ]

theorem pairwise_place (key : α → κ) (a : α) {bs : List α}
    (h : bs.Pairwise fun x y => key x ≤ key y) :
    (place key a bs).Pairwise fun x y => key x ≤ key y := by
  induction bs with
  | nil => simp [place]
  | cons b bs ih =>
    obtain ⟨hb, hbs⟩ := List.pairwise_cons.1 h
    simp only [place]
    split
    · rename_i hlt
      refine List.pairwise_cons.2 ⟨fun x hx => ?_, ih hbs⟩
      rcases List.mem_cons.1 ((perm_place key a bs).mem_iff.1 hx) with rfl | hx
      · exact Std.le_of_lt hlt
      · exact hb x hx
    · rename_i hle
      have hab : key a ≤ key b := Std.not_lt.1 hle
      refine List.pairwise_cons.2 ⟨fun x hx => ?_, h⟩
      rcases List.mem_cons.1 hx with rfl | hx
      · exact hab
      · exact Std.le_trans hab (hb x hx)

theorem pairwise_sort (key : α → κ) (as : List α) :
    (sort key as).Pairwise fun x y => key x ≤ key y := by
  induction as with
  | nil => exact .nil
  | cons a as ih => exact pairwise_place key a ih

theorem pairwise_lt_sort {key : α → κ} {as : List α} (h : (as.map key).Nodup) :
    (sort key as).Pairwise fun x y => key x < key y := by
  have hne : (sort key as).Pairwise fun x y => key x ≠ key y :=
    List.pairwise_map.1 (((perm_sort key as).map key).nodup_iff.2 h)
  refine ((pairwise_sort key as).and hne).imp fun {x y} hxy => ?_
  exact Std.not_le.1 fun hyx => hxy.2 (Std.le_antisymm hxy.1 hyx)

end Order

theorem place_map (key : β → κ) (f : α → β) (a : α) : ∀ bs : List α,
    place key (f a) (bs.map f) = (place (fun x => key (f x)) a bs).map f
  | [] => rfl
  | b :: bs => by
    simp only [List.map_cons, place]
    split
    · rw [place_map key f a bs, List.map_cons]
    · rfl

theorem sort_map (key : β → κ) (f : α → β) : ∀ as : List α,
    sort key (as.map f) = (sort (fun x => key (f x)) as).map f
  | [] => rfl
  | a :: as => by
    change place key (f a) (sort key (as.map f)) = _
    rw [sort_map key f as, place_map]
    rfl

end Sorted

end SmartHome
