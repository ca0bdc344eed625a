import Mathlib.Algebra.Ring.Nat
import Mathlib.Data.List.Basic
import Mathlib.Data.List.Nodup

/-!
Counting in lists that are put together from others, or of which one element changes.
-/

namespace JobDispatch

variable {α β : Type}

theorem length_le_flatMap {f : α → List β} (h : ∀ a, f a ≠ []) (l : List α) :
    l.length ≤ (l.flatMap f).length := by
  induction l with
  | nil => exact Nat.zero_le _
  | cons a l ih =>
    have some := List.length_pos_iff.mpr (h a)
    simp only [List.flatMap_cons, List.length_append, List.length_cons]
    omega

theorem countP_singleton_toNat (p : α → Bool) (a : α) : [a].countP p = (p a).toNat := by
  cases h : p a <;> simp [h]

/-- What counts in a list counts at once, or in what becomes of the list. -/
theorem countP_eq_add_filterMap {f : α → Option β} {p q : α → Bool} {r : β → Bool}
    (h : ∀ a, (p a).toNat = (q a).toNat + ((f a).any r).toNat) (l : List α) :
    l.countP p = l.countP q + (l.filterMap f).countP r := by
  induction l with
  | nil => rfl
  | cons a l ih =>
    have head := h a
    rw [← List.singleton_append, List.filterMap_append, List.countP_append, List.countP_append,
      List.countP_append, countP_singleton_toNat, countP_singleton_toNat]
    cases hf : f a with
    | none =>
      rw [hf] at head
      simp only [Option.any_none, Bool.toNat_false] at head
      simp only [List.filterMap_cons, hf, List.filterMap_nil, List.countP_nil]
      omega
    | some b =>
      rw [hf, Option.any_some] at head
      simp only [List.filterMap_cons, hf, List.filterMap_nil, countP_singleton_toNat]
      omega

theorem countP_set_getElem? (p : α → Bool) {l : List α} {i : Nat} {a : α}
    (h : l[i]? = some a) (b : α) :
    (l.set i b).countP p + (p a).toNat = l.countP p + (p b).toNat := by
  obtain ⟨hi, rfl⟩ := List.getElem?_eq_some_iff.mp h
  have one := List.boole_getElem_le_countP (p := p) hi
  have number (c : Bool) : c.toNat = if c then 1 else 0 := by cases c <;> rfl
  rw [List.countP_set hi, number, number]
  omega

/-- An element of a list that became longer by one is the new one, or it was there before. -/
theorem split_snoc {l a b : List α} {m x : α} (h : l ++ [m] = a ++ x :: b) :
    m = x ∧ l = a ∧ b = [] ∨ ∃ c, b = c ++ [m] ∧ l = a ++ x :: c := by
  rcases List.eq_nil_or_concat b with rfl | ⟨c, y, rfl⟩
  · obtain ⟨rfl, same⟩ := List.append_inj' h rfl
    exact .inl ⟨List.singleton_inj.mp same, rfl, rfl⟩
  · rw [List.concat_eq_append, ← List.cons_append, ← List.append_assoc] at h
    obtain ⟨rfl, same⟩ := List.append_inj' h rfl
    obtain rfl := List.singleton_inj.mp same
    exact .inr ⟨c, List.concat_eq_append, rfl⟩

/-- What stands in a list that another element was added to. -/
theorem getElem?_concat_cases {l : List α} {j : Nat} {a b : α} (h : (l ++ [a])[j]? = some b) :
    l[j]? = some b ∨ j = l.length ∧ b = a := by
  by_cases inside : j < l.length
  · rw [List.getElem?_append_left inside] at h
    exact .inl h
  · have here := (List.getElem?_eq_some_iff.mp h).1
    simp only [List.length_append, List.length_singleton] at here
    obtain rfl : j = l.length := by omega
    rw [List.getElem?_concat_length] at h
    exact .inr ⟨rfl, (Option.some.inj h).symm⟩

/-- What stands in a list of which one element changed, and which others were added to. -/
theorem getElem?_set_append_cases {l more : List α} {i j : Nat} {a b : α}
    (h : (l.set i a ++ more)[j]? = some b) :
    (j ≠ i ∧ l[j]? = some b) ∨ (j = i ∧ b = a) ∨ b ∈ more := by
  by_cases inside : j < l.length
  · rw [List.getElem?_append_left (by simpa using inside)] at h
    by_cases same : j = i
    · subst same
      rw [List.getElem?_set_self inside] at h
      exact .inr (.inl ⟨rfl, (Option.some.inj h).symm⟩)
    · rw [List.getElem?_set_ne (Ne.symm same)] at h
      exact .inl ⟨same, h⟩
  · rw [List.getElem?_append_right (by simpa using inside)] at h
    exact .inr (.inr (List.mem_of_getElem? h))

theorem getElem?_set_append_self {l more : List α} {i : Nat} {b : α} (h : l[i]? = some b) (a : α) :
    (l.set i a ++ more)[i]? = some a := by
  have inside := (List.getElem?_eq_some_iff.mp h).1
  rw [List.getElem?_append_left (by simpa using inside)]
  exact List.getElem?_set_self inside

theorem getElem?_set_append_of_ne {l more : List α} {i j : Nat} {b : α} (h : l[j]? = some b)
    (ne : j ≠ i) (a : α) : (l.set i a ++ more)[j]? = some b := by
  have inside := (List.getElem?_eq_some_iff.mp h).1
  rw [List.getElem?_append_left (by simpa using inside), List.getElem?_set_ne (Ne.symm ne)]
  exact h

theorem map_set_getElem? (f : α → β) {l : List α} {n : Nat} {a b : α} (h : l[n]? = some a)
    (same : f b = f a) : (l.set n b).map f = l.map f := by
  obtain ⟨hn, rfl⟩ := List.getElem?_eq_some_iff.mp h
  have hm : n < (l.map f).length := by rwa [List.length_map]
  have self := List.set_getElem_self hm
  rw [List.getElem_map] at self
  rw [List.map_set, same, self]

theorem filterMap_set_perm (g : α → Option β) {l : List α} {n : Nat} {a : α}
    (h : l[n]? = some a) (b : α) :
    List.Perm ((g a).toList ++ (l.set n b).filterMap g) ((g b).toList ++ l.filterMap g) := by
  induction l generalizing n with
  | nil => simp at h
  | cons c l ih =>
    cases n with
    | zero =>
      obtain rfl : c = a := by simpa using h
      have head (d : α) : (d :: l).filterMap g = (g d).toList ++ l.filterMap g := by
        cases hd : g d <;> simp [hd]
      rw [List.set_cons_zero, head, head, ← List.append_assoc, ← List.append_assoc]
      exact List.perm_append_comm.append_right _
    | succ n =>
      have ih := ih (by simpa using h)
      rw [List.set_cons_succ]
      cases hc : g c with
      | none => simpa [hc] using ih
      | some d =>
        simp only [List.filterMap_cons, hc]
        exact List.perm_middle.trans ((ih.cons d).trans List.perm_middle.symm)

theorem sum_map_set_getElem? (w : α → Nat) {l : List α} {n : Nat} {a : α}
    (h : l[n]? = some a) (b : α) : ((l.set n b).map w).sum + w a = (l.map w).sum + w b := by
  induction l generalizing n with
  | nil => simp at h
  | cons c l ih =>
    cases n with
    | zero =>
      obtain rfl : c = a := by simpa using h
      simp only [List.set_cons_zero, List.map_cons, List.sum_cons]
      omega
    | succ n =>
      have ih := ih (by simpa using h)
      simp only [List.set_cons_succ, List.map_cons, List.sum_cons]
      omega

theorem sum_map_le_countP {w : α → Nat} {p : α → Bool} {l : List α}
    (h : ∀ a ∈ l, w a ≤ (p a).toNat) : (l.map w).sum ≤ l.countP p := by
  induction l with
  | nil => exact Nat.le_refl _
  | cons a l ih =>
    have head := h a List.mem_cons_self
    have tail := ih fun b hb => h b (List.mem_cons_of_mem a hb)
    rw [← List.singleton_append, List.countP_append, countP_singleton_toNat]
    simp only [List.singleton_append, List.map_cons, List.sum_cons]
    omega

/-- Where a function gets one value more, a list without repetitions comes to one value more at
most. -/
theorem countP_filterMap_le (p : β → Bool) {e e' : Nat → Option β} {i : Nat}
    (others : ∀ j, j ≠ i → e' j = e j) {is : List Nat} (nodup : is.Nodup) :
    (is.filterMap e').countP p ≤ (is.filterMap e).countP p + (e' i).toList.countP p := by
  by_cases hi : i ∈ is
  · have split := List.perm_cons_erase hi
    have rest : (is.erase i).filterMap e' = (is.erase i).filterMap e :=
      List.filterMap_congr fun j hj => others j (nodup.mem_erase_iff.mp hj).1
    have less := ((List.erase_sublist (a := i) (l := is)).filterMap e).countP_le (p := p)
    have whole : (is.filterMap e').Perm ((e' i).toList ++ (is.erase i).filterMap e) := by
      rw [← rest]
      cases he : e' i <;> simpa [he] using split.filterMap e'
    rw [whole.countP_eq, List.countP_append]
    omega
  · rw [List.filterMap_congr fun j hj => others j fun hji => hi (hji ▸ hj)]
    omega

end JobDispatch
