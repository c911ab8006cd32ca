import Mathlib.Data.List.Nodup

/-!
Lists in which repetitions are left out. What comes first is kept, so a list of events from the latest on
gives each thing where it happened last.
-/
namespace MarkupQuery

variable {α : Type} [BEq α] [LawfulBEq α]

theorem eraseDups_filter (p : α → Bool) (l : List α) :
    (l.filter p).eraseDups = l.eraseDups.filter p := by
  induction size : l.length using Nat.strongRecOn generalizing l with
  | ind bound ih =>
    cases l with
    | nil => rfl
    | cons a others =>
      have shorter : (others.filter (fun b => !b == a)).length < bound := by
        have := List.length_filter_le (fun b => !b == a) others
        rw [List.length_cons] at size
        omega
      have inner := ih _ shorter _ rfl
      rw [List.eraseDups_cons]
      cases kept : p a with
      | true =>
        rw [List.filter_cons_of_pos kept, List.filter_cons_of_pos kept, List.eraseDups_cons, ← inner,
          List.filter_comm]
      | false =>
        have gone : (others.filter (fun b => !b == a)).filter p = others.filter p := by
          rw [List.filter_filter]
          apply List.filter_congr
          intro b _
          by_cases same : b = a
          · simp [same, kept]
          · simp [same]
        rw [List.filter_cons_of_neg (by simp [kept]), List.filter_cons_of_neg (by simp [kept]), ← inner,
          gone]

/-- An element that comes before others takes itself away from them. -/
theorem eraseDups_cons_eq (a : α) (l : List α) :
    (a :: l).eraseDups = a :: l.eraseDups.filter (· != a) := by
  rw [List.eraseDups_cons, eraseDups_filter]
  rfl

/-- An element that comes after others is new, or it is one of them. -/
theorem eraseDups_concat (l : List α) (a : α) :
    (l ++ [a]).eraseDups = if a ∈ l then l.eraseDups else l.eraseDups ++ [a] := by
  rw [List.eraseDups_append]
  by_cases used : a ∈ l
  · have gone : [a].removeAll l = [] := by simp [List.removeAll, used]
    rw [if_pos used, gone, List.eraseDups_nil, List.append_nil]
  · have kept : [a].removeAll l = [a] := by simp [List.removeAll, used]
    rw [if_neg used, kept, eraseDups_cons_eq]
    rfl

theorem nodup_eraseDups (l : List α) : l.eraseDups.Nodup := by
  induction l with
  | nil => exact List.nodup_nil
  | cons a others ih =>
    rw [eraseDups_cons_eq]
    exact List.nodup_cons.mpr ⟨by simp, ih.filter _⟩

theorem take_filter_of_not_mem {a : α} {l : List α} {n : Nat} (absent : a ∉ l.take n) :
    (l.filter (· != a)).take n = l.take n := by
  induction l generalizing n with
  | nil => rfl
  | cons b others ih =>
    cases n with
    | zero => rfl
    | succ n =>
      rw [List.take_succ_cons, List.mem_cons, not_or] at absent
      rw [List.filter_cons_of_pos (by simpa using Ne.symm absent.1), List.take_succ_cons,
        List.take_succ_cons, ih absent.2]

/-- Of distinct elements, one of the first few leaves its place to those after it. -/
theorem filter_take_of_mem {a : α} {l : List α} {n : Nat} (distinct : l.Nodup)
    (member : a ∈ l.take n) : (l.take n).filter (· != a) = (l.filter (· != a)).take (n - 1) := by
  induction l generalizing n with
  | nil => simp at member
  | cons b others ih =>
    rw [List.nodup_cons] at distinct
    cases n with
    | zero => simp at member
    | succ n =>
      rw [List.take_succ_cons] at member ⊢
      rcases List.mem_cons.mp member with rfl | later
      · have whole : others.filter (· != a) = others := by
          rw [List.filter_eq_self]
          intro b inside
          simpa using ne_of_mem_of_not_mem inside distinct.1
        have part : (others.take n).filter (· != a) = others.take n := by
          rw [List.filter_eq_self]
          intro b inside
          simpa using ne_of_mem_of_not_mem (List.mem_of_mem_take inside) distinct.1
        rw [List.filter_cons_of_neg (by simp), List.filter_cons_of_neg (by simp), whole, part]
        rfl
      · have other : b ≠ a := by
          rintro rfl
          exact distinct.1 (List.mem_of_mem_take later)
        have room : 0 < n := by
          apply Nat.pos_of_ne_zero
          rintro rfl
          simp at later
        obtain ⟨m, rfl⟩ := Nat.exists_eq_add_one.mpr room
        rw [List.filter_cons_of_pos (by simpa using other), List.filter_cons_of_pos (by simpa using other),
          ih distinct.2 later]
        rfl

end MarkupQuery
