import Mathlib.Data.List.Dedup
import Mathlib.Data.List.DropRight

namespace SongPattern.Recency

variable {α : Type} {key x : α} {order : List α}

theorem rtake_of_length_le {n : Nat} (h : order.length ≤ n) : order.rtake n = order := by
  rw [List.rtake, Nat.sub_eq_zero_of_le h, List.drop_zero]

theorem length_rtake_le (n : Nat) (order : List α) : (order.rtake n).length ≤ n := by
  rw [List.rtake, List.length_drop]
  omega

theorem rtake_suffix (n : Nat) (order : List α) : order.rtake n <:+ order :=
  List.drop_suffix _ order

theorem rtake_cons {n : Nat} (h : n ≤ order.length) : (x :: order).rtake n = order.rtake n := by
  rw [List.rtake, List.length_cons, Nat.succ_sub h, List.drop_succ_cons, List.rtake]

variable [DecidableEq α]

/-- The last `n` distinct ones among the uses, each where it was used last. -/
def lastDistinct (n : Nat) (uses : List α) : List α := uses.dedup.rtake n

/-- Moves a key to the end, or puts it there; `n` keys are left at most. -/
def renew (n : Nat) (key : α) (order : List α) : List α :=
  (order.erase key).rtake (n - 1) ++ [key]

theorem lastDistinct_nil (n : Nat) : lastDistinct n ([] : List α) = [] := List.rtake_nil n

theorem erase_concat_of_ne (h : x ≠ key) : (order ++ [x]).erase key = order.erase key ++ [x] := by
  have last : [x].erase key = [x] := List.erase_of_not_mem (by simpa using h.symm)
  rw [List.erase_append, last]
  split
  · rfl
  next absent => rw [List.erase_of_not_mem absent]

/-- One key fewer among the last `n + 1` leaves `n` to take. -/
theorem rtake_erase (h : order.Nodup) (n : Nat) :
    (order.erase key).rtake n = ((order.rtake (n + 1)).erase key).rtake n := by
  induction order using List.reverseRecOn generalizing n with
  | nil => simp
  | append_singleton order x ih =>
    have parts := List.nodup_append.mp h
    have fresh : x ∉ order := fun hx => parts.2.2 x hx x (List.mem_singleton_self x) rfl
    rw [List.rtake_concat_succ]
    by_cases hx : x = key
    · subst hx
      have fresh' : x ∉ order.rtake n := fun hx => fresh ((rtake_suffix n order).subset hx)
      rw [List.erase_append_right _ fresh, List.erase_append_right _ fresh', List.erase_cons_head,
        List.append_nil, List.append_nil, rtake_of_length_le (length_rtake_le n order)]
    · rw [erase_concat_of_ne hx, erase_concat_of_ne hx]
      cases n with
      | zero => simp
      | succ n => rw [List.rtake_concat_succ, List.rtake_concat_succ, ih parts.1]

theorem dedup_concat (uses : List α) (key : α) :
    (uses ++ [key]).dedup = uses.dedup.erase key ++ [key] := by
  induction uses with
  | nil => rfl
  | cons x uses ih =>
    rw [List.cons_append]
    by_cases used : x ∈ uses
    · rw [List.dedup_cons_of_mem used, List.dedup_cons_of_mem (List.mem_append_left _ used), ih]
    · rw [List.dedup_cons_of_notMem used]
      by_cases hx : x = key
      · subst hx
        rw [List.dedup_cons_of_mem (by simp), ih, List.erase_cons_head,
          List.erase_of_not_mem (mt List.mem_dedup.mp used)]
      · rw [List.dedup_cons_of_notMem (by simp [used, hx]), ih,
          List.erase_cons_tail (by simpa using hx), List.cons_append]

theorem lastDistinct_concat {n : Nat} (hn : 0 < n) (uses : List α) (key : α) :
    lastDistinct n (uses ++ [key]) = renew n key (lastDistinct n uses) := by
  obtain ⟨m, rfl⟩ := Nat.exists_eq_succ_of_ne_zero hn.ne'
  rw [lastDistinct, dedup_concat, List.rtake_concat_succ, rtake_erase (List.nodup_dedup uses)]
  rfl

theorem nodup_renew (n : Nat) (h : order.Nodup) : (renew n key order).Nodup := by
  have kept := (h.erase key).sublist (rtake_suffix (n - 1) _).sublist
  refine kept.append (List.nodup_singleton key) ?_
  rw [List.disjoint_singleton]
  exact fun hk => h.not_mem_erase ((rtake_suffix _ _).subset hk)

theorem length_renew_le {n : Nat} (hn : 0 < n) (key : α) (order : List α) :
    (renew n key order).length ≤ n := by
  have kept := length_rtake_le (n - 1) (order.erase key)
  rw [renew, List.length_append, List.length_singleton]
  omega

end SongPattern.Recency
