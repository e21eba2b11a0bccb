import Mathlib.Data.List.Sort
import Mathlib.Data.String.Basic

set_option autoImplicit false

/- The first entries of a sorted listing. -/
namespace AiPlatform.Listing

section Entries

variable {Entry : Type} [LinearOrder Entry]

/-- Of two listings, one of the entries that pass a test, the first entries are the same exactly
when enough entries that pass come before each one that does not. -/
theorem take_filter_iff {entries : List Entry} (sorted : entries.Pairwise (· < ·))
    (test : Entry → Bool) (limit : Nat) :
    entries.take limit = (entries.filter test).take limit ↔
      ∀ entry ∈ entries, test entry = false →
        limit ≤ entries.countP fun other => test other && decide (other < entry) := by
  induction entries generalizing limit with
  | nil => simp
  | cons first rest ih =>
      obtain ⟨least, sorted⟩ := List.pairwise_cons.mp sorted
      cases limit with
      | zero => simp
      | succ limit =>
          cases passes : test first with
          | true =>
              have counts : ∀ entry ∈ rest, (first :: rest).countP (fun other =>
                  test other && decide (other < entry)) =
                    (rest.countP fun other => test other && decide (other < entry)) + 1 := by
                intro entry member
                simp [passes, least entry member]
              rw [List.filter_cons_of_pos passes, List.take_succ_cons, List.take_succ_cons,
                List.cons_inj_right, ih sorted, List.forall_mem_cons]
              simp only [passes, Bool.true_eq_false, false_implies, true_and]
              refine forall₂_congr fun entry member => ?_
              rw [counts entry member, Nat.succ_le_succ_iff]
          | false =>
              -- The first entry fails the test, and nothing comes before it.
              rw [List.filter_cons_of_neg (by simp [passes]), List.take_succ_cons]
              constructor
              · intro same
                have member : first ∈ (rest.filter test).take (limit + 1) := by
                  rw [← same]
                  exact List.mem_cons_self
                have later := (List.mem_filter.mp (List.mem_of_mem_take member)).1
                exact absurd (least first later) (lt_irrefl first)
              · intro enough
                have none : (first :: rest).countP (fun other =>
                    test other && decide (other < first)) = 0 := by
                  apply List.countP_eq_zero.mpr
                  intro other member
                  rcases List.mem_cons.mp member with rfl | later
                  · simp
                  · simp [le_of_lt (least other later)]
                have impossible := enough first List.mem_cons_self passes
                rw [none] at impossible
                omega

/-- Sorted listings of the same entries are the same. -/
theorem eq_of_perm {first second : List Entry} (perm : first.Perm second)
    (sorted : first.Pairwise (· ≤ ·)) (sorted' : second.Pairwise (· ≤ ·)) : first = second :=
  perm.eq_of_pairwise' sorted sorted'

theorem sort_strict {entries : List Entry} (distinct : entries.Nodup) :
    (entries.insertionSort (· ≤ ·)).Pairwise (· < ·) := by
  have sorted := List.pairwise_insertionSort (· ≤ ·) entries
  have distinct := (List.perm_insertionSort (· ≤ ·) entries).nodup_iff.mpr distinct
  exact (sorted.and distinct).imp fun ⟨below, other⟩ => lt_of_le_of_ne below other

end Entries

theorem append_le_append_iff {start first second : List Char} :
    start ++ first ≤ start ++ second ↔ first ≤ second := by
  rw [← not_lt, ← not_lt, not_iff_not]
  induction start with
  | nil => rfl
  | cons letter start ih => simp [ih]

end AiPlatform.Listing
