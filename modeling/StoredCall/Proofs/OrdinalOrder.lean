import Mathlib.Data.List.Nodup
import StoredCall.Column

/-!
# Ordinal order

`inOrdinalOrder` is the order by ordinal in which columns of one ordinal stand as reported.

* `indexedColumns`: the ordered columns with their reported positions;
* `indexedColumns_pairwise`: they stand by ordinal, and then by position;
* `ComesBefore`, `mem_earlier_iff`: what stands before a column, said by ordinals and positions;
* `inOrdinalOrder_eq_of_perm`: columns of different ordinals have one order, however they are
  reported.
-/

namespace StoredCall

/-- The columns in ordinal order, each with the position at which it is reported. -/
def indexedColumns (columns : List Column) : List (Column × ℕ) :=
  columns.zipIdx.mergeSort (List.zipIdxLE fun a b => a.ordinal ≤ b.ordinal)

variable {columns columns' earlier later : List Column} {x y : Column}

theorem ordinal_le_trans (a b c : Column) (hab : decide (a.ordinal ≤ b.ordinal) = true)
    (hbc : decide (b.ordinal ≤ c.ordinal) = true) : decide (a.ordinal ≤ c.ordinal) = true := by
  simp only [decide_eq_true_eq] at *
  omega

theorem ordinal_le_total (a b : Column) :
    (decide (a.ordinal ≤ b.ordinal) || decide (b.ordinal ≤ a.ordinal)) = true := by
  simp only [Bool.or_eq_true, decide_eq_true_eq]
  omega

theorem map_fst_indexedColumns : (indexedColumns columns).map (·.1) = inOrdinalOrder columns :=
  List.mergeSort_zipIdx

theorem mem_indexedColumns_iff {i : ℕ} :
    (x, i) ∈ indexedColumns columns ↔ columns[i]? = some x := by
  rw [indexedColumns, List.mem_mergeSort]
  exact List.mem_zipIdx_iff_getElem?

theorem getElem?_of_mem_indexedColumns {x : Column × ℕ} (h : x ∈ indexedColumns columns) :
    columns[x.2]? = some x.1 :=
  mem_indexedColumns_iff.1 h

theorem nodup_positions_indexedColumns : ((indexedColumns columns).map (·.2)).Nodup := by
  have hperm : ((indexedColumns columns).map (·.2)).Perm (columns.zipIdx.map (·.2)) :=
    (List.mergeSort_perm _ _).map _
  rw [hperm.nodup_iff, List.zipIdx_map_snd]
  exact List.nodup_range'

theorem indexedColumns_pairwise : (indexedColumns columns).Pairwise fun a b =>
    a.1.ordinal < b.1.ordinal ∨ a.1.ordinal = b.1.ordinal ∧ a.2 < b.2 := by
  have hsorted := List.pairwise_mergeSort (List.zipIdxLE_trans ordinal_le_trans)
    (List.zipIdxLE_total ordinal_le_total) columns.zipIdx
  have hdistinct := List.pairwise_map.1 (@nodup_positions_indexedColumns columns)
  refine (hsorted.and hdistinct).imp ?_
  rintro ⟨a, i⟩ ⟨b, j⟩ ⟨hle, hne⟩
  simp only [List.zipIdxLE, decide_eq_true_eq] at hle hne
  show a.ordinal < b.ordinal ∨ a.ordinal = b.ordinal ∧ i < j
  split at hle
  · split at hle
    · simp only [decide_eq_true_eq] at hle
      omega
    · omega
  · cases hle

/-! ### What stands before a column -/

/-- Of the reported columns the first has the lower ordinal, or the same one and is reported
first. -/
def ComesBefore (columns : List Column) (x y : Column) : Prop :=
  ∃ i j : ℕ, columns[i]? = some x ∧ columns[j]? = some y ∧
    (x.ordinal < y.ordinal ∨ x.ordinal = y.ordinal ∧ i < j)

/-- What stands before a column that is reported once is what comes before it. -/
theorem mem_earlier_iff (hsplit : inOrdinalOrder columns = earlier ++ y :: later)
    (hunique : ∀ i j : ℕ, columns[i]? = some y → columns[j]? = some y → i = j) :
    x ∈ earlier ↔ ComesBefore columns x y := by
  rw [← map_fst_indexedColumns] at hsplit
  obtain ⟨before, rest, hindexed, rfl, hrest⟩ := List.map_eq_append_iff.1 hsplit
  obtain ⟨⟨y, j⟩, after, rfl, rfl, -⟩ := List.map_eq_cons_iff.1 hrest
  have hpairs := @indexedColumns_pairwise columns
  rw [hindexed] at hpairs
  have hat : ∀ {z : Column} {i : ℕ},
      columns[i]? = some z ↔ (z, i) ∈ before ++ (y, j) :: after := by
    intro z i
    rw [← hindexed, mem_indexedColumns_iff]
  have hy : columns[j]? = some y := hat.2 (by simp)
  constructor
  · intro hx
    obtain ⟨⟨x, i⟩, hmem, rfl⟩ := List.mem_map.1 hx
    have hlt := (List.pairwise_append.1 hpairs).2.2 (x, i) hmem (y, j) List.mem_cons_self
    exact ⟨i, j, hat.2 (List.mem_append_left _ hmem), hy, hlt⟩
  · rintro ⟨i, j', hi, hj', hlt⟩
    obtain rfl : j' = j := hunique j' j hj' hy
    dsimp only at hlt
    have hmem := hat.1 hi
    rw [List.mem_append, List.mem_cons, Prod.mk.injEq] at hmem
    rcases hmem with hmem | ⟨rfl, rfl⟩ | hmem
    · exact List.mem_map_of_mem hmem
    · omega
    · -- what stands after the column has the higher ordinal or is reported later
      have hgt := (List.pairwise_cons.1 (List.pairwise_append.1 hpairs).2.1).1 (x, i) hmem
      dsimp only at hgt
      omega

/-! ### Orders in which columns are reported -/

theorem inOrdinalOrder_pairwise :
    (inOrdinalOrder columns).Pairwise fun a b => a.ordinal ≤ b.ordinal :=
  (List.pairwise_mergeSort ordinal_le_trans ordinal_le_total columns).imp of_decide_eq_true

/-- Columns of different ordinals have one ordinal order, however they are reported. -/
theorem inOrdinalOrder_eq_of_perm (hperm : columns.Perm columns')
    (hnodup : (columns.map (·.ordinal)).Nodup) :
    inOrdinalOrder columns = inOrdinalOrder columns' := by
  have hsame : (inOrdinalOrder columns).Perm (inOrdinalOrder columns') :=
    (List.mergeSort_perm columns _).trans (hperm.trans (List.mergeSort_perm columns' _).symm)
  refine List.Perm.eq_of_pairwise ?_ inOrdinalOrder_pairwise inOrdinalOrder_pairwise hsame
  intro a b ha hb hab hba
  have ha' : a ∈ columns := List.mem_mergeSort.1 ha
  have hb' : b ∈ columns := hperm.mem_iff.2 (List.mem_mergeSort.1 hb)
  exact List.inj_on_of_nodup_map hnodup ha' hb' (Nat.le_antisymm hab hba)

theorem inOrdinalOrder_inOrdinalOrder :
    inOrdinalOrder (inOrdinalOrder columns) = inOrdinalOrder columns :=
  List.mergeSort_of_pairwise (inOrdinalOrder_pairwise.imp decide_eq_true)

end StoredCall
