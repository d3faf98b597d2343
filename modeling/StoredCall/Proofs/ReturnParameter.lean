import StoredCall.CallText
import StoredCall.Proofs.Provenance

/-!
# The return parameter

Where the parameter that carries the return value stands, and the placeholders left to the others.

* `ReturnPlaced`: the return parameter is an entry of the list and no result set;
  `returnPlaced_of_reconcile` says so of every parameter list;
* `placeholders_add`: between the parentheses there is a placeholder for each parameter that is no
  result set, one less if the return parameter is bound before them.
-/

namespace StoredCall

/-- The return parameter, if there is one, is among the entries and is no result set. -/
def ReturnPlaced (entries : List Entry) (returnIndex : Option ℕ) : Prop :=
  ∀ i, returnIndex = some i → ∃ e, entries[i]? = some e ∧ e.isResultSet = false

/-! ### Without columns -/

theorem CallContext.returnPlaced_declaredList (c : CallContext) (declared : List Parameter)
    (columns : List Column) :
    ReturnPlaced (c.declaredList declared columns).entries
      (c.declaredList declared columns).returnIndex := by
  intro i hi
  simp only [CallContext.declaredList] at hi ⊢
  split at hi
  · obtain ⟨hlt, hanswers, -⟩ := List.findIdx?_eq_some_iff_getElem.1 hi
    simp only [CallContext.answersTo, Bool.and_eq_true, Bool.not_eq_true'] at hanswers
    exact ⟨_, List.getElem?_eq_getElem hlt, hanswers.1⟩
  · cases hi

/-! ### With columns -/

theorem Decision.exists_placement_of_carriesReturn {v : Decision} (h : v.carriesReturn = true) :
    ∃ key e, v.placement? = some (key, e) := by
  cases v with
  | resolveReturn k => exact ⟨_, _, rfl⟩
  | reuse role name k => exact ⟨_, _, rfl⟩
  | add role name kind p => exact ⟨_, _, rfl⟩
  | _ => cases h

/-- A decision marks the place of the entry that it adds, or leaves the mark. -/
theorem Plan.Verdict.returnPlaced {plan : Plan} {d : Draft} {column : Column} {v : Decision}
    (hkept : ∀ k ∈ plan.kept, k.parameter.isResultSet = false) (h : plan.Verdict d column v)
    (hd : ReturnPlaced d.entries d.returnIndex) :
    ReturnPlaced (d.apply v).entries (d.apply v).returnIndex := by
  intro i hi
  rw [Draft.returnIndex_apply] at hi
  rw [Draft.entries_apply]
  split at hi
  · rename_i hcarries
    obtain rfl := Option.some.inj hi
    obtain ⟨key, e, hplace⟩ := Decision.exists_placement_of_carriesReturn hcarries
    exact ⟨e, by simp [hplace], (h.origin hplace).no_resultSet hkept⟩
  · obtain ⟨e, he, hres⟩ := hd i hi
    refine ⟨e, ?_, hres⟩
    rw [List.getElem?_append_left (List.getElem?_eq_some_iff.1 he).1, he]

section

variable {c : CallContext} {declared : List Parameter} {columns : List Column} {l : ParameterList}
  {i : ℕ} {e : Entry}

theorem returnPlaced_of_reconcile (h : (c.reconcile declared columns).outcome = .ok l) :
    ReturnPlaced l.entries l.returnIndex := by
  cases hused : c.columnsUsed with
  | false =>
    rw [CallContext.reconcile_of_unused hused] at h
    obtain rfl := Except.ok.inj h
    exact c.returnPlaced_declaredList declared columns
  | true =>
    obtain ⟨last, run, rfl⟩ := CallContext.run_of_reconcile hused h
    refine run.invariant (P := fun d => ReturnPlaced d.entries d.returnIndex) ?_ ?_
    · intro d column v hv _ hd
      exact hv.returnPlaced (fun _ hk => no_resultSet_of_mem_kept hk) hd
    · intro i hi
      cases hi

/-! ### Counting placeholders -/

/-- The number of entries that are no result sets. -/
def ordinaryCount (entries : List Entry) : ℕ := entries.countP fun e => !e.isResultSet

theorem ordinaryCount_eraseIdx (he : l.entries[i]? = some e) (hres : e.isResultSet = false) :
    ordinaryCount (l.entries.eraseIdx i) + 1 = ordinaryCount l.entries := by
  obtain ⟨hlt, rfl⟩ := List.getElem?_eq_some_iff.1 he
  have hsplit : l.entries = l.entries.take i ++ l.entries[i] :: l.entries.drop (i + 1) := by
    rw [List.getElem_cons_drop, List.take_append_drop]
  unfold ordinaryCount
  conv_rhs => rw [hsplit]
  rw [List.eraseIdx_eq_take_drop_succ, List.countP_append, List.countP_append, List.countP_cons,
    if_pos (by rw [hres]; rfl)]
  omega

/-- Counting all entries but one by their numbers counts the list without it. -/
theorem countP_zipIdx_ne (p : Entry → Bool) (entries : List Entry) (i k : ℕ) :
    (entries.zipIdx k).countP (fun e => p e.1 && some e.2 ≠ some (k + i)) =
      (entries.eraseIdx i).countP p := by
  induction entries generalizing i k with
  | nil => rfl
  | cons e entries ih =>
    rw [List.zipIdx_cons, List.countP_cons]
    cases i with
    | zero =>
      have hlater : ∀ x ∈ entries.zipIdx (k + 1), (p x.1 && some x.2 ≠ some (k + 0)) = p x.1 := by
        intro x hx
        have hle : k + 1 ≤ x.2 := List.le_snd_of_mem_zipIdx hx
        have hne : some x.2 ≠ some (k + 0) := fun he => by have := Option.some.inj he; omega
        rw [decide_eq_true hne, Bool.and_true]
      have hmap : ((entries.zipIdx (k + 1)).map (·.1)).countP p = entries.countP p := by
        rw [List.zipIdx_map_fst]
      rw [List.countP_congr fun x hx => by rw [hlater x hx], List.eraseIdx_cons_zero, ← hmap,
        List.countP_map]
      simp [Function.comp_def]
    | succ i =>
      have hne : some k ≠ some (k + (i + 1)) := fun he => by have := Option.some.inj he; omega
      have hshift : k + (i + 1) = k + 1 + i := by omega
      rw [List.eraseIdx_cons_succ, List.countP_cons, decide_eq_true hne, Bool.and_true, hshift,
        ih i (k + 1)]

theorem placeholders_of_boundReturn_eq_none (h : c.boundReturn l = none) :
    c.placeholders l = ordinaryCount l.entries := by
  have hmap : (l.entries.zipIdx.map (·.1)).countP (fun e => !e.isResultSet) =
      ordinaryCount l.entries := by
    rw [List.zipIdx_map_fst]
    rfl
  rw [← hmap, List.countP_map, CallContext.placeholders, h]
  simp [Function.comp_def]

theorem placeholders_of_boundReturn_eq_some (h : c.boundReturn l = some i) :
    c.placeholders l = ordinaryCount (l.entries.eraseIdx i) := by
  have hcount := countP_zipIdx_ne (fun e => !e.isResultSet) l.entries i 0
  rw [Nat.zero_add] at hcount
  rw [CallContext.placeholders, h]
  exact hcount

/-- The placeholders between the parentheses, and the one before them if it has a parameter, are as
many as the parameters that are no result sets. -/
theorem placeholders_add (h : ReturnPlaced l.entries l.returnIndex) :
    c.placeholders l + (if c.config.bindsReturn && l.returnIndex.isSome then 1 else 0) =
      ordinaryCount l.entries := by
  cases hb : c.config.bindsReturn with
  | false =>
    have hnone : c.boundReturn l = none := by rw [CallContext.boundReturn, hb]; rfl
    rw [placeholders_of_boundReturn_eq_none hnone]
    rfl
  | true =>
    have hbound : c.boundReturn l = l.returnIndex := by rw [CallContext.boundReturn, hb]; rfl
    cases hi : l.returnIndex with
    | none =>
      rw [placeholders_of_boundReturn_eq_none (hbound.trans hi)]
      rfl
    | some i =>
      obtain ⟨e, he, hres⟩ := h i hi
      rw [placeholders_of_boundReturn_eq_some (hbound.trans hi)]
      exact ordinaryCount_eraseIdx he hres

end

end StoredCall
