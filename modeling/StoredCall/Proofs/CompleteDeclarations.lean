import Mathlib.Data.List.Find
import StoredCall.Proofs.OrdinaryColumns
import StoredCall.Proofs.ReturnParameter

/-!
# Complete declarations

A call whose columns only repeat its declarations has the same parameters whether or not columns are
read.

* `Column.Matches`: a column repeats a declaration;
* `Plan.Run.of_matches`: a run over such columns places the declarations, and does nothing else;
* `CallContext.FunctionColumns`: the columns repeat the declarations of a function, all but the one
  that carries its result;
* `reconcile_of_complete`: with columns and without, a call has the same parameters, except that the
  one with a function result may stand at another place.
-/

namespace StoredCall

/-- The column is no return value and has the normalized name of a declaration. -/
def Column.Matches (d : Dialect) (column : Column) (k : Kept) : Prop :=
  column.kind ≠ .returned ∧ ∃ n, column.name = some n ∧ d.normalize n = k.key

instance (d : Dialect) (column : Column) (k : Kept) : Decidable (column.Matches d k) :=
  decidable_of_iff (column.kind ≠ .returned ∧ column.name.any (d.normalize · = k.key) = true) <| by
    simp [Column.Matches, Option.any_eq_true]

/-- The draft with some more declarations. -/
def Draft.withKept (d : Draft) (ks : List Kept) : Draft :=
  { d with
    entries := d.entries ++ ks.map (·.entry)
    taken := (ks.map (·.key)).reverse ++ d.taken }

theorem Draft.withKept_nil (d : Draft) : d.withKept [] = d := by
  simp [withKept]

theorem Draft.withKept_cons (d : Draft) (k : Kept) (ks : List Kept) :
    d.withKept (k :: ks) = (d.place k.key k.entry).withKept ks := by
  simp [withKept, place]

theorem Draft.mem_taken_withKept {d : Draft} {ks : List Kept} {key : String} :
    key ∈ (d.withKept ks).taken ↔ (∃ k ∈ ks, k.key = key) ∨ key ∈ d.taken := by
  simp [withKept]

namespace CallContext

variable (c : CallContext) (declared : List Parameter)

/-- The context where columns are used as the configuration and the database say. -/
def withColumns (configured supported : Bool) : CallContext :=
  { c with config.useColumns := configured, dialect.columnsUsed := supported }

/-- The declarations that take part, without one. -/
def keptBut (r : Kept) : List Kept :=
  (keptOf c.dialect declared).filter (·.position ≠ r.position)

/-- The first declared output is left to a return column whose name nothing declared has, and the
other columns repeat the other declarations. -/
structure FunctionColumns (r : Kept) (before : List Column) (result : Column)
    (after : List Column) : Prop where
  first_output : (keptOf c.dialect declared).find? (·.isOutput) = some r
  returned : result.kind = .returned
  undeclared : ∀ n, result.name = some n → ∀ p ∈ declared, ∀ m, p.name = some m →
    c.dialect.normalize m ≠ c.dialect.normalize n
  others : List.Forall₂ (Column.Matches c.dialect) (before ++ after) (c.keptBut declared r)

end CallContext

/-- Two parameter lists of a function call give one call, up to the place of the parameter that
carries the result. -/
structure ParameterList.SameFunctionCall (r : Kept) (l l' : ParameterList) : Prop where
  returned : l.returnEntry? = some r.entry
  returned' : l'.returnEntry? = some r.entry
  returnName : l.returnName = l'.returnName
  outputNames : l.outputNames = l'.outputNames
  others : l.entries.filter (·.position? ≠ some r.position) =
    l'.entries.filter (·.position? ≠ some r.position)

/-! ### Columns that repeat declarations -/

namespace Plan

variable {plan : Plan} {d : Draft} {column : Column} {k : Kept}

theorem decisionFor_of_matches (h : column.Matches plan.dialect k)
    (hkept : plan.kept.find? (·.key = k.key) = some k) (hfree : k.key ∉ d.taken) :
    (plan.decisionFor d column).missing? = none ∧
      d.apply (plan.decisionFor d column) = d.place k.key k.entry := by
  obtain ⟨hkind, n, hn, hkey⟩ := h
  have hlower : Text.lower (plan.dialect.parameterName n) = k.key := hkey
  have hfound : plan.free? d k.key = some k := by rw [free?, if_neg hfree, hkept]
  have houtput : plan.decideOutput d (plan.dialect.parameterName n) column =
      .reuse .output (plan.dialect.parameterName n) k := by
    rw [decideOutput, hlower, hfound]
  have hinput : plan.decideInput d (plan.dialect.parameterName n) column =
      .reuse .input (plan.dialect.parameterName n) k := by
    rw [decideInput, hlower, hfound]
  have hunbound :
      ¬ ((some (plan.dialect.parameterName n)).any (Text.lower · ∈ d.taken)) = true := by
    simpa [hlower] using hfree
  rw [decisionFor, hn, Option.map_some, if_neg hunbound]
  cases hcase : column.kind with
  | returned => exact absurd hcase hkind
  | output | inOut =>
    simp only [houtput]
    exact ⟨rfl, rfl⟩
  | input | unknown | result =>
    simp only [hinput]
    exact ⟨rfl, rfl⟩

/-- A run over columns that repeat free declarations places these in order. -/
theorem Run.of_matches {columns : List Column} {ks : List Kept}
    (h : List.Forall₂ (Column.Matches plan.dialect) columns ks)
    (hkept : ∀ k ∈ ks, plan.kept.find? (·.key = k.key) = some k)
    (hdistinct : ks.Pairwise (·.key ≠ ·.key)) (hfree : ∀ k ∈ ks, k.key ∉ d.taken) :
    plan.Run d columns (d.withKept ks) := by
  induction h generalizing d with
  | nil =>
    rw [Draft.withKept_nil]
    exact .nil d
  | @cons column k columns ks hmatch _ ih =>
    obtain ⟨hk, hks⟩ := List.forall_mem_cons.1 hkept
    obtain ⟨hfreeK, hfreeKs⟩ := List.forall_mem_cons.1 hfree
    obtain ⟨hhead, htail⟩ := List.pairwise_cons.1 hdistinct
    obtain ⟨hmissing, happly⟩ := decisionFor_of_matches hmatch hk hfreeK
    have hfree' : ∀ x ∈ ks, x.key ∉ (d.place k.key k.entry).taken := by
      intro x hx hmem
      rcases List.mem_cons.1 hmem with he | hmem
      · exact hhead x hx he.symm
      · exact hfreeKs x hx hmem
    rw [Draft.withKept_cons]
    refine .cons hmissing ?_
    rw [happly]
    exact ih hks htail hfree'

/-- A return column whose name is free and undeclared gives the result of a function to the
declaration of the return name. -/
theorem decisionFor_result (hf : plan.isFunction = true) (hkind : column.kind = .returned)
    (hname : ∀ n, column.name = some n → plan.dialect.normalize n ∉ d.taken ∧
      plan.kept.find? (·.key = plan.dialect.normalize n) = none)
    (hfound : plan.free? d (plan.dialect.normalize d.returnName) = some k) :
    plan.decisionFor d column = .resolveReturn k := by
  have hreuse : plan.returnReuse? d (plan.nameOf column) = some k := by
    rw [returnReuse?, hfound]
    cases hn : column.name with
    | none => simp [nameOf, hn]
    | some n =>
      obtain ⟨hfree, hnone⟩ := hname n hn
      have hown : plan.free? d (Text.lower (plan.dialect.parameterName n)) = none :=
        (if_neg hfree).trans hnone
      simp [nameOf, hn, hown]
  have hfree : ∀ n, plan.nameOf column = some n → Text.lower n ∉ d.taken := by
    intro n hn
    obtain ⟨m, hm, rfl⟩ := nameOf_eq_some hn
    exact (hname m hm).1
  rw [decisionFor_returned hf hkind hfree, functionTaker?, hreuse, Option.some_or]

end Plan

theorem exists_of_mem_of_matches {d : Dialect} {columns : List Column} {ks : List Kept} {x : Column}
    (h : List.Forall₂ (Column.Matches d) columns ks) (hx : x ∈ columns) :
    ∃ k ∈ ks, x.Matches d k := by
  induction h with
  | nil => cases hx
  | @cons column k columns ks hmatch _ ih =>
    rcases List.mem_cons.1 hx with rfl | hx
    · exact ⟨k, List.mem_cons_self, hmatch⟩
    · obtain ⟨k', hk', hmatch'⟩ := ih hx
      exact ⟨k', List.mem_cons_of_mem k hk', hmatch'⟩

/-- The declarations that two lists of columns repeat are those of the one and then of the other. -/
theorem split_of_matches {d : Dialect} {before after : List Column} {ks : List Kept}
    (h : List.Forall₂ (Column.Matches d) (before ++ after) ks) :
    ∃ earlier later, ks = earlier ++ later ∧ List.Forall₂ (Column.Matches d) before earlier ∧
      List.Forall₂ (Column.Matches d) after later := by
  have hbefore := List.forall₂_take before.length h
  have hafter := List.forall₂_drop before.length h
  rw [List.take_left] at hbefore
  rw [List.drop_left] at hafter
  exact ⟨_, _, (List.take_append_drop before.length ks).symm, hbefore, hafter⟩

section

variable {c : CallContext} {declared : List Parameter} {columns : List Column} {r : Kept}
  {l l' : ParameterList}

/-! ### Declarations of a function -/

theorem mem_keptBut {k : Kept} :
    k ∈ c.keptBut declared r ↔ k ∈ keptOf c.dialect declared ∧ k.position ≠ r.position := by
  simp [CallContext.keptBut]

theorem keptBut_sublist : (c.keptBut declared r).Sublist (keptOf c.dialect declared) :=
  List.filter_sublist

theorem key_ne_of_mem_keptBut {k : Kept} (hr : r ∈ keptOf c.dialect declared)
    (hk : k ∈ c.keptBut declared r) : k.key ≠ r.key := by
  intro he
  obtain ⟨hkept, hposition⟩ := mem_keptBut.1 hk
  exact hposition (congrArg Kept.position (eq_of_key_eq hkept hr he))

theorem keptBut_perm (hr : r ∈ keptOf c.dialect declared) :
    (r :: c.keptBut declared r).Perm (keptOf c.dialect declared) := by
  obtain ⟨front, back, hsplit⟩ := List.append_of_mem hr
  have hpairwise := keptOf_pairwise c.dialect declared
  rw [hsplit, List.pairwise_append, List.pairwise_cons] at hpairwise
  obtain ⟨-, ⟨hback, -⟩, hfront⟩ := hpairwise
  -- positions grow along the declarations, and so the filter takes out `r` alone
  have hfilter : c.keptBut declared r = front ++ back := by
    rw [CallContext.keptBut, hsplit, List.filter_append, List.filter_cons_of_neg (by simp)]
    congr 1
    · refine List.filter_eq_self.2 fun k hk => decide_eq_true ?_
      exact Nat.ne_of_lt (hfront k hk r List.mem_cons_self).1
    · refine List.filter_eq_self.2 fun k hk => decide_eq_true ?_
      exact (Nat.ne_of_lt (hback k hk).1).symm
  rw [hfilter, hsplit]
  exact List.perm_middle.symm

/-- One of the declarations that take part, put anywhere among the others, gives all of them. -/
theorem perm_of_split {earlier later : List Kept} (hr : r ∈ keptOf c.dialect declared)
    (hsplit : c.keptBut declared r = earlier ++ later) :
    (earlier ++ r :: later).Perm (keptOf c.dialect declared) := by
  have hmiddle : (earlier ++ r :: later).Perm (r :: c.keptBut declared r) :=
    hsplit ▸ List.perm_middle
  exact hmiddle.trans (keptBut_perm hr)

theorem filter_of_split {earlier later : List Kept}
    (hsplit : c.keptBut declared r = earlier ++ later) :
    (earlier ++ r :: later).filter (·.position ≠ r.position) = c.keptBut declared r := by
  have hothers : (earlier ++ later).filter (·.position ≠ r.position) = earlier ++ later := by
    refine List.filter_eq_self.2 fun k hk => decide_eq_true ?_
    exact (mem_keptBut.1 (hsplit ▸ hk)).2
  rw [List.filter_append, List.filter_cons_of_neg (by simp), ← List.filter_append, hothers, hsplit]

/-- The first declared output takes the result if no column has its name. -/
theorem returnTaker?_of_first {kept : List Kept} {reported : List String}
    (hfirst : kept.find? (·.isOutput) = some r) (hunreported : r.key ∉ reported) :
    returnTaker? kept reported = some r := by
  obtain ⟨hr, front, back, rfl, hfront⟩ := List.find?_eq_some_iff_append.1 hfirst
  refine List.find?_eq_some_iff_append.2 ⟨?_, front, back, rfl, fun k hk => ?_⟩
  · simp [hr, hunreported]
  · have hnot : k.isOutput = false := by simpa using hfront k hk
    simp [hnot]

/-! ### Without columns -/

section

variable (c declared) (configured supported : Bool)

theorem admissions_withColumns :
    admissions (c.withColumns configured supported).dialect declared =
      admissions c.dialect declared := by
  have hnames : (c.withColumns configured supported).dialect.normalize = c.dialect.normalize := rfl
  exact admissions_congr hnames

theorem keptOf_withColumns :
    keptOf (c.withColumns configured supported).dialect declared = keptOf c.dialect declared := by
  rw [keptOf, admissions_withColumns, keptOf]

theorem declaredEntries_withColumns :
    (c.withColumns configured supported).declaredEntries declared = c.declaredEntries declared := by
  rw [CallContext.declaredEntries, resultSetsOf, admissions_withColumns, keptOf_withColumns]
  rfl

theorem declaredOutputs_withColumns :
    (c.withColumns configured supported).declaredOutputs declared = c.declaredOutputs declared := by
  rw [CallContext.declaredOutputs, keptOf_withColumns, CallContext.declaredOutputs]

end

theorem answersTo_entry {key : String} {k : Kept} (hk : k ∈ keptOf c.dialect declared) :
    c.answersTo key k.entry = decide (k.key = key) := by
  obtain ⟨hkept, hkey⟩ := mem_keptOf_iff.1 hk
  have hres : k.entry.isResultSet = false := hkept.no_resultSet
  have hname : k.entry.name = some k.name := hkept.named
  rw [CallContext.answersTo, hres, hname, hkey]
  simp

theorem find?_declaredEntries (hr : r ∈ keptOf c.dialect declared) :
    (c.declaredEntries declared).find? (c.answersTo r.key) = some r.entry := by
  have hresultSets : (resultSetsOf c.dialect declared).find? (c.answersTo r.key) = none := by
    rw [resultSetsOf_eq, List.find?_eq_none]
    intro e he
    obtain ⟨x, hx, rfl⟩ := List.mem_map.1 he
    have hres : x.1.isResultSet = true := (List.mem_filter.1 hx).2
    simp [CallContext.answersTo, Entry.isResultSet, Entry.parameter, hres]
  have hkept : (keptOf c.dialect declared).find? (c.answersTo r.key ∘ Kept.entry) = some r := by
    rw [← find?_key_of_mem_keptOf hr]
    exact List.find?_congr fun k hk => answersTo_entry hk
  rw [CallContext.declaredEntries, List.find?_append, hresultSets, Option.none_or, List.find?_map,
    hkept, Option.map_some]

theorem declaredReturnName_of_first (hf : c.config.isFunction = true)
    (hunused : c.columnsUsed = false)
    (hfirst : (keptOf c.dialect declared).find? (·.isOutput) = some r) :
    c.declaredReturnName declared columns = r.name := by
  have htaker : c.returnTaker? declared columns = some r := by
    rw [CallContext.returnTaker?, if_pos hf, hunused]
    exact returnTaker?_of_first hfirst List.not_mem_nil
  rw [CallContext.declaredReturnName, htaker]

theorem returnEntry?_declaredList (hf : c.config.isFunction = true)
    (hr : r ∈ keptOf c.dialect declared)
    (hname : c.declaredReturnName declared columns = r.name) :
    ParameterList.returnEntry? (c.declaredList declared columns) = some r.entry := by
  have hbinds : c.config.bindsReturn = true := by rw [CallConfig.bindsReturn, hf, Bool.true_or]
  have hkey : c.dialect.normalize r.name = r.key := (mem_keptOf_iff.1 hr).2.symm
  rw [ParameterList.returnEntry?, CallContext.declaredList, hname, if_pos hbinds, hkey]
  exact List.find?_eq_bind_findIdx?_getElem?.symm.trans (find?_declaredEntries hr)

/-! ### With columns -/

theorem run_of_matches {d : Draft} {ks : List Kept}
    (h : List.Forall₂ (Column.Matches c.dialect) columns ks)
    (hsub : ks.Sublist (keptOf c.dialect declared)) (hfree : ∀ k ∈ ks, k.key ∉ d.taken) :
    (c.plan declared).Run d columns (d.withKept ks) := by
  have hkept : ∀ k ∈ ks, (keptOf c.dialect declared).find? (·.key = k.key) = some k :=
    fun k hk => find?_key_of_mem_keptOf (hsub.subset hk)
  have hdistinct : ks.Pairwise (·.key ≠ ·.key) :=
    ((keptOf_pairwise c.dialect declared).imp And.right).sublist hsub
  exact Plan.Run.of_matches h hkept hdistinct hfree

/-- Columns that repeat all declarations place these. -/
theorem reconcile_of_matches (hused : c.columnsUsed = true)
    (h : List.Forall₂ (Column.Matches c.dialect) (inOrdinalOrder columns)
      (keptOf c.dialect declared)) :
    (c.reconcile declared columns).outcome =
      .ok ((c.draft declared columns).withKept (keptOf c.dialect declared)).finish := by
  refine CallContext.reconcile_of_run hused rfl (run_of_matches h (List.Sublist.refl _) ?_)
  exact fun k hk => not_mem_resultSetKeys_of_mem_keptOf hk

namespace CallContext.FunctionColumns

variable {before after : List Column} {result : Column}
  (h : c.FunctionColumns declared r before result after)

include h

theorem mem_kept : r ∈ keptOf c.dialect declared := List.mem_of_find?_eq_some h.first_output

theorem not_mem_reportedKeys (hsorted : inOrdinalOrder columns = before ++ result :: after) :
    r.key ∉ c.reportedKeys columns := by
  rw [← mem_reportedKeys_inOrdinalOrder, hsorted, CallContext.mem_reportedKeys]
  rintro ⟨x, hx, hkind, n, hn, hkey⟩
  have hother : x ∈ before ++ after := by
    have hne : x ≠ result := fun he => hkind (he ▸ h.returned)
    simpa [hne] using hx
  obtain ⟨k, hk, -, m, hm, hsame⟩ := exists_of_mem_of_matches h.others hother
  obtain rfl : n = m := Option.some.inj (hn.symm.trans hm)
  exact key_ne_of_mem_keptBut h.mem_kept hk (hsame.symm.trans hkey)

theorem key_undeclared {n : String} (hn : result.name = some n) :
    c.dialect.normalize n ∉ resultSetKeys c.dialect declared ∧
      ∀ k ∈ keptOf c.dialect declared, k.key ≠ c.dialect.normalize n := by
  constructor
  · intro hmem
    obtain ⟨q, hq, -, m, hm, he⟩ := mem_resultSetKeys.1 hmem
    exact h.undeclared n hn q hq m hm he
  · intro k hk
    obtain ⟨hkept, hkey⟩ := mem_keptOf_iff.1 hk
    rw [hkey]
    exact h.undeclared n hn _ (List.mem_of_getElem? hkept.declared_at) _ hkept.named

/-- The return column gives the result to the declaration that is left to it, whichever others are
placed before. -/
theorem decisionFor_result {d : Draft} (hf : c.config.isFunction = true)
    (hname : d.returnName = r.name)
    (htaken : ∀ key ∈ d.taken,
      (∃ k ∈ c.keptBut declared r, k.key = key) ∨ key ∈ resultSetKeys c.dialect declared) :
    (c.plan declared).decisionFor d result = .resolveReturn r := by
  refine Plan.decisionFor_result hf h.returned ?_ ?_
  · intro n hn
    obtain ⟨hhidden, hkept⟩ := h.key_undeclared hn
    refine ⟨fun hmem => ?_, List.find?_eq_none.2 fun k hk he => hkept k hk (of_decide_eq_true he)⟩
    rcases htaken _ hmem with ⟨k, hk, he⟩ | hmem
    · exact hkept k (keptBut_sublist.subset hk) he
    · exact hhidden hmem
  · have hkey : c.dialect.normalize d.returnName = r.key := by
      rw [hname, (mem_keptOf_iff.1 h.mem_kept).2]
    have hfree : r.key ∉ d.taken := by
      intro hmem
      rcases htaken _ hmem with ⟨k, hk, he⟩ | hmem
      · exact key_ne_of_mem_keptBut h.mem_kept hk he
      · exact not_mem_resultSetKeys_of_mem_keptOf h.mem_kept hmem
    have hfound : (c.plan declared).free? d r.key = some r :=
      (if_neg hfree).trans (find?_key_of_mem_keptOf h.mem_kept)
    exact hkey ▸ hfound

/-- The columns of a function place the declarations, the one with the result at its column. -/
theorem run (hf : c.config.isFunction = true)
    (hname : c.declaredReturnName declared columns = r.name) :
    ∃ earlier later, c.keptBut declared r = earlier ++ later ∧
      (c.plan declared).Run (c.draft declared columns) (before ++ result :: after)
        ((((c.draft declared columns).withKept earlier).apply (.resolveReturn r)).withKept
          later) := by
  obtain ⟨earlier, later, hsplit, hbefore, hafter⟩ := split_of_matches h.others
  refine ⟨earlier, later, hsplit, ?_⟩
  have hsub : (earlier ++ later).Sublist (keptOf c.dialect declared) := hsplit ▸ keptBut_sublist
  have hhidden : ∀ k ∈ earlier ++ later, k.key ∉ (c.draft declared columns).taken :=
    fun k hk => not_mem_resultSetKeys_of_mem_keptOf (hsub.subset hk)
  have first : (c.plan declared).Run (c.draft declared columns) before
      ((c.draft declared columns).withKept earlier) := by
    refine run_of_matches hbefore ((List.sublist_append_left _ _).trans hsub) fun k hk => ?_
    exact hhidden k (List.mem_append_left _ hk)
  set d := (c.draft declared columns).withKept earlier with hd
  have hdecision : (c.plan declared).decisionFor d result = .resolveReturn r := by
    refine h.decisionFor_result hf hname fun key hmem => ?_
    rw [hsplit]
    refine (Draft.mem_taken_withKept.1 hmem).imp_left ?_
    rintro ⟨k, hk, he⟩
    exact ⟨k, List.mem_append_left _ hk, he⟩
  have second : (c.plan declared).Run (d.apply (.resolveReturn r)) after
      ((d.apply (.resolveReturn r)).withKept later) := by
    refine run_of_matches hafter ((List.sublist_append_right _ _).trans hsub) fun k hk hmem => ?_
    have hdistinct := ((keptOf_pairwise c.dialect declared).imp And.right).sublist hsub
    obtain ⟨-, -, hcross⟩ := List.pairwise_append.1 hdistinct
    have hk' : k ∈ earlier ++ later := List.mem_append_right _ hk
    rcases List.mem_cons.1 hmem with he | hmem
    · exact key_ne_of_mem_keptBut h.mem_kept (hsplit ▸ hk') he
    rcases Draft.mem_taken_withKept.1 hmem with ⟨x, hx, he⟩ | hmem
    · exact hcross x hx k hk he
    · exact hhidden k hk' hmem
  refine first.append (.cons ?_ ?_)
  · rw [hdecision]
    rfl
  · rw [hdecision]
    exact second

/-- The parameter list that the columns of a function give. -/
theorem exists_reconcile (hused : c.columnsUsed = true) (hf : c.config.isFunction = true)
    (hsorted : inOrdinalOrder columns = before ++ result :: after) :
    ∃ earlier later l, c.keptBut declared r = earlier ++ later ∧
      (c.reconcile declared columns).outcome = .ok l ∧
      l.entries = resultSetsOf c.dialect declared ++ (earlier ++ r :: later).map Kept.entry ∧
      l.returnEntry? = some r.entry ∧ l.returnName = r.name ∧
      l.outputNames = c.declaredOutputs declared := by
  have hname : c.declaredReturnName declared columns = r.name := by
    have htaker : c.returnTaker? declared columns = some r := by
      rw [CallContext.returnTaker?, if_pos hf, if_pos hused]
      exact returnTaker?_of_first h.first_output (h.not_mem_reportedKeys hsorted)
    rw [CallContext.declaredReturnName, htaker]
  obtain ⟨earlier, later, hsplit, hrun⟩ := h.run hf hname
  refine ⟨earlier, later, _, hsplit, CallContext.reconcile_of_run hused hsorted hrun, ?_, ?_, rfl,
    rfl⟩
  · simp [Draft.finish, Draft.withKept, Draft.apply, Draft.place, Draft.markReturn,
      CallContext.draft]
  · simp [ParameterList.returnEntry?, Draft.finish, Draft.withKept, Draft.apply, Draft.place,
      Draft.markReturn]

end CallContext.FunctionColumns

/-! ### With columns and without -/

theorem filter_map_entry (ks : List Kept) (i : ℕ) :
    (ks.map Kept.entry).filter (·.position? ≠ some i) =
      (ks.filter (·.position ≠ i)).map Kept.entry := by
  rw [List.filter_map]
  congr 1
  exact List.filter_congr fun k _ => by simp [Kept.entry, Entry.position?]

theorem callText_congr (h : c.placeholders l = c.placeholders l') :
    c.callText l = c.callText l' := by
  rw [CallContext.callText, CallContext.callText, h]

theorem isSome_returnIndex {e : Entry} (h : l.returnEntry? = some e) :
    l.returnIndex.isSome = true := by
  obtain ⟨i, hi, -⟩ := Option.bind_eq_some_iff.1 h
  rw [hi, Option.isSome_some]

/-- Two lists of the same parameters, both with a result, have the same text. -/
theorem callText_of_perm {e e' : Entry} (hl : ReturnPlaced l.entries l.returnIndex)
    (hl' : ReturnPlaced l'.entries l'.returnIndex) (hperm : l.entries.Perm l'.entries)
    (hreturned : l.returnEntry? = some e) (hreturned' : l'.returnEntry? = some e') :
    c.callText l = c.callText l' := by
  have hcount : ordinaryCount l.entries = ordinaryCount l'.entries := hperm.countP_eq _
  have hadd := @placeholders_add c l hl
  have hadd' := @placeholders_add c l' hl'
  rw [isSome_returnIndex hreturned] at hadd
  rw [isSome_returnIndex hreturned'] at hadd'
  exact callText_congr (by omega)

/-- With complete declarations a call has the same parameters with columns and without. Of a
procedure the lists are equal; of a function they are equal up to the place of the result. -/
theorem reconcile_of_complete (hused : c.columnsUsed = true) {configured supported : Bool}
    (hunused : (configured && supported) = false) (unread : List Column) :
    (c.config.isFunction = false → c.config.returnRequired = false →
      List.Forall₂ (Column.Matches c.dialect) (inOrdinalOrder columns)
        (keptOf c.dialect declared) →
      ∃ l, (c.reconcile declared columns).outcome = .ok l ∧
        ((c.withColumns configured supported).reconcile declared unread).outcome = .ok l ∧
        l.returnIndex = none) ∧
    (c.config.isFunction = true → ∀ r before result after,
      inOrdinalOrder columns = before ++ result :: after →
      c.FunctionColumns declared r before result after →
      ∃ l l', (c.reconcile declared columns).outcome = .ok l ∧
        ((c.withColumns configured supported).reconcile declared unread).outcome = .ok l' ∧
        c.callText l = (c.withColumns configured supported).callText l' ∧
        ParameterList.SameFunctionCall r l l') := by
  have hentries := declaredEntries_withColumns c declared configured supported
  have houtputs := declaredOutputs_withColumns c declared configured supported
  have hkept := keptOf_withColumns c declared configured supported
  have htext : (c.withColumns configured supported).callText = c.callText := rfl
  set c' := c.withColumns configured supported
  have hdeclared : (c'.reconcile declared unread).outcome = .ok (c'.declaredList declared unread) :=
    CallContext.reconcile_of_unused hunused
  constructor
  · intro hf hrequired h
    refine ⟨_, reconcile_of_matches hused h, ?_, rfl⟩
    have hf' : c'.config.isFunction = false := hf
    have hbinds : c'.config.bindsReturn = false := Bool.or_eq_false_iff.2 ⟨hf, hrequired⟩
    have hname : c'.declaredReturnName declared unread = c.declaredReturnName declared columns := by
      rw [declaredReturnName_of_procedure hf', declaredReturnName_of_procedure hf]
      rfl
    rw [hdeclared, CallContext.declaredList, hbinds, hentries, houtputs, hname]
    rfl
  · intro hf r before result after hsorted h
    obtain ⟨earlier, later, l, hsplit, hl, hplaced, hreturned, hname, hnames⟩ :=
      h.exists_reconcile hused hf hsorted
    have hf' : c'.config.isFunction = true := hf
    have hname' : c'.declaredReturnName declared unread = r.name :=
      declaredReturnName_of_first hf' hunused (hkept ▸ h.first_output)
    have hreturned' := returnEntry?_declaredList hf' (hkept ▸ h.mem_kept) hname'
    have hplaced' : (c'.declaredList declared unread).entries =
        resultSetsOf c.dialect declared ++ (keptOf c.dialect declared).map Kept.entry := hentries
    refine ⟨l, _, hl, hdeclared, ?_, ⟨hreturned, hreturned', hname.trans hname'.symm,
      hnames.trans houtputs.symm, ?_⟩⟩
    · have hperm : l.entries.Perm (c'.declaredList declared unread).entries := by
        rw [hplaced, hplaced']
        exact ((perm_of_split h.mem_kept hsplit).map _).append_left _
      rw [htext]
      exact callText_of_perm (returnPlaced_of_reconcile hl) (returnPlaced_of_reconcile hdeclared)
        hperm hreturned hreturned'
    · rw [hplaced, hplaced', List.filter_append, List.filter_append, filter_map_entry,
        filter_map_entry, filter_of_split hsplit]
      rfl

/-- A procedure, and a function whose result is reported before its other parameters. -/
theorem reconcile_of_complete_add :
    let c := CallContext.start (.procedure "count_items") (.generic Fixtures.mySql)
    let declared := [Parameter.input "Category" .varchar, .output "total" .integer]
    let f := CallContext.start (.function "add") (.generic Fixtures.mySql)
    let operands := [Parameter.input "a" .integer, .output "sum" .integer, .output "carry" .integer]
    let result := Fixtures.column "returnValue" .returned .integer 0
    let others := [Fixtures.column "A" .input .integer 1,
      Fixtures.column "carry" .output .integer 2]
    (∃ l, (c.reconcile declared Fixtures.mySqlCountItems.columns).outcome = .ok l ∧
      ((c.withColumns false true).reconcile declared []).outcome = .ok l ∧
      l.returnIndex = none) ∧
    ∃ r l l', r.name = "sum" ∧ (f.reconcile operands (result :: others)).outcome = .ok l ∧
      ((f.withColumns false true).reconcile operands []).outcome = .ok l' ∧
      f.callText l = (f.withColumns false true).callText l' ∧
      ParameterList.SameFunctionCall r l l' := by
  intro c declared f operands result others
  constructor
  · have hsorted : inOrdinalOrder Fixtures.mySqlCountItems.columns =
        Fixtures.mySqlCountItems.columns := List.mergeSort_of_pairwise (by decide)
    have hmatches : List.Forall₂ (Column.Matches c.dialect)
        (inOrdinalOrder Fixtures.mySqlCountItems.columns) (keptOf c.dialect declared) := by
      rw [hsorted]
      decide +kernel
    exact (@reconcile_of_complete c declared _ rfl false true rfl []).1 rfl rfl hmatches
  · have hsorted : inOrdinalOrder (result :: others) = [] ++ result :: others :=
      List.mergeSort_of_pairwise (by decide)
    let r := ((keptOf f.dialect operands).find? (·.isOutput)).get (by decide +kernel)
    have hundeclared : ∀ n ∈ result.name, ∀ p ∈ operands, ∀ m ∈ p.name,
        f.dialect.normalize m ≠ f.dialect.normalize n := by
      decide +kernel
    have hcolumns : f.FunctionColumns operands r [] result others :=
      { first_output := (Option.some_get _).symm
        returned := rfl
        undeclared := hundeclared
        others := by decide +kernel }
    have hname : r.name = "sum" := by decide +kernel
    obtain ⟨l, l', hl, hl', hagree⟩ :=
      (@reconcile_of_complete f operands _ rfl false true rfl []).2 rfl r _ _ _ hsorted hcolumns
    exact ⟨r, l, l', hname, hl, hl', hagree⟩

end

end StoredCall
