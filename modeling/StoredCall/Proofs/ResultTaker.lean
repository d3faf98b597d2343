import StoredCall.Proofs.FunctionResult

/-!
# The taker of a function result

When the call of a function with one return column fails, and what takes the result when it does
not, if neither that column nor the configuration gives the result the name of a declaration.

* `CallContext.SingleResult`: the calls in question;
* `Plan.Run.findSome?_missing`: a run stops at the first column whose result has no taker;
* `CallContext.AtResult`: what holds of the draft at the return column;
* `returnReuse?_eq`, `functionTaker?_eq_none_iff`: the result goes to the declared output that no
  ordinary column reports, or else to one that no earlier column has brought in;
* `reconcile_of_single_result`: the call fails exactly if there is neither.
-/

namespace StoredCall

/-! ### One return column -/

section

variable {columns : List Column} {result : Column}
  (hone : columns.filter (·.kind = .returned) = [result])

include hone

theorem split_of_single_result :
    ∃ before after, columns = before ++ result :: after ∧ (∀ x ∈ before, x.kind ≠ .returned) ∧
      result.kind = .returned ∧ ∀ x ∈ after, x.kind ≠ .returned := by
  obtain ⟨before, after, rfl, hbefore, hkind, hafter⟩ := List.filter_eq_cons_iff.1 hone
  rw [List.filter_eq_nil_iff] at hafter
  simp only [decide_eq_true_eq] at hbefore hkind hafter
  exact ⟨before, after, rfl, hbefore, hkind, hafter⟩

theorem position_unique_of_single_result {i j : ℕ} (hi : columns[i]? = some result)
    (hj : columns[j]? = some result) : i = j := by
  obtain ⟨before, after, rfl, hbefore, hkind, hafter⟩ := split_of_single_result hone
  have hposition : ∀ i : ℕ, (before ++ result :: after)[i]? = some result → i = before.length := by
    intro i hi
    rcases Nat.lt_trichotomy i before.length with hlt | heq | hgt
    · rw [List.getElem?_append_left hlt] at hi
      exact absurd hkind (hbefore _ (List.mem_of_getElem? hi))
    · exact heq
    · obtain ⟨m, rfl⟩ := Nat.exists_eq_add_of_lt hgt
      rw [List.getElem?_append_right (by omega), show before.length + m + 1 - before.length = m + 1
        by omega, List.getElem?_cons_succ] at hi
      exact absurd hkind (hafter _ (List.mem_of_getElem? hi))
  rw [hposition i hi, hposition j hj]

theorem inOrdinalOrder_of_single_result :
    (inOrdinalOrder columns).filter (·.kind = .returned) = [result] := by
  have hperm := (List.mergeSort_perm columns fun a b => a.ordinal ≤ b.ordinal).filter
    (·.kind = .returned)
  rw [hone] at hperm
  exact List.perm_singleton.1 hperm

end

/-! ### Runs that stop -/

/-- The decisions on columns miss what the decision after a run over the first of them misses. -/
theorem Plan.Run.findSome?_missing {plan : Plan} {d mid : Draft} {earlier later : List Column}
    {column : Column} {name : String} (first : plan.Run d earlier mid)
    (h : (plan.decisionFor mid column).missing? = some name) :
    (plan.decisions d (earlier ++ column :: later)).findSome? (·.missing?) = some name := by
  induction first with
  | nil d => rw [List.nil_append, decisions, List.findSome?_cons, h]
  | cons decided _ ih =>
    rw [List.cons_append, decisions, List.findSome?_cons, decided, Option.isSome_none]
    exact ih h

namespace CallContext

variable (c : CallContext) (declared : List Parameter) (columns : List Column)

/-- An ordinary column of the normalized name comes before the column. -/
def ReportedBefore (column : Column) (name : String) : Prop :=
  ∃ x n, x.kind ≠ .returned ∧ x.name = some n ∧
    c.dialect.normalize n = c.dialect.normalize name ∧ ComesBefore columns x column

/-- The call of a function with one return column. The column has no name, or none that anything
else has, and the configured return name is not that of a declaration that takes part. -/
structure SingleResult (result : Column) : Prop where
  used : c.columnsUsed = true
  function : c.config.isFunction = true
  only : columns.filter (·.kind = .returned) = [result]
  undeclared : ∀ n, result.name = some n → ∀ p ∈ declared, ∀ m, p.name = some m →
    c.dialect.normalize m ≠ c.dialect.normalize n
  unreported : ∀ n, result.name = some n → ∀ x ∈ columns, x.kind ≠ .returned →
    ∀ m, x.name = some m → c.dialect.normalize m ≠ c.dialect.normalize n
  returnName : ∀ i p name, IsKept c.dialect declared i p name →
    c.dialect.normalize name ≠ c.dialect.normalize c.config.returnName

/-- What holds of the draft after ordinary columns. -/
structure AtResult (earlier : List Column) (d : Draft) : Prop where
  sub : earlier ⊆ columns
  name : d.returnName = c.declaredReturnName declared columns
  taken : ∀ key ∈ d.taken, key ∈ resultSetKeys c.dialect declared ∨ key ∈ c.reportedKeys earlier
  declared_taken : c.DeclaredTaken declared earlier d

end CallContext

section

variable {c : CallContext} {declared : List Parameter} {columns earlier later : List Column}
  {column result : Column} {d : Draft} {k : Kept} {l : ParameterList} {name : String}

/-- Ordinary columns can be read, and then the return name is that of the declarations and only
names of result sets and of the columns are taken. -/
theorem exists_run_atResult (hsub : earlier ⊆ columns)
    (hearlier : ∀ x ∈ earlier, x.kind ≠ .returned) :
    ∃ d, (c.plan declared).Run (c.draft declared columns) earlier d ∧
      c.AtResult declared columns earlier d := by
  obtain ⟨d, run, -⟩ :=
    (c.plan declared).exists_run_of_not_returned (c.draft declared columns) hearlier
  have hstate : c.DeclaredTaken declared earlier d ∧ c.ReturnState declared columns earlier d := by
    refine run.invariant_read (P := fun read d => c.DeclaredTaken declared read d ∧
      c.ReturnState declared columns read d) ?_ (List.nil_append _).symm ⟨?_, ?_⟩
    · rintro read column later d v rfl hv - ⟨hdeclared, hstate⟩
      exact ⟨hdeclared.step hv, hstate.step_ordinary hv (hearlier column (by simp))⟩
    · intro k hk hkey
      simp [CallContext.reportedKeys] at hkey
    · exact .pending rfl rfl (fun key hkey => Or.inl hkey) (by simp)
  refine ⟨d, run, ?_⟩
  cases hstate.2 with
  | pending index name taken => exact ⟨hsub, name, taken, hstate.1⟩
  | landed i k index entry kept taken name before x after split kind =>
    exact absurd kind (hearlier x (by simp [split]))

/-! ### At the return column -/

namespace CallContext.AtResult

variable (hat : c.AtResult declared columns earlier d)

include hat

theorem mem_taken_iff (hk : k ∈ keptOf c.dialect declared) :
    k.key ∈ d.taken ↔ k.key ∈ c.reportedKeys earlier := by
  constructor
  · intro hmem
    exact (hat.taken _ hmem).resolve_left (not_mem_resultSetKeys_of_mem_keptOf hk)
  · exact hat.declared_taken k hk

theorem freeOutput?_eq_none_iff :
    (c.plan declared).freeOutput? d = none ↔
      ∀ k ∈ keptOf c.dialect declared, k.isOutput = true → k.key ∈ c.reportedKeys earlier := by
  rw [Plan.freeOutput?, List.find?_eq_none]
  refine forall₂_congr fun k hk => ?_
  rw [← hat.mem_taken_iff hk]
  simp

variable (h : c.SingleResult declared columns result)

include h

theorem name_free {n : String} (hn : (c.plan declared).nameOf result = some n) :
    Text.lower n ∉ d.taken ∧ ∀ k ∈ keptOf c.dialect declared, k.key ≠ Text.lower n := by
  obtain ⟨m, hm, rfl⟩ := Plan.nameOf_eq_some hn
  refine ⟨fun hmem => ?_, fun k hk he => ?_⟩
  · rcases hat.taken _ hmem with hset | hread
    · obtain ⟨q, hq, -, x, hx, hkey⟩ := mem_resultSetKeys.1 hset
      exact h.undeclared m hm q hq x hx hkey
    · obtain ⟨x, hx, hkind, y, hy, hkey⟩ := CallContext.mem_reportedKeys.1 hread
      exact h.unreported m hm x (hat.sub hx) hkind y hy hkey
  · obtain ⟨hkept, hkey⟩ := mem_keptOf_iff.1 hk
    exact h.undeclared m hm k.parameter (List.mem_of_getElem? hkept.declared_at) k.name hkept.named
      (hkey.symm.trans he)

/-- The declaration that the return column means is the declared output that no column reports. -/
theorem returnReuse?_eq :
    (c.plan declared).returnReuse? d ((c.plan declared).nameOf result) =
      c.returnTaker? declared columns := by
  have hown : (((c.plan declared).nameOf result).bind fun n =>
      (c.plan declared).free? d (Text.lower n)) = none := by
    rw [Option.bind_eq_none_iff]
    intro n hn
    obtain ⟨hfree, hundeclared⟩ := hat.name_free h hn
    rw [Plan.free?, if_neg hfree, List.find?_eq_none]
    exact fun k hk he => hundeclared k hk (of_decide_eq_true he)
  rw [Plan.returnReuse?, hown, Option.none_or, hat.name, CallContext.declaredReturnName]
  cases htaker : c.returnTaker? declared columns with
  | none =>
    show (c.plan declared).free? d (c.dialect.normalize c.config.returnName) = none
    rw [Plan.free?]
    split
    · rfl
    · refine List.find?_eq_none.2 fun k hk he => ?_
      obtain ⟨hkept, hkey⟩ := mem_keptOf_iff.1 hk
      exact h.returnName _ _ _ hkept (hkey.symm.trans (of_decide_eq_true he))
  | some k =>
    obtain ⟨hk, -, hunreported⟩ := of_returnTaker?_eq_some h.used htaker
    have hfree : k.key ∉ d.taken := fun hmem =>
      hunreported (reportedKeys_subset hat.sub ((hat.mem_taken_iff hk).1 hmem))
    show (c.plan declared).free? d (c.dialect.normalize k.name) = some k
    rw [← (mem_keptOf_iff.1 hk).2, Plan.free?, if_neg hfree]
    exact find?_key_of_mem_keptOf hk

/-- Nothing takes the result exactly if all declared outputs have the names of columns before. -/
theorem functionTaker?_eq_none_iff :
    (c.plan declared).functionTaker? d result = none ↔
      ∀ k ∈ keptOf c.dialect declared, k.isOutput = true → k.key ∈ c.reportedKeys earlier := by
  rw [Plan.functionTaker?, hat.returnReuse?_eq h, Option.or_eq_none_iff,
    hat.freeOutput?_eq_none_iff, and_iff_right_iff_imp]
  intro hreported
  cases htaker : c.returnTaker? declared columns with
  | none => rfl
  | some k =>
    obtain ⟨hk, hout, hunreported⟩ := of_returnTaker?_eq_some h.used htaker
    exact absurd (reportedKeys_subset hat.sub (hreported k hk hout)) hunreported

/-- The decision on the return column depends on whether something takes the result. -/
theorem decisionFor_result :
    (c.plan declared).decisionFor d result =
      match (c.plan declared).functionTaker? d result with
      | some k => .resolveReturn k
      | none => .returnMissing (c.declaredReturnName declared columns) := by
  obtain ⟨-, -, -, -, hkind, -⟩ := split_of_single_result h.only
  have hdecision := Plan.decisionFor_returned h.function hkind fun n hn => (hat.name_free h hn).1
  rw [hat.name] at hdecision
  exact hdecision

end CallContext.AtResult

/-! ### The outcome of the call -/

theorem reconcile_of_missing (hused : c.columnsUsed = true)
    (hsorted : inOrdinalOrder columns = earlier ++ column :: later)
    (run : (c.plan declared).Run (c.draft declared columns) earlier d)
    (h : ((c.plan declared).decisionFor d column).missing? = some name) :
    (c.reconcile declared columns).outcome =
      .error (.configuration (.returnNotDeclared name)) := by
  have hmissing : (c.decisions declared columns).findSome? (·.missing?) = some name := by
    rw [CallContext.decisions, hsorted]
    exact run.findSome?_missing h
  rw [CallContext.reconcile, Attempt.outcome_of, CallContext.parameterList, if_pos hused,
    CallContext.columnList, hmissing]

/-- A call has a parameter list if a declaration takes the result at its last return column. -/
theorem exists_reconcile_of_taker (hused : c.columnsUsed = true)
    (hsorted : inOrdinalOrder columns = earlier ++ column :: later)
    (hlater : ∀ x ∈ later, x.kind ≠ .returned)
    (run : (c.plan declared).Run (c.draft declared columns) earlier d)
    (h : (c.plan declared).decisionFor d column = .resolveReturn k) :
    ∃ l, (c.reconcile declared columns).outcome = .ok l ∧ l.returnName = k.name := by
  obtain ⟨last, rest, hname⟩ := (c.plan declared).exists_run_of_not_returned
    (d.apply (.resolveReturn k)) hlater
  have decided : ((c.plan declared).decisionFor d column).missing? = none := by rw [h]; rfl
  have hrun := run.append (.cons decided (h ▸ rest))
  exact ⟨last.finish, CallContext.reconcile_of_run hused hsorted hrun, hname⟩

/-- The result goes to the first declared output that no ordinary column reports. -/
theorem returnTaker?_of_unreported (hused : c.columnsUsed = true) (hf : c.config.isFunction = true)
    (hk : k ∈ keptOf c.dialect declared) (hout : k.isOutput = true)
    (hunreported : k.key ∉ c.reportedKeys columns)
    (hfirst : ∀ x ∈ keptOf c.dialect declared, x.isOutput = true → x.position < k.position →
      x.key ∈ c.reportedKeys columns) :
    c.returnTaker? declared columns = some k := by
  cases htaker : c.returnTaker? declared columns with
  | none =>
    exact absurd (outputsReported_of_returnTaker?_eq_none hused hf htaker k hk hout) hunreported
  | some t =>
    obtain ⟨ht, hout', hunreported'⟩ := of_returnTaker?_eq_some hused htaker
    rw [CallContext.returnTaker?, if_pos hused, if_pos hf, StoredCall.returnTaker?,
      List.find?_eq_some_iff_append] at htaker
    obtain ⟨-, front, back, hsplit, hfront⟩ := htaker
    have hpairs := keptOf_pairwise c.dialect declared
    rw [hsplit] at hk hpairs
    rcases List.mem_append.1 hk with hk | hk
    · have hnot := hfront k hk
      simp [hout, hunreported] at hnot
    · rcases List.mem_cons.1 hk with rfl | hk
      · rfl
      · -- an output that is taken before `k` would be reported
        have hlt := (List.pairwise_cons.1 (List.pairwise_append.1 hpairs).2.1).1 k hk
        exact absurd (hfirst t ht hout' hlt.1) hunreported'

namespace CallContext.SingleResult

variable (h : c.SingleResult declared columns result)

include h

theorem mem_reportedKeys_iff (hsorted : inOrdinalOrder columns = earlier ++ result :: later) :
    c.dialect.normalize name ∈ c.reportedKeys earlier ↔ c.ReportedBefore columns result name := by
  have hmem : ∀ x, x ∈ earlier ↔ ComesBefore columns x result := fun x =>
    mem_earlier_iff hsorted fun i j hi hj => position_unique_of_single_result h.only hi hj
  rw [CallContext.mem_reportedKeys]
  constructor
  · rintro ⟨x, hx, hkind, n, hn, hkey⟩
    exact ⟨x, n, hkind, hn, hkey, (hmem x).1 hx⟩
  · rintro ⟨x, n, hkind, hn, hkey, hx⟩
    exact ⟨x, (hmem x).2 hx, hkind, n, hn, hkey⟩

theorem returnEntry?_of_returnName (hk : k ∈ keptOf c.dialect declared)
    (hl : (c.reconcile declared columns).outcome = .ok l) (hname : l.returnName = k.name) :
    l.returnEntry? = some k.entry := by
  obtain ⟨earlier, later, hsorted, -, hkind, -⟩ :=
    split_of_single_result (inOrdinalOrder_of_single_result h.only)
  obtain ⟨last, rfl, -, -, hstate⟩ := returnState_of_reconcile h.used h.function hl
  cases hstate with
  | pending index name taken skipped =>
    obtain ⟨n, hn, hset | hread⟩ := skipped earlier result later hsorted hkind
    · obtain ⟨q, hq, -, m, hm, hkey⟩ := mem_resultSetKeys.1 hset
      exact absurd hkey (h.undeclared n hn q hq m hm)
    · obtain ⟨x, hx, hord, m, hm, hkey⟩ := CallContext.mem_reportedKeys.1 hread
      have hx : x ∈ columns := List.mem_mergeSort.1 (hsorted ▸ List.mem_append_left _ hx)
      exact absurd hkey (h.unreported n hn x hx hord m hm)
  | landed i k' index entry kept taken name' =>
    have hsame : k'.name = k.name := name'.symm.trans hname
    obtain rfl : k' = k := by
      refine eq_of_key_eq kept hk ?_
      rw [(mem_keptOf_iff.1 kept).2, (mem_keptOf_iff.1 hk).2, hsame]
    exact returnEntry?_finish index entry

theorem exists_atResult :
    ∃ earlier later d, inOrdinalOrder columns = earlier ++ result :: later ∧
      (∀ x ∈ later, x.kind ≠ .returned) ∧
      (c.plan declared).Run (c.draft declared columns) earlier d ∧
      c.AtResult declared columns earlier d := by
  obtain ⟨earlier, later, hsorted, hearlier, -, hlater⟩ :=
    split_of_single_result (inOrdinalOrder_of_single_result h.only)
  have hsub : earlier ⊆ columns := fun x hx =>
    List.mem_mergeSort.1 (hsorted ▸ List.mem_append_left _ hx)
  obtain ⟨d, run, hat⟩ := exists_run_atResult hsub hearlier
  exact ⟨earlier, later, d, hsorted, hlater, run, hat⟩

/-- The call fails for want of a taker if all declared outputs are reported before its return
column. -/
theorem outcome_of_reported (hall : ∀ k ∈ keptOf c.dialect declared, k.isOutput = true →
      c.ReportedBefore columns result k.name) :
    (c.reconcile declared columns).outcome =
      .error (.configuration (.returnNotDeclared c.config.returnName)) := by
  obtain ⟨earlier, later, d, hsorted, -, run, hat⟩ := h.exists_atResult
  have hreported : ∀ k ∈ keptOf c.dialect declared, k.isOutput = true →
      k.key ∈ c.reportedKeys earlier := by
    intro k hk hout
    rw [(mem_keptOf_iff.1 hk).2]
    exact (h.mem_reportedKeys_iff hsorted).2 (hall k hk hout)
  have hname : c.declaredReturnName declared columns = c.config.returnName := by
    have hnone := (hat.functionTaker?_eq_none_iff h).2 hreported
    rw [Plan.functionTaker?, hat.returnReuse?_eq h, Option.or_eq_none_iff] at hnone
    rw [CallContext.declaredReturnName, hnone.1]
  refine reconcile_of_missing h.used hsorted run ?_
  rw [hat.decisionFor_result h, (hat.functionTaker?_eq_none_iff h).2 hreported, hname]
  rfl

/-- The call has a parameter list if a declared output is not reported before its return column, and
the result goes to the first output that is not reported at all, if there is one. -/
theorem exists_outcome_of_unreported (hk : k ∈ keptOf c.dialect declared) (hout : k.isOutput = true)
    (hnot : ¬ c.ReportedBefore columns result k.name) :
    ∃ l, (c.reconcile declared columns).outcome = .ok l ∧
      ∀ t, c.returnTaker? declared columns = some t → l.returnName = t.name := by
  obtain ⟨earlier, later, d, hsorted, hlater, run, hat⟩ := h.exists_atResult
  have hsome : (c.plan declared).functionTaker? d result ≠ none := by
    intro hnone
    have hreported := (hat.functionTaker?_eq_none_iff h).1 hnone k hk hout
    rw [(mem_keptOf_iff.1 hk).2] at hreported
    exact hnot ((h.mem_reportedKeys_iff hsorted).1 hreported)
  obtain ⟨taker, htaker⟩ := Option.ne_none_iff_exists'.1 hsome
  have hdecision := hat.decisionFor_result h
  rw [htaker] at hdecision
  obtain ⟨l, hl, hname⟩ := exists_reconcile_of_taker h.used hsorted hlater run hdecision
  refine ⟨l, hl, fun t ht => ?_⟩
  rw [Plan.functionTaker?, hat.returnReuse?_eq h, ht, Option.some_or] at htaker
  rw [hname, Option.some.inj htaker]

end CallContext.SingleResult

/-- The call of a function with one return column fails exactly if all declared outputs are reported
before that column. The first of them that is not reported at all takes the result. -/
theorem reconcile_of_single_result (h : c.SingleResult declared columns result) :
    ((c.reconcile declared columns).outcome =
          .error (.configuration (.returnNotDeclared c.config.returnName)) ↔
        ∀ i p name, IsKept c.dialect declared i p name → p.isOutput = true →
          c.ReportedBefore columns result name) ∧
      ((∃ l, (c.reconcile declared columns).outcome = .ok l) ↔
        ∃ i p name, IsKept c.dialect declared i p name ∧ p.isOutput = true ∧
          ¬ c.ReportedBefore columns result name) ∧
      ∀ i p name, IsKept c.dialect declared i p name → p.isOutput = true →
        c.dialect.normalize name ∉ c.reportedKeys columns →
          (∀ j < i, ∀ q m, IsKept c.dialect declared j q m → q.isOutput = true →
            c.dialect.normalize m ∈ c.reportedKeys columns) →
            ∃ l, (c.reconcile declared columns).outcome = .ok l ∧
              l.returnEntry? = some (.declared i p) ∧ l.returnName = name := by
  have hmem : ∀ i p name, IsKept c.dialect declared i p name →
      Kept.mk i name (c.dialect.normalize name) p ∈ keptOf c.dialect declared :=
    fun i p name hkept => mem_keptOf_iff.2 ⟨hkept, rfl⟩
  have hfails : (∀ i p name, IsKept c.dialect declared i p name → p.isOutput = true →
      c.ReportedBefore columns result name) → (c.reconcile declared columns).outcome =
        .error (.configuration (.returnNotDeclared c.config.returnName)) := fun hall =>
    h.outcome_of_reported fun k hk hout => hall _ _ _ (mem_keptOf_iff.1 hk).1 hout
  refine ⟨⟨fun herror i p name hkept hout => ?_, hfails⟩, ⟨fun hok => ?_, ?_⟩, ?_⟩
  · by_contra hnot
    obtain ⟨l, hl, -⟩ := h.exists_outcome_of_unreported (hmem i p name hkept) hout hnot
    rw [herror] at hl
    cases hl
  · by_contra hnone
    push Not at hnone
    obtain ⟨l, hl⟩ := hok
    rw [hfails hnone] at hl
    cases hl
  · rintro ⟨i, p, name, hkept, hout, hnot⟩
    obtain ⟨l, hl, -⟩ := h.exists_outcome_of_unreported (hmem i p name hkept) hout hnot
    exact ⟨l, hl⟩
  · intro i p name hkept hout hunreported hfirst
    have htaker : c.returnTaker? declared columns =
        some ⟨i, name, c.dialect.normalize name, p⟩ := by
      refine returnTaker?_of_unreported h.used h.function (hmem i p name hkept) hout hunreported ?_
      intro x hx hxout hlt
      rw [(mem_keptOf_iff.1 hx).2]
      exact hfirst _ hlt _ _ (mem_keptOf_iff.1 hx).1 hxout
    have hnot : ¬ c.ReportedBefore columns result name := by
      rintro ⟨x, n, hkind, hn, hkey, a, b, hx, -⟩
      exact hunreported (CallContext.mem_reportedKeys.2
        ⟨x, List.mem_of_getElem? hx, hkind, n, hn, hkey⟩)
    obtain ⟨l, hl, hname⟩ := h.exists_outcome_of_unreported (hmem i p name hkept) hout hnot
    have hname := hname _ htaker
    exact ⟨l, hl, h.returnEntry?_of_returnName (hmem i p name hkept) hl hname, hname⟩

/-- The only declared output is reported before the result, or there is another one. -/
theorem reconcile_of_single_result_new_id :
    let c := CallContext.start (.function "f") (.generic Fixtures.mySql)
    let result := { unnamedReturn with ordinal := 2 }
    let columns := [Fixtures.column "new_id" .output .integer 1, result]
    let reported := [Parameter.output "new_id" .integer]
    let taking := [Parameter.output "new_id" .integer, .output "total" .integer]
    c.SingleResult reported columns result ∧
      (c.reconcile reported columns).outcome =
        .error (.configuration (.returnNotDeclared c.config.returnName)) ∧
      c.SingleResult taking columns result ∧
      ∃ l, (c.reconcile taking columns).outcome = .ok l ∧
        l.returnEntry? = some (.declared 1 (.output "total" .integer)) ∧
          l.returnName = "total" := by
  intro c result columns reported taking
  have hsingle : ∀ declared, (∀ p ∈ declared, p.name.map c.dialect.normalize ≠ some "return") →
      c.SingleResult declared columns result := by
    intro declared hnames
    have hreturn : c.dialect.normalize c.config.returnName = "return" := by decide +kernel
    refine ⟨rfl, rfl, by decide, fun n hn => ?_, fun n hn => ?_, fun i p name hkept he => ?_⟩
    · cases hn
    · cases hn
    · refine hnames p (List.mem_of_getElem? hkept.declared_at) ?_
      rw [hkept.named, Option.map_some, he, hreturn]
  have hnew : ∀ i p name, IsKept c.dialect reported i p name →
      c.ReportedBefore columns result name := by
    intro i p name hkept
    obtain rfl := List.mem_singleton.1 (List.mem_of_getElem? hkept.declared_at)
    obtain rfl : "new_id" = name := Option.some.inj hkept.named
    exact ⟨_, "new_id", by decide, rfl, rfl, 0, 1, rfl, rfl, by decide⟩
  have hreported : c.SingleResult reported columns result := hsingle reported (by decide +kernel)
  have htaking : c.SingleResult taking columns result := hsingle taking (by decide +kernel)
  refine ⟨hreported, ?_, htaking, ?_⟩
  · exact (reconcile_of_single_result hreported).1.2 fun i p name hkept _ => hnew i p name hkept
  · have hfirst : ∀ j < 1, ∀ q, taking[j]? = some q → ∀ m, q.name = some m → "new_id" = m := by
      intro j hj q hq m hm
      obtain rfl : j = 0 := by omega
      obtain rfl : Parameter.output "new_id" .integer = q := Option.some.inj hq
      exact Option.some.inj hm
    have hkept : IsKept c.dialect taking 1 (.output "total" .integer) "total" :=
      { declared_at := rfl
        no_resultSet := rfl
        named := rfl
        not_hidden := fun q hq hset =>
          absurd hset ((by decide : ∀ q ∈ taking, ¬ q.isResultSet = true) q hq)
        first := fun j hj q hq m hm => by
          rw [← hfirst j hj q hq m hm]
          decide +kernel }
    refine (reconcile_of_single_result htaking).2.2 1 _ _ hkept rfl (by decide +kernel) ?_
    intro j hj q m hq _
    rw [← hfirst j hj q hq.declared_at m hq.named]
    decide +kernel

end

end StoredCall
