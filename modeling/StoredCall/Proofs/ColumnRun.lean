import StoredCall.Proofs.Declarations
import StoredCall.Reconciliation.Basic

/-!
# Runs over the columns

Reading the columns as a run of steps, each of which takes one column and changes the draft.

* `Decision.placement?`, `Decision.output?`: what a decision adds to a draft, with one equation for
  each field of `Draft.apply`;
* `Plan.Verdict`: every decision there can be on a column, with the conditions under which it is
  taken; `Plan.verdict` says that there are no others;
* `Plan.Run`: the drafts between the columns; `columnList_eq_ok_iff` says that a call has a
  parameter list exactly if there is a run over all its columns.
-/

namespace StoredCall

/-! ### What a decision changes -/

namespace Decision

/-- The entry that a decision places, with its normalized name. -/
def placement? : Decision → Option (String × Entry)
  | resolveReturn k => some (k.key, k.entry)
  | reuse _ _ k => some (k.key, k.entry)
  | add _ name _ p => some (Text.lower name, .synthesized p)
  | _ => none

/-- The output name that a decision adds. -/
def output? : Decision → Option String
  | add .returned name _ _ => some name
  | add .output name _ _ => some name
  | _ => none

/-- Whether the entry that a decision places carries the return value. -/
def carriesReturn : Decision → Bool
  | resolveReturn _ => true
  | reuse .returned _ _ => true
  | add .returned _ _ _ => true
  | _ => false

end Decision

namespace Draft

variable (d : Draft) (v : Decision)

theorem entries_apply : (d.apply v).entries = d.entries ++ v.placement?.toList.map (·.2) := by
  cases v with
  | reuse role name k => cases role <;> rfl
  | add role name kind p => cases role <;> rfl
  | resolveReturn k => rfl
  | _ => exact (List.append_nil _).symm

theorem taken_apply : (d.apply v).taken = v.placement?.toList.map (·.1) ++ d.taken := by
  cases v with
  | reuse role name k => cases role <;> rfl
  | add role name kind p => cases role <;> rfl
  | _ => rfl

theorem outputNames_apply : (d.apply v).outputNames = d.outputNames ++ v.output?.toList := by
  cases v with
  | reuse role name k => cases role <;> exact (List.append_nil _).symm
  | add role name kind p =>
    cases role with
    | input => exact (List.append_nil _).symm
    | _ => rfl
  | _ => exact (List.append_nil _).symm

theorem returnIndex_apply :
    (d.apply v).returnIndex = if v.carriesReturn then some d.entries.length else d.returnIndex := by
  cases v with
  | reuse role name k => cases role <;> rfl
  | add role name kind p => cases role <;> rfl
  | _ => rfl

theorem taken_subset_apply : d.taken ⊆ (d.apply v).taken := by
  rw [taken_apply]
  exact List.subset_append_right _ _

end Draft

/-! ### Which decision is taken -/

namespace Plan

variable {plan : Plan} {draft : Draft} {column : Column} {k : Kept} {key : String}

theorem free?_eq_some (h : plan.free? draft key = some k) :
    k ∈ plan.kept ∧ k.key = key ∧ key ∉ draft.taken := by
  unfold free? at h
  split at h
  · cases h
  · rename_i hfree
    exact ⟨List.mem_of_find?_eq_some h, by simpa using List.find?_some h, hfree⟩

theorem free?_eq_none (h : plan.free? draft key = none) (hfree : key ∉ draft.taken) :
    ∀ k ∈ plan.kept, k.key ≠ key := by
  rw [free?, if_neg hfree, List.find?_eq_none] at h
  intro k hk he
  exact h k hk (by simpa using he)

theorem freeOutput?_eq_some (h : plan.freeOutput? draft = some k) :
    k ∈ plan.kept ∧ k.isOutput = true ∧ k.key ∉ draft.taken := by
  have hk := List.find?_some h
  simp only [Bool.and_eq_true, decide_eq_true_eq] at hk
  exact ⟨List.mem_of_find?_eq_some h, hk⟩

theorem returnReuse?_eq_some {name : Option String} (h : plan.returnReuse? draft name = some k) :
    k ∈ plan.kept ∧ k.key ∉ draft.taken := by
  unfold returnReuse? at h
  rcases Option.or_eq_some_iff.1 h with h | ⟨-, h⟩
  · obtain ⟨n, -, h⟩ := Option.bind_eq_some_iff.1 h
    obtain ⟨hk, he, hfree⟩ := free?_eq_some h
    exact ⟨hk, he ▸ hfree⟩
  · obtain ⟨hk, he, hfree⟩ := free?_eq_some h
    exact ⟨hk, he ▸ hfree⟩

/-- The name of a column by the rules of the dialect. -/
def nameOf (plan : Plan) (column : Column) : Option String :=
  column.name.map plan.dialect.parameterName

theorem nameOf_eq_some {n : String} (h : plan.nameOf column = some n) :
    ∃ m, column.name = some m ∧ plan.dialect.parameterName m = n :=
  Option.map_eq_some_iff.1 h

/-- The declared parameter that takes the result of a function. -/
def functionTaker? (plan : Plan) (draft : Draft) (column : Column) : Option Kept :=
  (plan.returnReuse? draft (plan.nameOf column)).or (plan.freeOutput? draft)

theorem functionTaker?_eq_some (h : plan.functionTaker? draft column = some k) :
    k ∈ plan.kept ∧ k.key ∉ draft.taken := by
  rcases Option.or_eq_some_iff.1 h with hk | ⟨-, hk⟩
  · exact returnReuse?_eq_some hk
  · obtain ⟨hk, -, hfree⟩ := freeOutput?_eq_some hk
    exact ⟨hk, hfree⟩

/-- The result of a function goes to its taker if the name of its column is free. -/
theorem decisionFor_returned (hf : plan.isFunction = true) (hkind : column.kind = .returned)
    (hfree : ∀ n, plan.nameOf column = some n → Text.lower n ∉ draft.taken) :
    plan.decisionFor draft column =
      match plan.functionTaker? draft column with
      | some k => .resolveReturn k
      | none => .returnMissing draft.returnName := by
  have hunbound : ¬ (plan.nameOf column).any (Text.lower · ∈ draft.taken) = true := by
    intro hbound
    obtain ⟨n, hn, htaken⟩ := (Option.any_eq_true _ _).1 hbound
    exact hfree n hn (of_decide_eq_true htaken)
  have hdecide : plan.decideReturn draft (plan.nameOf column) column =
      match plan.functionTaker? draft column with
      | some k => .resolveReturn k
      | none => .returnMissing draft.returnName := by
    rw [decideReturn, if_pos hf]
    rfl
  rw [nameOf] at hunbound hdecide
  rw [decisionFor, if_neg hunbound, hkind]
  exact hdecide

/-- Every decision on a column, with the conditions under which it is taken. -/
inductive Verdict (plan : Plan) (draft : Draft) (column : Column) : Decision → Prop
  | alreadyBound (n : String) (named : plan.nameOf column = some n)
      (taken : Text.lower n ∈ draft.taken) : Verdict plan draft column (.alreadyBound column.name)
  | resolveReturn (k : Kept) (kind : column.kind = .returned) (function : plan.isFunction = true)
      (free : ∀ n, plan.nameOf column = some n → Text.lower n ∉ draft.taken)
      (found : plan.functionTaker? draft column = some k) :
      Verdict plan draft column (.resolveReturn k)
  | returnMissing (kind : column.kind = .returned) (function : plan.isFunction = true)
      (free : ∀ n, plan.nameOf column = some n → Text.lower n ∉ draft.taken)
      (found : plan.functionTaker? draft column = none) :
      Verdict plan draft column (.returnMissing draft.returnName)
  | reuseReturn (k : Kept) (kind : column.kind = .returned) (procedure : plan.isFunction = false)
      (free : ∀ n, plan.nameOf column = some n → Text.lower n ∉ draft.taken)
      (found : plan.returnReuse? draft (plan.nameOf column) = some k) :
      Verdict plan draft column (.reuse .returned k.name k)
  | bypass (kind : column.kind = .returned) (procedure : plan.isFunction = false)
      (free : ∀ n, plan.nameOf column = some n → Text.lower n ∉ draft.taken)
      (found : plan.returnReuse? draft (plan.nameOf column) = none)
      (optional : plan.returnRequired = false) (status : plan.dialect.bypasses column.name = true) :
      Verdict plan draft column (.bypass column.name)
  | addReturn (n : String) (kind : column.kind = .returned) (procedure : plan.isFunction = false)
      (free : ∀ n, plan.nameOf column = some n → Text.lower n ∉ draft.taken)
      (found : plan.returnReuse? draft (plan.nameOf column) = none)
      (bound : plan.returnRequired = true ∨ plan.dialect.bypasses column.name = false)
      (name : n = (plan.nameOf column).getD draft.returnName) :
      Verdict plan draft column (.add .returned n column.kind (plan.dialect.defaultOutput n column))
  | reuseOutput (n : String) (k : Kept) (kind : column.kind = .output ∨ column.kind = .inOut)
      (named : plan.nameOf column = some n) (found : plan.free? draft (Text.lower n) = some k) :
      Verdict plan draft column (.reuse .output n k)
  | addOutput (n : String) (kind : column.kind = .output ∨ column.kind = .inOut)
      (named : plan.nameOf column = some n) (free : Text.lower n ∉ draft.taken)
      (found : plan.free? draft (Text.lower n) = none) :
      Verdict plan draft column (.add .output n column.kind
        (if column.kind = .output then plan.dialect.defaultOutput n column
          else Dialect.defaultInOut n column))
  | skipOutput (kind : column.kind = .output ∨ column.kind = .inOut)
      (unnamed : plan.nameOf column = none) :
      Verdict plan draft column (.skipUnnamed .output column.kind)
  | reuseInput (n : String) (k : Kept)
      (kind : column.kind = .input ∨ column.kind = .unknown ∨ column.kind = .result)
      (named : plan.nameOf column = some n) (found : plan.free? draft (Text.lower n) = some k) :
      Verdict plan draft column (.reuse .input n k)
  | addInput (n : String)
      (kind : column.kind = .input ∨ column.kind = .unknown ∨ column.kind = .result)
      (named : plan.nameOf column = some n) (free : Text.lower n ∉ draft.taken)
      (found : plan.free? draft (Text.lower n) = none) (wanted : plan.wants (Text.lower n) = true) :
      Verdict plan draft column (.add .input n column.kind (Dialect.defaultInput n column))
  | exclude (n : String)
      (kind : column.kind = .input ∨ column.kind = .unknown ∨ column.kind = .result)
      (named : plan.nameOf column = some n) (free : Text.lower n ∉ draft.taken)
      (found : plan.free? draft (Text.lower n) = none)
      (unwanted : plan.wants (Text.lower n) = false) : Verdict plan draft column (.exclude n)
  | skipInput (kind : column.kind = .input ∨ column.kind = .unknown ∨ column.kind = .result)
      (unnamed : plan.nameOf column = none) :
      Verdict plan draft column (.skipUnnamed .input column.kind)

theorem verdict_decideReturn (kind : column.kind = .returned)
    (free : ∀ n, plan.nameOf column = some n → Text.lower n ∉ draft.taken) :
    plan.Verdict draft column (plan.decideReturn draft (plan.nameOf column) column) := by
  unfold decideReturn
  cases hf : plan.isFunction with
  | true =>
    simp only [if_true]
    split
    · exact .resolveReturn _ kind hf free ‹_›
    · exact .returnMissing kind hf free ‹_›
  | false =>
    simp only [Bool.false_eq_true, if_false]
    split
    · exact .reuseReturn _ kind hf free ‹_›
    · rename_i hnone
      split
      · rename_i hb
        simp only [Bool.and_eq_true, Bool.not_eq_true'] at hb
        exact .bypass kind hf free hnone hb.1 hb.2
      · rename_i hb
        refine .addReturn _ kind hf free hnone ?_ rfl
        cases hr : plan.returnRequired with
        | true => exact Or.inl rfl
        | false => exact Or.inr (by simpa [hr] using hb)

theorem verdict_decideOutput {n : String} (kind : column.kind = .output ∨ column.kind = .inOut)
    (named : plan.nameOf column = some n) (free : Text.lower n ∉ draft.taken) :
    plan.Verdict draft column (plan.decideOutput draft n column) := by
  unfold decideOutput
  split
  · exact .reuseOutput _ _ kind named ‹_›
  · exact .addOutput _ kind named free ‹_›

theorem verdict_decideInput {n : String}
    (kind : column.kind = .input ∨ column.kind = .unknown ∨ column.kind = .result)
    (named : plan.nameOf column = some n) (free : Text.lower n ∉ draft.taken) :
    plan.Verdict draft column (plan.decideInput draft n column) := by
  unfold decideInput
  split
  · exact .reuseInput _ _ kind named ‹_›
  · rename_i hnone
    cases hw : plan.wants (Text.lower n) with
    | true => exact .addInput _ kind named free hnone hw
    | false => exact .exclude _ kind named free hnone hw

/-- The decision on a column is one of the listed ones. -/
theorem verdict (plan : Plan) (draft : Draft) (column : Column) :
    plan.Verdict draft column (plan.decisionFor draft column) := by
  have hname : column.name.map plan.dialect.parameterName = plan.nameOf column := rfl
  unfold decisionFor
  simp only [hname]
  by_cases hbound : (plan.nameOf column).any (Text.lower · ∈ draft.taken) = true
  · rw [if_pos hbound]
    obtain ⟨n, hn, htaken⟩ := (Option.any_eq_true _ _).1 hbound
    exact .alreadyBound n hn (by simpa using htaken)
  rw [if_neg hbound]
  have free : ∀ n, plan.nameOf column = some n → Text.lower n ∉ draft.taken := by
    intro n hn htaken
    exact hbound (by simpa [hn] using htaken)
  cases hkind : column.kind with
  | returned => exact verdict_decideReturn hkind free
  | output =>
    cases hn : plan.nameOf column with
    | none =>
      have h : plan.Verdict draft column _ := .skipOutput (Or.inl hkind) hn
      rwa [hkind] at h
    | some n => exact verdict_decideOutput (Or.inl hkind) hn (free n hn)
  | inOut =>
    cases hn : plan.nameOf column with
    | none =>
      have h : plan.Verdict draft column _ := .skipOutput (Or.inr hkind) hn
      rwa [hkind] at h
    | some n => exact verdict_decideOutput (Or.inr hkind) hn (free n hn)
  | input =>
    cases hn : plan.nameOf column with
    | none =>
      have h : plan.Verdict draft column _ := .skipInput (Or.inl hkind) hn
      rwa [hkind] at h
    | some n => exact verdict_decideInput (Or.inl hkind) hn (free n hn)
  | unknown =>
    cases hn : plan.nameOf column with
    | none =>
      have h : plan.Verdict draft column _ := .skipInput (Or.inr (Or.inl hkind)) hn
      rwa [hkind] at h
    | some n => exact verdict_decideInput (Or.inr (Or.inl hkind)) hn (free n hn)
  | result =>
    cases hn : plan.nameOf column with
    | none =>
      have h : plan.Verdict draft column _ := .skipInput (Or.inr (Or.inr hkind)) hn
      rwa [hkind] at h
    | some n => exact verdict_decideInput (Or.inr (Or.inr hkind)) hn (free n hn)

/-! ### Runs -/

/-- A run over columns: each is decided with the draft that the ones before it have left. -/
inductive Run (plan : Plan) : Draft → List Column → Draft → Prop
  | nil (d : Draft) : Run plan d [] d
  | cons {d last : Draft} {column : Column} {rest : List Column}
      (decided : (plan.decisionFor d column).missing? = none)
      (later : Run plan (d.apply (plan.decisionFor d column)) rest last) :
      Run plan d (column :: rest) last

theorem Run.append {d mid last : Draft} {earlier later : List Column}
    (first : plan.Run d earlier mid) (second : plan.Run mid later last) :
    plan.Run d (earlier ++ later) last := by
  induction first with
  | nil => exact second
  | cons decided _ ih => exact .cons decided (ih second)

/-- There is a run exactly if no decision misses a taker of a function result. -/
theorem run_iff {d last : Draft} {columns : List Column} :
    plan.Run d columns last ↔
      (∀ v ∈ plan.decisions d columns, v.missing? = none) ∧
        (plan.decisions d columns).foldl Draft.apply d = last := by
  induction columns generalizing d with
  | nil =>
    constructor
    · rintro ⟨⟩
      exact ⟨by simp [decisions], rfl⟩
    · rintro ⟨-, rfl⟩
      exact .nil _
  | cons column rest ih =>
    constructor
    · rintro (_ | ⟨decided, later⟩)
      obtain ⟨hall, hfold⟩ := ih.1 later
      simp only [decisions, decided, Option.isSome_none, Bool.false_eq_true, if_false]
      exact ⟨List.forall_mem_cons.2 ⟨decided, hall⟩, hfold⟩
    · rintro ⟨hall, hfold⟩
      have decided : (plan.decisionFor d column).missing? = none :=
        hall _ (by simp only [decisions]; exact List.mem_cons_self)
      simp only [decisions, decided, Option.isSome_none, Bool.false_eq_true, if_false] at hall hfold
      exact .cons decided (ih.2 ⟨(List.forall_mem_cons.1 hall).2, hfold⟩)

theorem Verdict.missing?_of_procedure {v : Decision} (h : plan.Verdict draft column v)
    (hf : plan.isFunction = false) : v.missing? = none := by
  cases h with
  | returnMissing kind function =>
    rw [hf] at function
    cases function
  | _ => rfl

/-- The columns of a procedure can always be decided. -/
theorem exists_run_of_procedure (plan : Plan) (hf : plan.isFunction = false) (d : Draft)
    (columns : List Column) : ∃ last, plan.Run d columns last := by
  induction columns generalizing d with
  | nil => exact ⟨d, .nil d⟩
  | cons column rest ih =>
    obtain ⟨last, later⟩ := ih (d.apply (plan.decisionFor d column))
    exact ⟨last, .cons ((plan.verdict d column).missing?_of_procedure hf) later⟩

/-- Columns that are no return values leave the return name as it is. -/
theorem Verdict.of_not_returned {v : Decision} (h : plan.Verdict draft column v)
    (hkind : column.kind ≠ .returned) :
    v.missing? = none ∧ (draft.apply v).returnName = draft.returnName := by
  cases h with
  | resolveReturn k kind => exact absurd kind hkind
  | returnMissing kind => exact absurd kind hkind
  | _ => exact ⟨rfl, rfl⟩

theorem exists_run_of_not_returned (plan : Plan) (d : Draft) {columns : List Column}
    (h : ∀ column ∈ columns, column.kind ≠ .returned) :
    ∃ last, plan.Run d columns last ∧ last.returnName = d.returnName := by
  induction columns generalizing d with
  | nil => exact ⟨d, .nil d, rfl⟩
  | cons column rest ih =>
    obtain ⟨hkind, hrest⟩ := List.forall_mem_cons.1 h
    obtain ⟨hmissing, hname⟩ := (plan.verdict d column).of_not_returned hkind
    obtain ⟨last, later, hlast⟩ := ih (d.apply (plan.decisionFor d column)) hrest
    exact ⟨last, .cons hmissing later, hlast.trans hname⟩

/-- What every decision keeps, a run keeps. -/
theorem Run.invariant {P : Draft → Prop} {d last : Draft} {columns : List Column}
    (step : ∀ d column v, plan.Verdict d column v → v.missing? = none → P d → P (d.apply v))
    (run : plan.Run d columns last) (h : P d) : P last := by
  induction run with
  | nil => exact h
  | cons decided _ ih => exact ih (step _ _ _ (plan.verdict _ _) decided h)

theorem Run.invariant_of_mem {P : Draft → Prop} {d last : Draft} {columns : List Column}
    (step : ∀ d column v, column ∈ columns → plan.Verdict d column v → v.missing? = none → P d →
      P (d.apply v))
    (run : plan.Run d columns last) (h : P d) : P last := by
  induction run with
  | nil => exact h
  | cons decided _ ih =>
    exact ih (fun d column v hmem => step d column v (List.mem_cons_of_mem _ hmem))
      (step _ _ _ List.mem_cons_self (plan.verdict _ _) decided h)

end Plan

namespace CallContext

variable {c : CallContext} {declared : List Parameter} {columns : List Column} {l : ParameterList}

/-- A call has a parameter list exactly if there is a run over its columns in ordinal order. -/
theorem columnList_eq_ok_iff :
    c.columnList declared columns = .ok l ↔
      ∃ last, (c.plan declared).Run (c.draft declared columns) (inOrdinalOrder columns) last ∧
        l = last.finish := by
  unfold columnList
  cases hmiss : (c.decisions declared columns).findSome? (·.missing?) with
  | some name =>
    simp only [reduceCtorEq, false_iff, not_exists, not_and]
    intro last run
    have hnone : (c.decisions declared columns).findSome? (·.missing?) = none :=
      List.findSome?_eq_none_iff.2 (Plan.run_iff.1 run).1
    rw [hnone] at hmiss
    cases hmiss
  | none =>
    have hall := List.findSome?_eq_none_iff.1 hmiss
    constructor
    · intro h
      exact ⟨_, Plan.run_iff.2 ⟨hall, rfl⟩, (Except.ok.inj h).symm⟩
    · rintro ⟨last, run, rfl⟩
      exact congrArg (fun d => Except.ok d.finish) (Plan.run_iff.1 run).2

/-- With columns, the parameters of a call come from a run. -/
theorem run_of_reconcile (hused : c.columnsUsed = true)
    (h : (c.reconcile declared columns).outcome = .ok l) :
    ∃ last, (c.plan declared).Run (c.draft declared columns) (inOrdinalOrder columns) last ∧
      l = last.finish := by
  rw [reconcile, Attempt.outcome_of, parameterList, if_pos hused] at h
  exact columnList_eq_ok_iff.1 h

theorem reconcile_of_run {sorted : List Column} {last : Draft} (hused : c.columnsUsed = true)
    (hsorted : inOrdinalOrder columns = sorted)
    (run : (c.plan declared).Run (c.draft declared columns) sorted last) :
    (c.reconcile declared columns).outcome = .ok last.finish := by
  rw [reconcile, Attempt.outcome_of, parameterList, if_pos hused]
  exact columnList_eq_ok_iff.2 ⟨last, hsorted ▸ run, rfl⟩

theorem reconcile_of_unused (hunused : c.columnsUsed = false) :
    (c.reconcile declared columns).outcome = .ok (c.declaredList declared columns) := by
  rw [reconcile, Attempt.outcome_of, parameterList, hunused]
  rfl

/-- The parameters of a call are the declared ones, or they come from a run over the columns. -/
theorem cases_of_reconcile (h : (c.reconcile declared columns).outcome = .ok l) :
    c.columnsUsed = false ∧ l = c.declaredList declared columns ∨
      c.columnsUsed = true ∧ ∃ last,
        (c.plan declared).Run (c.draft declared columns) (inOrdinalOrder columns) last ∧
          l = last.finish := by
  cases hused : c.columnsUsed with
  | false => exact Or.inl ⟨rfl, (Except.ok.inj ((reconcile_of_unused hused).symm.trans h)).symm⟩
  | true => exact Or.inr ⟨rfl, run_of_reconcile hused h⟩

theorem exists_reconcile_of_procedure (c : CallContext) (declared : List Parameter)
    (columns : List Column) (hf : c.config.isFunction = false) :
    ∃ l, (c.reconcile declared columns).outcome = .ok l := by
  rw [reconcile, Attempt.outcome_of, parameterList]
  split
  · obtain ⟨last, run⟩ := (c.plan declared).exists_run_of_procedure hf
      (c.draft declared columns) (inOrdinalOrder columns)
    exact ⟨last.finish, columnList_eq_ok_iff.2 ⟨last, run, rfl⟩⟩
  · exact ⟨_, rfl⟩

/-- Without return values among the columns there is a parameter list with the return name of the
declarations. -/
theorem exists_reconcile_of_not_returned (c : CallContext) (declared : List Parameter)
    (hused : c.columnsUsed = true) (h : ∀ column ∈ columns, column.kind ≠ .returned) :
    ∃ l, (c.reconcile declared columns).outcome = .ok l ∧
      l.returnName = c.declaredReturnName declared columns := by
  have hsorted : ∀ column ∈ inOrdinalOrder columns, column.kind ≠ .returned :=
    fun column hmem => h column (List.mem_mergeSort.1 hmem)
  obtain ⟨last, run, hname⟩ := (c.plan declared).exists_run_of_not_returned
    (c.draft declared columns) hsorted
  exact ⟨last.finish, reconcile_of_run hused rfl run, hname⟩

end CallContext

end StoredCall
