import StoredCall.Proofs.Declarations
import StoredCall.Proofs.FoldedRun

/-!
# Parameter lists up to letter case

Contexts that differ in what folding forgets give alike parameter lists.

* `folded_keptOf`, `folded_resultSetsOf`: declarations of equal keys are kept alike;
* `ErrorKind`, `foldOutcome`: outcomes up to the details of errors and to what folding forgets;
* `CallContext.SameKind`, `CallContext.Alike`: what may differ between two calls that have alike
  parameter lists;
* `CallContext.Alike.reconcile`: they have.
-/

namespace StoredCall

/-! ### Declarations of equal keys -/

theorem isResultSet_eq_of_key_eq {p q : Parameter} (h : p.key = q.key) :
    p.isResultSet = q.isResultSet := by
  have hdirection : p.direction = q.direction := congrArg ParameterKey.direction h
  rw [Parameter.isResultSet, Parameter.isResultSet, hdirection]

section

variable {d : Dialect} {ps qs : List Parameter}

theorem resultSetKeys_congr (h : ps.map (·.key) = qs.map (·.key)) :
    resultSetKeys d ps = resultSetKeys d qs := by
  have hkeys : ∀ ps : List Parameter, resultSetKeys d ps =
      ((ps.map (·.key)).filter (·.direction = .resultSet)).filterMap
        fun k => k.name.map d.normalize := by
    intro ps
    rw [List.filter_map, List.filterMap_map]
    rfl
  rw [hkeys, hkeys, h]

theorem folded_declaredResultSets (h : ps.map (·.key) = qs.map (·.key)) :
    (declaredResultSets ps).map Entry.folded = (declaredResultSets qs).map Entry.folded := by
  have hfrom : ∀ i,
      (((ps.zipIdx i).filter (·.1.isResultSet)).map
        fun x => (Entry.declared x.2 x.1).folded) =
      (((qs.zipIdx i).filter (·.1.isResultSet)).map
        fun x => (Entry.declared x.2 x.1).folded) := by
    induction ps generalizing qs with
    | nil =>
      rw [List.map_nil, eq_comm, List.map_eq_nil_iff] at h
      subst h
      exact fun _ => rfl
    | cons p ps ih =>
      obtain ⟨q, qs, rfl, hq, hqs⟩ := List.map_eq_cons_iff.1 h.symm
      intro i
      have hfolded : (Entry.declared i p).folded = (Entry.declared i q).folded :=
        congrArg (Entry.declared i) (Parameter.folded_eq_of_key_eq hq.symm)
      rw [List.zipIdx_cons, List.zipIdx_cons, List.filter_cons, List.filter_cons,
        isResultSet_eq_of_key_eq hq]
      split
      · rw [List.map_cons, List.map_cons, ih hqs.symm, hfolded]
      · exact ih hqs.symm _
  unfold declaredResultSets
  rw [List.map_map, List.map_map]
  exact hfrom 0

theorem folded_resultSetsOf (h : ps.map (·.key) = qs.map (·.key)) :
    (resultSetsOf d ps).map Entry.folded = (resultSetsOf d qs).map Entry.folded := by
  rw [resultSetsOf_eq, resultSetsOf_eq, folded_declaredResultSets h]

theorem folded_kept?_admissionOf {p q : Parameter} (h : p.key = q.key) (hidden seen : List String)
    (i : ℕ) :
    (admissionOf d hidden seen i p).kept?.map Kept.folded =
      (admissionOf d hidden seen i q).kept?.map Kept.folded := by
  have hname : p.name = q.name := congrArg ParameterKey.name h
  unfold admissionOf
  rw [isResultSet_eq_of_key_eq h, hname]
  split
  · rfl
  · cases q.name with
    | none => rfl
    | some n =>
      by_cases hhidden : d.normalize n ∈ hidden
      · simp only [hhidden, if_true, Admission.kept?]
      by_cases hseen : d.normalize n ∈ seen
      · simp only [hhidden, hseen, if_true, if_false, Admission.kept?]
      · simp only [hhidden, hseen, if_false, Admission.kept?, Option.map_some, Kept.folded,
          Parameter.folded_eq_of_key_eq h]

theorem folded_keptFrom (h : ps.map (·.key) = qs.map (·.key)) (hidden seen : List String) (i : ℕ) :
    (keptFrom d hidden seen i ps).map Kept.folded =
      (keptFrom d hidden seen i qs).map Kept.folded := by
  induction ps generalizing qs seen i with
  | nil =>
    rw [List.map_nil, eq_comm, List.map_eq_nil_iff] at h
    subst h
    rfl
  | cons p ps ih =>
    obtain ⟨q, qs, rfl, hq, hqs⟩ := List.map_eq_cons_iff.1 h.symm
    have hkept := folded_kept?_admissionOf (d := d) hq.symm hidden seen i
    rw [keptFrom_cons, keptFrom_cons, List.map_append, List.map_append]
    rcases none_or_some_of_map_eq hkept with ⟨hx, hy⟩ | ⟨k, k', hx, hy, hk⟩
    · rw [hx, hy, ih hqs.symm]
    · rw [hx, hy]
      simp only [Option.toList_some, List.map_cons, List.map_nil, hk,
        Kept.key_eq_of_folded_eq hk, ih hqs.symm]

theorem folded_keptOf (h : ps.map (·.key) = qs.map (·.key)) :
    (keptOf d ps).map Kept.folded = (keptOf d qs).map Kept.folded := by
  have hfrom := folded_keptFrom (d := d) h (resultSetKeys d ps) [] 0
  conv_rhs at hfrom => rw [resultSetKeys_congr h]
  exact hfrom

end

/-! ### Outcomes -/

/-- The kinds of errors. -/
inductive ErrorKind
  | configuration
  | invalidIdentifier
  | procedureNotFound
  | ambiguousSignature
  | source
  | type
deriving DecidableEq

def MetadataError.kind : MetadataError → ErrorKind
  | procedureNotFound _ => .procedureNotFound
  | ambiguousSignature .. => .ambiguousSignature
  | source _ => .source

def CallError.kind : CallError → ErrorKind
  | configuration _ => .configuration
  | invalidIdentifier _ => .invalidIdentifier
  | metadata error => error.kind
  | type _ => .type

/-- The kind of the error, or an image of the result. -/
def foldOutcome {α β : Type} (f : α → β) : Except CallError α → Except ErrorKind β
  | .error e => .error e.kind
  | .ok a => .ok (f a)

theorem cases_of_kind_eq {α : Type} {x y : Except CallError α}
    (h : foldOutcome id x = foldOutcome id y) :
    (∃ e e', x = .error e ∧ y = .error e' ∧ e.kind = e'.kind) ∨ ∃ a, x = .ok a ∧ y = .ok a := by
  cases x with
  | error e =>
    cases y with
    | error e' => exact Or.inl ⟨e, e', rfl, rfl, Except.error.inj h⟩
    | ok b => cases h
  | ok a =>
    cases y with
    | error e' => cases h
    | ok b => exact Or.inr ⟨a, rfl, congrArg Except.ok (Except.ok.inj h).symm⟩

/-! ### Contexts -/

namespace CallContext

/-- The decisions up to letter case determine the parameter list up to letter case. -/
theorem foldOutcome_columnList (c : CallContext) (declared : List Parameter)
    (columns : List Column) :
    foldOutcome ParameterList.folded (c.columnList declared columns) =
      if ((c.decisions declared columns).map Decision.folded).any (·.missing?.isSome) then
        .error .configuration
      else
        .ok (((c.decisions declared columns).map Decision.folded).foldl Draft.apply
          (c.draft declared columns).folded).finish := by
  have hany : ((c.decisions declared columns).map Decision.folded).any (·.missing?.isSome) =
      ((c.decisions declared columns).findSome? (·.missing?)).isSome := by
    rw [List.any_map, List.isSome_findSome?]
    congr 1
    funext v
    rw [Function.comp_apply, Decision.missing?_folded, Option.isSome_map]
  rw [hany]
  unfold columnList
  cases (c.decisions declared columns).findSome? (·.missing?) with
  | some name => rfl
  | none =>
    rw [← Draft.folded_foldl]
    rfl

/-- Two calls of one kind to one database with declarations of equal keys. -/
structure SameKind (c c' : CallContext) (declared declared' : List Parameter) : Prop where
  dialect : c.dialect = c'.dialect
  isFunction : c.config.isFunction = c'.config.isFunction
  returnRequired : c.config.returnRequired = c'.config.returnRequired
  columnsUsed : c.columnsUsed = c'.columnsUsed
  keys : declared.map (·.key) = declared'.map (·.key)

/-- What may differ between two calls that have alike parameter lists. -/
structure Alike (c c' : CallContext) (declared declared' : List Parameter) : Prop extends
    SameKind c c' declared declared' where
  /-- The return names differ in letter case, or a declared output gives its name instead. -/
  returnName : c.config.returnName.toLower = c'.config.returnName.toLower ∨
    c.columnsUsed = false ∧ c.config.isFunction = true ∧
      ∃ k ∈ keptOf c.dialect declared, k.isOutput = true
  /-- The input names matter to columns that nobody declares. -/
  wants : c.columnsUsed = true → ∀ key,
    (∀ p ∈ declared, ∀ n, p.name = some n → c.dialect.normalize n ≠ key) →
      (c.plan declared).wants key = (c'.plan declared').wants key

variable {c c' : CallContext} {declared declared' : List Parameter}

namespace SameKind

theorem bindsReturn (h : c.SameKind c' declared declared') :
    c.config.bindsReturn = c'.config.bindsReturn := by
  rw [CallConfig.bindsReturn, CallConfig.bindsReturn, h.isFunction, h.returnRequired]

theorem folded_kept (h : c.SameKind c' declared declared') :
    (keptOf c.dialect declared).map Kept.folded =
      (keptOf c'.dialect declared').map Kept.folded := by
  rw [h.dialect]
  exact folded_keptOf h.keys

theorem folded_resultSets (h : c.SameKind c' declared declared') :
    (resultSetsOf c.dialect declared).map Entry.folded =
      (resultSetsOf c'.dialect declared').map Entry.folded := by
  rw [h.dialect]
  exact folded_resultSetsOf h.keys

theorem declaredOutputs (h : c.SameKind c' declared declared') :
    (c.declaredOutputs declared).map String.toLower =
      (c'.declaredOutputs declared').map String.toLower := by
  have houtputs : ∀ ks : List Kept, ((ks.filter (·.isOutput)).map (·.name)).map String.toLower =
      ((ks.map Kept.folded).filter (·.isOutput)).map (·.name) := by
    intro ks
    rw [List.filter_map, List.map_map, List.map_map]
    rfl
  unfold CallContext.declaredOutputs
  rw [houtputs, houtputs, h.folded_kept]

theorem returnTaker? (h : c.SameKind c' declared declared') (columns : List Column) :
    (c.returnTaker? declared columns).map Kept.folded =
      (c'.returnTaker? declared' columns).map Kept.folded := by
  unfold CallContext.returnTaker?
  rw [h.isFunction]
  split
  · have hreported : (if c.columnsUsed then c.reportedKeys columns else []) =
        if c'.columnsUsed then c'.reportedKeys columns else [] := by
      rw [h.columnsUsed, reportedKeys, reportedKeys, h.dialect]
    rw [hreported]
    exact find?_folded (fun _ => rfl) h.folded_kept
  · rfl

theorem entries (h : c.SameKind c' declared declared') :
    (c.declaredEntries declared).map Entry.folded =
      (c'.declaredEntries declared').map Entry.folded := by
  have hkept : ∀ ks : List Kept, (ks.map (·.entry)).map Entry.folded =
      (ks.map Kept.folded).map (·.entry) := by
    intro ks
    rw [List.map_map, List.map_map]
    rfl
  unfold CallContext.declaredEntries
  rw [List.map_append, List.map_append, hkept, hkept, h.folded_kept, h.folded_resultSets]

theorem findIdx?_answersTo (h : c.SameKind c' declared declared') {es es' : List Entry}
    (hes : es.map Entry.folded = es'.map Entry.folded) {s t : String}
    (hst : s.toLower = t.toLower) :
    es.findIdx? (c.answersTo (c.dialect.normalize s)) =
      es'.findIdx? (c'.answersTo (c'.dialect.normalize t)) := by
  have hanswers : ∀ (c : CallContext) (es : List Entry) (key : String),
      es.findIdx? (c.answersTo key) = (es.map Entry.folded).findIdx?
        fun e => !e.isResultSet && e.name.any (c.dialect.normalize · = key) := by
    intro c es key
    rw [List.findIdx?_map]
    congr 1
    funext e
    rw [Function.comp_apply, Entry.isResultSet_folded, Entry.name_folded, answersTo]
    cases e.name with
    | none => rfl
    | some n => simp [Dialect.normalize_toLower]
  rw [hanswers, hanswers, hes, h.dialect, c'.dialect.normalize_congr hst]

end SameKind

namespace Alike

theorem declaredReturnName (h : c.Alike c' declared declared') (columns : List Column) :
    (c.declaredReturnName declared columns).toLower =
      (c'.declaredReturnName declared' columns).toLower := by
  unfold CallContext.declaredReturnName
  rcases none_or_some_of_map_eq (h.returnTaker? columns) with ⟨hx, hy⟩ | ⟨k, k', hx, hy, hk⟩
  · rw [hx, hy]
    rcases h.returnName with hname | ⟨hused, hfunction, k, hk, houtput⟩
    · exact hname
    · -- the declared output would take the return value
      rw [CallContext.returnTaker?, hfunction, hused, if_pos rfl, if_neg (by decide)] at hx
      have hnone := List.find?_eq_none.1 hx k hk
      rw [houtput] at hnone
      exact absurd rfl hnone
  · rw [hx, hy]
    exact Kept.name_eq_of_folded_eq hk

theorem declaredList (h : c.Alike c' declared declared') (columns : List Column) :
    (c.declaredList declared columns).folded = (c'.declaredList declared' columns).folded := by
  have hreturn := h.declaredReturnName columns
  have hindex := h.findIdx?_answersTo h.entries hreturn
  simp only [CallContext.declaredList, ParameterList.folded, h.bindsReturn, hindex, h.entries,
    hreturn, h.declaredOutputs]

theorem plan (h : c.Alike c' declared declared') (hused : c.columnsUsed = true) :
    (c.plan declared).Alike (c'.plan declared') (resultSetKeys c.dialect declared) where
  dialect := h.dialect
  isFunction := h.isFunction
  returnRequired := h.returnRequired
  kept := h.folded_kept
  wants := by
    intro key hhidden hkept
    refine h.wants hused key fun p hp n hn he => ?_
    rcases key_mem_of_declared (d := c.dialect) hp hn with hmem | ⟨k, hk, hkey⟩
    · exact hhidden (he ▸ hmem)
    · exact hkept k hk (hkey.trans he)

theorem draft (h : c.Alike c' declared declared') (columns : List Column) :
    (c.draft declared columns).folded = (c'.draft declared' columns).folded := by
  simp only [CallContext.draft, Draft.folded, h.declaredOutputs, h.declaredReturnName columns,
    h.dialect, folded_resultSetsOf h.keys, resultSetKeys_congr h.keys]

/-- Alike calls have alike parameter lists. -/
theorem reconcile (h : c.Alike c' declared declared') (columns : List Column) :
    foldOutcome ParameterList.folded (c.reconcile declared columns).outcome =
      foldOutcome ParameterList.folded (c'.reconcile declared' columns).outcome := by
  rw [CallContext.reconcile, CallContext.reconcile, Attempt.outcome_of, Attempt.outcome_of,
    parameterList, parameterList, ← h.columnsUsed]
  cases hused : c.columnsUsed with
  | false => exact congrArg Except.ok (h.declaredList columns)
  | true =>
    have hdraft := h.draft columns
    have hdecisions := (h.plan hused).decisions hdraft (List.Subset.refl _) (inOrdinalOrder columns)
    rw [if_pos rfl, if_pos rfl, foldOutcome_columnList, foldOutcome_columnList]
    unfold CallContext.decisions
    rw [hdecisions, hdraft]

end Alike

end CallContext

end StoredCall
