import StoredCall.Proofs.CallKey

/-!
# Definitions that share a key

When a compiled call may stand in for that of another definition of the same key, and when not. Each
thing that the key does not say is told by a source of one routine.

* `MetadataSource.ofRoutine`: a source of one routine; `admits_eq_of_observed_eq` says that it tells
  look-ups apart;
* `observed_eq_iff_agree`: definitions of one key compile alike for every source exactly if they
  agree;
* `compile_swapped_qualifier`: two definitions of one key that do not.
-/

namespace StoredCall

/-! ### Sources of one routine -/

namespace MetadataSource

/-- A source that knows one routine. -/
def ofRoutine (info : DatabaseInfo) (routine : RoutineName) (columns : List Column) :
    MetadataSource :=
  { info, signatures := [⟨routine, columns⟩] }

theorem info_ofRoutine (info : DatabaseInfo) (routine : RoutineName) (columns : List Column) :
    (ofRoutine info routine columns).info = info := rfl

theorem loadColumns_ofRoutine (info : DatabaseInfo) (routine lookup : RoutineName)
    (columns : List Column) :
    ((ofRoutine info routine columns).loadColumns lookup).value =
      if lookup.admits routine then .ok (inOrdinalOrder columns)
      else .error (.procedureNotFound lookup.text) := by
  have hfind : (ofRoutine info routine columns).find lookup =
      .ok (if lookup.admits routine then [⟨routine, columns⟩] else []) := by
    unfold find
    simp only [ofRoutine, List.filter_cons, List.filter_nil]
  cases hadmits : lookup.admits routine with
  | true =>
    rw [hadmits] at hfind
    exact loadColumns_of_find_singleton hfind
  | false =>
    rw [hadmits] at hfind
    exact loadColumns_of_find_nil hfind

end MetadataSource

theorem RoutineName.partAdmits_self (part : Option String) : partAdmits part part = true := by
  cases part with
  | none => rfl
  | some s => by_cases hs : s = "" <;> simp [partAdmits, hs, Text.sameLetters_refl]

theorem RoutineName.admits_self (n : RoutineName) : n.admits n = true := by
  rw [admits, partAdmits_self, partAdmits_self, Text.sameLetters_refl]
  rfl

namespace CallDefinition

theorem info_contextFor (call : CallDefinition) (info : DatabaseInfo) :
    (call.contextFor info).dialect.info = info :=
  info_dialectFor call info

/-! ### Databases without columns -/

theorem unused_unknown (call : CallDefinition) (x y : Bool) :
    (call.dialectFor (Fixtures.unknown.withQualifiers x y)).value.columnsUsed = false := by
  have hfamily : (Fixtures.unknown.withQualifiers x y).family = .other := by
    show Family.ofProduct "HyperWidgetDB" = .other
    decide +kernel
  show (call.config.useColumns && Family.reportsColumns _ _) = false
  rw [hfamily]
  exact Bool.and_false _

theorem qualifiersInCall_unknown {call : CallDefinition} (hvalid : call.config.validate = .ok ())
    (x y : Bool) :
    (call.contextFor (Fixtures.unknown.withQualifiers x y)).qualifiersInCall =
      (if x then call.config.routine.catalog.filter (· ≠ "") else none).toList ++
        (if y then call.config.routine.schema.filter (· ≠ "") else none).toList := by
  set info := Fixtures.unknown.withQualifiers x y
  have hinfo := call.info_contextFor info
  have hidentifier : (call.contextFor info).dialect.identifier = id := by
    funext s
    rw [Dialect.identifier, hinfo]
    rfl
  rw [CallContext.qualifiersInCall_of_validate hvalid, Dialect.catalogInCall, Dialect.schemaInCall,
    hinfo, hidentifier, Option.map_id]
  rfl

/-! ### A database with columns -/

/-- A database that reports the columns of all routines and keeps names as they are. -/
def plainDatabase (catalogs schemas : Bool) : DatabaseInfo :=
  (DatabaseInfo.ofProduct "MySQL").withQualifiers catalogs schemas

theorem family_plainDatabase (x y : Bool) : (plainDatabase x y).family = .mySql := by
  show Family.ofProduct "MySQL" = .mySql
  decide +kernel

theorem used_plainDatabase {call : CallDefinition} (hcolumns : call.config.useColumns = true)
    (x y : Bool) : (call.dialectFor (plainDatabase x y)).value.columnsUsed = true := by
  show (call.config.useColumns && Family.reportsColumns _ _) = true
  rw [hcolumns, family_plainDatabase]
  rfl

theorem lookupName_plainDatabase (call : CallDefinition) (x y : Bool) (n : RoutineName) :
    (call.dialectFor (plainDatabase x y)).value.lookupName n =
      ⟨if x then n.catalog else none, if y then n.schema else none, n.name⟩ := by
  have hgeneric : Dialect.forFamily (plainDatabase x y) = .generic (plainDatabase x y) := by
    unfold Dialect.forFamily
    rw [family_plainDatabase]
  have hid : ∀ part : Option String,
      part.map (Dialect.identifierCase (plainDatabase x y)) = part := fun _ => Option.map_id'
  show Dialect.lookupName { Dialect.forFamily (plainDatabase x y) with columnsUsed := _ } n = _
  rw [hgeneric]
  show (⟨if x then n.catalog.map (Dialect.identifierCase (plainDatabase x y)) else none,
    if y then n.schema.map (Dialect.identifierCase (plainDatabase x y)) else none,
    n.name⟩ : RoutineName) = _
  rw [hid, hid]

/-- A column for an input parameter. -/
def inputColumn (name : String) : Column :=
  { name := some name, kind := .input, sqlType := .integer, ordinal := 1 }

theorem inOrdinalOrder_inputColumn (n : String) :
    inOrdinalOrder [inputColumn n] = [inputColumn n] :=
  List.mergeSort_singleton _

/-- A column for an input parameter of each declared name. -/
def declaredColumns (declared : List Parameter) : List Column :=
  inOrdinalOrder ((declared.filterMap (·.name)).map inputColumn)

theorem mem_declaredColumns {declared : List Parameter} {column : Column} :
    column ∈ declaredColumns declared ↔
      ∃ p ∈ declared, ∃ n, p.name = some n ∧ inputColumn n = column := by
  rw [declaredColumns, inOrdinalOrder, List.mem_mergeSort]
  simp only [List.mem_map, List.mem_filterMap]
  constructor
  · rintro ⟨n, ⟨p, hp, hn⟩, hc⟩
    exact ⟨p, hp, n, hn, hc⟩
  · rintro ⟨p, hp, n, hn, hc⟩
    exact ⟨n, ⟨p, hp, hn⟩, hc⟩

theorem not_returned_of_mem_declaredColumns {declared : List Parameter} :
    ∀ column ∈ declaredColumns declared, column.kind ≠ .returned := by
  intro column hcolumn
  obtain ⟨p, -, n, -, rfl⟩ := mem_declaredColumns.1 hcolumn
  exact fun hkind => by cases hkind

theorem returnTaker?_declaredColumns {c : CallContext} (hused : c.columnsUsed = true)
    (declared : List Parameter) :
    c.returnTaker? declared (declaredColumns declared) = none := by
  rw [CallContext.returnTaker?, if_pos hused]
  split
  · rw [StoredCall.returnTaker?, List.find?_eq_none]
    intro k hk
    obtain ⟨hkept, hkey⟩ := mem_keptOf_iff.1 hk
    have hreported : k.key ∈ c.reportedKeys (declaredColumns declared) := by
      rw [CallContext.reportedKeys, List.mem_filterMap]
      refine ⟨inputColumn k.name, List.mem_filter.2 ⟨?_, rfl⟩, congrArg some hkey.symm⟩
      exact mem_declaredColumns.2
        ⟨k.parameter, List.mem_of_getElem? hkept.declared_at, k.name, hkept.named, rfl⟩
    simp [hreported]
  · rfl

theorem decisionFor_inputColumn (plan : Plan) (d : Draft) {n : String}
    (hfree : plan.dialect.normalize n ∉ d.taken)
    (hundeclared : ∀ k ∈ plan.kept, k.key ≠ plan.dialect.normalize n) :
    plan.decisionFor d (inputColumn n) =
      if plan.wants (plan.dialect.normalize n) then
        .add .input (plan.dialect.parameterName n) .input
          (Dialect.defaultInput (plan.dialect.parameterName n) (inputColumn n))
      else .exclude (plan.dialect.parameterName n) := by
  have hnone : plan.free? d (plan.dialect.normalize n) = none := by
    rw [Plan.free?, if_neg hfree, List.find?_eq_none]
    intro k hk he
    exact hundeclared k hk (of_decide_eq_true he)
  have hbound : ((inputColumn n).name.map plan.dialect.parameterName).any
      (Text.lower · ∈ d.taken) ≠ true := fun hmem => hfree (of_decide_eq_true hmem)
  unfold Plan.decisionFor
  rw [if_neg hbound]
  show plan.decideInput d (plan.dialect.parameterName n) (inputColumn n) = _
  unfold Plan.decideInput
  rw [show plan.free? d (Text.lower (plan.dialect.parameterName n)) = none from hnone]
  rfl

/-- A single input column that nobody declares gives a parameter exactly if it is wanted. -/
theorem length_entries_inputColumn {c : CallContext} {declared : List Parameter} {n : String}
    (hused : c.columnsUsed = true)
    (hundeclared : ∀ p ∈ declared, ∀ m, p.name = some m →
      c.dialect.normalize m ≠ c.dialect.normalize n) :
    ∃ l, (c.reconcile declared [inputColumn n]).outcome = .ok l ∧
      l.entries.length = (resultSetsOf c.dialect declared).length +
        if (c.plan declared).wants (c.dialect.normalize n) then 1 else 0 := by
  set plan := c.plan declared
  set d := c.draft declared [inputColumn n]
  have hfree : c.dialect.normalize n ∉ d.taken := by
    intro hmem
    obtain ⟨q, hq, -, m, hm, he⟩ := mem_resultSetKeys.1 hmem
    exact hundeclared q hq m hm he
  have hkept : ∀ k ∈ plan.kept, k.key ≠ c.dialect.normalize n := by
    intro k hk he
    obtain ⟨hkept, hkey⟩ := mem_keptOf_iff.1 hk
    exact hundeclared k.parameter (List.mem_of_getElem? hkept.declared_at) k.name hkept.named
      (hkey.symm.trans he)
  have hdecision := decisionFor_inputColumn plan d hfree hkept
  rw [show plan.dialect = c.dialect from rfl] at hdecision
  have hmissing : (plan.decisionFor d (inputColumn n)).missing? = none := by
    rw [hdecision]
    split <;> rfl
  refine ⟨(d.apply (plan.decisionFor d (inputColumn n))).finish, ?_, ?_⟩
  · exact CallContext.reconcile_of_run hused (inOrdinalOrder_inputColumn n)
      (.cons hmissing (.nil _))
  · rw [hdecision]
    split
    · exact List.length_append
    · rfl

section

variable {a b : CallDefinition} (ha : a.config.validate = .ok ()) (hb : b.config.validate = .ok ())
  (hkey : a.key = b.key)

theorem observedWith_of_unused {call : CallDefinition} {info : DatabaseInfo}
    (hunused : (call.contextFor info).columnsUsed = false) (columns : List Column) :
    call.observedWith info columns =
      let l := (call.contextFor info).declaredList call.declared columns
      .ok (((call.contextFor info).callText l).toLower, l.folded) := by
  rw [observedWith, CallContext.reconcile_of_unused hunused]
  rfl

theorem observedWith_of_not_returned {call : CallDefinition} {info : DatabaseInfo}
    (hused : (call.contextFor info).columnsUsed = true) {columns : List Column}
    (h : ∀ column ∈ columns, column.kind ≠ .returned) :
    ∃ (text : String) (l : ParameterList), call.observedWith info columns = .ok (text, l.folded) ∧
      l.returnName = (call.contextFor info).declaredReturnName call.declared columns := by
  obtain ⟨l, hl, hname⟩ := (call.contextFor info).exists_reconcile_of_not_returned call.declared
    hused h
  refine ⟨((call.contextFor info).callText l).toLower, l, ?_, hname⟩
  rw [observedWith, hl]
  rfl

/-- A routine without columns is found or not, and what is found compiles. -/
theorem admits_iff_exists_observed {call : CallDefinition} {info : DatabaseInfo}
    (hvalid : call.config.validate = .ok ())
    (hused : (call.dialectFor info).value.columnsUsed = true) {n : RoutineName} :
    ((call.dialectFor info).value.lookupName call.config.routine).admits n = true ↔
      ∃ r, call.observed (MetadataSource.ofRoutine info n []) = .ok r := by
  have hinfo := MetadataSource.info_ofRoutine info n []
  have hload := MetadataSource.loadColumns_ofRoutine info n
    ((call.dialectFor info).value.lookupName call.config.routine) []
  cases hadmits : ((call.dialectFor info).value.lookupName call.config.routine).admits n with
  | true =>
    rw [hadmits, if_pos rfl] at hload
    have hnone : ∀ column ∈ inOrdinalOrder [], column.kind ≠ .returned := by
      intro column hmem
      exact absurd (List.mem_mergeSort.1 hmem) List.not_mem_nil
    obtain ⟨text, l, hl, -⟩ := observedWith_of_not_returned
      ((columnsUsed_contextFor call info).trans hused) hnone
    have hobserved := observed_of_columns hvalid hinfo hused hload
    exact ⟨fun _ => ⟨_, hobserved.trans hl⟩, fun _ => rfl⟩
  | false =>
    rw [hadmits, if_neg (by decide)] at hload
    have hobserved : call.observed (MetadataSource.ofRoutine info n []) =
        .error .procedureNotFound := observed_of_error hvalid hinfo hused hload
    rw [hobserved]
    exact ⟨fun he => absurd he (by decide), fun ⟨_, hr⟩ => by cases hr⟩

variable (h : ∀ source, a.observed source = b.observed source)

include ha hb hkey h

/-- Without columns, definitions that compile alike have alike texts and alike parameter lists. -/
theorem unused_of_observed_eq {info : DatabaseInfo}
    (hunused : (a.dialectFor info).value.columnsUsed = false) :
    (a.contextFor info).qualifiersInCall.map String.toLower =
        (b.contextFor info).qualifiersInCall.map String.toLower ∧
      ((a.contextFor info).declaredReturnName a.declared []).toLower =
        ((b.contextFor info).declaredReturnName b.declared []).toLower := by
  have hunused' : (b.dialectFor info).value.columnsUsed = false :=
    dialectFor_of_key_eq hkey info ▸ hunused
  have hx : a.observed { info } = a.observedWith info [] := observed_of_unused ha rfl hunused
  have hy : b.observed { info } = b.observedWith info [] := observed_of_unused hb rfl hunused'
  have heq := h { info }
  rw [hx, hy, observedWith_of_unused ((columnsUsed_contextFor a info).trans hunused),
    observedWith_of_unused ((columnsUsed_contextFor b info).trans hunused')] at heq
  obtain ⟨htext, hlist⟩ := Prod.mk.inj (Except.ok.inj heq)
  have ha' : (a.contextFor info).config.validate = .ok () := ha
  have hb' : (b.contextFor info).config.validate = .ok () := hb
  exact ⟨((CallContext.toLower_callText_eq_iff ha' hb').1 htext).2.1,
    congrArg ParameterList.returnName hlist⟩

/-- Definitions that compile alike name the same parts in the same roles. -/
theorem parts_of_observed_eq :
    (a.config.routine.catalog.filter (· ≠ "")).map String.toLower =
        (b.config.routine.catalog.filter (· ≠ "")).map String.toLower ∧
      (a.config.routine.schema.filter (· ≠ "")).map String.toLower =
        (b.config.routine.schema.filter (· ≠ "")).map String.toLower := by
  have hinj : ∀ {p q : Option String}, p.toList.map String.toLower = q.toList.map String.toLower →
      p.map String.toLower = q.map String.toLower := by
    intro p q hpq
    rw [← Option.toList_map, ← Option.toList_map] at hpq
    rw [← Option.head?_toList (o := p.map _), hpq, Option.head?_toList]
  have hcatalog := (unused_of_observed_eq ha hb hkey h (unused_unknown a true false)).1
  have hschema := (unused_of_observed_eq ha hb hkey h (unused_unknown a false true)).1
  rw [qualifiersInCall_unknown ha, qualifiersInCall_unknown hb] at hcatalog hschema
  refine ⟨hinj ?_, hinj hschema⟩
  simpa only [if_true, Bool.false_eq_true, if_false, Option.toList_none, List.append_nil]
    using hcatalog

/-! ### Databases with columns -/

theorem admits_eq_of_observed_eq {info : DatabaseInfo}
    (hused : (a.dialectFor info).value.columnsUsed = true) (n : RoutineName) :
    ((a.dialectFor info).value.lookupName a.config.routine).admits n =
      ((b.dialectFor info).value.lookupName b.config.routine).admits n := by
  have hused' : (b.dialectFor info).value.columnsUsed = true :=
    dialectFor_of_key_eq hkey info ▸ hused
  rw [Bool.eq_iff_iff, admits_iff_exists_observed ha hused, admits_iff_exists_observed hb hused', h]

/-- Definitions that compile alike are observed alike with any columns. -/
theorem observedWith_eq_of_observed_eq {info : DatabaseInfo}
    (hused : (a.dialectFor info).value.columnsUsed = true) (columns : List Column) :
    a.observedWith info (inOrdinalOrder columns) =
      b.observedWith info (inOrdinalOrder columns) := by
  have hused' : (b.dialectFor info).value.columnsUsed = true :=
    dialectFor_of_key_eq hkey info ▸ hused
  set n := (a.dialectFor info).value.lookupName a.config.routine with hn
  have hadmits : n.admits n = true := n.admits_self
  have hadmits' : ((b.dialectFor info).value.lookupName b.config.routine).admits n = true := by
    rw [← admits_eq_of_observed_eq ha hb hkey h hused n, ← hn, hadmits]
  have hload := MetadataSource.loadColumns_ofRoutine info n n columns
  have hload' := MetadataSource.loadColumns_ofRoutine info n
    ((b.dialectFor info).value.lookupName b.config.routine) columns
  rw [hadmits, if_pos rfl] at hload
  rw [hadmits', if_pos rfl] at hload'
  rw [← observed_of_columns ha (MetadataSource.info_ofRoutine info n columns) hused hload,
    ← observed_of_columns hb (MetadataSource.info_ofRoutine info n columns) hused' hload', h]

/-! ### What agreeing takes -/

omit ha hb hkey h in
/-- Parts that are alike where they are not empty are absent in the same cases if they pass the
same filters. -/
theorem isSome_eq_of_partAdmits_eq {p q : Option String}
    (hfilter : (p.filter (· ≠ "")).map String.toLower = (q.filter (· ≠ "")).map String.toLower)
    (hadmits : RoutineName.partAdmits p (some "c") = RoutineName.partAdmits q (some "c")) :
    p.isSome = q.isSome := by
  have habsent : ∀ t : String, ((none : Option String).filter (· ≠ "")).map String.toLower =
      ((some t).filter (· ≠ "")).map String.toLower →
        RoutineName.partAdmits (some t) (some "c") = false := by
    intro t ht
    by_cases hempty : t = ""
    · subst hempty
      decide
    · simp [Option.filter, hempty] at ht
  cases p with
  | none =>
    cases q with
    | none => rfl
    | some t =>
      rw [habsent t hfilter] at hadmits
      cases hadmits
  | some s =>
    cases q with
    | none =>
      rw [habsent s hfilter.symm] at hadmits
      cases hadmits
    | some t => rfl

/-- Definitions that compile alike with columns have no part empty in one and absent in the
other. -/
theorem absent_of_observed_eq (hcolumns : a.config.useColumns = true) :
    a.config.routine.catalog.isSome = b.config.routine.catalog.isSome ∧
      a.config.routine.schema.isSome = b.config.routine.schema.isSome := by
  obtain ⟨hcatalog, hschema⟩ := parts_of_observed_eq ha hb hkey h
  have hname := (toLower_parts_of_lower_text_eq ha hb (congrArg CallKey.name hkey)).2
  have hself : Text.sameLetters a.config.routine.name a.config.routine.name = true :=
    Text.sameLetters_refl _
  have hother : Text.sameLetters a.config.routine.name b.config.routine.name = true :=
    Text.toLower_eq_iff.1 hname
  have hfindCatalog := admits_eq_of_observed_eq ha hb hkey h
    (used_plainDatabase hcolumns true false) ⟨some "c", none, a.config.routine.name⟩
  have hfindSchema := admits_eq_of_observed_eq ha hb hkey h
    (used_plainDatabase hcolumns false true) ⟨none, some "c", a.config.routine.name⟩
  simp only [lookupName_plainDatabase, RoutineName.admits, hself, hother, Bool.true_and]
    at hfindCatalog hfindSchema
  refine ⟨isSome_eq_of_partAdmits_eq hcatalog ?_, isSome_eq_of_partAdmits_eq hschema ?_⟩
  · simpa [RoutineName.partAdmits] using hfindCatalog
  · simpa [RoutineName.partAdmits] using hfindSchema

omit ha hb h in
theorem returnName_of_returnTaker?_eq_none {info : DatabaseInfo} {columns : List Column}
    (hname : ((a.contextFor info).declaredReturnName a.declared columns).toLower =
      ((b.contextFor info).declaredReturnName b.declared columns).toLower)
    (htaker : (a.contextFor info).returnTaker? a.declared columns = none) :
    a.config.returnName.toLower = b.config.returnName.toLower := by
  have htakers := (sameKind_of_key_eq hkey info).returnTaker? columns
  rw [htaker, Option.map_none, eq_comm, Option.map_eq_none_iff] at htakers
  rw [CallContext.declaredReturnName, CallContext.declaredReturnName, htaker, htakers] at hname
  exact hname

/-- Definitions that compile alike with columns have alike return names: a database may report all
declared outputs as input parameters. -/
theorem returnName_of_useColumns (hcolumns : a.config.useColumns = true) :
    a.config.returnName.toLower = b.config.returnName.toLower := by
  set info := plainDatabase false false with hinfo
  have hused : (a.dialectFor info).value.columnsUsed = true := used_plainDatabase hcolumns _ _
  have hused' : (b.dialectFor info).value.columnsUsed = true :=
    dialectFor_of_key_eq hkey info ▸ hused
  have husedA := (columnsUsed_contextFor a info).trans hused
  have husedB := (columnsUsed_contextFor b info).trans hused'
  obtain ⟨text, l, hl, hname⟩ := observedWith_of_not_returned husedA
    (@not_returned_of_mem_declaredColumns a.declared)
  obtain ⟨text', l', hl', hname'⟩ := observedWith_of_not_returned husedB
    (@not_returned_of_mem_declaredColumns a.declared)
  have heq : a.observedWith info (declaredColumns a.declared) =
      b.observedWith info (declaredColumns a.declared) :=
    observedWith_eq_of_observed_eq ha hb hkey h hused _
  rw [hl, hl'] at heq
  have hlists : l.folded = l'.folded := (Prod.mk.inj (Except.ok.inj heq)).2
  have hnames : l.returnName.toLower = l'.returnName.toLower :=
    (ParameterList.mk.inj hlists).2.2.2
  rw [hname, hname'] at hnames
  exact returnName_of_returnTaker?_eq_none hkey hnames
    (returnTaker?_declaredColumns husedA a.declared)

/-- Definitions that compile alike have alike return names, unless these are hidden. -/
theorem returnName_of_observed_eq :
    a.config.returnName.toLower = b.config.returnName.toLower ∨ a.HidesReturnName := by
  by_cases hname : a.config.returnName.toLower = b.config.returnName.toLower
  · exact Or.inl hname
  have hcolumns : a.config.useColumns = false :=
    Bool.eq_false_iff.2 fun hc => hname (returnName_of_useColumns ha hb hkey h hc)
  have hunused : ∀ info, (a.dialectFor info).value.columnsUsed = false := by
    intro info
    show (a.config.useColumns && _) = false
    rw [hcolumns, Bool.false_and]
  -- the name would show in some database if nothing took the result there
  have htaken : ∀ info, (a.contextFor info).returnTaker? a.declared [] ≠ none :=
    fun info htaker => hname (returnName_of_returnTaker?_eq_none hkey
      (unused_of_observed_eq ha hb hkey h (hunused info)).2 htaker)
  have hfunction : a.config.isFunction = true := by
    by_contra hf
    refine htaken Fixtures.unknown ?_
    rw [CallContext.returnTaker?]
    exact if_neg hf
  refine Or.inr ⟨hfunction, hcolumns, fun info => ?_⟩
  obtain ⟨k, hk⟩ := Option.ne_none_iff_exists'.1 (htaken info)
  rw [CallContext.returnTaker?, if_pos (show (a.contextFor info).config.isFunction = true from
    hfunction), StoredCall.returnTaker?] at hk
  have houtput := List.find?_some hk
  rw [Bool.and_eq_true] at houtput
  exact ⟨k, List.mem_of_find?_eq_some hk, houtput.1⟩

theorem wants_of_observed_eq {info : DatabaseInfo}
    (hused : (a.dialectFor info).value.columnsUsed = true) {n : String}
    (hundeclared : ∀ p ∈ a.declared, ∀ m, p.name = some m →
      (a.contextFor info).dialect.normalize m ≠ (a.contextFor info).dialect.normalize n) :
    ((a.contextFor info).plan a.declared).wants ((a.contextFor info).dialect.normalize n) =
      ((b.contextFor info).plan b.declared).wants ((a.contextFor info).dialect.normalize n) := by
  have hsame := sameKind_of_key_eq hkey info
  have husedA := (columnsUsed_contextFor a info).trans hused
  have husedB : (b.contextFor info).columnsUsed = true := hsame.columnsUsed ▸ husedA
  have hundeclared' : ∀ p ∈ b.declared, ∀ m, p.name = some m →
      (b.contextFor info).dialect.normalize m ≠ (b.contextFor info).dialect.normalize n := by
    intro p hp m hm
    have hmem : p.key ∈ a.declared.map (·.key) := hsame.keys ▸ List.mem_map_of_mem hp
    obtain ⟨q, hq, hqp⟩ := List.mem_map.1 hmem
    rw [← hsame.dialect]
    exact hundeclared q hq m ((congrArg ParameterKey.name hqp).trans hm)
  obtain ⟨l, hl, hlength⟩ := length_entries_inputColumn husedA hundeclared
  obtain ⟨l', hl', hlength'⟩ := length_entries_inputColumn husedB hundeclared'
  have heq := observedWith_eq_of_observed_eq ha hb hkey h hused [inputColumn n]
  rw [inOrdinalOrder_inputColumn, observedWith, observedWith, hl, hl'] at heq
  have hlists : l.folded = l'.folded := (Prod.mk.inj (Except.ok.inj heq)).2
  have hentries := congrArg List.length (ParameterList.mk.inj hlists).1
  have hresultSets := congrArg List.length hsame.folded_resultSets
  -- beyond the result sets there is an entry exactly if the column is wanted
  rw [List.length_map, List.length_map] at hentries hresultSets
  rw [hlength, hlength', hresultSets, Nat.add_left_cancel_iff, ← hsame.dialect] at hentries
  have hinj : ∀ x y : Bool, (if x then 1 else 0) = (if y then 1 else 0 : ℕ) → x = y := by decide
  exact hinj _ _ hentries

theorem inputNames_of_observed_eq (info : DatabaseInfo)
    (hused : (a.dialectFor info).value.columnsUsed = true) (key : String)
    (hundeclared : ∀ p ∈ a.declared, ∀ n, p.name = some n →
      (a.dialectFor info).value.normalize n ≠ key) :
    key ∈ a.config.inputNames.map (a.dialectFor info).value.normalize ↔
      key ∈ b.config.inputNames.map (b.dialectFor info).value.normalize := by
  have hiff : ∀ n, (a.dialectFor info).value.normalize n = key →
      (key ∈ a.config.inputNames.map (a.dialectFor info).value.normalize ↔
        key ∈ b.config.inputNames.map (b.dialectFor info).value.normalize) := by
    rintro n rfl
    exact (wants_eq_iff hkey info _).1 (wants_of_observed_eq ha hb hkey h hused hundeclared)
  constructor
  · intro hmem
    obtain ⟨n, -, hn⟩ := List.mem_map.1 hmem
    exact (hiff n hn).1 hmem
  · intro hmem
    obtain ⟨n, -, hn⟩ := List.mem_map.1 hmem
    rw [← dialectFor_of_key_eq hkey info] at hn
    exact (hiff n hn).2 hmem

end

/-! ### When a key suffices -/

/-- Definitions of one key compile alike for every source exactly if they agree. -/
theorem observed_eq_iff_agree {a b : CallDefinition} (ha : a.config.validate = .ok ())
    (hb : b.config.validate = .ok ()) (hkey : a.key = b.key) :
    (∀ source, a.observed source = b.observed source) ↔ a.Agree b := by
  refine ⟨fun h => ?_, fun h source => h.observed_eq ha hb hkey source⟩
  constructor
  case catalog => exact (parts_of_observed_eq ha hb hkey h).1
  case schema => exact (parts_of_observed_eq ha hb hkey h).2
  case absent => exact absent_of_observed_eq ha hb hkey h
  case returnName => exact returnName_of_observed_eq ha hb hkey h
  case inputNames => exact inputNames_of_observed_eq ha hb hkey h

theorem observed_eq_iff_agree_add_user :
    let a : CallDefinition := { config := .procedure "add_user" }
    let b : CallDefinition := { config := .procedure "Add_User" }
    a.config.validate = .ok () ∧ b.config.validate = .ok () ∧ a.key = b.key ∧ a.Agree b ∧
      ∀ source, a.observed source = b.observed source := by
  intro a b
  have ha : a.config.validate = .ok () := by decide +kernel
  have hb : b.config.validate = .ok () := by decide +kernel
  have hkey : a.key = b.key := by
    have htext : Text.lower a.config.routine.text = Text.lower b.config.routine.text := by
      decide +kernel
    unfold key
    rw [htext]
    rfl
  have hagree : a.Agree b :=
    { catalog := rfl
      schema := rfl
      absent := fun _ => ⟨rfl, rfl⟩
      returnName := Or.inl rfl
      inputNames := fun _ _ _ _ => Iff.rfl }
  exact ⟨ha, hb, hkey, hagree, (observed_eq_iff_agree ha hb hkey).2 hagree⟩

/-- The routine `p` of the catalog `x` and that of the schema `x` have one key but not one call. -/
theorem compile_swapped_qualifier :
    let a : CallDefinition := { config := { routine := ⟨some "x", none, "p"⟩ } }
    let b : CallDefinition := { config := { routine := ⟨none, some "x", "p"⟩ } }
    let source : MetadataSource :=
      { info := plainDatabase true true
        signatures := [⟨⟨some "x", none, "p"⟩, [inputColumn "n"]⟩, ⟨⟨none, some "x", "p"⟩, []⟩] }
    a.config.validate = .ok () ∧ b.config.validate = .ok () ∧ a.key = b.key ∧
      (∃ compiled, (a.compile source).outcome = .ok compiled ∧
        compiled.text = "\x7bcall x.p(?)\x7d") ∧
      ∃ compiled, (b.compile source).outcome = .ok compiled ∧
        compiled.text = "\x7bcall x.p()\x7d" := by
  intro a b source
  have ha : a.config.validate = .ok () := by decide +kernel
  have hb : b.config.validate = .ok () := by decide +kernel
  have hkey : a.key = b.key := by
    have htext : a.config.routine.text = b.config.routine.text := by decide +kernel
    unfold key
    rw [htext]
  have hlookupA : (a.dialectFor source.info).value.lookupName a.config.routine =
      ⟨some "x", none, "p"⟩ := lookupName_plainDatabase a true true a.config.routine
  have hlookupB : (b.dialectFor source.info).value.lookupName b.config.routine =
      ⟨none, some "x", "p"⟩ := lookupName_plainDatabase b true true b.config.routine
  have hfindA : source.find ⟨some "x", none, "p"⟩ =
      .ok [⟨⟨some "x", none, "p"⟩, [inputColumn "n"]⟩] := by
    have hfirst : RoutineName.admits ⟨some "x", none, "p"⟩ ⟨some "x", none, "p"⟩ = true := by
      decide +kernel
    have hsecond : RoutineName.admits ⟨some "x", none, "p"⟩ ⟨none, some "x", "p"⟩ = false := by
      decide +kernel
    simp [MetadataSource.find, source, hfirst, hsecond]
  have hfindB : source.find ⟨none, some "x", "p"⟩ = .ok [⟨⟨none, some "x", "p"⟩, []⟩] := by
    have hfirst : RoutineName.admits ⟨none, some "x", "p"⟩ ⟨some "x", none, "p"⟩ = false := by
      decide +kernel
    have hsecond : RoutineName.admits ⟨none, some "x", "p"⟩ ⟨none, some "x", "p"⟩ = true := by
      decide +kernel
    simp [MetadataSource.find, source, hfirst, hsecond]
  have hloadA := MetadataSource.loadColumns_of_find_singleton hfindA
  have hloadB := MetadataSource.loadColumns_of_find_singleton hfindB
  rw [← hlookupA] at hloadA
  rw [← hlookupB] at hloadB
  have husedA := used_plainDatabase (show a.config.useColumns = true from rfl) true true
  have husedB := used_plainDatabase (show b.config.useColumns = true from rfl) true true
  have hsortedA : inOrdinalOrder (inOrdinalOrder [inputColumn "n"]) = [inputColumn "n"] := by
    rw [inOrdinalOrder_inputColumn, inOrdinalOrder_inputColumn]
  have hsortedB : inOrdinalOrder (inOrdinalOrder []) = [] := by simp [inOrdinalOrder]
  refine ⟨ha, hb, hkey, ⟨_, compile_of_run ha husedA hloadA hsortedA (.cons ?_ (.nil _)), ?_⟩,
    ⟨_, compile_of_run hb husedB hloadB hsortedB (.nil _), ?_⟩⟩
  · rfl
  · decide +kernel
  · decide +kernel

end CallDefinition

end StoredCall
