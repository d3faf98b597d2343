import StoredCall.Proofs.CaseForms
import StoredCall.Proofs.ColumnOrder
import StoredCall.Proofs.KeyCollisions
import StoredCall.Proofs.NameCase

/-!
# Empty qualifiers

The name of a routine may have an empty catalog or schema. For all but the look-up of its columns
this is a name without one; as a filter, an empty part admits the routines that have none, and an
absent part admits all routines or stands for a default.

* `RoutineName.withoutEmpty`: the name without its empty parts;
* `compileWith_withoutEmpty`: names that differ in empty parts compile alike with given columns;
* `DatabaseInfo.IgnoresEmptyCatalog`, `DatabaseInfo.IgnoresEmptySchema`: the databases that look up
  an empty part like none;
* `compile_withoutEmpty`: when such names compile alike with what sources tell.
-/

namespace StoredCall

/-- The name with its empty qualifiers left out. -/
def RoutineName.withoutEmpty (n : RoutineName) : RoutineName :=
  ⟨n.catalog.filter (· ≠ ""), n.schema.filter (· ≠ ""), n.name⟩

/-- What a compiled call says: its text and its parameters. -/
def CompiledCall.said (compiled : CompiledCall) : String × ParameterList :=
  (compiled.text, compiled.parameters)

/-- What a compilation with a source gives: the kind of its error, or what the call says. -/
def CallDefinition.said (call : CallDefinition) (source : MetadataSource) :
    Except ErrorKind (String × ParameterList) :=
  foldOutcome CompiledCall.said (call.compile source).outcome

theorem foldOutcome_eq_of_map_eq {α β : Type} {f : α → β} {x y : Except CallError α}
    (h : x.map f = y.map f) : foldOutcome f x = foldOutcome f y := by
  cases x with
  | error e =>
    cases y with
    | error e' => exact congrArg (fun e => Except.error e.kind) (Except.error.inj h)
    | ok b => cases h
  | ok a =>
    cases y with
    | error e' => cases h
    | ok b => exact congrArg Except.ok (Except.ok.inj h)

theorem exists_foldOutcome_iff {α β : Type} (f : α → β) {x : Except CallError α} :
    (∃ b, foldOutcome f x = .ok b) ↔ ∃ a, x = .ok a := by
  cases x with
  | error e => simp [foldOutcome]
  | ok a => simp [foldOutcome]

/-! ### One part -/

section

variable {p q : Option String} (h : p.filter (· ≠ "") = q.filter (· ≠ ""))

include h

theorem cases_of_filter_eq : p = q ∨ (p = none ∧ q = some "") ∨ (p = some "" ∧ q = none) := by
  cases p with
  | none =>
    cases q with
    | none => exact Or.inl rfl
    | some t =>
      by_cases ht : t = ""
      · exact Or.inr (Or.inl ⟨rfl, congrArg some ht⟩)
      · simp [Option.filter, ht] at h
  | some s =>
    cases q with
    | none =>
      by_cases hs : s = ""
      · exact Or.inr (Or.inr ⟨congrArg some hs, rfl⟩)
      · simp [Option.filter, hs] at h
    | some t =>
      by_cases hs : s = "" <;> by_cases ht : t = "" <;> simp_all [Option.filter]

theorem checkQualifier_eq_of_filter_eq :
    CallConfig.checkQualifier p = CallConfig.checkQualifier q := by
  rcases cases_of_filter_eq h with rfl | ⟨rfl, rfl⟩ | ⟨rfl, rfl⟩ <;> rfl

/-- What depends on a part depends on whether it is empty or absent, or the part is the same. -/
theorem apply_eq_iff_of_filter_eq {α : Type} (f : Option String → α) :
    f p = f q ↔ p = q ∨ f none = f (some "") := by
  rcases cases_of_filter_eq h with rfl | ⟨rfl, rfl⟩ | ⟨rfl, rfl⟩
  · simp
  · simp
  · simp [eq_comm]

end

namespace RoutineName

/-- Parts that admit the same parts are the same, if one of them is empty or absent. -/
theorem eq_of_partAdmits_eq {f g : Option String} (hf : f = none ∨ f = some "")
    (h : ∀ part, partAdmits f part = partAdmits g part) : f = g := by
  have hsome : ∀ t : String, t ≠ "" → partAdmits (some t) none = false := by
    intro t ht
    simp [partAdmits, ht]
  have hnone := h none
  have hnamed := h (some "c")
  cases g with
  | none =>
    rcases hf with rfl | rfl
    · rfl
    · cases hnamed
  | some t =>
    by_cases ht : t = ""
    · subst ht
      rcases hf with rfl | rfl
      · cases hnamed
      · rfl
    · rw [hsome t ht] at hnone
      rcases hf with rfl | rfl <;> cases hnone

theorem partAdmits_eq_of_admits_eq {f g : RoutineName} (hname : f.name = g.name)
    (h : ∀ n, f.admits n = g.admits n) :
    (∀ x, partAdmits f.catalog x = partAdmits g.catalog x) ∧
      ∀ y, partAdmits f.schema y = partAdmits g.schema y := by
  have hboth : ∀ x y, (partAdmits f.catalog x && partAdmits f.schema y) =
      (partAdmits g.catalog x && partAdmits g.schema y) := by
    intro x y
    have hn := h ⟨x, y, f.name⟩
    simpa [admits, ← hname, Text.sameLetters_refl] using hn
  -- every part passes itself, so that the other factor decides
  have hf := partAdmits_self f.catalog
  have hf' := partAdmits_self f.schema
  have hg := partAdmits_self g.catalog
  have hg' := partAdmits_self g.schema
  refine ⟨fun x => ?_, fun y => ?_⟩
  · have h₁ := hboth x f.schema
    have h₂ := hboth x g.schema
    rw [hf', Bool.and_true] at h₁
    rw [hg', Bool.and_true] at h₂
    cases hx : partAdmits f.catalog x <;> simp_all
  · have h₁ := hboth f.catalog y
    have h₂ := hboth g.catalog y
    rw [hf, Bool.true_and] at h₁
    rw [hg, Bool.true_and] at h₂
    cases hy : partAdmits f.schema y <;> simp_all

/-- A filter that is made of a part is the same for parts that differ in being empty or absent, if
it admits the same parts. -/
theorem eq_of_partAdmits_eq_of_filter_eq {p q : Option String}
    (h : p.filter (· ≠ "") = q.filter (· ≠ "")) {f : Option String → Option String}
    (hempty : f (some "") = none ∨ f (some "") = some "")
    (hadmits : ∀ x, partAdmits (f p) x = partAdmits (f q) x) : f p = f q := by
  rcases cases_of_filter_eq h with rfl | ⟨rfl, rfl⟩ | ⟨rfl, rfl⟩
  · rfl
  · exact (eq_of_partAdmits_eq hempty fun x => (hadmits x).symm).symm
  · exact eq_of_partAdmits_eq hempty hadmits

theorem qualifiers_eq (n : RoutineName) :
    n.qualifiers = n.withoutEmpty.catalog.toList ++ n.withoutEmpty.schema.toList := by
  have hpart : ∀ p : Option String, p.toList.filter (· ≠ "") = (p.filter (· ≠ "")).toList := by
    intro p
    cases p with
    | none => rfl
    | some s => by_cases hs : s = "" <;> simp [Option.filter, hs]
  rw [qualifiers, List.filter_append, hpart, hpart]
  rfl

theorem text_eq_of_withoutEmpty {n m : RoutineName} (h : n.withoutEmpty = m.withoutEmpty) :
    n.text = m.text := by
  have hname : n.name = m.name := (mk.inj h).2.2
  rw [text, text, qualifiers_eq, qualifiers_eq, h, hname]

end RoutineName

section

variable {call : CallDefinition} {routine : RoutineName}
  (h : routine.withoutEmpty = call.config.routine.withoutEmpty)

include h

/-! ### With given columns -/

theorem validate_of_withoutEmpty :
    (call.renamed routine).config.validate = call.config.validate := by
  obtain ⟨hcatalog, hschema, hname⟩ := RoutineName.mk.inj h
  have hname : routine.name = call.config.routine.name := hname
  unfold CallConfig.validate CallDefinition.renamed
  rw [hname, checkQualifier_eq_of_filter_eq hcatalog, checkQualifier_eq_of_filter_eq hschema]

theorem key_of_withoutEmpty : (call.renamed routine).key = call.key := by
  have htext : (call.renamed routine).config.routine.text = call.config.routine.text :=
    RoutineName.text_eq_of_withoutEmpty h
  unfold CallDefinition.key
  rw [htext]
  rfl

theorem callText_of_withoutEmpty (hvalid : call.config.validate = .ok ()) (dialect : Dialect)
    (l : ParameterList) :
    (CallContext.start (call.renamed routine).config dialect).callText l =
      (CallContext.start call.config dialect).callText l := by
  obtain ⟨hcatalog, hschema, hname⟩ := RoutineName.mk.inj h
  have hvalid' : (call.renamed routine).config.validate = .ok () :=
    (validate_of_withoutEmpty h).trans hvalid
  have hqualifiers : (CallContext.start (call.renamed routine).config dialect).qualifiersInCall =
      (CallContext.start call.config dialect).qualifiersInCall := by
    rw [CallContext.qualifiersInCall_of_validate hvalid',
      CallContext.qualifiersInCall_of_validate hvalid]
    show (dialect.catalogInCall (routine.catalog.filter (· ≠ ""))).toList ++
      (dialect.schemaInCall (routine.schema.filter (· ≠ ""))).toList = _
    rw [hcatalog, hschema]
    rfl
  exact CallContext.callText_renamed hqualifiers (congrArg dialect.identifier hname) l

theorem compileWith_withoutEmpty (dialect : Dialect) (columns : List Column) :
    ((call.renamed routine).compileWith dialect columns).outcome.map CompiledCall.said =
      (call.compileWith dialect columns).outcome.map CompiledCall.said := by
  rw [CallDefinition.outcome_compileWith, CallDefinition.outcome_compileWith,
    validate_of_withoutEmpty h]
  cases hvalid : call.config.validate with
  | error e => rfl
  | ok u =>
    -- the parameters do not depend on the name of the routine
    have hlist : ((CallContext.start (call.renamed routine).config dialect).reconcile
        (call.renamed routine).declared columns).outcome =
          ((CallContext.start call.config dialect).reconcile call.declared columns).outcome := rfl
    rw [hlist]
    cases ((CallContext.start call.config dialect).reconcile call.declared columns).outcome with
    | error e => rfl
    | ok l =>
      exact congrArg (fun text => Except.ok (text, l))
        (callText_of_withoutEmpty h hvalid dialect l)

/-! ### With a source of metadata -/

/-- Names that differ in empty parts compile alike with a source whose routines are admitted by
both look-ups or by none. -/
theorem said_eq_of_admits_eq {source : MetadataSource}
    (hadmits : call.config.validate = .ok () →
      (call.dialectFor source.info).value.columnsUsed = true →
        ∀ s ∈ source.signatures, ((call.renamed routine).lookupOf source.info).admits s.routine =
          (call.lookupOf source.info).admits s.routine) :
    (call.renamed routine).said source = call.said source := by
  unfold CallDefinition.said
  have hvalidate := validate_of_withoutEmpty h
  cases hvalid : call.config.validate with
  | error e =>
    rw [hvalid] at hvalidate
    rw [CallDefinition.outcome_compile_of_error hvalid,
      CallDefinition.outcome_compile_of_error hvalidate]
  | ok u =>
    rw [hvalid] at hvalidate
    set dialect := (call.dialectFor source.info).value with hdialect
    have hsame : ((call.renamed routine).dialectFor source.info).value = dialect := rfl
    have hcolumns : foldOutcome id ((call.renamed routine).columnsFrom source dialect).outcome =
        foldOutcome id (call.columnsFrom source dialect).outcome :=
      outcome_columnsFrom_renamed (hadmits hvalid)
    rw [CallDefinition.outcome_compile hvalid, CallDefinition.outcome_compile hvalidate, hsame,
      ← hdialect]
    rcases cases_of_kind_eq hcolumns with ⟨e', e, hx', hx, hkind⟩ | ⟨columns, hx', hx⟩
    · rw [hx, hx']
      exact congrArg Except.error hkind
    · rw [hx, hx']
      exact foldOutcome_eq_of_map_eq (compileWith_withoutEmpty h dialect columns)

end

/-! ### Look-ups -/

/-- Routines are looked up alike by an empty catalog and by none: an Oracle routine without package
has an empty one, or calls name no catalogs. -/
def DatabaseInfo.IgnoresEmptyCatalog (info : DatabaseInfo) : Prop :=
  info.family = .oracle ∨ info.catalogsInCalls = false

/-- Routines are looked up alike by an empty schema and by none: it stands for the user's, which is
empty too, or calls name no schemas. -/
def DatabaseInfo.IgnoresEmptySchema (info : DatabaseInfo) : Prop :=
  match info.family with
  | .oracle | .derby => info.user = some ""
  | .postgres => False
  | .sqlServer | .sybase | .mySql | .db2 | .other => info.schemasInCalls = false

/-- A rule gives one filter for an empty part and for none. -/
def FilterRule.IgnoresEmpty (rule : FilterRule) (inCalls : Bool) : Prop :=
  match rule with
  | .asInCall => inCalls = false
  | .orElse default => default = some ""

namespace Dialect

theorem identifierCase_eq_empty_iff {info : DatabaseInfo} {s : String} :
    identifierCase info s = "" ↔ s = "" := by
  unfold identifierCase
  split
  · exact Text.upper_eq_empty_iff
  · split
    · exact Text.lower_eq_empty_iff
    · exact Iff.rfl

variable (d : Dialect)

/-- The filter that a rule makes of a part. -/
def filterBy (rule : FilterRule) (inCalls : Bool) (part : Option String) : Option String :=
  match rule with
  | .asInCall => if inCalls then part.map d.identifier else none
  | .orElse default => (part.map d.identifier).or default

theorem catalogToFind_eq :
    d.catalogToFind = d.filterBy d.catalogFilter d.info.catalogsInCalls := rfl

theorem schemaToFind_eq : d.schemaToFind = d.filterBy d.schemaFilter d.info.schemasInCalls := rfl

theorem filterBy_none_eq_iff (rule : FilterRule) (inCalls : Bool) :
    d.filterBy rule inCalls none = d.filterBy rule inCalls (some "") ↔
      rule.IgnoresEmpty inCalls := by
  unfold filterBy FilterRule.IgnoresEmpty
  cases rule with
  | asInCall => cases inCalls <;> simp
  | orElse default => simp [CallContext.identifier_empty]

theorem filterBy_empty (rule : FilterRule) (inCalls : Bool) :
    d.filterBy rule inCalls (some "") = none ∨ d.filterBy rule inCalls (some "") = some "" := by
  have hempty : (some "").map d.identifier = some "" :=
    congrArg some (CallContext.identifier_empty d)
  unfold filterBy
  rw [hempty]
  cases rule with
  | asInCall => cases inCalls <;> simp
  | orElse default => exact Or.inr rfl

section

variable {p q : Option String} (h : p.filter (· ≠ "") = q.filter (· ≠ ""))

include h

theorem catalogToFind_eq_of_partAdmits_eq (hadmits : ∀ x,
      RoutineName.partAdmits (d.catalogToFind p) x = RoutineName.partAdmits (d.catalogToFind q) x) :
    d.catalogToFind p = d.catalogToFind q := by
  rw [catalogToFind_eq] at hadmits ⊢
  exact RoutineName.eq_of_partAdmits_eq_of_filter_eq h (d.filterBy_empty _ _) hadmits

theorem schemaToFind_eq_of_partAdmits_eq (hadmits : ∀ x,
      RoutineName.partAdmits (d.schemaToFind p) x = RoutineName.partAdmits (d.schemaToFind q) x) :
    d.schemaToFind p = d.schemaToFind q := by
  rw [schemaToFind_eq] at hadmits ⊢
  exact RoutineName.eq_of_partAdmits_eq_of_filter_eq h (d.filterBy_empty _ _) hadmits

end

theorem catalogFilter_ignoresEmpty_iff (info : DatabaseInfo) :
    (forFamily info).catalogFilter.IgnoresEmpty info.catalogsInCalls ↔
      info.IgnoresEmptyCatalog := by
  unfold forFamily DatabaseInfo.IgnoresEmptyCatalog FilterRule.IgnoresEmpty
  cases info.family <;> simp [sqlServer, sybase, oracle, postgres, derby, generic]

theorem schemaFilter_ignoresEmpty_iff (info : DatabaseInfo) :
    (forFamily info).schemaFilter.IgnoresEmpty info.schemasInCalls ↔ info.IgnoresEmptySchema := by
  unfold forFamily DatabaseInfo.IgnoresEmptySchema FilterRule.IgnoresEmpty
  cases info.family <;> simp [sqlServer, sybase, oracle, postgres, derby, generic,
    Text.upper_eq_empty_iff, identifierCase_eq_empty_iff]

section

variable {n m : RoutineName} (h : n.withoutEmpty = m.withoutEmpty)

include h

/-- Names that differ in empty parts are looked up by one filter where the difference is ignored. -/
theorem lookupName_eq_iff :
    d.lookupName n = d.lookupName m ↔
      (n.catalog = m.catalog ∨ d.catalogFilter.IgnoresEmpty d.info.catalogsInCalls) ∧
        (n.schema = m.schema ∨ d.schemaFilter.IgnoresEmpty d.info.schemasInCalls) := by
  obtain ⟨hcatalog, hschema, hname⟩ := RoutineName.mk.inj h
  have hname : n.name = m.name := hname
  rw [lookupName, lookupName, hname, RoutineName.mk.injEq, apply_eq_iff_of_filter_eq hcatalog,
    apply_eq_iff_of_filter_eq hschema, catalogToFind_eq, schemaToFind_eq, filterBy_none_eq_iff,
    filterBy_none_eq_iff, eq_self, and_true]

theorem lookupName_eq_of_admits_eq
    (hadmits : ∀ x, (d.lookupName n).admits x = (d.lookupName m).admits x) :
    d.lookupName n = d.lookupName m := by
  obtain ⟨hcatalog, hschema, hname⟩ := RoutineName.mk.inj h
  have hname : d.identifier n.name = d.identifier m.name := congrArg d.identifier hname
  obtain ⟨hcatalogs, hschemas⟩ := RoutineName.partAdmits_eq_of_admits_eq hname hadmits
  rw [lookupName, lookupName, hname, d.catalogToFind_eq_of_partAdmits_eq hcatalog hcatalogs,
    d.schemaToFind_eq_of_partAdmits_eq hschema hschemas]

end

end Dialect

theorem lookupOf_renamed (call : CallDefinition) (routine : RoutineName) (info : DatabaseInfo) :
    (call.renamed routine).lookupOf info = (call.dialectFor info).value.lookupName routine := rfl

section

variable {call : CallDefinition} {routine : RoutineName} {info : DatabaseInfo}
  (h : routine.withoutEmpty = call.config.routine.withoutEmpty)

include h

theorem lookupOf_eq_iff :
    (call.renamed routine).lookupOf info = call.lookupOf info ↔
      (routine.catalog = call.config.routine.catalog ∨ info.IgnoresEmptyCatalog) ∧
        (routine.schema = call.config.routine.schema ∨ info.IgnoresEmptySchema) := by
  have hinfo : (call.dialectFor info).value.info = info := call.info_dialectFor info
  have hcatalog : (call.dialectFor info).value.catalogFilter =
      (Dialect.forFamily info).catalogFilter := by
    simp only [CallDefinition.dialectFor, Dialect.forDatabase, Dialect.forCalls]
  have hschema : (call.dialectFor info).value.schemaFilter =
      (Dialect.forFamily info).schemaFilter := by
    simp only [CallDefinition.dialectFor, Dialect.forDatabase, Dialect.forCalls]
  rw [lookupOf_renamed, CallDefinition.lookupOf, Dialect.lookupName_eq_iff _ h, hinfo, hcatalog,
    hschema, Dialect.catalogFilter_ignoresEmpty_iff, Dialect.schemaFilter_ignoresEmpty_iff]

/-- Names that differ in empty parts are looked up by filters that admit the same routines if they
compile alike for the sources of a database. -/
theorem admits_eq_of_said_eq (hvalid : call.config.validate = .ok ())
    (hused : (call.dialectFor info).value.columnsUsed = true)
    (hsaid : ∀ source : MetadataSource, source.info = info →
      (call.renamed routine).said source = call.said source) (n : RoutineName) :
    ((call.renamed routine).lookupOf info).admits n = (call.lookupOf info).admits n := by
  have hvalid' : (call.renamed routine).config.validate = .ok () :=
    (validate_of_withoutEmpty h).trans hvalid
  have hused' : ((call.renamed routine).dialectFor info).value.columnsUsed = true := hused
  rw [Bool.eq_iff_iff]
  refine (CallDefinition.admits_iff_exists_observed hvalid' hused').trans
    (Iff.trans ?_ (CallDefinition.admits_iff_exists_observed hvalid hused).symm)
  have hsame := hsaid (MetadataSource.ofRoutine info n []) (MetadataSource.info_ofRoutine info n [])
  unfold CallDefinition.observed
  unfold CallDefinition.said at hsame
  rw [exists_foldOutcome_iff, exists_foldOutcome_iff, ← exists_foldOutcome_iff CompiledCall.said,
    ← exists_foldOutcome_iff CompiledCall.said, hsame]

end

/-- A name with an empty qualifier is accepted like one without, and it gives the same key, the same
call with given columns, and the same call with a source unless only one of the two look-ups admits
a routine of the source. For all sources of a database whose columns are used this comes to both
look-ups being the same. -/
theorem compile_withoutEmpty {call : CallDefinition} {routine : RoutineName}
    (h : routine.withoutEmpty = call.config.routine.withoutEmpty) :
    (call.renamed routine).config.validate = call.config.validate ∧
      (call.renamed routine).key = call.key ∧
      (∀ dialect columns,
        ((call.renamed routine).compileWith dialect columns).outcome.map CompiledCall.said =
          (call.compileWith dialect columns).outcome.map CompiledCall.said) ∧
      (∀ source : MetadataSource,
        (call.config.validate = .ok () → (call.dialectFor source.info).value.columnsUsed = true →
          ∀ s ∈ source.signatures, ((call.renamed routine).lookupOf source.info).admits s.routine =
            (call.lookupOf source.info).admits s.routine) →
          (call.renamed routine).said source = call.said source) ∧
      ∀ info, call.config.validate = .ok () → (call.dialectFor info).value.columnsUsed = true →
        ((∀ source : MetadataSource, source.info = info →
            (call.renamed routine).said source = call.said source) ↔
          (routine.catalog = call.config.routine.catalog ∨ info.IgnoresEmptyCatalog) ∧
            (routine.schema = call.config.routine.schema ∨ info.IgnoresEmptySchema)) := by
  refine ⟨validate_of_withoutEmpty h, key_of_withoutEmpty h, compileWith_withoutEmpty h,
    fun source => said_eq_of_admits_eq h, fun info hvalid hused => ?_⟩
  rw [← lookupOf_eq_iff h]
  constructor
  · intro hsaid
    exact Dialect.lookupName_eq_of_admits_eq _ h (admits_eq_of_said_eq h hvalid hused hsaid)
  · rintro hlookup source rfl
    refine said_eq_of_admits_eq h fun _ _ s _ => ?_
    rw [hlookup]

/-- Oracle has no catalogs but packages, and MySQL has catalogs. -/
theorem compile_withoutEmpty_raise_salary :
    let call : CallDefinition := { config := { routine := ⟨some "", none, "raise_salary"⟩ } }
    let routine := RoutineName.ofName "raise_salary"
    routine.withoutEmpty = call.config.routine.withoutEmpty ∧
      (call.renamed routine).key = call.key ∧
      (∀ source : MetadataSource, source.info = Fixtures.oracle →
        (call.renamed routine).said source = call.said source) ∧
      ¬ ∀ source : MetadataSource, source.info = Fixtures.mySql →
        (call.renamed routine).said source = call.said source := by
  intro call routine
  have h : routine.withoutEmpty = call.config.routine.withoutEmpty := by decide +kernel
  have hvalid : call.config.validate = .ok () := by decide +kernel
  obtain ⟨-, hkey, -, -, hexact⟩ := compile_withoutEmpty h
  refine ⟨h, hkey, ?_, fun hall => ?_⟩
  · refine (hexact Fixtures.oracle hvalid (by decide +kernel)).2 ⟨Or.inr (Or.inl ?_), Or.inl rfl⟩
    decide +kernel
  · obtain ⟨hcatalog | hfamily | hcatalogs, -⟩ :=
      (hexact Fixtures.mySql hvalid (by decide +kernel)).1 hall
    · cases hcatalog
    · exact absurd hfamily (by decide +kernel)
    · cases hcatalogs

/-- MySQL has the routine in a catalog: it is not found by an empty catalog, and found without. -/
theorem empty_catalog_not_found :
    let call : CallDefinition := { config := { routine := ⟨some "", none, "count_items"⟩ } }
    let source := MetadataSource.ofRoutine (CallDefinition.plainDatabase true true)
      ⟨some "shop", none, "count_items"⟩ []
    call.said source = .error .procedureNotFound ∧
      ((call.renamed (.ofName "count_items")).said source).map (·.1) =
        .ok "\x7bcall count_items()\x7d" := by
  intro call source
  set call' := call.renamed (.ofName "count_items")
  have hvalid : call.config.validate = .ok () := by decide +kernel
  have hvalid' : call'.config.validate = .ok () := by decide +kernel
  have hused : ∀ x : CallDefinition, x.config.useColumns = true →
      (x.dialectFor source.info).value.columnsUsed = true := fun x hx =>
    CallDefinition.used_plainDatabase hx true true
  have hlookup : call.lookupOf source.info = ⟨some "", none, "count_items"⟩ :=
    CallDefinition.lookupName_plainDatabase call true true call.config.routine
  have hlookup' : call'.lookupOf source.info = ⟨none, none, "count_items"⟩ :=
    CallDefinition.lookupName_plainDatabase call' true true call'.config.routine
  have hload := MetadataSource.loadColumns_ofRoutine (CallDefinition.plainDatabase true true)
    ⟨some "shop", none, "count_items"⟩ (call.lookupOf source.info) []
  have hload' := MetadataSource.loadColumns_ofRoutine (CallDefinition.plainDatabase true true)
    ⟨some "shop", none, "count_items"⟩ (call'.lookupOf source.info) []
  rw [if_neg (by rw [hlookup]; decide +kernel)] at hload
  rw [if_pos (by rw [hlookup']; decide +kernel)] at hload'
  have hsorted : inOrdinalOrder (inOrdinalOrder []) = [] := by simp [inOrdinalOrder]
  have hmissing := CallDefinition.outcome_compile_of_load_error (hused call rfl) hvalid hload
  have hfound := CallDefinition.compile_of_run hvalid' (hused call' rfl) hload' hsorted (.nil _)
  refine ⟨?_, ?_⟩
  · rw [CallDefinition.said, hmissing]
    rfl
  · rw [CallDefinition.said, hfound]
    exact congrArg Except.ok (by decide +kernel)

end StoredCall
