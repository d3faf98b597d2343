import StoredCall.Proofs.FoldedCall

/-!
# Calls by names in another letter case

Databases compare names without ASCII letter case, and so does everything between a call definition
and its compiled call.

* `CallDefinition.renamed`: a call with another name for its routine;
* `kind_validate_congr`: names of one folded form are accepted alike;
* `outcome_columnsFrom_congr`: they are looked up alike;
* `CallContext.callText_eq_of_stores`: where a database stores identifiers in one letter case, they
  give one text;
* `compile_renamed`: calls that differ in the letter case of their routine names compile alike.
-/

namespace StoredCall

/-- The call with another name for its routine. -/
def CallDefinition.renamed (call : CallDefinition) (routine : RoutineName) : CallDefinition :=
  { call with config := { call.config with routine } }

/-! ### Checks of names -/

theorem isIdentifier_map_toLower (cs : List Char) :
    isIdentifier (cs.map Char.toLower) = isIdentifier cs := by
  cases cs with
  | nil => rfl
  | cons c cs =>
    have hrest : isIdentifierRest ∘ Char.toLower = isIdentifierRest :=
      funext isIdentifierRest_toLower
    rw [List.map_cons, isIdentifier, isIdentifier, isIdentifierStart_toLower, List.all_map, hrest,
      List.length_map]

theorem isIdentifier_congr {s t : String} (h : s.toLower = t.toLower) :
    isIdentifier s.toList = isIdentifier t.toList := by
  rw [← isIdentifier_map_toLower, ← isIdentifier_map_toLower t.toList, ← Text.toList_toLower,
    ← Text.toList_toLower, h]

theorem eq_empty_congr {s t : String} (h : s.toLower = t.toLower) : s = "" ↔ t = "" := by
  rw [← toLower_eq_empty_iff, h, toLower_eq_empty_iff]

theorem kind_checkIdentifier_congr {s t : String} (h : s.toLower = t.toLower) :
    foldOutcome id (checkIdentifier s) = foldOutcome id (checkIdentifier t) := by
  unfold checkIdentifier
  rw [isIdentifier_congr h]
  simp only [eq_empty_congr h]
  split
  · rfl
  · split <;> rfl

theorem kind_checkQualifier_congr {p q : Option String}
    (h : p.map String.toLower = q.map String.toLower) :
    foldOutcome id (CallConfig.checkQualifier p) =
      foldOutcome id (CallConfig.checkQualifier q) := by
  rcases none_or_some_of_map_eq h with ⟨rfl, rfl⟩ | ⟨s, t, rfl, rfl, hst⟩
  · rfl
  · unfold CallConfig.checkQualifier
    simp only [eq_empty_congr hst]
    split
    · rfl
    · exact kind_checkIdentifier_congr hst

theorem kind_bind_congr {x x' y y' : Except CallError Unit}
    (hx : foldOutcome id x = foldOutcome id x') (hy : foldOutcome id y = foldOutcome id y') :
    foldOutcome id (x >>= fun _ => y) = foldOutcome id (x' >>= fun _ => y') := by
  rcases cases_of_kind_eq hx with ⟨e, e', rfl, rfl, he⟩ | ⟨u, rfl, rfl⟩
  · exact congrArg Except.error he
  · exact hy

/-- Names have the same columns, or are not found for the same kind of reason, if their look-ups
admit the same routines of the source. -/
theorem outcome_columnsFrom_renamed {call : CallDefinition} {routine : RoutineName}
    {source : MetadataSource} {dialect : Dialect}
    (h : dialect.columnsUsed = true → ∀ s ∈ source.signatures,
      (dialect.lookupName routine).admits s.routine =
        (dialect.lookupName call.config.routine).admits s.routine) :
    foldOutcome id ((call.renamed routine).columnsFrom source dialect).outcome =
      foldOutcome id (call.columnsFrom source dialect).outcome := by
  rw [CallDefinition.outcome_columnsFrom, CallDefinition.outcome_columnsFrom]
  split
  · exact loadColumns_congr source (h ‹_›)
  · rfl

section

variable {call : CallDefinition} {routine : RoutineName}
  (h : routine.folded = call.config.routine.folded)

include h

/-- Names of one folded form are accepted, or refused for the same kind of reason. -/
theorem kind_validate_congr :
    foldOutcome id (call.renamed routine).config.validate =
      foldOutcome id call.config.validate := by
  obtain ⟨hcatalog, hschema, hname⟩ := RoutineName.mk.inj h
  exact kind_bind_congr (kind_checkIdentifier_congr hname)
    (kind_bind_congr (kind_checkQualifier_congr hcatalog)
      (kind_bind_congr (kind_checkQualifier_congr hschema) rfl))

/-! ### Look-ups -/

theorem outcome_columnsFrom_congr (source : MetadataSource) (dialect : Dialect) :
    foldOutcome id ((call.renamed routine).columnsFrom source dialect).outcome =
      foldOutcome id (call.columnsFrom source dialect).outcome := by
  refine outcome_columnsFrom_renamed fun _ s _ => ?_
  exact RoutineName.admits_congr (Dialect.lookupName_congr dialect h) s.routine

/-! ### Texts -/

theorem CallContext.toLower_qualifiersInCall_congr (dialect : Dialect) :
    (start (call.renamed routine).config dialect).qualifiersInCall.map String.toLower =
      (start call.config dialect).qualifiersInCall.map String.toLower := by
  obtain ⟨hcatalog, hschema, -⟩ := RoutineName.mk.inj h
  have hfilter : ∀ qs : List String, (qs.filter (· ≠ "")).map String.toLower =
      (qs.map String.toLower).filter (· ≠ "") := by
    intro qs
    rw [List.filter_map]
    congr 1
    exact List.filter_congr fun q _ => by simp [toLower_eq_empty_iff]
  have hlist : ∀ {p q : Option String}, p.map String.toLower = q.map String.toLower →
      p.toList.map String.toLower = q.toList.map String.toLower := by
    intro p q hpq
    rw [← Option.toList_map, ← Option.toList_map, hpq]
  unfold qualifiersInCall
  rw [hfilter, hfilter, List.map_append, List.map_append]
  congr 2
  · exact hlist (dialect.catalogInCall_congr hcatalog)
  · exact hlist (dialect.schemaInCall_congr hschema)

theorem CallContext.toLower_callText_congr (hvalid : call.config.validate = .ok ())
    (hvalid' : (call.renamed routine).config.validate = .ok ()) (dialect : Dialect)
    (l : ParameterList) :
    ((start (call.renamed routine).config dialect).callText l).toLower =
      ((start call.config dialect).callText l).toLower :=
  (toLower_callText_eq_iff hvalid' hvalid).2
    ⟨rfl, toLower_qualifiersInCall_congr h dialect,
      dialect.identifier_congr (RoutineName.mk.inj h).2.2, rfl⟩

end

/-- The text of a call shows its qualifiers and the name of its routine. -/
theorem CallContext.callText_renamed {call : CallDefinition} {routine : RoutineName} {d : Dialect}
    (hqualifiers : (start (call.renamed routine).config d).qualifiersInCall =
      (start call.config d).qualifiersInCall)
    (hname : d.identifier routine.name = d.identifier call.config.routine.name)
    (l : ParameterList) :
    (start (call.renamed routine).config d).callText l = (start call.config d).callText l := by
  unfold callText
  rw [hqualifiers]
  show _ ++ _ ++ _ ++ _ ++ d.identifier routine.name ++ _ ++ _ ++ _ = _
  rw [hname]
  rfl

section

variable {call : CallDefinition} {routine : RoutineName} {d : Dialect}
  (hstores : d.info.storesUpper = true ∨ d.info.storesLower = true)

include hstores

/-- A database that stores identifiers in one letter case has one form of each. -/
theorem Dialect.identifier_eq_of_stores {s t : String} (h : s.toLower = t.toLower) :
    d.identifier s = d.identifier t := by
  have hsame := Text.toLower_eq_iff.1 h
  unfold identifier identifierCase
  split
  · exact Text.upper_eq_of_sameLetters hsame
  · rename_i hupper
    rw [if_pos (hstores.resolve_left hupper), if_pos (hstores.resolve_left hupper)]
    exact Text.lower_eq_of_sameLetters hsame

theorem Dialect.map_identifier_eq_of_stores {p q : Option String}
    (h : p.map String.toLower = q.map String.toLower) :
    p.map d.identifier = q.map d.identifier := by
  rcases none_or_some_of_map_eq h with ⟨rfl, rfl⟩ | ⟨s, t, rfl, rfl, hst⟩
  · rfl
  · exact congrArg some (d.identifier_eq_of_stores hstores hst)

/-- Where a database stores identifiers in one letter case, names of one folded form give one
text. -/
theorem CallContext.callText_eq_of_stores (h : routine.folded = call.config.routine.folded)
    (l : ParameterList) :
    (start (call.renamed routine).config d).callText l = (start call.config d).callText l := by
  obtain ⟨hcatalog, hschema, hname⟩ := RoutineName.mk.inj h
  have hcatalogs : d.catalogInCall routine.catalog =
      d.catalogInCall call.config.routine.catalog := by
    unfold Dialect.catalogInCall
    rw [d.map_identifier_eq_of_stores hstores hcatalog]
  have hschemas : d.schemaInCall routine.schema = d.schemaInCall call.config.routine.schema := by
    unfold Dialect.schemaInCall
    rw [d.map_identifier_eq_of_stores hstores hschema]
  have hqualifiers : (start (call.renamed routine).config d).qualifiersInCall =
      (start call.config d).qualifiersInCall := by
    show ((d.catalogInCall routine.catalog).toList ++
      (d.schemaInCall routine.schema).toList).filter (· ≠ "") = _
    rw [hcatalogs, hschemas]
    rfl
  exact callText_renamed hqualifiers (d.identifier_eq_of_stores hstores hname) l

end

/-! ### Compilations -/

/-- Two compilations fail for the same kind of reason, or give the same parameters under texts that
differ in letter case only, and in nothing if the database stores identifiers in one letter case. -/
def AlikeCompiled (info : DatabaseInfo) :
    Except CallError CompiledCall → Except CallError CompiledCall → Prop
  | .ok a, .ok b =>
    a.parameters = b.parameters ∧ a.context.outputNames = b.context.outputNames ∧
      a.context.config.returnName = b.context.config.returnName ∧
      a.text.toLower = b.text.toLower ∧
      (info.storesUpper = true ∨ info.storesLower = true → a.text = b.text)
  | .error e, .error e' => e.kind = e'.kind
  | .ok _, .error _ | .error _, .ok _ => False

/-- Calls whose routine names differ in letter case only compile alike for every source. -/
theorem compile_renamed {call : CallDefinition} {routine : RoutineName}
    (h : routine.folded = call.config.routine.folded) (source : MetadataSource) :
    AlikeCompiled source.info (call.compile source).outcome
      ((call.renamed routine).compile source).outcome := by
  rcases cases_of_kind_eq (kind_validate_congr h) with
    ⟨e', e, hvalid', hvalid, hkind⟩ | ⟨u, hvalid', hvalid⟩
  · rw [CallDefinition.outcome_compile_of_error hvalid,
      CallDefinition.outcome_compile_of_error hvalid']
    exact hkind.symm
  set dialect := (call.dialectFor source.info).value with hdialect
  have hsame : ((call.renamed routine).dialectFor source.info).value = dialect := rfl
  have hinfo : dialect.info = source.info := call.info_dialectFor source.info
  rw [CallDefinition.outcome_compile hvalid, CallDefinition.outcome_compile hvalid', hsame,
    ← hdialect]
  rcases cases_of_kind_eq (outcome_columnsFrom_congr h source dialect) with
    ⟨e', e, hx', hx, hkind⟩ | ⟨columns, hx', hx⟩
  · rw [hx, hx']
    exact hkind.symm
  rw [hx, hx']
  show AlikeCompiled source.info (call.compileWith dialect columns).outcome
    ((call.renamed routine).compileWith dialect columns).outcome
  -- the parameters do not depend on the name of the routine
  have hlist : ((CallContext.start (call.renamed routine).config dialect).reconcile
      (call.renamed routine).declared columns).outcome =
        ((CallContext.start call.config dialect).reconcile call.declared columns).outcome := rfl
  rw [CallDefinition.outcome_compileWith, CallDefinition.outcome_compileWith, hvalid, hvalid',
    hlist]
  cases ((CallContext.start call.config dialect).reconcile call.declared columns).outcome with
  | error e => exact rfl
  | ok l =>
    exact ⟨rfl, rfl, rfl, (CallContext.toLower_callText_congr h hvalid hvalid' dialect l).symm,
      fun hstores => (CallContext.callText_eq_of_stores (hinfo ▸ hstores) h l).symm⟩

/-- A routine is found and its columns are read under both spellings, and as names are stored in
upper case, there is one text. -/
theorem compile_renamed_add_user :
    let columns := [Fixtures.column "NAME" .input .varchar 1,
      Fixtures.column "NEW_ID" .output .integer 2]
    let signature : Signature := { routine := ⟨none, some "DBO", "ADD_USER"⟩, columns }
    let source : MetadataSource :=
      { info := (DatabaseInfo.ofProduct "MySQL").storingUpper, signatures := [signature] }
    let call : CallDefinition :=
      { config := { routine := ⟨none, some "dbo", "add_user"⟩ }
        declared := [.input "name" .varchar] }
    let routine : RoutineName := ⟨none, some "Dbo", "Add_User"⟩
    routine.folded = call.config.routine.folded ∧
      ∃ compiled other, (call.compile source).outcome = .ok compiled ∧
        ((call.renamed routine).compile source).outcome = .ok other ∧
        compiled.parameters.entries.map (·.name) = [some "name", some "NEW_ID"] ∧
        other.parameters = compiled.parameters ∧
        compiled.text = "\x7bcall DBO.ADD_USER(?, ?)\x7d" ∧ other.text = compiled.text := by
  intro columns signature source call routine
  have hschema : "Dbo".toLower = "dbo".toLower := Text.toLower_eq_iff.2 (by decide +kernel)
  have hname : "Add_User".toLower = "add_user".toLower :=
    Text.toLower_eq_iff.2 (by decide +kernel)
  have h : routine.folded = call.config.routine.folded := by
    rw [RoutineName.folded, RoutineName.folded, Option.map_some, Option.map_some, hschema, hname]
  set c := CallContext.start call.config (call.dialectFor source.info).value
  have hsorted : inOrdinalOrder columns = columns := List.mergeSort_of_pairwise (by decide)
  obtain ⟨last, run, hnames, htext⟩ : ∃ last,
      (c.plan call.declared).Run (c.draft call.declared columns) columns last ∧
        last.finish.entries.map (·.name) = [some "name", some "NEW_ID"] ∧
        c.callText last.finish = "\x7bcall DBO.ADD_USER(?, ?)\x7d" :=
    ⟨_, .cons (by decide +kernel) (.cons (by decide +kernel) (.nil _)), by decide +kernel,
      by decide +kernel⟩
  have hadmits : (c.dialect.lookupName call.config.routine).admits signature.routine = true := by
    decide +kernel
  have hfind : source.find (c.dialect.lookupName call.config.routine) = .ok [signature] :=
    congrArg Except.ok (List.filter_cons_of_pos hadmits)
  have hload : (source.loadColumns (c.dialect.lookupName call.config.routine)).value =
      .ok columns :=
    (MetadataSource.loadColumns_of_find_singleton hfind).trans (congrArg Except.ok hsorted)
  have hcompiled : (call.compile source).outcome = .ok _ :=
    CallDefinition.compile_of_run (by decide +kernel) (by decide +kernel) hload hsorted run
  have halike := compile_renamed h source
  rw [hcompiled] at halike
  cases hother : ((call.renamed routine).compile source).outcome with
  | error e =>
    rw [hother] at halike
    exact halike.elim
  | ok other =>
    rw [hother] at halike
    obtain ⟨hparameters, -, -, -, hsame⟩ := halike
    exact ⟨h, _, other, hcompiled, rfl, hnames, hparameters.symm, htext, (hsame (Or.inl rfl)).symm⟩

end StoredCall
