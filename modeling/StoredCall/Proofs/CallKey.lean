import StoredCall.Proofs.FoldedCall

/-!
# What a call key says

The key of a definition, compared with what a compilation depends on.

* `toLower_parts_of_key_eq`: definitions of one key name the same parts, up to letter case;
* `CallDefinition.Agree`: what two definitions of one key must have in common beside the key, since
  it does not say which part is the catalog and which the schema, whether a part is empty or
  absent, and how names look before they are in lower case;
* `Agree.observed_eq`: definitions of one key that agree compile alike.
-/

namespace StoredCall

/-! ### Names in keys -/

theorem mem_nameSet {names : List String} {key : String} :
    key ∈ nameSet names ↔ key ∈ names.map Text.lower := by
  rw [nameSet, List.mem_eraseDups, List.mem_mergeSort]

theorem isEmpty_of_nameSet_eq {xs ys : List String} (h : nameSet xs = nameSet ys) :
    xs.isEmpty = ys.isEmpty := by
  have hempty : ∀ {xs ys : List String}, nameSet xs = nameSet ys → xs = [] → ys = [] := by
    rintro xs ys h rfl
    cases ys with
    | nil => rfl
    | cons y ys =>
      have hmem : Text.lower y ∈ nameSet [] := h ▸ mem_nameSet.2 List.mem_cons_self
      exact absurd (mem_nameSet.1 hmem) List.not_mem_nil
  rw [Bool.eq_iff_iff, List.isEmpty_iff, List.isEmpty_iff]
  exact ⟨hempty h, hempty h.symm⟩

theorem mem_of_mem_intercalate {α : Type} {separator : List α} {parts : List (List α)} {x : α}
    (h : x ∈ separator.intercalate parts) : x ∈ separator ∨ ∃ part ∈ parts, x ∈ part := by
  induction parts with
  | nil => cases h
  | cons part parts ih =>
    have hlater : x ∈ separator.intercalate parts → x ∈ separator ∨
        ∃ q ∈ part :: parts, x ∈ q := by
      intro hx
      rcases ih hx with hx | ⟨q, hq, hx⟩
      · exact Or.inl hx
      · exact Or.inr ⟨q, List.mem_cons_of_mem _ hq, hx⟩
    cases parts with
    | nil =>
      rw [List.intercalate_singleton] at h
      exact Or.inr ⟨part, List.mem_cons_self, h⟩
    | cons part' parts =>
      rw [List.intercalate_cons_cons, List.append_assoc, List.mem_append, List.mem_append] at h
      rcases h with hx | hx | hx
      · exact Or.inr ⟨part, List.mem_cons_self, hx⟩
      · exact Or.inl hx
      · exact hlater hx

section

variable {config config' : CallConfig}

theorem isAscii_intercalate {parts : List String} (h : ∀ q ∈ parts, IsIdentifier q) :
    Text.IsAscii (".".intercalate parts) := by
  intro c hc
  rw [String.toList_intercalate] at hc
  rcases mem_of_mem_intercalate hc with hc | ⟨part, hpart, hc⟩
  · rw [List.mem_singleton.1 hc]
    decide
  · obtain ⟨q, hq, rfl⟩ := List.mem_map.1 hpart
    exact (h q hq).isAscii c hc

theorem toList_lower_text_of_ascii {routine : RoutineName} (hascii : Text.IsAscii routine.text) :
    (Text.lower routine.text).toList = ['.'].intercalate
      ((routine.qualifiers ++ [routine.name]).map fun q => q.toLower.toList) := by
  have htext : routine.text.toList = ['.'].intercalate
      ((routine.qualifiers ++ [routine.name]).map String.toList) :=
    String.toList_intercalate
  rw [Text.toList_lower_of_ascii hascii, htext, map_intercalate, List.map_map]
  congr 1
  exact List.map_congr_left fun q _ => (Text.toList_toLower q).symm

theorem toList_lower_text (hvalid : config.validate = .ok ()) :
    (Text.lower config.routine.text).toList = ['.'].intercalate
      ((config.routine.qualifiers ++ [config.routine.name]).map fun q => q.toLower.toList) :=
  toList_lower_text_of_ascii (isAscii_intercalate fun _ hq => isIdentifier_of_mem_parts hvalid hq)

/-- Accepted configurations of one qualified name in lower case name the same parts, up to letter
case. -/
theorem toLower_parts_of_lower_text_eq (hvalid : config.validate = .ok ())
    (hvalid' : config'.validate = .ok ())
    (h : Text.lower config.routine.text = Text.lower config'.routine.text) :
    config.routine.qualifiers.map String.toLower = config'.routine.qualifiers.map String.toLower ∧
      config.routine.name.toLower = config'.routine.name.toLower := by
  have hsplit : ∀ {config : CallConfig}, config.validate = .ok () →
      (Text.lower config.routine.text).toList.splitOn '.' =
        (config.routine.qualifiers ++ [config.routine.name]).map fun q => q.toLower.toList := by
    intro config hvalid
    rw [toList_lower_text hvalid, List.splitOn_intercalate _ _ (by simp)]
    intro part hpart
    obtain ⟨q, hq, rfl⟩ := List.mem_map.1 hpart
    exact (CallShape.isIdentifier_toLower (isIdentifier_of_mem_parts hvalid hq)).not_mem (by decide)
  have hparts : ((config.routine.qualifiers ++ [config.routine.name]).map String.toLower).map
      String.toList = ((config'.routine.qualifiers ++ [config'.routine.name]).map
        String.toLower).map String.toList := by
    rw [List.map_map, List.map_map]
    rw [Function.comp_def, ← hsplit hvalid, h]
    exact hsplit hvalid'
  have heq := List.map_injective_iff.2 (fun _ _ => String.toList_inj.1) hparts
  rw [List.map_append, List.map_append] at heq
  obtain ⟨hqualifiers, hname⟩ := List.append_inj' heq rfl
  exact ⟨hqualifiers, List.singleton_inj.1 hname⟩

end

/-! ### What definitions of one key must agree on -/

namespace CallDefinition

/-- The return name does not matter: a declared output always takes its place. -/
structure HidesReturnName (call : CallDefinition) : Prop where
  isFunction : call.config.isFunction = true
  columns_unused : call.config.useColumns = false
  declared_output : ∀ info, ∃ k ∈ keptOf (call.dialectFor info).value call.declared,
    k.isOutput = true

/-- What two definitions of one key must have in common to compile alike. -/
structure Agree (a b : CallDefinition) : Prop where
  /-- The parts that are not empty play the same roles. -/
  catalog : (a.config.routine.catalog.filter (· ≠ "")).map String.toLower =
    (b.config.routine.catalog.filter (· ≠ "")).map String.toLower
  schema : (a.config.routine.schema.filter (· ≠ "")).map String.toLower =
    (b.config.routine.schema.filter (· ≠ "")).map String.toLower
  /-- If columns are looked up, no part is empty in one and absent in the other. -/
  absent : a.config.useColumns = true →
    a.config.routine.catalog.isSome = b.config.routine.catalog.isSome ∧
      a.config.routine.schema.isSome = b.config.routine.schema.isSome
  returnName : a.config.returnName.toLower = b.config.returnName.toLower ∨ a.HidesReturnName
  /-- Where columns are looked up, the input names are the same by the rules of the database, those
  apart that are declared. -/
  inputNames : ∀ info, (a.dialectFor info).value.columnsUsed = true → ∀ key,
    (∀ p ∈ a.declared, ∀ n, p.name = some n → (a.dialectFor info).value.normalize n ≠ key) →
      (key ∈ a.config.inputNames.map (a.dialectFor info).value.normalize ↔
        key ∈ b.config.inputNames.map (b.dialectFor info).value.normalize)

/-- The context in which a call is compiled for a database. -/
def contextFor (call : CallDefinition) (info : DatabaseInfo) : CallContext :=
  .start call.config (call.dialectFor info).value

variable {a b : CallDefinition}

theorem dialectFor_of_key_eq (hkey : a.key = b.key) (info : DatabaseInfo) :
    (a.dialectFor info).value = (b.dialectFor info).value := by
  have hfunction : a.config.isFunction = b.config.isFunction := congrArg CallKey.isFunction hkey
  have hcolumns : a.config.useColumns = b.config.useColumns := congrArg CallKey.useColumns hkey
  rw [dialectFor, dialectFor, hfunction, hcolumns]

theorem sameKind_of_key_eq (hkey : a.key = b.key) (info : DatabaseInfo) :
    (a.contextFor info).SameKind (b.contextFor info) a.declared b.declared where
  dialect := dialectFor_of_key_eq hkey info
  isFunction := congrArg CallKey.isFunction hkey
  returnRequired := congrArg CallKey.returnRequired hkey
  columnsUsed := by
    have hcolumns : a.config.useColumns = b.config.useColumns := congrArg CallKey.useColumns hkey
    simp only [CallContext.columnsUsed, contextFor, CallContext.start, hcolumns,
      dialectFor_of_key_eq hkey info]
  keys := congrArg CallKey.declared hkey

theorem columnsUsed_contextFor (call : CallDefinition) (info : DatabaseInfo) :
    (call.contextFor info).columnsUsed = (call.dialectFor info).value.columnsUsed := by
  show (call.config.useColumns && (call.config.useColumns && _)) = (call.config.useColumns && _)
  rw [← Bool.and_assoc, Bool.and_self]

theorem wants_eq_iff (hkey : a.key = b.key) (info : DatabaseInfo) (key : String) :
    ((a.contextFor info).plan a.declared).wants key =
        ((b.contextFor info).plan b.declared).wants key ↔
      (key ∈ a.config.inputNames.map (a.dialectFor info).value.normalize ↔
        key ∈ b.config.inputNames.map (b.dialectFor info).value.normalize) := by
  have hempty := isEmpty_of_nameSet_eq (congrArg CallKey.inputNames hkey)
  have hwants : ∀ call : CallDefinition, ((call.contextFor info).plan call.declared).wants key =
      (call.config.inputNames.isEmpty ||
        decide (key ∈ call.config.inputNames.map (call.dialectFor info).value.normalize)) := by
    intro call
    rw [← List.isEmpty_map (f := (call.dialectFor info).value.normalize)]
    rfl
  rw [hwants, hwants]
  cases ha : a.config.inputNames with
  | nil =>
    rw [ha, List.isEmpty_nil, eq_comm, List.isEmpty_iff] at hempty
    simp [hempty]
  | cons n ns =>
    rw [ha, List.isEmpty_cons, eq_comm] at hempty
    rw [hempty, List.isEmpty_cons, Bool.false_or, Bool.false_or, decide_eq_decide]

/-! ### What is observed -/

/-- What is observed of a compilation with given columns. -/
def observedWith (call : CallDefinition) (info : DatabaseInfo) (columns : List Column) :
    Except ErrorKind (String × ParameterList) :=
  foldOutcome (fun l => (((call.contextFor info).callText l).toLower, l.folded))
    ((call.contextFor info).reconcile call.declared columns).outcome

section

variable {call : CallDefinition} {source : MetadataSource} {info : DatabaseInfo}

theorem foldOutcome_compileWith (hvalid : call.config.validate = .ok ()) (info : DatabaseInfo)
    (columns : List Column) :
    foldOutcome (fun compiled => (compiled.text.toLower, compiled.parameters.folded))
        (call.compileWith (call.dialectFor info).value columns).outcome =
      call.observedWith info columns := by
  rw [outcome_compileWith, hvalid]
  unfold observedWith contextFor
  show foldOutcome _ (Except.map _ _) = _
  cases ((CallContext.start call.config (call.dialectFor info).value).reconcile call.declared
    columns).outcome <;> rfl

theorem observed_of_unused (hvalid : call.config.validate = .ok ()) (hinfo : source.info = info)
    (hunused : (call.dialectFor info).value.columnsUsed = false) :
    call.observed source = call.observedWith info [] := by
  rw [observed, outcome_compile hvalid, outcome_columnsFrom, hinfo, hunused]
  exact foldOutcome_compileWith hvalid info []

theorem observed_of_columns (hvalid : call.config.validate = .ok ()) (hinfo : source.info = info)
    (hused : (call.dialectFor info).value.columnsUsed = true) {columns : List Column}
    (hcolumns : (source.loadColumns
      ((call.dialectFor info).value.lookupName call.config.routine)).value = .ok columns) :
    call.observed source = call.observedWith info columns := by
  rw [observed, outcome_compile hvalid, outcome_columnsFrom, hinfo, hused, if_pos rfl, hcolumns]
  exact foldOutcome_compileWith hvalid info columns

theorem observed_of_error (hvalid : call.config.validate = .ok ()) (hinfo : source.info = info)
    (hused : (call.dialectFor info).value.columnsUsed = true) {e : MetadataError}
    (herror : (source.loadColumns
      ((call.dialectFor info).value.lookupName call.config.routine)).value = .error e) :
    call.observed source = .error e.kind := by
  rw [observed, outcome_compile hvalid, outcome_columnsFrom, hinfo, hused, if_pos rfl, herror]
  rfl

end

/-! ### Definitions that agree -/

/-- Parts that are alike where they are not empty, and absent in the same cases, are alike. -/
theorem map_toLower_eq_of_filter {p q : Option String}
    (hfilter : (p.filter (· ≠ "")).map String.toLower = (q.filter (· ≠ "")).map String.toLower)
    (habsent : p.isSome = q.isSome) : p.map String.toLower = q.map String.toLower := by
  cases p with
  | none =>
    cases q with
    | none => rfl
    | some t => cases habsent
  | some s =>
    cases q with
    | none => cases habsent
    | some t =>
      by_cases hs : s = "" <;> by_cases ht : t = "" <;> simp_all [Option.filter]

namespace Agree

theorem alike (h : a.Agree b) (hkey : a.key = b.key) (info : DatabaseInfo) :
    (a.contextFor info).Alike (b.contextFor info) a.declared b.declared where
  toSameKind := sameKind_of_key_eq hkey info
  returnName := by
    rcases h.returnName with hname | hhides
    · exact Or.inl hname
    · have hunused : (a.contextFor info).columnsUsed = false := by
        show (a.config.useColumns && _) = false
        rw [hhides.columns_unused, Bool.false_and]
      exact Or.inr ⟨hunused, hhides.isFunction, hhides.declared_output info⟩
  wants := by
    intro hused key hundeclared
    rw [columnsUsed_contextFor] at hused
    exact (wants_eq_iff hkey info key).2 (h.inputNames info hused key hundeclared)

variable (ha : a.config.validate = .ok ()) (hb : b.config.validate = .ok ())

include ha hb

theorem toLower_callText (h : a.Agree b) (hkey : a.key = b.key) (info : DatabaseInfo)
    {l l' : ParameterList} (hl : l.folded = l'.folded) :
    ((a.contextFor info).callText l).toLower = ((b.contextFor info).callText l').toLower := by
  have hsame := sameKind_of_key_eq hkey info
  have hname := (toLower_parts_of_lower_text_eq ha hb (congrArg CallKey.name hkey)).2
  refine (CallContext.toLower_callText_eq_iff ha hb).2
    ⟨hsame.bindsReturn, ?_, ?_, CallContext.placeholders_congr hsame.bindsReturn hl⟩
  · have hlist : ∀ {p q : Option String}, p.map String.toLower = q.map String.toLower →
        p.toList.map String.toLower = q.toList.map String.toLower := by
      intro p q hpq
      rw [← Option.toList_map, ← Option.toList_map, hpq]
    rw [CallContext.qualifiersInCall_of_validate ha, CallContext.qualifiersInCall_of_validate hb,
      List.map_append, List.map_append, hsame.dialect]
    exact congrArg₂ (· ++ ·) (hlist (Dialect.catalogInCall_congr _ h.catalog))
      (hlist (Dialect.schemaInCall_congr _ h.schema))
  · rw [hsame.dialect]
    exact Dialect.identifier_congr _ hname

theorem observedWith_eq (h : a.Agree b) (hkey : a.key = b.key) (info : DatabaseInfo)
    (columns : List Column) : a.observedWith info columns = b.observedWith info columns := by
  have hlist := (h.alike hkey info).reconcile columns
  unfold observedWith
  cases hx : ((a.contextFor info).reconcile a.declared columns).outcome with
  | error e =>
    cases hy : ((b.contextFor info).reconcile b.declared columns).outcome with
    | error e' =>
      rw [hx, hy] at hlist
      exact congrArg Except.error (Except.error.inj hlist)
    | ok l' =>
      rw [hx, hy] at hlist
      cases hlist
  | ok l =>
    cases hy : ((b.contextFor info).reconcile b.declared columns).outcome with
    | error e' =>
      rw [hx, hy] at hlist
      cases hlist
    | ok l' =>
      rw [hx, hy] at hlist
      have hl : l.folded = l'.folded := Except.ok.inj hlist
      simp only [foldOutcome, hl, h.toLower_callText ha hb hkey info hl]

/-- Definitions of one key that agree are looked up by filters that admit the same routines. -/
theorem admits_eq (h : a.Agree b) (hkey : a.key = b.key) (info : DatabaseInfo)
    (hcolumns : a.config.useColumns = true) (n : RoutineName) :
    ((a.dialectFor info).value.lookupName a.config.routine).admits n =
      ((b.dialectFor info).value.lookupName b.config.routine).admits n := by
  have hname := (toLower_parts_of_lower_text_eq ha hb (congrArg CallKey.name hkey)).2
  have hfolded : a.config.routine.folded = b.config.routine.folded := by
    simp only [RoutineName.folded, hname,
      map_toLower_eq_of_filter h.catalog (h.absent hcolumns).1,
      map_toLower_eq_of_filter h.schema (h.absent hcolumns).2]
  rw [dialectFor_of_key_eq hkey info]
  exact RoutineName.admits_congr (Dialect.lookupName_congr _ hfolded) n

theorem observed_eq (h : a.Agree b) (hkey : a.key = b.key) (source : MetadataSource) :
    a.observed source = b.observed source := by
  have hdialect := dialectFor_of_key_eq hkey source.info
  cases hused : (a.dialectFor source.info).value.columnsUsed with
  | false =>
    rw [observed_of_unused ha rfl hused, observed_of_unused hb rfl (hdialect ▸ hused),
      h.observedWith_eq ha hb hkey]
  | true =>
    have hused' : (b.dialectFor source.info).value.columnsUsed = true := hdialect ▸ hused
    have hcolumns : a.config.useColumns = true := (Bool.and_eq_true_iff.1 hused).1
    have hload := loadColumns_congr source fun s _ =>
      h.admits_eq ha hb hkey source.info hcolumns s.routine
    cases hx : (source.loadColumns
        ((a.dialectFor source.info).value.lookupName a.config.routine)).value with
    | error e =>
      cases hy : (source.loadColumns
          ((b.dialectFor source.info).value.lookupName b.config.routine)).value with
      | error e' =>
        rw [hx, hy] at hload
        rw [observed_of_error ha rfl hused hx, observed_of_error hb rfl hused' hy]
        exact congrArg Except.error (Except.error.inj hload)
      | ok columns' =>
        rw [hx, hy] at hload
        cases hload
    | ok columns =>
      cases hy : (source.loadColumns
          ((b.dialectFor source.info).value.lookupName b.config.routine)).value with
      | error e' =>
        rw [hx, hy] at hload
        cases hload
      | ok columns' =>
        rw [hx, hy] at hload
        have hcolumns' : columns = columns' := Except.ok.inj hload
        rw [observed_of_columns ha rfl hused hx, observed_of_columns hb rfl hused' hy,
          hcolumns', h.observedWith_eq ha hb hkey]

end Agree

end CallDefinition

end StoredCall
