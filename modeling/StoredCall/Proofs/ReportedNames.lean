import StoredCall.Proofs.ArgumentMatching
import StoredCall.Proofs.CaseForms
import StoredCall.Proofs.Provenance

/-!
# Names as the database reports them

Whether an argument under the reported name of a column reaches the parameter made for the column.
The rules of a dialect are applied to the name when the parameter is made, and to the result once
more when arguments are matched.

* `atSigns`: how many at-signs a name has, which letter case and underscores do not change;
* `Dialect.reaches_parameterName_iff`: a reported name reaches the name made of it unless the
  dialect has a second at-sign to drop;
* `CallContext.MadeFor`: the parameter is the one made for the column;
* `collect_of_one_value`: what arguments of one value are collected to;
* `matchArguments_reported`: the parameter made for a column gets the value under the reported name.
-/

namespace StoredCall

/-! ### At-signs -/

/-- How many at-signs a text has. -/
def atSigns (s : String) : ℕ := s.toList.count '@'

namespace Text

theorem count_at_upperChar (c : Char) : (upperChar c).count '@' = [c].count '@' := by
  by_cases hc : c = '@'
  · rw [hc]
    decide
  · rw [List.count_eq_zero_of_not_mem fun h => hc (eq_at_of_mem_upperChar h),
      List.count_eq_zero_of_not_mem fun h => hc (List.mem_singleton.1 h).symm]

theorem count_at_lowerChar (c : Char) : (lowerChar c).count '@' = [c].count '@' := by
  by_cases hc : c = '@'
  · rw [hc]
    decide
  · rw [List.count_eq_zero_of_not_mem fun h => hc (eq_at_of_mem_lowerChar h),
      List.count_eq_zero_of_not_mem fun h => hc (List.mem_singleton.1 h).symm]

theorem count_at_form {q : Prop} [Decidable q] (c : Char) :
    (if q then upperChar c else lowerChar c).count '@' = [c].count '@' := by
  split
  · exact count_at_upperChar c
  · exact count_at_lowerChar c

theorem count_at_cons (c : Char) (cs : List Char) :
    (c :: cs).count '@' = [c].count '@' + cs.count '@' := by
  rw [← List.count_append]
  rfl

theorem atSigns_upper (s : String) : atSigns (upper s) = atSigns s := by
  rw [atSigns, atSigns, upper, String.toList_ofList]
  induction s.toList with
  | nil => rfl
  | cons c cs ih =>
    rw [List.flatMap_cons, List.count_append, ih, count_at_upperChar, ← count_at_cons]

theorem count_at_lowerAfter (before cs : List Char) :
    (lowerAfter before cs).count '@' = cs.count '@' := by
  induction cs generalizing before with
  | nil => rfl
  | cons c cs ih =>
    have hform : (if c = 'Σ' then [if meetsCased before && !meetsCased cs then 'ς' else 'σ']
        else lowerChar c).count '@' = [c].count '@' := by
      split
      · rename_i hc
        rw [hc]
        split <;> decide
      · exact count_at_lowerChar c
    rw [lowerAfter, List.count_append, ih, hform, ← count_at_cons]

theorem atSigns_lower (s : String) : atSigns (lower s) = atSigns s := by
  rw [atSigns, lower, String.toList_ofList, count_at_lowerAfter]
  rfl

theorem count_at_propertyTail (capitalize : Bool) (cs : List Char) :
    (propertyTail capitalize cs).count '@' = cs.count '@' := by
  induction cs generalizing capitalize with
  | nil => rfl
  | cons c cs ih =>
    rw [propertyTail]
    split
    · rename_i hc
      rw [ih, hc, List.count_cons_of_ne (by decide)]
    · rw [List.count_append, ih, count_at_form, ← count_at_cons]

/-- A property name drops underscores, and changes the letter case of the rest. -/
theorem atSigns_propertyName (s : String) : atSigns (propertyName s) = atSigns s := by
  rw [atSigns, atSigns, propertyName, String.toList_ofList]
  cases s.toList with
  | nil => rfl
  | cons c cs =>
    rw [propertyChars, List.count_append, count_at_propertyTail, count_at_form, ← count_at_cons]

theorem atSigns_eq_of_alike {a b : String} (h : AlikeChars a.toList b.toList) :
    atSigns a = atSigns b := by
  have hmap : ∀ cs : List Char, (cs.map Char.toLower).count '@' = cs.count '@' := by
    intro cs
    induction cs with
    | nil => rfl
    | cons c cs ih =>
      have hc : c.toLower = '@' ↔ c = '@' :=
        ⟨eq_at_of_toLower_eq, fun h => by rw [h]; decide⟩
      simp only [List.map_cons, List.count_cons, ih, beq_iff_eq, hc]
  rw [atSigns, atSigns, ← hmap, ← hmap b.toList, h]

theorem hasAtSign_upper {s : String} (h : HasAtSign s.toList) : HasAtSign (upper s).toList := by
  obtain ⟨c, rest, hs⟩ := h
  obtain ⟨x, xs, hx⟩ : ∃ x xs, upperChar c = x :: xs :=
    List.exists_cons_of_ne_nil (caseForm_ne_nil (by decide) c)
  refine ⟨x, xs ++ rest.flatMap upperChar, ?_⟩
  rw [upper, String.toList_ofList, hs, List.flatMap_cons, List.flatMap_cons, hx]
  rfl

theorem hasAtSign_lower {s : String} (h : HasAtSign s.toList) : HasAtSign (lower s).toList := by
  obtain ⟨c, rest, hs⟩ := h
  obtain ⟨x, xs, hx⟩ : ∃ x xs, lowerAfter ['@'] (c :: rest) = x :: xs := by
    refine List.exists_cons_of_ne_nil ?_
    rw [lowerAfter]
    split
    · exact List.cons_ne_nil _ _
    · exact List.append_ne_nil_of_left_ne_nil (caseForm_ne_nil (by decide) c) _
  refine ⟨x, xs, ?_⟩
  rw [lower, String.toList_ofList, hs, lowerAfter, hx, if_neg (by decide)]
  rfl

end Text

/-! ### Names made of reported names -/

namespace Dialect

/-- The name begins with two at-signs, and something follows them. -/
def DoubleAtSign (n : String) : Prop := ∃ c rest, n.toList = '@' :: '@' :: c :: rest

variable {d : Dialect} {n : String}

theorem toList_dropAtSign {c : Char} {rest : List Char} (h : n.toList = '@' :: c :: rest) :
    (dropAtSign n).toList = c :: rest := by
  simp only [dropAtSign, h, String.toList_ofList]

theorem DoubleAtSign.hasAtSign (h : DoubleAtSign n) : Text.HasAtSign n.toList := by
  obtain ⟨c, rest, hn⟩ := h
  exact ⟨'@', c :: rest, hn⟩

theorem hasAtSign_dropAtSign_iff : Text.HasAtSign (dropAtSign n).toList ↔ DoubleAtSign n := by
  constructor
  · intro h
    by_cases hn : Text.HasAtSign n.toList
    · obtain ⟨c, rest, hn⟩ := hn
      obtain ⟨e, es, h⟩ := h
      rw [toList_dropAtSign hn] at h
      obtain ⟨rfl, rfl⟩ := List.cons.inj h
      exact ⟨e, es, hn⟩
    · rw [dropAtSign_eq_self_iff.2 hn] at h
      exact absurd h hn
  · rintro ⟨c, rest, hn⟩
    exact ⟨c, rest, toList_dropAtSign hn⟩

theorem atSigns_dropAtSign (h : Text.HasAtSign n.toList) :
    atSigns (dropAtSign n) + 1 = atSigns n := by
  obtain ⟨c, rest, hn⟩ := h
  rw [atSigns, atSigns, toList_dropAtSign hn, hn, List.count_cons_self]

theorem atSigns_identifier : atSigns (d.identifier n) = atSigns n := by
  unfold identifier identifierCase
  split
  · exact Text.atSigns_upper n
  · split
    · exact Text.atSigns_lower n
    · rfl

theorem hasAtSign_identifier (h : Text.HasAtSign n.toList) :
    Text.HasAtSign (d.identifier n).toList := by
  unfold identifier identifierCase
  split
  · exact Text.hasAtSign_upper h
  · split
    · exact Text.hasAtSign_lower h
    · exact h

theorem parameterName_of_atSign (hat : d.atSign = true) :
    d.parameterName n = d.identifier (dropAtSign n) := by
  rw [parameterName, if_pos hat]

theorem atSigns_parameterName (hat : d.atSign = true) (h : Text.HasAtSign n.toList) :
    atSigns (d.parameterName n) + 1 = atSigns n := by
  rw [parameterName_of_atSign hat, atSigns_identifier, atSigns_dropAtSign h]

theorem atSigns_normalize : atSigns (d.normalize n) = atSigns (d.parameterName n) :=
  Text.atSigns_lower _

/-- The argument of one name is one that a parameter of the other may take. -/
def Reaches (d : Dialect) (argument parameter : String) : Prop :=
  d.normalize argument = d.normalize parameter ∨
    sameProperty argument (d.parameterName parameter) = true

theorem atSigns_of_sameProperty {a b : String} (h : sameProperty a b = true) :
    atSigns a = atSigns b := by
  rw [← Text.atSigns_propertyName a, ← Text.atSigns_propertyName b]
  exact Text.atSigns_eq_of_alike (Text.sameLetters_iff.1 h)

/-- A reported name reaches the parameter name made of it, unless a second at-sign is dropped. -/
theorem reaches_parameterName_iff :
    d.Reaches n (d.parameterName n) ↔ ¬(d.atSign = true ∧ DoubleAtSign n) := by
  constructor
  · rintro h ⟨hat, hdouble⟩
    -- each application of the rules drops one of the at-signs
    have hfirst : atSigns (d.parameterName n) + 1 = atSigns n :=
      atSigns_parameterName hat hdouble.hasAtSign
    have hsecond : atSigns (d.parameterName (d.parameterName n)) + 1 =
        atSigns (d.parameterName n) := by
      refine atSigns_parameterName hat ?_
      rw [parameterName_of_atSign hat]
      exact hasAtSign_identifier (hasAtSign_dropAtSign_iff.2 hdouble)
    rcases h with h | h
    · have := congrArg atSigns h
      rw [atSigns_normalize, atSigns_normalize] at this
      omega
    · have := atSigns_of_sameProperty h
      omega
  · intro h
    refine Or.inl (normalize_parameterName fun hat => ?_).symm
    rw [dropAtSign_eq_self_iff, hasAtSign_dropAtSign_iff]
    exact fun hdouble => h ⟨hat, hdouble⟩

end Dialect

/-! ### Parameters made for columns -/

namespace Plan

variable {plan : Plan} {d : Draft} {columns : List Column} {column : Column} {v : Decision}

theorem length_decisions_le : (plan.decisions d columns).length ≤ columns.length := by
  induction columns generalizing d with
  | nil => exact Nat.le_refl _
  | cons column rest ih =>
    rw [decisions]
    split
    · simp
    · exact Nat.succ_le_succ ih

theorem mem_decisions_iff :
    v ∈ plan.decisions d columns ↔
      ∃ column, (column, v) ∈ columns.zip (plan.decisions d columns) := by
  have hzip : (columns.zip (plan.decisions d columns)).map (·.2) = plan.decisions d columns :=
    List.map_snd_zip length_decisions_le
  conv_lhs => rw [← hzip]
  simp [List.mem_map]

theorem verdict_of_mem_zip (h : (column, v) ∈ columns.zip (plan.decisions d columns)) :
    ∃ d', plan.Verdict d' column v := by
  induction columns generalizing d with
  | nil => cases h
  | cons first rest ih =>
    rw [decisions, List.zip_cons_cons, List.mem_cons] at h
    rcases h with h | h
    · obtain ⟨rfl, rfl⟩ := Prod.mk.inj h
      exact ⟨d, plan.verdict d column⟩
    · split at h
      · simp at h
      · exact ih h

end Plan

theorem entries_foldl_apply (vs : List Decision) (d : Draft) :
    (vs.foldl Draft.apply d).entries =
      d.entries ++ vs.flatMap fun v => v.placement?.toList.map (·.2) := by
  induction vs generalizing d with
  | nil => exact (List.append_nil _).symm
  | cons v vs ih =>
    rw [List.foldl_cons, ih, Draft.entries_apply, List.flatMap_cons, List.append_assoc]

theorem Decision.placement?_synthesized_iff {v : Decision} {p : Parameter} :
    (∃ key, v.placement? = some (key, .synthesized p)) ↔
      ∃ role name kind, v = .add role name kind p := by
  constructor
  · rintro ⟨key, h⟩
    cases v with
    | add role name kind q =>
      cases h
      exact ⟨role, name, kind, rfl⟩
    | _ => cases h
  · rintro ⟨role, name, kind, rfl⟩
    exact ⟨_, rfl⟩

/-- The parameter is the one made for the column. -/
def CallContext.MadeFor (c : CallContext) (declared : List Parameter) (columns : List Column)
    (column : Column) (p : Parameter) : Prop :=
  ∃ role name kind, (column, Decision.add role name kind p) ∈
    (inOrdinalOrder columns).zip (c.decisions declared columns)

section

variable {c : CallContext} {declared : List Parameter} {columns : List Column} {column : Column}
  {l : ParameterList} {p : Parameter} {n : String}

/-- The parameters that nobody declared are those made for columns. -/
theorem mem_entries_iff_madeFor (hused : c.columnsUsed = true)
    (h : (c.reconcile declared columns).outcome = .ok l) :
    .synthesized p ∈ l.entries ↔ ∃ column, c.MadeFor declared columns column p := by
  obtain ⟨last, run, rfl⟩ := CallContext.run_of_reconcile hused h
  have hentries : last.finish.entries = (c.draft declared columns).entries ++
      (c.decisions declared columns).flatMap fun v => v.placement?.toList.map (·.2) := by
    rw [← entries_foldl_apply]
    exact congrArg Draft.entries (Plan.run_iff.1 run).2.symm
  have hsets : .synthesized p ∉ (c.draft declared columns).entries := by
    intro hmem
    rw [CallContext.draft, resultSetsOf_eq] at hmem
    obtain ⟨i, q, -, -, heq⟩ := mem_declaredResultSets.1 hmem
    cases heq
  calc .synthesized p ∈ last.finish.entries
      ↔ ∃ v ∈ c.decisions declared columns, ∃ key, v.placement? = some (key, .synthesized p) := by
        rw [hentries, List.mem_append, or_iff_right hsets]
        simp [List.mem_flatMap]
    _ ↔ ∃ column v, (column, v) ∈ (inOrdinalOrder columns).zip (c.decisions declared columns) ∧
          ∃ role name kind, v = .add role name kind p := by
        simp only [Decision.placement?_synthesized_iff, CallContext.decisions,
          Plan.mem_decisions_iff]
        constructor
        · rintro ⟨v, ⟨column, hmem⟩, hadd⟩
          exact ⟨column, v, hmem, hadd⟩
        · rintro ⟨column, v, hmem, hadd⟩
          exact ⟨v, ⟨column, hmem⟩, hadd⟩
    _ ↔ ∃ column, c.MadeFor declared columns column p := by
        constructor
        · rintro ⟨column, v, hmem, role, name, kind, rfl⟩
          exact ⟨column, role, name, kind, hmem⟩
        · rintro ⟨column, role, name, kind, hmem⟩
          exact ⟨column, _, hmem, role, name, kind, rfl⟩

theorem CallContext.MadeFor.name (h : c.MadeFor declared columns column p)
    (hn : column.name = some n) :
    p.name = some (c.dialect.parameterName n) ∧ (Entry.synthesized p).isResultSet = false := by
  obtain ⟨role, name, kind, hmem⟩ := h
  obtain ⟨d, hv⟩ := Plan.verdict_of_mem_zip hmem
  have horigin := hv.origin (rfl : _ = some (Text.lower name, Entry.synthesized p))
  generalize Text.lower name = key at horigin
  refine ⟨?_, horigin.no_resultSet fun _ hk => no_resultSet_of_mem_kept hk⟩
  cases horigin with
  | named m q named free undeclared direction hname =>
    obtain ⟨n', hn', rfl⟩ := Plan.nameOf_eq_some named
    obtain rfl : n' = n := Option.some.inj (hn'.symm.trans hn)
    exact hname
  | unnamed q kind unnamed =>
    rw [Option.map_eq_none_iff.1 unnamed] at hn
    cases hn

theorem CallContext.MadeFor.mem_bindableNames (h : c.MadeFor declared columns column p)
    (hn : column.name = some n) (hmem : .synthesized p ∈ l.entries) :
    c.dialect.parameterName n ∈ l.bindableNames := by
  obtain ⟨hname, hset⟩ := h.name hn
  refine List.mem_filterMap.2 ⟨.synthesized p, List.mem_filter.2 ⟨hmem, ?_⟩, hname⟩
  simpa using hset

end

/-! ### A single argument -/

section

variable {d : Dialect} {l : ParameterList} {source : ArgumentSource} {n : String} {v : Value}

theorem argumentFor?_single_isSome {p : String} :
    (d.argumentFor? [n] p).isSome ↔ d.Reaches n p := by
  simp [Dialect.argumentFor?, Dialect.Reaches]

theorem mem_parameters_single {p : String} :
    p ∈ (d.bindings l [n]).map (·.parameter) ↔ p ∈ l.bindableNames ∧ d.Reaches n p := by
  rw [← argumentFor?_single_isSome, Option.isSome_iff_exists, List.mem_map]
  constructor
  · rintro ⟨⟨q, i, a⟩, hb, rfl⟩
    obtain ⟨hq, hselects⟩ := mem_bindings_iff.1 hb
    exact ⟨hq, _, argumentFor?_eq_some_iff.2 hselects⟩
  · rintro ⟨hp, ⟨a, i⟩, ha⟩
    exact ⟨⟨p, i, a⟩, mem_bindings_iff.2 ⟨hp, argumentFor?_eq_some_iff.1 ha⟩, rfl⟩

theorem collect_of_one_value {bs : List Binding} (vs : NamedValues)
    (h : ∀ b ∈ bs, source.value b.argument = .ok (some v)) :
    ∃ ws, Dialect.collect source bs vs = .ok ws ∧
      ∀ p, ws.get? p = if p ∈ bs.map (·.parameter) then some v else vs.get? p := by
  induction bs generalizing vs with
  | nil => exact ⟨vs, rfl, fun p => (if_neg List.not_mem_nil).symm⟩
  | cons b rest ih =>
    obtain ⟨hb, hrest⟩ := List.forall_mem_cons.1 h
    obtain ⟨ws, hws, hget⟩ := ih (vs.insert b.parameter v) hrest
    refine ⟨ws, ?_, fun p => ?_⟩
    · rw [Dialect.collect, hb]
      exact hws
    · simp only [hget, NamedValues.get?_insert, List.map_cons, List.mem_cons]
      by_cases hp : p = b.parameter <;> by_cases hlater : p ∈ rest.map (·.parameter) <;>
        simp [hp, hlater]

theorem matchArguments_single (hnames : source.names = [n])
    (hvalue : source.value n = .ok (some v)) :
    ∃ vs, (d.matchArguments l source).outcome = .ok vs ∧ ∀ p ∈ l.bindableNames,
      (d.Reaches n p → vs.get? p = some v) ∧ (¬d.Reaches n p → vs.get? p = none) := by
  have hvalues : ∀ b ∈ d.bindings l source.names, source.value b.argument = .ok (some v) := by
    intro b hb
    have hmem := List.mem_of_getElem? (getElem?_of_mem_bindings hb)
    rw [hnames, List.mem_singleton] at hmem
    rw [hmem, hvalue]
  obtain ⟨vs, hvs, hget⟩ := collect_of_one_value .empty hvalues
  rw [hnames] at hget
  refine ⟨vs, outcome_matchArguments_eq_ok_iff.2 hvs, fun p hp => ⟨fun h => ?_, fun h => ?_⟩⟩
  · rw [hget, if_pos (mem_parameters_single.2 ⟨hp, h⟩)]
  · rw [hget, if_neg fun hmem => h (mem_parameters_single.1 hmem).2]
    rfl

end

/-! ### The reported name of a column -/

/-- The parameters that nobody declared are those made for columns. An argument under the reported
name of its column gives such a parameter its value, if it is the only one. Where the dialect drops
at-signs and the reported name begins with two, the parameter gets nothing. -/
theorem matchArguments_reported (c : CallContext) (declared : List Parameter)
    (columns : List Column) {l : ParameterList} (hused : c.columnsUsed = true)
    (h : (c.reconcile declared columns).outcome = .ok l) :
    (∀ p, .synthesized p ∈ l.entries ↔ ∃ column, c.MadeFor declared columns column p) ∧
      ∀ column p n, c.MadeFor declared columns column p → column.name = some n →
        ∃ m, p.name = some m ∧ ∀ source v, source.names = [n] → source.value n = .ok (some v) →
          ∃ vs, (c.dialect.matchArguments l source).outcome = .ok vs ∧
            (¬(c.dialect.atSign = true ∧ Dialect.DoubleAtSign n) → vs.get? m = some v) ∧
            (c.dialect.atSign = true ∧ Dialect.DoubleAtSign n → vs.get? m = none) := by
  refine ⟨fun p => mem_entries_iff_madeFor hused h, fun column p n hmade hn => ?_⟩
  refine ⟨c.dialect.parameterName n, (hmade.name hn).1, fun source v hnames hvalue => ?_⟩
  have hmem : c.dialect.parameterName n ∈ l.bindableNames :=
    hmade.mem_bindableNames hn ((mem_entries_iff_madeFor hused h).2 ⟨column, hmade⟩)
  obtain ⟨vs, hvs, hget⟩ := matchArguments_single (l := l) hnames hvalue
  obtain ⟨hreached, hnot⟩ := hget _ hmem
  refine ⟨vs, hvs, fun hsingle => ?_, fun hdouble => ?_⟩
  · exact hreached (Dialect.reaches_parameterName_iff.2 hsingle)
  · exact hnot fun hreaches => Dialect.reaches_parameterName_iff.1 hreaches hdouble

/-- The parameter made for a column `@user_name` gets the value under that name. -/
theorem matchArguments_reported_add_user :
    let c := CallContext.start (.procedure "add_user") (.sqlServer Fixtures.sqlServer)
    let columns := Fixtures.sqlServerAddUser.columns
    let column := Fixtures.column "@user_name" .input .nvarchar 1
    let p := Dialect.defaultInput "user_name" column
    let source := ArgumentSource.ofValues (.ofPairs [("@user_name", .text "Bob")])
    c.columnsUsed = true ∧ c.MadeFor [] columns column p ∧ ¬Dialect.DoubleAtSign "@user_name" ∧
      ∃ l, (c.reconcile [] columns).outcome = .ok l ∧ .synthesized p ∈ l.entries ∧
        ∃ vs, (c.dialect.matchArguments l source).outcome = .ok vs ∧
          vs.get? "user_name" = some (.text "Bob") := by
  intro c columns column p source
  have hused : c.columnsUsed = true := rfl
  have hsorted : inOrdinalOrder columns = columns := List.mergeSort_of_pairwise (by decide)
  have hmade : c.MadeFor [] columns column p := by
    refine ⟨.input, "user_name", .input, ?_⟩
    rw [CallContext.decisions, hsorted]
    exact List.mem_of_getElem? (i := 1) rfl
  have hsingle : ¬Dialect.DoubleAtSign "@user_name" := by
    rw [← Dialect.hasAtSign_dropAtSign_iff, ← Dialect.dropAtSign_eq_self_iff]
    decide
  obtain ⟨l, hl⟩ := c.exists_reconcile_of_procedure [] columns rfl
  obtain ⟨hentries, hvalues⟩ := matchArguments_reported c [] columns hused hl
  obtain ⟨m, hm, hmatched⟩ := hvalues column p "@user_name" hmade rfl
  obtain rfl : "user_name" = m := Option.some.inj hm
  obtain ⟨vs, hvs, hget, -⟩ := hmatched source (.text "Bob") rfl rfl
  exact ⟨hused, hmade, hsingle, l, hl, (hentries p).2 ⟨column, hmade⟩, vs, hvs,
    hget fun h => hsingle h.2⟩

/-- The parameter made for a column `@@x` does not get the value under that name. -/
theorem second_at_sign_unmatched :
    let c := CallContext.start (.procedure "p") (.sqlServer Fixtures.sqlServer)
    let column := Fixtures.column "@@x" .input .integer 1
    let source := ArgumentSource.ofValues (.ofPairs [("@@x", .int 7)])
    ∃ l, (c.reconcile [] [column]).outcome = .ok l ∧
      l.entries = [.synthesized (Dialect.defaultInput "@x" column)] ∧
      ∃ vs, (c.dialect.matchArguments l source).outcome = .ok vs ∧ vs.entries = [] := by
  intro c column source
  have hsorted : inOrdinalOrder [column] = [column] := List.mergeSort_of_pairwise (by decide)
  let last := (c.draft [] [column]).apply ((c.plan []).decisionFor (c.draft [] [column]) column)
  have run : (c.plan []).Run (c.draft [] [column]) [column] last :=
    .cons (by decide +kernel) (.nil _)
  have hbindings : c.dialect.bindings last.finish source.names = [] := by decide +kernel
  refine ⟨_, CallContext.reconcile_of_run rfl hsorted run, rfl, .empty,
    outcome_matchArguments_eq_ok_iff.2 ?_, rfl⟩
  rw [Dialect.matchedValues, hbindings]
  rfl

end StoredCall
