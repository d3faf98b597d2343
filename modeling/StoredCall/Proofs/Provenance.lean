import StoredCall.Fixtures
import StoredCall.Proofs.ColumnRun
import StoredCall.Proofs.OrdinalOrder

/-!
# Where the parameters of a call come from

With columns in use, the parameters of a call are the declared result sets and then entries that
stand for columns, each of them declared or made for its column.

* `Plan.Origin`: what stands behind one placed entry; `Plan.Verdict.origin` reads it off the
  decision;
* `Plan.Run.placements`: a run places its entries for some of its columns, in their order, and no
  two declared ones or named columns under one normalized name;
* `Provenance`: the same said of a parameter list, by positions of declarations and columns;
* `exists_provenance`: every parameter list that columns take part in has a provenance.
-/

namespace StoredCall

/-! ### Parameters made for columns -/

/-- The direction of the parameter made for a column of the kind. -/
def ColumnKind.direction : ColumnKind → Direction
  | input | unknown | result => .input
  | output | returned => .output
  | inOut => .inOut

namespace Dialect

variable (d : Dialect) (n : String) (column : Column)

theorem direction_defaultOutput : (d.defaultOutput n column).direction = .output := by
  unfold defaultOutput
  split <;> (try split) <;> rfl

theorem name_defaultOutput : (d.defaultOutput n column).name = some n := by
  unfold defaultOutput
  split <;> (try split) <;> rfl

end Dialect

/-! ### The origin of one entry -/

namespace Plan

variable {plan : Plan} {draft d last : Draft} {column : Column} {v : Decision} {key : String}
  {entry : Entry}

/-- What stands behind an entry that is placed for a column under a normalized name, when other
names are taken already. -/
inductive Origin (plan : Plan) (taken : List String) (returnName : String) (column : Column) :
    String → Entry → Prop
  | declared (k : Kept) (kept : k ∈ plan.kept) (free : k.key ∉ taken)
      (matching : column.kind = .returned ∨
        ∃ n, plan.nameOf column = some n ∧ Text.lower n = k.key) :
      Origin plan taken returnName column k.key k.entry
  | named (n : String) (p : Parameter) (named : plan.nameOf column = some n)
      (free : Text.lower n ∉ taken) (undeclared : ∀ k ∈ plan.kept, k.key ≠ Text.lower n)
      (direction : p.direction = column.kind.direction) (name : p.name = some n) :
      Origin plan taken returnName column (Text.lower n) (.synthesized p)
  | unnamed (p : Parameter) (kind : column.kind = .returned) (unnamed : plan.nameOf column = none)
      (procedure : plan.isFunction = false) (direction : p.direction = .output)
      (name : p.name = some returnName) :
      Origin plan taken returnName column (Text.lower returnName) (.synthesized p)

/-- An entry placed with many names taken could be placed with fewer. -/
theorem Origin.mono {taken taken' : List String} {returnName returnName' : String}
    (h : plan.Origin taken' returnName' column key entry) (hsub : taken ⊆ taken')
    (hname : plan.isFunction = false → returnName' = returnName) :
    plan.Origin taken returnName column key entry := by
  cases h with
  | declared k kept free matching => exact .declared k kept (fun hm => free (hsub hm)) matching
  | named n p named free undeclared direction name =>
    exact .named n p named (fun hm => free (hsub hm)) undeclared direction name
  | unnamed p kind unnamed procedure direction name =>
    rw [hname procedure] at name ⊢
    exact .unnamed p kind unnamed procedure direction name

theorem Origin.no_resultSet {taken : List String} {returnName : String}
    (hkept : ∀ k ∈ plan.kept, k.parameter.isResultSet = false)
    (h : plan.Origin taken returnName column key entry) : entry.isResultSet = false := by
  cases h with
  | declared k kept => exact hkept k kept
  | named n p named free undeclared direction name =>
    have hdir : p.direction ≠ .resultSet := by
      rw [direction]
      cases column.kind <;> decide
    exact decide_eq_false hdir
  | unnamed p kind unnamed procedure direction name =>
    have hdir : p.direction ≠ .resultSet := by
      rw [direction]
      decide
    exact decide_eq_false hdir

theorem Verdict.origin (h : plan.Verdict draft column v) (hp : v.placement? = some (key, entry)) :
    plan.Origin draft.taken draft.returnName column key entry := by
  cases h with
  | alreadyBound | returnMissing | bypass | skipOutput | exclude | skipInput => cases hp
  | resolveReturn k kind function free found =>
    cases hp
    obtain ⟨hk, hfree⟩ := functionTaker?_eq_some found
    exact .declared k hk hfree (Or.inl kind)
  | reuseReturn k kind procedure free found =>
    cases hp
    obtain ⟨hk, hfree⟩ := returnReuse?_eq_some found
    exact .declared k hk hfree (Or.inl kind)
  | addReturn n kind procedure free found bound name =>
    cases hp
    have hdir : (plan.dialect.defaultOutput n column).direction = column.kind.direction := by
      rw [kind]; exact Dialect.direction_defaultOutput _ _ _
    cases hn : plan.nameOf column with
    | none =>
      obtain rfl : n = draft.returnName := by simpa [hn] using name
      exact .unnamed _ kind hn procedure (Dialect.direction_defaultOutput _ _ _)
        (Dialect.name_defaultOutput _ _ _)
    | some m =>
      obtain rfl : n = m := by simpa [hn] using name
      have hnone : plan.free? draft (Text.lower n) = none := by
        simp only [returnReuse?, hn, Option.bind_some, Option.or_eq_none_iff] at found
        exact found.1
      exact .named n _ hn (free n hn) (free?_eq_none hnone (free n hn)) hdir
        (Dialect.name_defaultOutput _ _ _)
  | reuseOutput n k kind named found =>
    cases hp
    obtain ⟨hk, he, hfree⟩ := free?_eq_some found
    exact .declared k hk (he ▸ hfree) (Or.inr ⟨n, named, he.symm⟩)
  | addOutput n kind named free found =>
    cases hp
    refine .named n _ named free (free?_eq_none found free) ?_ ?_
    · rcases kind with hkind | hkind <;> rw [hkind]
      · exact Dialect.direction_defaultOutput _ _ _
      · rfl
    · split
      · exact Dialect.name_defaultOutput _ _ _
      · rfl
  | reuseInput n k kind named found =>
    cases hp
    obtain ⟨hk, he, hfree⟩ := free?_eq_some found
    exact .declared k hk (he ▸ hfree) (Or.inr ⟨n, named, he.symm⟩)
  | addInput n kind named free found wanted =>
    cases hp
    refine .named n _ named free (free?_eq_none found free) ?_ rfl
    rcases kind with hkind | hkind | hkind <;> rw [hkind] <;> rfl

theorem Verdict.returnName_apply (h : plan.Verdict draft column v)
    (hf : plan.isFunction = false) : (draft.apply v).returnName = draft.returnName := by
  cases h with
  | resolveReturn k kind function => rw [hf] at function; cases function
  | _ => rfl

end Plan

/-! ### The origins of a run -/

/-- An entry with the column that it is placed for, the position of the column, and the normalized
name that it takes. -/
structure Placement where
  position : ℕ
  column : Column
  key : String
  entry : Entry

/-- The entry is placed for its column while the names are taken. -/
def Placement.From (plan : Plan) (taken : List String) (returnName : String) (p : Placement) :
    Prop :=
  plan.Origin taken returnName p.column p.key p.entry

/-- A run adds entries for some of its columns in their order, and no entry takes a name that an
earlier one has taken, an unnamed return value apart. -/
theorem Plan.Run.placements {plan : Plan} {d last : Draft} {columns : List Column}
    (run : plan.Run d columns last) (indexed : List (Column × ℕ))
    (hindexed : indexed.map (·.1) = columns) :
    ∃ ps : List Placement, last.entries = d.entries ++ ps.map (·.entry) ∧
      (ps.map fun p => (p.column, p.position)).Sublist indexed ∧
      (∀ p ∈ ps, p.From plan d.taken d.returnName) ∧
      ps.Pairwise fun a b => b.From plan [a.key] d.returnName := by
  induction run generalizing indexed with
  | nil d => exact ⟨[], by simp, List.nil_sublist _, by simp, List.Pairwise.nil⟩
  | @cons d last column rest decided later ih =>
    obtain ⟨⟨column', i⟩, indexed, rfl⟩ : ∃ x xs, indexed = x :: xs := by
      cases indexed with
      | nil => cases hindexed
      | cons x xs => exact ⟨x, xs, rfl⟩
    obtain ⟨rfl, hrest⟩ := List.cons.inj hindexed
    obtain ⟨ps, hentries, hsub, hfrom, hpairs⟩ := ih indexed hrest
    have hv := plan.verdict d column'
    set v := plan.decisionFor d column' with hvdef
    have hname : plan.isFunction = false → (d.apply v).returnName = d.returnName :=
      hv.returnName_apply
    -- a name that is free later is free now
    have hfrom' : ∀ p ∈ ps, p.From plan d.taken d.returnName :=
      fun p hp => (hfrom p hp).mono (d.taken_subset_apply v) hname
    have hpairs' : ps.Pairwise fun a b => b.From plan [a.key] d.returnName :=
      hpairs.imp fun h => h.mono (List.Subset.refl _) hname
    cases hplace : v.placement? with
    | none =>
      refine ⟨ps, ?_, hsub.cons _, hfrom', hpairs'⟩
      rw [hentries, Draft.entries_apply, hplace]
      simp
    | some x =>
      obtain ⟨key, entry⟩ := x
      refine ⟨⟨i, column', key, entry⟩ :: ps, ?_, hsub.cons_cons _, ?_, ?_⟩
      · rw [hentries, Draft.entries_apply, hplace]
        simp
      · exact List.forall_mem_cons.2 ⟨hv.origin hplace, hfrom'⟩
      · refine List.pairwise_cons.2 ⟨fun p hp => ?_, hpairs'⟩
        refine (hfrom p hp).mono ?_ hname
        rw [Draft.taken_apply, hplace]
        simp

/-! ### The provenance of a parameter list -/

/-- Where an entry for a column stems from: it is a declaration that takes part, of the column's
normalized name unless the column is a return value, or it is a parameter made for the column. -/
inductive Stems (c : CallContext) (declared : List Parameter) (column : Column) : Entry → Prop
  | declared (i : ℕ) (p : Parameter) (name : String) (kept : IsKept c.dialect declared i p name)
      (matching : column.kind = .returned ∨
        ∃ n, column.name = some n ∧ c.dialect.normalize n = c.dialect.normalize name) :
      Stems c declared column (.declared i p)
  | named (n : String) (p : Parameter) (named : column.name = some n)
      (direction : p.direction = column.kind.direction)
      (name : p.name = some (c.dialect.parameterName n)) : Stems c declared column (.synthesized p)
  | unnamedReturn (p : Parameter) (kind : column.kind = .returned) (unnamed : column.name = none)
      (direction : p.direction = .output) (name : p.name = some c.config.returnName) :
      Stems c declared column (.synthesized p)

/-- The parameter list consists of the declared result sets and of entries placed for columns. -/
structure Provenance (c : CallContext) (declared : List Parameter) (columns : List Column)
    (l : ParameterList) (placed : List Placement) : Prop where
  entries_eq : l.entries = declaredResultSets declared ++ placed.map (·.entry)
  no_resultSet : ∀ p ∈ placed, p.entry.isResultSet = false
  reported : ∀ p ∈ placed, columns[p.position]? = some p.column
  different_columns : (placed.map (·.position)).Nodup
  in_order : placed.Pairwise fun a b =>
    a.column.ordinal < b.column.ordinal ∨
      a.column.ordinal = b.column.ordinal ∧ a.position < b.position
  stems : ∀ p ∈ placed, Stems c declared p.column p.entry
  declared_once : (l.entries.filterMap (·.position?)).Nodup
  /-- No parameter is made for a column of a declared name. -/
  declared_wins : ∀ p ∈ placed, ∀ q, p.entry = .synthesized q → ∀ n, p.column.name = some n →
    ∀ x ∈ declared, ∀ m, x.name = some m → c.dialect.normalize m ≠ c.dialect.normalize n
  /-- No two parameters are made for columns of one normalized name. -/
  synthesized_once : placed.Pairwise fun a b =>
    ∀ q, a.entry = .synthesized q → ∀ r, b.entry = .synthesized r →
      ∀ n, a.column.name = some n → ∀ m, b.column.name = some m →
        c.dialect.normalize n ≠ c.dialect.normalize m

section

variable {c : CallContext} {declared : List Parameter} {columns : List Column} {l : ParameterList}
  {taken : List String} {returnName : String} {p : Placement}

theorem declaredReturnName_of_procedure (hf : c.config.isFunction = false) :
    c.declaredReturnName declared columns = c.config.returnName := by
  simp [CallContext.declaredReturnName, CallContext.returnTaker?, hf]

theorem Placement.From.stems
    (h : p.From (c.plan declared) taken (c.declaredReturnName declared columns)) :
    Stems c declared p.column p.entry := by
  obtain ⟨position, column, key, entry⟩ := p
  cases h with
  | declared k kept free matching =>
    obtain ⟨hkept, hkey⟩ := mem_keptOf_iff.1 kept
    refine .declared k.position k.parameter k.name hkept ?_
    rcases matching with hkind | ⟨n, hn, he⟩
    · exact Or.inl hkind
    · obtain ⟨m, hm, rfl⟩ := Plan.nameOf_eq_some hn
      exact Or.inr ⟨m, hm, he.trans hkey⟩
  | named n p named free undeclared direction name =>
    obtain ⟨m, hm, rfl⟩ := Plan.nameOf_eq_some named
    exact .named m p hm direction name
  | unnamed p kind unnamed procedure direction name =>
    rw [declaredReturnName_of_procedure procedure] at name
    exact .unnamedReturn p kind (Option.map_eq_none_iff.1 unnamed) direction name

theorem no_resultSet_of_mem_kept {k : Kept} (hk : k ∈ (c.plan declared).kept) :
    k.parameter.isResultSet = false :=
  (mem_keptOf_iff.1 hk).1.no_resultSet

/-- A parameter made for a named column takes a name that was free and that nobody declares. -/
theorem Placement.From.free_of_synthesized (h : p.From (c.plan declared) taken returnName)
    {q : Parameter} (hq : p.entry = .synthesized q) {n : String} (hn : p.column.name = some n) :
    p.key = c.dialect.normalize n ∧ c.dialect.normalize n ∉ taken ∧
      ∀ k ∈ keptOf c.dialect declared, k.key ≠ c.dialect.normalize n := by
  obtain ⟨position, column, key, entry⟩ := p
  cases h with
  | declared => cases hq
  | named n' p named free undeclared =>
    obtain ⟨m, hm, rfl⟩ := Plan.nameOf_eq_some named
    obtain rfl : m = n := Option.some.inj (hm.symm.trans hn)
    exact ⟨rfl, free, undeclared⟩
  | unnamed p kind unnamed =>
    rw [Option.map_eq_none_iff.1 unnamed] at hn
    cases hn

/-- A placed declaration is one that takes part, under a name that was free. -/
theorem Placement.From.free_of_declared (h : p.From (c.plan declared) taken returnName) {i : ℕ}
    (hi : p.entry.position? = some i) :
    ∃ k ∈ keptOf c.dialect declared, k.position = i ∧ k.key = p.key ∧ k.key ∉ taken := by
  obtain ⟨position, column, key, entry⟩ := p
  cases h with
  | declared k kept free => exact ⟨k, kept, Option.some.inj hi, rfl, free⟩
  | named | unnamed => cases hi

theorem nodup_positions_of_from {ps : List Placement}
    (hpairs : ps.Pairwise fun a b => b.From (c.plan declared) [a.key] returnName)
    (hfrom : ∀ p ∈ ps, p.From (c.plan declared) taken returnName) :
    ((ps.map (·.entry)).filterMap (·.position?)).Nodup := by
  rw [List.filterMap_map]
  refine List.pairwise_filterMap.2 ((List.Pairwise.and_mem.1 hpairs).imp ?_)
  rintro a b ⟨ha, -, hb⟩ i hi j hj rfl
  obtain ⟨ka, hka, hia, hkeya, -⟩ := (hfrom a ha).free_of_declared hi
  obtain ⟨kb, hkb, hib, -, hfree⟩ := hb.free_of_declared hj
  obtain rfl : ka = kb := eq_of_position_eq hka hkb (hia.trans hib.symm)
  exact hfree (hkeya ▸ List.mem_singleton_self _)

theorem ne_of_mem_positions {ps : List Placement}
    (hfrom : ∀ p ∈ ps, p.From (c.plan declared) taken returnName) :
    ∀ i ∈ (declaredResultSets declared).filterMap (·.position?),
      ∀ j ∈ (ps.map (·.entry)).filterMap (·.position?), i ≠ j := by
  rintro i hi _ hj rfl
  obtain ⟨q, hq, hres⟩ := isResultSet_of_mem_positions hi
  obtain ⟨e, he, hpos⟩ := List.mem_filterMap.1 hj
  obtain ⟨p, hp, rfl⟩ := List.mem_map.1 he
  obtain ⟨k, hk, rfl, -, -⟩ := (hfrom p hp).free_of_declared hpos
  have hkept := (mem_keptOf_iff.1 hk).1
  obtain rfl : q = k.parameter := Option.some.inj (hq.symm.trans hkept.declared_at)
  rw [hkept.no_resultSet] at hres
  cases hres

/-- Every parameter list that columns take part in has a provenance. -/
theorem exists_provenance (hused : c.columnsUsed = true)
    (h : (c.reconcile declared columns).outcome = .ok l) :
    ∃ placed, Provenance c declared columns l placed := by
  obtain ⟨last, run, rfl⟩ := CallContext.run_of_reconcile hused h
  obtain ⟨ps, hentries, hsub, hfrom, hpairs⟩ :=
    run.placements (indexedColumns columns) map_fst_indexedColumns
  have hentries : last.entries = declaredResultSets declared ++ ps.map (·.entry) := by
    rw [hentries, ← resultSetsOf_eq]
    rfl
  have hstems : ∀ p ∈ ps, Stems c declared p.column p.entry := fun p hp => (hfrom p hp).stems
  have hindexed : ∀ p ∈ ps, (p.column, p.position) ∈ indexedColumns columns :=
    fun p hp => hsub.subset (List.mem_map_of_mem hp)
  refine ⟨ps, ?_⟩
  constructor
  case entries_eq => exact hentries
  case no_resultSet =>
    intro p hp
    exact Plan.Origin.no_resultSet (fun _ hk => no_resultSet_of_mem_kept hk) (hfrom p hp)
  case reported => exact fun p hp => getElem?_of_mem_indexedColumns (hindexed p hp)
  case different_columns =>
    have hnodup := (hsub.map (·.2)).nodup nodup_positions_indexedColumns
    rwa [List.map_map] at hnodup
  case in_order => exact List.pairwise_map.1 (indexedColumns_pairwise.sublist hsub)
  case stems => exact hstems
  case declared_once =>
    change (last.entries.filterMap (·.position?)).Nodup
    rw [hentries, List.filterMap_append]
    exact List.nodup_append.2 ⟨nodup_positions_declaredResultSets declared,
      nodup_positions_of_from hpairs hfrom, ne_of_mem_positions hfrom⟩
  case declared_wins =>
    intro p hp q hq n hn x hx m hm he
    obtain ⟨-, hfree, hundeclared⟩ := (hfrom p hp).free_of_synthesized hq hn
    rcases key_mem_of_declared (d := c.dialect) hx hm with hmem | ⟨k, hk, hkey⟩
    · exact hfree (he ▸ hmem)
    · exact hundeclared k hk (hkey.trans he)
  case synthesized_once =>
    refine (List.Pairwise.and_mem.1 hpairs).imp ?_
    rintro a b ⟨ha, -, hb⟩ q hq r hr n hn m hm he
    obtain ⟨hkey, -, -⟩ := (hfrom a ha).free_of_synthesized hq hn
    obtain ⟨-, hfree, -⟩ := hb.free_of_synthesized hr hm
    exact hfree (by rw [hkey, he]; exact List.mem_singleton_self _)

end

theorem exists_provenance_add_user :
    let c := CallContext.start (.procedure "add_user") (.sqlServer Fixtures.sqlServer)
    let declared := [Parameter.input "USER_NAME" .nvarchar]
    let columns := Fixtures.sqlServerAddUser.columns
    c.columnsUsed = true ∧ ∃ l, (c.reconcile declared columns).outcome = .ok l ∧
      ∃ placed, Provenance c declared columns l placed := by
  intro c declared columns
  have hused : c.columnsUsed = true := rfl
  obtain ⟨l, hl⟩ := c.exists_reconcile_of_procedure declared columns rfl
  exact ⟨hused, l, hl, exists_provenance hused hl⟩

end StoredCall
