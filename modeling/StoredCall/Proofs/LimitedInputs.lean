import StoredCall.Proofs.ReturnParameter

/-!
# Limited inputs

What limiting the inputs to make changes in a call: it leaves out inputs that nobody declares, and
nothing else.

* `ParameterList.without`: a list less some of its entries, with its return parameter kept in place;
* `Decision.limitedTo`: an input that is not listed is excluded instead of made;
* `Plan.Follows`: what holds of the drafts of the two calls between two columns. Names that are
  taken in one draft only are neither declared nor ahead, so both take the same decisions;
* `reconcile_of_limitedTo`: the parameters of the limited call.
-/

namespace StoredCall

/-! ### Lists less some entries -/

namespace ParameterList

/-- The list less some entries. The return parameter moves up by the number of those before it. -/
def without (l : ParameterList) (drop : Entry → Bool) : ParameterList :=
  { l with
    entries := l.entries.filter fun e => !drop e
    returnIndex := l.returnIndex.map fun i => ((l.entries.take i).filter fun e => !drop e).length }

theorem returnEntry?_without {l : ParameterList} {drop : Entry → Bool}
    (h : ∀ i, l.returnIndex = some i → ∃ e, l.entries[i]? = some e ∧ drop e = false) :
    ParameterList.returnEntry? (l.without drop) = l.returnEntry? := by
  unfold returnEntry? without
  cases hindex : l.returnIndex with
  | none => rfl
  | some i =>
    obtain ⟨e, he, hkeep⟩ := h i hindex
    have hsplit : l.entries = l.entries.take i ++ e :: l.entries.drop (i + 1) := by
      obtain ⟨hlt, rfl⟩ := List.getElem?_eq_some_iff.1 he
      rw [List.getElem_cons_drop, List.take_append_drop]
    have hfilter : l.entries.filter (fun e => !drop e) =
        (l.entries.take i).filter (fun e => !drop e) ++
          e :: (l.entries.drop (i + 1)).filter fun e => !drop e := by
      conv_lhs => rw [hsplit]
      rw [List.filter_append, List.filter_cons_of_pos (by rw [hkeep]; rfl)]
    rw [Option.map_some, Option.bind_some, Option.bind_some, hfilter,
      List.getElem?_append_right (Nat.le_refl _), Nat.sub_self, he]
    rfl

end ParameterList

theorem Draft.finish_eq_without_iff {d d' : Draft} {drop : Entry → Bool} :
    d'.finish = d.finish.without drop ↔
      d'.entries = d.entries.filter (fun e => !drop e) ∧
        d'.returnIndex = d.returnIndex.map (fun i =>
          ((d.entries.take i).filter fun e => !drop e).length) ∧
        d'.outputNames = d.outputNames ∧ d'.returnName = d.returnName := by
  simp [finish, ParameterList.without]

theorem Draft.returnName_apply_congr {d d' : Draft} (h : d'.returnName = d.returnName)
    (v : Decision) : (d'.apply v).returnName = (d.apply v).returnName := by
  cases v with
  | resolveReturn k => rfl
  | reuse role name k => cases role <;> exact h
  | add role name kind p => cases role <;> exact h
  | _ => exact h

/-! ### Limits -/

/-- The context with its inputs limited to some names; no names mean no limit. -/
def CallContext.limitedTo (c : CallContext) (names : List String) : CallContext :=
  { c with config.inputNames := names }

/-- The entry is made for an input column, and none of the names is that of the column. -/
def CallContext.MadeUnlisted (c : CallContext) (names : List String) (column : Column)
    (e : Entry) : Prop :=
  e.position? = none ∧ (column.kind = .input ∨ column.kind = .unknown ∨ column.kind = .result) ∧
    ∃ n, column.name = some n ∧ c.dialect.normalize n ∉ names.map c.dialect.normalize

/-- The plan with its inputs limited to some normalized names. -/
def Plan.limitedTo (plan : Plan) (listed : List String) : Plan := { plan with limited := listed }

/-- Whether the entry is an input made for a column, and its name is not listed. -/
def Entry.isUnlisted (listed : List String) : Entry → Bool
  | .declared .. => false
  | .synthesized p => p.direction = .input && p.name.all (Text.lower · ∉ listed)

namespace Decision

/-- Whether the decision makes an input whose name is not listed. -/
def isUnlisted (listed : List String) : Decision → Bool
  | add .input name _ _ => Text.lower name ∉ listed
  | _ => false

/-- The decision when the inputs to make are limited. -/
def limitedTo (listed : List String) (v : Decision) : Decision :=
  match v with
  | add .input name _ _ => if Text.lower name ∈ listed then v else exclude name
  | _ => v

variable {listed : List String} {v : Decision}

theorem limitedTo_of_listed (h : v.isUnlisted listed = false) : v.limitedTo listed = v := by
  cases v with
  | add role name kind p =>
    cases role with
    | input => exact if_pos (by simpa [isUnlisted] using h)
    | _ => rfl
  | _ => rfl

theorem exists_of_isUnlisted (h : v.isUnlisted listed = true) :
    ∃ name kind p, v = .add .input name kind p ∧ Text.lower name ∉ listed ∧
      v.limitedTo listed = .exclude name := by
  cases v with
  | add role name kind p =>
    cases role with
    | input =>
      have hname : Text.lower name ∉ listed := of_decide_eq_true h
      exact ⟨name, kind, p, rfl, hname, if_neg hname⟩
    | _ => cases h
  | _ => cases h

theorem missing?_limitedTo : (v.limitedTo listed).missing? = v.missing? := by
  cases hv : v.isUnlisted listed with
  | false => rw [limitedTo_of_listed hv]
  | true =>
    obtain ⟨name, kind, p, rfl, -, hlimited⟩ := exists_of_isUnlisted hv
    rw [hlimited]
    rfl

end Decision

/-! ### One column -/

namespace Plan

variable {plan : Plan} {listed : List String} {d d' : Draft} {column : Column} {v : Decision}
  {rest : List Column}

/-- What holds of the drafts without and with limits before the columns ahead are read. -/
structure Follows (plan : Plan) (listed : List String) (ahead : List Column) (d d' : Draft) :
    Prop where
  finish : d'.finish = d.finish.without (·.isUnlisted listed)
  marked : ∀ i, d.returnIndex = some i → ∃ e, d.entries[i]? = some e ∧ e.isUnlisted listed = false
  kept : ∀ k ∈ plan.kept, (k.key ∈ d'.taken ↔ k.key ∈ d.taken)
  ahead : ∀ column ∈ ahead, ∀ n, plan.nameOf column = some n →
    (Text.lower n ∈ d'.taken ↔ Text.lower n ∈ d.taken)

theorem Verdict.isUnlisted_entry {key : String} {e : Entry} (h : plan.Verdict d column v)
    (hplace : v.placement? = some (key, e)) : e.isUnlisted listed = v.isUnlisted listed := by
  have houtput : ∀ n, (Entry.synthesized (plan.dialect.defaultOutput n column)).isUnlisted listed =
      false := by
    intro n
    simp [Entry.isUnlisted, Dialect.direction_defaultOutput]
  cases h with
  | alreadyBound | returnMissing | bypass | skipOutput | exclude | skipInput => cases hplace
  | resolveReturn k | reuseReturn k | reuseOutput n k | reuseInput n k => cases hplace; rfl
  | addReturn n => cases hplace; exact houtput n
  | addOutput n kind =>
    cases hplace
    split
    · exact houtput n
    · rfl
  | addInput n =>
    cases hplace
    simp [Entry.isUnlisted, Decision.isUnlisted, Dialect.defaultInput, Dialect.typedAs,
      Parameter.input]

namespace Follows

theorem map_returnIndex_append (h : plan.Follows listed rest d d') (es : List Entry) :
    d.returnIndex.map (fun i =>
        (((d.entries ++ es).take i).filter fun e => !e.isUnlisted listed).length) =
      d.returnIndex.map fun i =>
        ((d.entries.take i).filter fun e => !e.isUnlisted listed).length := by
  cases hi : d.returnIndex with
  | none => rfl
  | some i =>
    obtain ⟨e, he, -⟩ := h.marked i hi
    have hle : i ≤ d.entries.length := Nat.le_of_lt (List.getElem?_eq_some_iff.1 he).1
    rw [Option.map_some, Option.map_some, List.take_append_of_le_length hle]

section Decisions

variable (h : plan.Follows listed rest d d')

include h

theorem returnName_eq : d'.returnName = d.returnName := congrArg ParameterList.returnName h.finish

/-- A name that is taken in one draft only is not declared, and so the same declarations are
free. -/
theorem free?_eq (key : String) : plan.free? d' key = plan.free? d key := by
  cases hfind : plan.kept.find? (·.key = key) with
  | none => simp [free?, hfind]
  | some k =>
    have hkey : k.key = key := by simpa using List.find?_some hfind
    have htaken := h.kept k (List.mem_of_find?_eq_some hfind)
    rw [hkey] at htaken
    simp [free?, htaken]

theorem freeOutput?_eq : plan.freeOutput? d' = plan.freeOutput? d := by
  unfold freeOutput?
  rw [← List.head?_filter, ← List.head?_filter]
  congr 1
  refine List.filter_congr fun k hk => ?_
  rw [decide_eq_decide.2 (not_congr (h.kept k hk))]

theorem returnReuse?_eq (name : Option String) :
    plan.returnReuse? d' name = plan.returnReuse? d name := by
  unfold returnReuse?
  rw [h.returnName_eq, h.free?_eq]
  simp only [h.free?_eq]

theorem decideReturn_eq (name : Option String) (column : Column) :
    (plan.limitedTo listed).decideReturn d' name column =
      ((plan.limitedTo []).decideReturn d name column).limitedTo listed := by
  have hsame : (plan.limitedTo listed).decideReturn d' name column =
      (plan.limitedTo []).decideReturn d name column := by
    have hreuse : (plan.limitedTo listed).returnReuse? d' name =
        (plan.limitedTo []).returnReuse? d name := h.returnReuse?_eq name
    have houtput : (plan.limitedTo listed).freeOutput? d' = (plan.limitedTo []).freeOutput? d :=
      h.freeOutput?_eq
    unfold decideReturn
    rw [hreuse, houtput, h.returnName_eq]
    rfl
  rw [hsame, Decision.limitedTo_of_listed]
  unfold decideReturn
  split
  · split <;> rfl
  · split
    · rfl
    · split <;> rfl

theorem decideOutput_eq (n : String) (column : Column) :
    (plan.limitedTo listed).decideOutput d' n column =
      ((plan.limitedTo []).decideOutput d n column).limitedTo listed := by
  have hfree : (plan.limitedTo listed).free? d' (Text.lower n) =
      (plan.limitedTo []).free? d (Text.lower n) := h.free?_eq _
  unfold decideOutput
  rw [hfree]
  split <;> rfl

theorem decideInput_eq (hlisted : listed ≠ []) (n : String) (column : Column) :
    (plan.limitedTo listed).decideInput d' n column =
      ((plan.limitedTo []).decideInput d n column).limitedTo listed := by
  have hfree : (plan.limitedTo listed).free? d' (Text.lower n) =
      (plan.limitedTo []).free? d (Text.lower n) := h.free?_eq _
  have hall : (plan.limitedTo []).wants (Text.lower n) = true := rfl
  have hwants : (plan.limitedTo listed).wants (Text.lower n) = decide (Text.lower n ∈ listed) := by
    rw [wants, show (plan.limitedTo listed).limited = listed from rfl,
      List.isEmpty_eq_false_iff.2 hlisted, Bool.false_or]
  unfold decideInput
  rw [hfree, hall, hwants]
  split
  · rfl
  · simp [Decision.limitedTo]

end Decisions

/-- The limited call decides on a column as the other, except that it excludes inputs that are not
listed. -/
theorem decisionFor_eq (h : plan.Follows listed (column :: rest) d d') (hlisted : listed ≠ []) :
    (plan.limitedTo listed).decisionFor d' column =
      ((plan.limitedTo []).decisionFor d column).limitedTo listed := by
  have hname : column.name.map plan.dialect.parameterName = plan.nameOf column := rfl
  have hbound : (plan.nameOf column).any (Text.lower · ∈ d'.taken) =
      (plan.nameOf column).any (Text.lower · ∈ d.taken) := by
    cases hn : plan.nameOf column with
    | none => rfl
    | some n => simp [h.ahead column List.mem_cons_self n hn]
  unfold decisionFor
  simp only [show (plan.limitedTo listed).dialect = plan.dialect from rfl,
    show (plan.limitedTo []).dialect = plan.dialect from rfl, hname, hbound]
  by_cases hb : (plan.nameOf column).any (Text.lower · ∈ d.taken) = true
  · rw [if_pos hb, if_pos hb]
    rfl
  rw [if_neg hb, if_neg hb]
  cases column.kind with
  | returned => exact h.decideReturn_eq _ _
  | output | inOut =>
    cases plan.nameOf column with
    | none => rfl
    | some n => exact h.decideOutput_eq n column
  | input | unknown | result =>
    cases plan.nameOf column with
    | none => rfl
    | some n => exact h.decideInput_eq hlisted n column

/-- A decision that is the same in both calls keeps what holds of the drafts. -/
theorem step_listed (h : plan.Follows listed (column :: rest) d d')
    (hv : (plan.limitedTo []).Verdict d column v) (hlisted : v.isUnlisted listed = false) :
    plan.Follows listed rest (d.apply v) (d'.apply v) := by
  obtain ⟨hentries, hindex, hnames, hname⟩ := Draft.finish_eq_without_iff.1 h.finish
  have hkept : ∀ x ∈ v.placement?.toList.map (·.2), x.isUnlisted listed = false := by
    intro x hx
    obtain ⟨⟨key, e⟩, he, rfl⟩ := List.mem_map.1 hx
    exact (hv.isUnlisted_entry (Option.mem_toList.1 he)).trans hlisted
  have hfilter : (v.placement?.toList.map (·.2)).filter (fun e => !e.isUnlisted listed) =
      v.placement?.toList.map (·.2) :=
    List.filter_eq_self.2 fun x hx => by rw [hkept x hx]; rfl
  have htaken : ∀ key, (key ∈ d'.taken ↔ key ∈ d.taken) →
      (key ∈ (d'.apply v).taken ↔ key ∈ (d.apply v).taken) := by
    intro key hkey
    rw [Draft.taken_apply, Draft.taken_apply, List.mem_append, List.mem_append, hkey]
  constructor
  case finish =>
    refine Draft.finish_eq_without_iff.2 ⟨?_, ?_, ?_, ?_⟩
    · rw [Draft.entries_apply, Draft.entries_apply, List.filter_append, hfilter, hentries]
    · rw [Draft.returnIndex_apply, Draft.returnIndex_apply, Draft.entries_apply]
      split
      · rw [hentries, Option.map_some, List.take_left]
      · exact hindex.trans (h.map_returnIndex_append _).symm
    · rw [Draft.outputNames_apply, Draft.outputNames_apply, hnames]
    · exact Draft.returnName_apply_congr hname v
  case marked =>
    intro i hi
    rw [Draft.entries_apply]
    rw [Draft.returnIndex_apply] at hi
    split at hi
    · obtain rfl := Option.some.inj hi
      obtain ⟨key, e, hplace⟩ := Decision.exists_placement_of_carriesReturn ‹_›
      exact ⟨e, by simp [hplace], hkept e (by simp [hplace])⟩
    · obtain ⟨e, he, hkeep⟩ := h.marked i hi
      exact ⟨e, by rw [List.getElem?_append_left (List.getElem?_eq_some_iff.1 he).1, he], hkeep⟩
  case kept => exact fun k hk => htaken _ (h.kept k hk)
  case ahead => exact fun x hx n hn => htaken _ (h.ahead x (List.mem_cons_of_mem _ hx) n hn)

/-- An input that only the call without limits makes keeps what holds of the drafts, for its name is
neither declared nor ahead. -/
theorem step_unlisted (h : plan.Follows listed (column :: rest) d d')
    (hv : (plan.limitedTo []).Verdict d column v) (hunlisted : v.isUnlisted listed = true)
    (hrest : ∀ x ∈ rest, ∀ n, plan.nameOf column = some n → ∀ m, plan.nameOf x = some m →
      Text.lower n ≠ Text.lower m) :
    plan.Follows listed rest (d.apply v) d' := by
  obtain ⟨hentries, hindex, hnames, hname⟩ := Draft.finish_eq_without_iff.1 h.finish
  obtain ⟨n, kind, p, rfl, -, -⟩ := Decision.exists_of_isUnlisted hunlisted
  have hdropped : (Entry.synthesized p).isUnlisted listed = true :=
    (hv.isUnlisted_entry rfl).trans hunlisted
  have happly : d.apply (.add .input n kind p) =
    { d with entries := d.entries ++ [.synthesized p], taken := Text.lower n :: d.taken } := rfl
  obtain ⟨hnamed, hundeclared⟩ : plan.nameOf column = some n ∧
      ∀ k ∈ plan.kept, k.key ≠ Text.lower n := by
    cases hv with
    | addInput n kind named free found wanted => exact ⟨named, free?_eq_none found free⟩
  rw [happly]
  constructor
  case finish =>
    refine Draft.finish_eq_without_iff.2 ⟨?_, ?_, hnames, hname⟩
    · rw [hentries, List.filter_append]
      simp [hdropped]
    · exact hindex.trans (h.map_returnIndex_append _).symm
  case marked =>
    intro i hi
    obtain ⟨e, he, hkeep⟩ := h.marked i hi
    exact ⟨e, by rw [List.getElem?_append_left (List.getElem?_eq_some_iff.1 he).1, he], hkeep⟩
  case kept =>
    intro k hk
    rw [h.kept k hk, List.mem_cons, or_iff_right (hundeclared k hk)]
  case ahead =>
    intro x hx m hm
    rw [h.ahead x (List.mem_cons_of_mem _ hx) m hm, List.mem_cons,
      or_iff_right (hrest x hx n hnamed m hm).symm]

theorem step (h : plan.Follows listed (column :: rest) d d')
    (hv : (plan.limitedTo []).Verdict d column v)
    (hrest : ∀ x ∈ rest, ∀ n, plan.nameOf column = some n → ∀ m, plan.nameOf x = some m →
      Text.lower n ≠ Text.lower m) :
    plan.Follows listed rest (d.apply v) (d'.apply (v.limitedTo listed)) := by
  cases hlisted : v.isUnlisted listed with
  | false =>
    rw [Decision.limitedTo_of_listed hlisted]
    exact h.step_listed hv hlisted
  | true =>
    obtain ⟨n, kind, p, -, -, hlimited⟩ := Decision.exists_of_isUnlisted hlisted
    rw [hlimited]
    exact h.step_unlisted hv hlisted hrest

/-! ### All columns -/

/-- On columns of different names the limited call takes the limited decisions, and the drafts
remain as they must be. -/
theorem decisions_eq {columns : List Column} (h : plan.Follows listed columns d d')
    (hlisted : listed ≠ [])
    (hdistinct : columns.Pairwise fun x y => ∀ n, plan.nameOf x = some n →
      ∀ m, plan.nameOf y = some m → Text.lower n ≠ Text.lower m) :
    (plan.limitedTo listed).decisions d' columns =
        ((plan.limitedTo []).decisions d columns).map (·.limitedTo listed) ∧
      plan.Follows listed [] (((plan.limitedTo []).decisions d columns).foldl Draft.apply d)
        (((plan.limitedTo listed).decisions d' columns).foldl Draft.apply d') := by
  induction columns generalizing d d' with
  | nil => exact ⟨rfl, h⟩
  | cons column rest ih =>
    obtain ⟨hfirst, hlater⟩ := List.pairwise_cons.1 hdistinct
    have hstep := h.step ((plan.limitedTo []).verdict d column) hfirst
    have hdecision := h.decisionFor_eq hlisted
    obtain ⟨hrest, hfollows⟩ := ih hstep hlater
    rw [decisions, decisions, hdecision, Decision.missing?_limitedTo]
    split
    · exact ⟨rfl, hstep.finish, hstep.marked, hstep.kept, by simp⟩
    · exact ⟨congrArg _ hrest, hfollows⟩

end Follows

end Plan

/-! ### Calls with limited inputs -/

section

variable {c : CallContext} {declared : List Parameter} {columns : List Column} {names : List String}
  {l : ParameterList} {column : Column} {e : Entry}

theorem pairwise_ne_of_nodup (declared : List Parameter)
    (hdistinct : (columns.filterMap fun x => x.name.map c.dialect.normalize).Nodup) :
    (inOrdinalOrder columns).Pairwise fun x y => ∀ n, (c.plan declared).nameOf x = some n →
      ∀ m, (c.plan declared).nameOf y = some m → Text.lower n ≠ Text.lower m := by
  have hperm : (inOrdinalOrder columns).Perm columns := List.mergeSort_perm _ _
  have hsorted := (hperm.filterMap fun x => x.name.map c.dialect.normalize).nodup_iff.2 hdistinct
  refine (List.pairwise_filterMap.1 hsorted).imp ?_
  intro x y hne n hn m hm
  obtain ⟨a, ha, rfl⟩ := Plan.nameOf_eq_some hn
  obtain ⟨b, hb, rfl⟩ := Plan.nameOf_eq_some hm
  exact hne _ (by rw [ha]; rfl) _ (by rw [hb]; rfl)

theorem follows_draft (listed : List String) :
    (c.plan declared).Follows listed (inOrdinalOrder columns) (c.draft declared columns)
      (c.draft declared columns) := by
  have hsets : (c.draft declared columns).entries.filter (fun e => !e.isUnlisted listed) =
      (c.draft declared columns).entries := by
    refine List.filter_eq_self.2 fun e he => ?_
    have he : e ∈ declaredResultSets declared := resultSetsOf_eq c.dialect declared ▸ he
    obtain ⟨i, p, -, -, rfl⟩ := mem_declaredResultSets.1 he
    rfl
  have hfinish := Draft.finish_eq_without_iff.2 ⟨hsets.symm, rfl, rfl, rfl⟩
  exact ⟨hfinish, by rintro i ⟨⟩, fun _ _ => Iff.rfl, fun _ _ _ _ => Iff.rfl⟩

theorem columnList_limitedTo (c : CallContext) (declared : List Parameter) (hlimit : names ≠ [])
    (hdistinct : (columns.filterMap fun x => x.name.map c.dialect.normalize).Nodup) :
    (c.limitedTo names).columnList declared columns =
        ((c.limitedTo []).columnList declared columns).map
          (·.without (·.isUnlisted (names.map c.dialect.normalize))) ∧
      ∀ l, (c.limitedTo []).columnList declared columns = .ok l →
        ParameterList.returnEntry? (l.without (·.isUnlisted (names.map c.dialect.normalize))) =
          l.returnEntry? := by
  have hlisted : names.map c.dialect.normalize ≠ [] := by simpa using hlimit
  obtain ⟨hdecisions, hfollows⟩ := (follows_draft (names.map c.dialect.normalize)).decisions_eq
    hlisted (pairwise_ne_of_nodup declared hdistinct)
  have hlimited : (c.limitedTo names).decisions declared columns =
      ((c.limitedTo []).decisions declared columns).map
        (·.limitedTo (names.map c.dialect.normalize)) := hdecisions
  have hfinish : ((c.limitedTo names).placed declared columns).finish =
      ((c.limitedTo []).placed declared columns).finish.without
        (·.isUnlisted (names.map c.dialect.normalize)) := hfollows.finish
  unfold CallContext.columnList
  rw [hlimited, List.findSome?_map]
  simp only [Function.comp_def, Decision.missing?_limitedTo]
  cases ((c.limitedTo []).decisions declared columns).findSome? (·.missing?) with
  | some name => exact ⟨rfl, by rintro l ⟨⟩⟩
  | none =>
    refine ⟨congrArg Except.ok hfinish, ?_⟩
    rintro l ⟨⟩
    exact ParameterList.returnEntry?_without hfollows.marked

theorem isUnlisted_iff (h : Stems c declared column e) :
    e.isUnlisted (names.map c.dialect.normalize) = true ↔ c.MadeUnlisted names column e := by
  cases h with
  | declared i p =>
    constructor
    · rintro ⟨⟩
    · rintro ⟨⟨⟩, -⟩
  | named n p named direction name =>
    have hkind : column.kind.direction = .input ↔
        column.kind = .input ∨ column.kind = .unknown ∨ column.kind = .result := by
      cases column.kind <;> decide
    simp only [Entry.isUnlisted, direction, name, Bool.and_eq_true, decide_eq_true_eq, hkind,
      Option.all_some, CallContext.MadeUnlisted, Entry.position?, named, true_and,
      Option.some.injEq, exists_eq_left']
    rfl
  | unnamedReturn p kind unnamed direction name =>
    simp [Entry.isUnlisted, CallContext.MadeUnlisted, direction, unnamed]

theorem exists_stems_of_reconcile (hused : c.columnsUsed = true)
    (h : (c.reconcile declared columns).outcome = .ok l) :
    ∃ placed : List (Column × Entry),
      l.entries = declaredResultSets declared ++ placed.map (·.2) ∧
        (placed.map (·.1)).Sublist (inOrdinalOrder columns) ∧
        ∀ x ∈ placed, Stems c declared x.1 x.2 := by
  obtain ⟨last, run, rfl⟩ := CallContext.run_of_reconcile hused h
  obtain ⟨ps, hentries, hsub, hfrom, -⟩ :=
    run.placements (indexedColumns columns) map_fst_indexedColumns
  refine ⟨ps.map fun p => (p.column, p.entry), ?_, ?_, ?_⟩
  · rw [List.map_map]
    exact hentries.trans (congrArg (· ++ _) (resultSetsOf_eq c.dialect declared))
  · have hcolumns := hsub.map (·.1)
    rw [List.map_map, map_fst_indexedColumns] at hcolumns
    rw [List.map_map]
    exact hcolumns
  · intro x hx
    obtain ⟨p, hp, rfl⟩ := List.mem_map.1 hx
    exact (hfrom p hp).stems

/-- A call with limited inputs has the parameters of the call without limits, less the ones made for
input columns whose names are not listed, or it fails as that call does. Its return parameter, its
return name and its output names are the same. -/
theorem reconcile_of_limitedTo (hused : c.columnsUsed = true) (hlimit : names ≠ [])
    (hdistinct : (columns.filterMap fun x => x.name.map c.dialect.normalize).Nodup) :
    ((c.limitedTo names).reconcile declared columns).outcome =
        ((c.limitedTo []).reconcile declared columns).outcome.map
          (·.without (·.isUnlisted (names.map c.dialect.normalize))) ∧
      ∀ l, ((c.limitedTo []).reconcile declared columns).outcome = .ok l →
        ParameterList.returnEntry? (l.without (·.isUnlisted (names.map c.dialect.normalize))) =
            l.returnEntry? ∧
          ∃ placed : List (Column × Entry),
            l.entries = declaredResultSets declared ++ placed.map (·.2) ∧
              (placed.map (·.1)).Sublist (inOrdinalOrder columns) ∧
              ∀ x ∈ placed, Stems (c.limitedTo []) declared x.1 x.2 ∧
                (x.2.isUnlisted (names.map c.dialect.normalize) = true ↔
                  c.MadeUnlisted names x.1 x.2) := by
  obtain ⟨houtcome, hreturn⟩ := columnList_limitedTo c declared hlimit hdistinct
  have hlist : ∀ limit : List String, ((c.limitedTo limit).reconcile declared columns).outcome =
      (c.limitedTo limit).columnList declared columns := by
    intro limit
    rw [CallContext.reconcile, Attempt.outcome_of, CallContext.parameterList,
      if_pos (show (c.limitedTo limit).columnsUsed = true from hused)]
  rw [hlist, hlist]
  refine ⟨houtcome, fun l hl => ⟨hreturn l hl, ?_⟩⟩
  obtain ⟨placed, hentries, hsub, hstems⟩ :=
    exists_stems_of_reconcile (c := c.limitedTo []) hused ((hlist []).trans hl)
  refine ⟨placed, hentries, hsub, fun x hx => ⟨hstems x hx, ?_⟩⟩
  exact isUnlisted_iff (c := c.limitedTo []) (hstems x hx)

/-- An input that is listed, one that is not, a return value, an output and a declared input. -/
theorem reconcile_of_limitedTo_procedure :
    let c := CallContext.start (.procedure "p") (.generic Fixtures.mySql)
    let names := ["A"]
    let declared := [Parameter.input "D" .integer]
    let columns := [Fixtures.column "a" .input .integer 1, Fixtures.column "b" .unknown .integer 2,
      Fixtures.column "r" .returned .integer 3, Fixtures.column "c" .output .integer 4,
      Fixtures.column "d" .input .integer 5]
    c.columnsUsed = true ∧ names ≠ [] ∧
      (columns.filterMap fun x => x.name.map c.dialect.normalize).Nodup ∧
      ∃ l, ((c.limitedTo []).reconcile declared columns).outcome = .ok l ∧
        ((c.limitedTo names).reconcile declared columns).outcome =
          .ok (l.without (·.isUnlisted (names.map c.dialect.normalize))) ∧
        ParameterList.returnEntry? (l.without (·.isUnlisted (names.map c.dialect.normalize))) =
          l.returnEntry? ∧
        l.entries.map (·.name) = [some "a", some "b", some "r", some "c", some "D"] ∧
        (l.without (·.isUnlisted (names.map c.dialect.normalize))).entries.map (·.name) =
          [some "a", some "r", some "c", some "D"] := by
  intro c names declared columns
  have hdistinct : (columns.filterMap fun x => x.name.map c.dialect.normalize).Nodup := by
    decide +kernel
  have hsorted : inOrdinalOrder columns = columns := List.mergeSort_of_pairwise (by decide)
  have run : ((c.limitedTo []).plan declared).Run ((c.limitedTo []).draft declared columns)
      columns _ :=
    .cons (by decide +kernel) (.cons (by decide +kernel) (.cons (by decide +kernel)
      (.cons (by decide +kernel) (.cons (by decide +kernel) (.nil _)))))
  have hl := CallContext.reconcile_of_run (c := c.limitedTo []) rfl hsorted run
  obtain ⟨houtcome, hrest⟩ :=
    @reconcile_of_limitedTo c declared columns names rfl (by decide) hdistinct
  rw [hl] at houtcome
  exact ⟨rfl, by decide, hdistinct, _, hl, houtcome, (hrest _ hl).1, by decide +kernel,
    by decide +kernel⟩

end

end StoredCall
