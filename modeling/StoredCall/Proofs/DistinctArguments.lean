import StoredCall.Proofs.ArgumentMatching
import StoredCall.Proofs.ColumnRun
import StoredCall.Proofs.LetterCase

/-!
# Arguments with distinct names

What a matching does with arguments no two of which have one normalized name.

* `find?_eq_of_perm`: a search that at most one member passes finds it in every order;
* `matchArguments_of_perm`: if no two arguments denote one field either, the order in which the
  source lists them does not matter;
* `mem_bindings_of_exact`: which parameters take an argument that has the name of one of them;
* `argument_taken_twice`: another parameter takes it too.
-/

namespace StoredCall

/-! ### Names of one field -/

theorem sameProperty_iff {a b : String} :
    sameProperty a b = true ↔
      Text.AlikeChars (propertyName a).toList (propertyName b).toList := Text.sameLetters_iff

theorem sameProperty_of_same {a b c : String} (ha : sameProperty a c = true)
    (hb : sameProperty b c = true) : sameProperty a b = true :=
  sameProperty_iff.2 ((sameProperty_iff.1 ha).trans (sameProperty_iff.1 hb).symm)

/-! ### Searches that one member passes -/

theorem find?_eq_of_perm {α : Type} {q : α → Bool} {xs ys : List α} (hperm : xs.Perm ys)
    (hunique : xs.Pairwise fun a b => ¬(q a = true ∧ q b = true)) : xs.find? q = ys.find? q := by
  induction hperm with
  | nil => rfl
  | cons a _ ih => rw [List.find?_cons, List.find?_cons, ih (List.pairwise_cons.1 hunique).2]
  | swap a b xs =>
    have hab : ¬(q b = true ∧ q a = true) :=
      (List.pairwise_cons.1 hunique).1 a List.mem_cons_self
    cases hb : q b <;> cases ha : q a <;> simp_all
  | trans first _ ihfirst ihsecond =>
    have hmiddle := (first.pairwise_iff fun h hand => h hand.symm).1 hunique
    exact (ihfirst hunique).trans (ihsecond hmiddle)

section

variable {d : Dialect} {l : ParameterList} {source other : ArgumentSource}
  {names names' : List String} {p : String} {vs : NamedValues}

theorem map_fst_find?_zipIdx (q : String → Bool) :
    (names.zipIdx.find? fun x => q x.1).map (·.1) = names.find? q := by
  conv_rhs => rw [← List.zipIdx_map_fst 0 names]
  rw [List.find?_map]
  rfl

theorem map_fst_filter_zipIdx (q : String → Bool) :
    (names.zipIdx.filter fun x => q x.1).map (·.1) = names.filter q := by
  conv_rhs => rw [← List.zipIdx_map_fst 0 names]
  rw [List.filter_map]
  rfl

theorem map_fst_argumentFor? :
    (d.argumentFor? names p).map (·.1) =
      (names.find? fun a => d.normalize a = d.normalize p).or
        (names.find? fun a => sameProperty a (d.parameterName p)) := by
  rw [Dialect.argumentFor?, ← map_fst_find?_zipIdx, ← map_fst_find?_zipIdx, Option.map_or]

/-! ### Orders of the arguments -/

/-- The names stand for different arguments: no two have one normalized name or denote one field. -/
structure Dialect.Distinguishes (d : Dialect) (names : List String) : Prop where
  normalized : (names.map d.normalize).Nodup
  property : names.Pairwise fun a b => sameProperty a b = false

theorem map_argumentFor?_of_perm (hperm : names.Perm names') (hdistinct : d.Distinguishes names) :
    (d.argumentFor? names p).map (·.1) = (d.argumentFor? names' p).map (·.1) := by
  rw [map_fst_argumentFor?, map_fst_argumentFor?]
  congr 1
  · refine find?_eq_of_perm hperm ((List.pairwise_map.1 hdistinct.normalized).imp ?_)
    intro a b hne hboth
    exact hne ((of_decide_eq_true hboth.1).trans (of_decide_eq_true hboth.2).symm)
  · refine find?_eq_of_perm hperm (hdistinct.property.imp ?_)
    intro a b hdiffer hboth
    rw [sameProperty_of_same hboth.1 hboth.2] at hdiffer
    cases hdiffer

/-- What is taken by which parameter. -/
def Binding.pair (b : Binding) : String × String := (b.parameter, b.argument)

theorem map_pair_bindings :
    (d.bindings l names).map Binding.pair =
      l.bindableNames.filterMap fun p =>
        ((d.argumentFor? names p).map (·.1)).map (Prod.mk p) := by
  rw [Dialect.bindings, List.map_filterMap]
  refine List.filterMap_congr fun p _ => ?_
  rw [Option.map_map, Option.map_map]
  rfl

theorem map_pair_bindings_of_perm (hperm : names.Perm names')
    (hdistinct : d.Distinguishes names) :
    (d.bindings l names).map Binding.pair = (d.bindings l names').map Binding.pair := by
  simp only [map_pair_bindings, map_argumentFor?_of_perm hperm hdistinct]

/-- The positions of arguments do not matter to their values. -/
theorem collect_eq_of_map_pair {bs bs' : List Binding}
    (h : bs.map Binding.pair = bs'.map Binding.pair) :
    Dialect.collect source bs vs = Dialect.collect source bs' vs := by
  induction bs generalizing bs' vs with
  | nil =>
    obtain rfl : bs' = [] := List.map_eq_nil_iff.1 h.symm
    rfl
  | cons b rest ih =>
    cases bs' with
    | nil => cases h
    | cons b' rest' =>
      obtain ⟨hb, hrest⟩ := List.cons.inj h
      obtain ⟨hparameter, hargument⟩ := Prod.mk.inj hb
      rw [Dialect.collect, Dialect.collect, hargument, hparameter]
      cases source.value b'.argument with
      | error e => rfl
      | ok value =>
        cases value with
        | none => exact ih hrest
        | some v => exact ih hrest

theorem droppedArguments_of_nodup (hnodup : names.Nodup) :
    d.droppedArguments l names =
      names.filter fun a => a ∉ ((d.bindings l names).map Binding.pair).map (·.2) := by
  rw [Dialect.droppedArguments, ← map_fst_filter_zipIdx]
  refine congrArg _ (List.filter_congr ?_)
  rintro ⟨a, i⟩ hx
  have hi : names[i]? = some a := List.mk_mem_zipIdx_iff_getElem?.1 hx
  refine decide_eq_decide.2 (not_congr ?_)
  rw [List.map_map, List.mem_map, List.mem_map]
  constructor
  · rintro ⟨b, hb, rfl⟩
    exact ⟨b, hb, Option.some.inj ((getElem?_of_mem_bindings hb).symm.trans hi)⟩
  · rintro ⟨b, hb, rfl⟩
    have hb' := getElem?_of_mem_bindings hb
    exact ⟨b, hb, (List.getElem?_inj (List.getElem?_eq_some_iff.1 hb').1 hnodup).1
      (hb'.trans hi.symm)⟩

theorem matchedValues_of_perm (hnames : other.names.Perm source.names)
    (hvalue : ∀ a ∈ source.names, other.value a = source.value a)
    (hdistinct : d.Distinguishes source.names) :
    d.matchedValues l other = d.matchedValues l source := by
  have hpairs := map_pair_bindings_of_perm (l := l) hnames.symm hdistinct
  calc Dialect.collect other (d.bindings l other.names) .empty
      = Dialect.collect source (d.bindings l other.names) .empty :=
        collect_congr fun b hb => hvalue _
          (hnames.subset (List.mem_of_getElem? (getElem?_of_mem_bindings hb)))
    _ = Dialect.collect source (d.bindings l source.names) .empty :=
        collect_eq_of_map_pair hpairs.symm

theorem droppedArguments_of_perm (hnames : names'.Perm names)
    (hdistinct : d.Distinguishes names) :
    (d.droppedArguments l names').Perm (d.droppedArguments l names) := by
  have hnodup : names.Nodup := List.Nodup.of_map _ hdistinct.normalized
  rw [droppedArguments_of_nodup hnodup, droppedArguments_of_nodup (hnames.nodup_iff.2 hnodup),
    map_pair_bindings_of_perm hnames.symm hdistinct]
  exact hnames.filter _

end

/-- Where no two arguments have one normalized name or denote one field, the order in which the
source lists them changes neither the values, their order and the errors, nor, but for their order,
the reports. -/
theorem matchArguments_of_perm (d : Dialect) (l : ParameterList) (source other : ArgumentSource)
    (hnames : other.names.Perm source.names)
    (hvalue : ∀ a ∈ source.names, other.value a = source.value a)
    (hnormalized : (source.names.map d.normalize).Nodup)
    (hproperty : source.names.Pairwise fun a b => sameProperty a b = false) :
    (d.matchArguments l other).outcome = (d.matchArguments l source).outcome ∧
      (d.matchArguments l other).events.Perm (d.matchArguments l source).events := by
  have hdistinct : d.Distinguishes source.names := ⟨hnormalized, hproperty⟩
  have hvalues := matchedValues_of_perm (l := l) hnames hvalue hdistinct
  refine ⟨?_, ?_⟩
  · rw [Dialect.matchArguments, Dialect.matchArguments, Attempt.outcome_of, Attempt.outcome_of,
      hvalues]
  · cases hv : d.matchedValues l source with
    | error e =>
      rw [events_matchArguments_of_error hv, events_matchArguments_of_error (hvalues.trans hv)]
    | ok vs =>
      rw [events_matchArguments_of_ok hv, events_matchArguments_of_ok (hvalues.trans hv)]
      exact ((droppedArguments_of_perm hnames hdistinct).map _).cons _

/-- A source that lists its names in alphabetical order, and one that lists them as they came. -/
theorem matchArguments_of_perm_unordered :
    let d := Dialect.sqlServer Fixtures.sqlServer
    let l : ParameterList :=
      { entries :=
          [.declared 0 (.input "@userName" .nvarchar), .declared 1 (.input "@age" .integer)] }
    let vs := NamedValues.ofPairs
      [("zip", .text "1"), ("user_name", .text "Bob"), ("AGE", .int 7), ("city", .text "2")]
    let source := ArgumentSource.ofValues vs
    let other := ArgumentSource.ofUnordered vs
    other.names.Perm source.names ∧ (source.names.map d.normalize).Nodup ∧
      (source.names.Pairwise fun a b => sameProperty a b = false) ∧
      (d.matchArguments l other).outcome = (d.matchArguments l source).outcome ∧
      (d.matchArguments l other).events.Perm (d.matchArguments l source).events := by
  intro d l vs source other
  have hnames : other.names.Perm source.names := List.mergeSort_perm _ _
  have hnormalized : (source.names.map d.normalize).Nodup := by decide +kernel
  have hproperty : source.names.Pairwise fun a b => sameProperty a b = false := by decide +kernel
  exact ⟨hnames, hnormalized, hproperty,
    matchArguments_of_perm d l source other hnames (fun _ _ => rfl) hnormalized hproperty⟩

/-! ### Arguments with the name of one parameter -/

/-- Let no two parameters have one normalized name, and no two arguments. The parameter whose name
an argument has takes the argument. Another parameter takes it exactly if no argument has its own
name and this one is the first that denotes its field. The values are those of the arguments
taken. -/
theorem mem_bindings_of_exact (d : Dialect) (l : ParameterList) (source : ArgumentSource)
    (hparameters : (l.bindableNames.map d.normalize).Nodup)
    (harguments : (source.names.map d.normalize).Nodup) {a exact : String} {i : ℕ}
    (ha : source.names[i]? = some a) (hexact : exact ∈ l.bindableNames)
    (hname : d.normalize a = d.normalize exact) :
    ⟨exact, i, a⟩ ∈ d.bindings l source.names ∧
      (∀ p ∈ l.bindableNames, p ≠ exact →
        (⟨p, i, a⟩ ∈ d.bindings l source.names ↔
          (∀ b ∈ source.names, d.normalize b ≠ d.normalize p) ∧
            FirstAt (fun b => sameProperty b (d.parameterName p)) source.names i a)) ∧
      ∀ vs, (d.matchArguments l source).outcome = .ok vs → ∀ p v,
        (p, v) ∈ vs.entries ↔
          ∃ j b, ⟨p, j, b⟩ ∈ d.bindings l source.names ∧ source.value b = .ok (some v) := by
  refine ⟨mem_bindings_iff.2 ⟨hexact, .exact ⟨ha, hname, ?_⟩⟩, ?_, ?_⟩
  · -- an earlier argument has another normalized name
    intro j hj b hb he
    have hmap : ∀ {k c}, source.names[k]? = some c →
        (source.names.map d.normalize)[k]? = some (d.normalize c) := fun hk => by
      rw [List.getElem?_map, hk, Option.map_some]
    have hlt : j < (source.names.map d.normalize).length :=
      (List.getElem?_eq_some_iff.1 (hmap hb)).1
    have hij : j = i := (List.getElem?_inj hlt harguments).1
      (by rw [hmap hb, hmap ha, he, hname])
    exact Nat.lt_irrefl _ (hij ▸ hj)
  · intro p hp hne
    rw [mem_bindings_iff]
    constructor
    · rintro ⟨-, first | ⟨hnone, first⟩⟩
      · exact absurd (List.inj_on_of_nodup_map hparameters hp hexact
          (first.holds.symm.trans hname)) hne
      · exact ⟨hnone, first⟩
    · rintro ⟨hnone, first⟩
      exact ⟨hp, .property hnone first⟩
  · intro vs hvs p v
    have hmatched := matchedTo_of_matchedValues (List.Nodup.of_map _ hparameters)
      (outcome_matchArguments_eq_ok_iff.1 hvs)
    rw [hmatched.mem_iff]
    constructor
    · rintro ⟨hp, j, b, hselects, hv⟩
      exact ⟨j, b, mem_bindings_iff.2 ⟨hp, hselects⟩, hv⟩
    · rintro ⟨j, b, hb, hv⟩
      obtain ⟨hp, hselects⟩ := mem_bindings_iff.1 hb
      exact ⟨hp, j, b, hselects, hv⟩

/-- The argument `userName` goes to the parameter `user_name` as well, but not to `age`. -/
theorem mem_bindings_of_exact_user_name :
    let d := Dialect.generic Fixtures.mySql
    let l : ParameterList :=
      { entries :=
          [.declared 0 (.input "user_name" .nvarchar), .declared 1 (.input "age" .integer),
            .declared 2 (.input "userName" .nvarchar)] }
    let source := ArgumentSource.ofValues (.ofPairs [("zip", .text "1"), ("userName", .text "Bob")])
    (l.bindableNames.map d.normalize).Nodup ∧ (source.names.map d.normalize).Nodup ∧
      source.names[1]? = some "userName" ∧ "userName" ∈ l.bindableNames ∧
      ⟨"userName", 1, "userName"⟩ ∈ d.bindings l source.names ∧
      ⟨"user_name", 1, "userName"⟩ ∈ d.bindings l source.names ∧
      ⟨"age", 1, "userName"⟩ ∉ d.bindings l source.names := by
  intro d l source
  have hparameters : (l.bindableNames.map d.normalize).Nodup := by decide +kernel
  have harguments : (source.names.map d.normalize).Nodup := by decide +kernel
  have ha : source.names[1]? = some "userName" := by decide +kernel
  have hexact : "userName" ∈ l.bindableNames := by decide +kernel
  obtain ⟨htaken, hother, -⟩ :=
    mem_bindings_of_exact d l source hparameters harguments ha hexact rfl
  have hfirst : FirstAt (fun b => sameProperty b (d.parameterName "user_name")) source.names 1
      "userName" := find?_zipIdx_eq_some_iff.1 (by decide +kernel)
  have hfield : ¬ sameProperty "userName" (d.parameterName "age") = true := by decide +kernel
  refine ⟨hparameters, harguments, ha, hexact, htaken, ?_, ?_⟩
  · exact (hother "user_name" (by decide +kernel) (by decide)).2 ⟨by decide +kernel, hfirst⟩
  · intro hage
    exact hfield ((hother "age" (by decide +kernel) (by decide)).1 hage).2.holds

/-- Two parameters of different normalized names take the one argument that has the name of the
second. -/
theorem argument_taken_twice :
    let c := CallContext.start { CallConfig.procedure "p" with useColumns := false }
      (.generic Fixtures.mySql)
    let declared := [Parameter.input "user_name" .nvarchar, Parameter.input "userName" .nvarchar]
    let source := ArgumentSource.ofValues (.ofPairs [("userName", .text "Bob")])
    ∃ l, (c.reconcile declared []).outcome = .ok l ∧
      (l.bindableNames.map c.dialect.normalize).Nodup ∧
      (source.names.map c.dialect.normalize).Nodup ∧
      ∃ vs, (c.dialect.matchArguments l source).outcome = .ok vs ∧
        vs.entries = [("user_name", .text "Bob"), ("userName", .text "Bob")] := by
  intro c declared source
  have hbindings : c.dialect.bindings (c.declaredList declared []) source.names =
      [⟨"user_name", 0, "userName"⟩, ⟨"userName", 0, "userName"⟩] := by decide +kernel
  let vs := (NamedValues.empty.insert "user_name" (.text "Bob")).insert "userName" (.text "Bob")
  refine ⟨_, CallContext.reconcile_of_unused rfl, by decide +kernel, by decide +kernel, vs,
    outcome_matchArguments_eq_ok_iff.2 ?_, rfl⟩
  rw [Dialect.matchedValues, hbindings]
  rfl

end StoredCall
