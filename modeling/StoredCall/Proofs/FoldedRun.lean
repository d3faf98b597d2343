import StoredCall.Proofs.ColumnRun
import StoredCall.Proofs.Folding

/-!
# Runs up to letter case

Plans and drafts that differ in letter case and mappers only take the same decisions, up to letter
case and mappers.

* `Draft.folded`, `Decision.folded`: names in ASCII lower case, and no mappers;
* `Draft.folded_apply`: applying decisions commutes with folding;
* `Plan.Alike`: plans that differ in letter case, in mappers, and in the wishes for names that are
  declared anyway;
* `Plan.Alike.decisions`: alike plans decide on columns alike.
-/

namespace StoredCall

/-! ### Folded drafts and decisions -/

/-- The draft with its names in ASCII lower case and without mappers. -/
def Draft.folded (d : Draft) : Draft :=
  { entries := d.entries.map Entry.folded
    taken := d.taken
    outputNames := d.outputNames.map String.toLower
    returnName := d.returnName.toLower
    returnIndex := d.returnIndex }

/-- The decision with its names in ASCII lower case and without mappers. -/
def Decision.folded : Decision → Decision
  | .resolveReturn k => .resolveReturn k.folded
  | .returnMissing name => .returnMissing name.toLower
  | .reuse role name k => .reuse role name.toLower k.folded
  | .add role name kind p => .add role name.toLower kind p.folded
  | .exclude name => .exclude name.toLower
  | v => v

theorem Draft.taken_eq_of_folded_eq {d d' : Draft} (h : d.folded = d'.folded) :
    d.taken = d'.taken :=
  (Draft.mk.inj h).2.1

theorem Decision.missing?_folded (v : Decision) :
    v.folded.missing? = v.missing?.map String.toLower := by
  cases v <;> rfl

theorem Draft.folded_place (d : Draft) (key : String) (e : Entry) :
    (d.place key e).folded = d.folded.place key e.folded := by
  simp [Draft.place, Draft.folded]

theorem Draft.folded_markReturn (d : Draft) : d.markReturn.folded = d.folded.markReturn := by
  simp [Draft.markReturn, Draft.folded]

theorem Draft.folded_apply (d : Draft) (v : Decision) :
    (d.apply v).folded = d.folded.apply v.folded := by
  cases v with
  | resolveReturn k =>
    simp only [Draft.apply, Decision.folded, Draft.folded_place]
    simp [Draft.folded, Draft.markReturn, Kept.folded, Kept.entry, Entry.folded]
  | reuse role name k =>
    cases role <;>
      simp only [Draft.apply, Decision.folded, Draft.folded_place, Draft.folded_markReturn] <;> rfl
  | add role name kind p =>
    cases role <;>
      simp [Draft.apply, Decision.folded, Draft.folded, Draft.place, Draft.markReturn,
        Entry.folded, Text.lower_toLower]
  | _ => rfl

theorem Draft.folded_foldl (vs : List Decision) (d : Draft) :
    (vs.foldl Draft.apply d).folded = (vs.map Decision.folded).foldl Draft.apply d.folded := by
  induction vs generalizing d with
  | nil => rfl
  | cons v vs ih => rw [List.foldl_cons, List.map_cons, List.foldl_cons, ih, Draft.folded_apply]

/-! ### Alike plans -/

theorem none_or_some_of_map_eq {α β : Type} {f : α → β} {x y : Option α} (h : x.map f = y.map f) :
    (x = none ∧ y = none) ∨ ∃ a b, x = some a ∧ y = some b ∧ f a = f b := by
  cases x with
  | none =>
    cases y with
    | none => exact Or.inl ⟨rfl, rfl⟩
    | some b => cases h
  | some a =>
    cases y with
    | none => cases h
    | some b => exact Or.inr ⟨a, b, rfl, rfl, Option.some.inj h⟩

/-- The first declarations with a property that does not depend on letter case. -/
theorem find?_folded {p : Kept → Bool} (hp : ∀ k, p k.folded = p k) {ks ks' : List Kept}
    (h : ks.map Kept.folded = ks'.map Kept.folded) :
    (ks.find? p).map Kept.folded = (ks'.find? p).map Kept.folded := by
  have hcomp : ∀ ks : List Kept, (ks.find? p).map Kept.folded = (ks.map Kept.folded).find? p := by
    intro ks
    rw [List.find?_map]
    congr 2
    exact funext fun k => (hp k).symm
  rw [hcomp, hcomp, h]

namespace Plan

/-- The plans differ in letter case, in mappers, and in the wishes for names that are hidden or
declared. -/
structure Alike (plan plan' : Plan) (hidden : List String) : Prop where
  dialect : plan.dialect = plan'.dialect
  isFunction : plan.isFunction = plan'.isFunction
  returnRequired : plan.returnRequired = plan'.returnRequired
  kept : plan.kept.map Kept.folded = plan'.kept.map Kept.folded
  wants : ∀ key, key ∉ hidden → (∀ k ∈ plan.kept, k.key ≠ key) → plan.wants key = plan'.wants key

namespace Alike

variable {plan plan' : Plan} {hidden : List String} {d d' : Draft} {column : Column}

theorem free? (h : plan.Alike plan' hidden) (hd : d.folded = d'.folded) (key : String) :
    (plan.free? d key).map Kept.folded = (plan'.free? d' key).map Kept.folded := by
  have htaken := Draft.taken_eq_of_folded_eq hd
  unfold Plan.free?
  rw [htaken]
  split
  · rfl
  · exact find?_folded (fun _ => rfl) h.kept

theorem returnReuse? (h : plan.Alike plan' hidden) (hd : d.folded = d'.folded)
    (name : Option String) :
    (plan.returnReuse? d name).map Kept.folded = (plan'.returnReuse? d' name).map Kept.folded := by
  have hname : plan.dialect.normalize d.returnName = plan'.dialect.normalize d'.returnName := by
    rw [h.dialect]
    exact plan'.dialect.normalize_congr (congrArg Draft.returnName hd)
  unfold Plan.returnReuse?
  rw [Option.map_or, Option.map_or, h.free? hd, hname]
  cases name with
  | none => rfl
  | some n => rw [Option.bind_some, Option.bind_some, h.free? hd]

theorem freeOutput? (h : plan.Alike plan' hidden) (hd : d.folded = d'.folded) :
    (plan.freeOutput? d).map Kept.folded = (plan'.freeOutput? d').map Kept.folded := by
  have htaken := Draft.taken_eq_of_folded_eq hd
  unfold Plan.freeOutput?
  rw [htaken]
  exact find?_folded (fun _ => rfl) h.kept

theorem decideReturn (h : plan.Alike plan' hidden) (hd : d.folded = d'.folded)
    (name : Option String) :
    (plan.decideReturn d name column).folded = (plan'.decideReturn d' name column).folded := by
  have hname : d.returnName.toLower = d'.returnName.toLower := congrArg Draft.returnName hd
  have hreuse := h.returnReuse? hd name
  unfold Plan.decideReturn
  rw [← h.isFunction, ← h.returnRequired, ← h.dialect]
  cases plan.isFunction with
  | true =>
    have htaker : ((plan.returnReuse? d name).or (plan.freeOutput? d)).map Kept.folded =
        ((plan'.returnReuse? d' name).or (plan'.freeOutput? d')).map Kept.folded := by
      rw [Option.map_or, Option.map_or, hreuse, h.freeOutput? hd]
    rcases none_or_some_of_map_eq htaker with ⟨hx, hy⟩ | ⟨k, k', hx, hy, hk⟩
    · rw [hx, hy]
      exact congrArg Decision.returnMissing hname
    · rw [hx, hy]
      exact congrArg Decision.resolveReturn hk
  | false =>
    rcases none_or_some_of_map_eq hreuse with ⟨hx, hy⟩ | ⟨k, k', hx, hy, hk⟩
    · rw [hx, hy]
      simp only [Bool.false_eq_true, if_false]
      split
      · rfl
      · have hn : (name.getD d.returnName).toLower = (name.getD d'.returnName).toLower := by
          cases name with
          | none => exact hname
          | some n => rfl
        simp only [Decision.folded, hn, folded_defaultOutput plan.dialect column hn]
    · rw [hx, hy]
      have hk' : k.name.toLower = k'.name.toLower := congrArg Kept.name hk
      simp only [Bool.false_eq_true, if_false, Decision.folded, hk, hk']

theorem decideOutput (h : plan.Alike plan' hidden) (hd : d.folded = d'.folded) (n : String) :
    (plan.decideOutput d n column).folded = (plan'.decideOutput d' n column).folded := by
  unfold Plan.decideOutput
  rw [← h.dialect]
  rcases none_or_some_of_map_eq (h.free? hd (Text.lower n)) with ⟨hx, hy⟩ | ⟨k, k', hx, hy, hk⟩
  · rw [hx, hy]
  · rw [hx, hy]
    exact congrArg (Decision.reuse .output n.toLower) hk

theorem decideInput (h : plan.Alike plan' hidden) (hd : d.folded = d'.folded)
    (hhidden : hidden ⊆ d.taken) {n : String} (hfree : Text.lower n ∉ d.taken) :
    (plan.decideInput d n column).folded = (plan'.decideInput d' n column).folded := by
  unfold Plan.decideInput
  rcases none_or_some_of_map_eq (h.free? hd (Text.lower n)) with ⟨hx, hy⟩ | ⟨k, k', hx, hy, hk⟩
  · -- only the wish for a name that is neither hidden nor declared decides
    have hwants := h.wants (Text.lower n) (fun hm => hfree (hhidden hm)) (free?_eq_none hx hfree)
    rw [hx, hy]
    simp only [hwants]
  · rw [hx, hy]
    exact congrArg (Decision.reuse .input n.toLower) hk

theorem decisionFor (h : plan.Alike plan' hidden) (hd : d.folded = d'.folded)
    (hhidden : hidden ⊆ d.taken) (column : Column) :
    (plan.decisionFor d column).folded = (plan'.decisionFor d' column).folded := by
  have htaken := Draft.taken_eq_of_folded_eq hd
  unfold Plan.decisionFor
  simp only [← h.dialect, ← htaken]
  by_cases hbound : (column.name.map plan.dialect.parameterName).any (Text.lower · ∈ d.taken) = true
  · rw [if_pos hbound, if_pos hbound]
  rw [if_neg hbound, if_neg hbound]
  have hfree : ∀ n, column.name.map plan.dialect.parameterName = some n →
      Text.lower n ∉ d.taken := by
    intro n hn hmem
    exact hbound (by simpa [hn] using hmem)
  cases hname : column.name.map plan.dialect.parameterName with
  | none =>
    cases column.kind with
    | returned => exact h.decideReturn hd none
    | _ => rfl
  | some n =>
    cases column.kind with
    | returned => exact h.decideReturn hd (some n)
    | output | inOut => exact h.decideOutput hd n
    | input | unknown | result => exact h.decideInput hd hhidden (hfree n hname)

/-- Alike plans decide on columns alike. -/
theorem decisions (h : plan.Alike plan' hidden) (hd : d.folded = d'.folded)
    (hhidden : hidden ⊆ d.taken) (columns : List Column) :
    (plan.decisions d columns).map Decision.folded =
      (plan'.decisions d' columns).map Decision.folded := by
  induction columns generalizing d d' with
  | nil => rfl
  | cons column rest ih =>
    have hv := h.decisionFor hd hhidden column
    have hmissing : (plan.decisionFor d column).missing?.isSome =
        (plan'.decisionFor d' column).missing?.isSome := by
      rw [← Option.isSome_map (f := String.toLower), ← Decision.missing?_folded, hv,
        Decision.missing?_folded, Option.isSome_map]
    have happly : (d.apply (plan.decisionFor d column)).folded =
        (d'.apply (plan'.decisionFor d' column)).folded := by
      rw [Draft.folded_apply, Draft.folded_apply, hd, hv]
    have hlater := ih happly (List.Subset.trans hhidden (d.taken_subset_apply _))
    simp only [Plan.decisions, List.map_cons, hv, hmissing]
    split
    · rfl
    · rw [hlater]

end Alike

end Plan

end StoredCall
