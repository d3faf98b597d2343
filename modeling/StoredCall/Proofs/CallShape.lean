import StoredCall.Proofs.Compilation
import StoredCall.Proofs.Identifier
import StoredCall.Proofs.ReturnParameter

/-!
# The shape of call texts

What the text of a compiled call consists of, and that the parts can be told from the text.

* `CallShape`: a return placeholder or none, at most two qualifiers, a name, and a number of
  placeholders; the names are identifiers;
* `CallShape.marks`: the placeholders, which `CallShape.questionMarks_eq_marks` says are written so;
* `CallShape.text_injective`: different shapes have different texts;
* `text_of_compileWith`: the text of a compiled call is that of one shape;
* `text_of_returnIndex`: which placeholder the return parameter of a compiled call has.
-/

namespace StoredCall

/-- The parts of a call text. -/
structure CallShape where
  /-- Whether a return placeholder stands before the call. -/
  bindsReturn : Bool
  qualifiers : List String
  name : String
  /-- The number of placeholders between the parentheses. -/
  placeholders : ℕ
  length_qualifiers : qualifiers.length ≤ 2
  isIdentifier_qualifiers : ∀ q ∈ qualifiers, IsIdentifier q
  isIdentifier_name : IsIdentifier name

namespace CallShape

/-- The qualified name of the routine. -/
def target (s : CallShape) : String :=
  String.join (s.qualifiers.map (· ++ ".")) ++ s.name

/-- Question marks, a comma and a blank between any two. -/
def marks : ℕ → String
  | 0 => ""
  | 1 => "?"
  | n + 2 => "?, " ++ marks (n + 1)

/-- The call text with these parts. -/
def text (s : CallShape) : String :=
  "\x7b" ++ (if s.bindsReturn then "? = " else "") ++ "call " ++ s.target ++ "("
    ++ marks s.placeholders ++ ")\x7d"

/-! ### Qualified names -/

theorem flatMap_append_eq_intercalate (parts : List (List Char)) (last : List Char) :
    parts.flatMap (· ++ ['.']) ++ last = ['.'].intercalate (parts ++ [last]) := by
  induction parts with
  | nil => simp
  | cons part parts ih =>
    rw [List.flatMap_cons, List.append_assoc, ih, List.cons_append,
      List.intercalate_cons_of_ne_nil (by simp), List.append_assoc]

variable (s : CallShape)

theorem toList_target :
    s.target.toList = ['.'].intercalate ((s.qualifiers ++ [s.name]).map String.toList) := by
  rw [target, String.toList_append, String.toList_join, List.flatMap_map]
  have hparts := flatMap_append_eq_intercalate (s.qualifiers.map String.toList) s.name.toList
  rw [List.flatMap_map] at hparts
  rw [List.map_append, List.map_cons, List.map_nil, ← hparts]
  simp only [String.toList_append]
  rfl

theorem isIdentifier_of_mem {q : String} (hq : q ∈ s.qualifiers ++ [s.name]) : IsIdentifier q := by
  rcases List.mem_append.1 hq with hq | hq
  · exact s.isIdentifier_qualifiers q hq
  · rw [List.mem_singleton.1 hq]
    exact s.isIdentifier_name

theorem not_mem_target {x : Char} (hx : isIdentifierRest x = false) (hpoint : x ≠ '.') :
    x ∉ s.target.toList := by
  rw [target, String.toList_append, String.toList_join, List.mem_append, List.mem_flatMap]
  rintro (⟨part, hpart, hmem⟩ | hmem)
  · obtain ⟨q, hq, rfl⟩ := List.mem_map.1 hpart
    rw [String.toList_append, List.mem_append] at hmem
    rcases hmem with hmem | hmem
    · exact (s.isIdentifier_qualifiers q hq).not_mem hx hmem
    · exact hpoint (by simpa using hmem)
  · exact s.isIdentifier_name.not_mem hx hmem

theorem parts_eq_of_target_eq {s t : CallShape} (h : s.target = t.target) :
    s.qualifiers = t.qualifiers ∧ s.name = t.name := by
  have hsplit : ∀ u : CallShape, u.target.toList.splitOn '.' =
      (u.qualifiers ++ [u.name]).map String.toList := by
    intro u
    rw [toList_target, List.splitOn_intercalate _ _ (by simp)]
    intro part hpart
    obtain ⟨q, hq, rfl⟩ := List.mem_map.1 hpart
    exact (u.isIdentifier_of_mem hq).not_mem (by decide)
  have hparts : (s.qualifiers ++ [s.name]).map String.toList =
      (t.qualifiers ++ [t.name]).map String.toList := by
    rw [← hsplit s, ← hsplit t, h]
  have heq := List.map_injective_iff.2 (fun _ _ => String.toList_inj.1) hparts
  obtain ⟨hqualifiers, hname⟩ := List.append_inj' heq rfl
  exact ⟨hqualifiers, List.singleton_inj.1 hname⟩

/-! ### Placeholders -/

theorem questionMarks_eq_marks (n : ℕ) : CallContext.questionMarks n = marks n := by
  induction n using marks.induct with
  | case1 => rfl
  | case2 => rfl
  | case3 n ih =>
    rw [marks, ← ih, CallContext.questionMarks, CallContext.questionMarks, List.replicate_succ,
      List.replicate_succ, String.intercalate_cons_cons]
    rfl

theorem count_marks (n : ℕ) : (marks n).toList.count '?' = n := by
  induction n using marks.induct with
  | case1 => rfl
  | case2 => rfl
  | case3 n ih =>
    rw [marks, String.toList_append, List.count_append, ih]
    exact Nat.add_comm 1 (n + 1)

/-! ### Telling the parts -/

/-- A text is cut in one way before a character that the first part does not hold. -/
theorem eq_of_append_cons_eq {x : Char} {a b c d : List Char} (ha : x ∉ a) (hb : x ∉ b)
    (h : a ++ x :: c = b ++ x :: d) : a = b ∧ c = d := by
  induction a generalizing b with
  | nil =>
    cases b with
    | nil => exact ⟨rfl, List.tail_eq_of_cons_eq h⟩
    | cons y b =>
      have hx : x = y := List.head_eq_of_cons_eq h
      exact absurd (hx ▸ List.mem_cons_self) hb
  | cons y a ih =>
    cases b with
    | nil =>
      have hx : y = x := List.head_eq_of_cons_eq h
      exact absurd (hx ▸ List.mem_cons_self) ha
    | cons z b =>
      obtain ⟨rfl, htail⟩ := List.cons.inj h
      obtain ⟨rfl, hrest⟩ := ih (fun hm => ha (List.mem_cons_of_mem _ hm))
        (fun hm => hb (List.mem_cons_of_mem _ hm)) htail
      exact ⟨rfl, hrest⟩

theorem toList_text :
    s.text.toList = '\x7b' :: ((if s.bindsReturn then "? = ".toList else []) ++ ("call ".toList ++
      (s.target.toList ++ '(' :: ((marks s.placeholders).toList ++ [')', '\x7d'])))) := by
  unfold text
  cases s.bindsReturn <;> simp

/-- Different shapes have different texts. -/
theorem text_injective : Function.Injective text := by
  intro s t h
  have h := congrArg String.toList h
  rw [toList_text, toList_text] at h
  have htail := List.tail_eq_of_cons_eq h
  -- the character after the brace tells whether a return placeholder comes first
  have hreturn : s.bindsReturn = t.bindsReturn := by
    cases hs : s.bindsReturn <;> cases ht : t.bindsReturn <;> first
      | rfl
      | (rw [hs, ht] at htail; exact absurd (List.head_eq_of_cons_eq htail) (by decide))
  rw [hreturn] at htail
  have hcall := List.append_cancel_left (List.append_cancel_left htail)
  have hparenthesis : ∀ u : CallShape, '(' ∉ u.target.toList :=
    fun u => u.not_mem_target (by decide) (by decide)
  obtain ⟨htarget, hrest⟩ := eq_of_append_cons_eq (hparenthesis s) (hparenthesis t) hcall
  obtain ⟨hqualifiers, hname⟩ := parts_eq_of_target_eq (String.toList_inj.1 htarget)
  have hmarks := congrArg (List.count '?') (List.append_cancel_right hrest)
  rw [count_marks, count_marks] at hmarks
  cases s
  cases t
  cases hreturn
  cases hqualifiers
  cases hname
  cases hmarks
  rfl

end CallShape

/-! ### The text of a call -/

namespace CallContext

variable (c : CallContext)

theorem length_qualifiersInCall : c.qualifiersInCall.length ≤ 2 := by
  refine Nat.le_trans (List.length_filter_le _ _) ?_
  rw [List.length_append]
  cases c.dialect.catalogInCall c.config.routine.catalog <;>
    cases c.dialect.schemaInCall c.config.routine.schema <;> simp

theorem identifier_empty (d : Dialect) : d.identifier "" = "" := by
  unfold Dialect.identifier Dialect.identifierCase
  split
  · rfl
  · split <;> rfl

theorem exists_of_mem_qualifiersInCall {q : String} (h : q ∈ c.qualifiersInCall) :
    ∃ p ∈ c.config.routine.catalog.toList ++ c.config.routine.schema.toList,
      p ≠ "" ∧ c.dialect.identifier p = q := by
  obtain ⟨hmem, hne⟩ := List.mem_filter.1 h
  have hne : q ≠ "" := of_decide_eq_true hne
  have hpart : ∀ part : Option String, part.map c.dialect.identifier = some q →
      ∃ p ∈ part.toList, p ≠ "" ∧ c.dialect.identifier p = q := by
    intro part hq
    obtain ⟨p, rfl, rfl⟩ := Option.map_eq_some_iff.1 hq
    refine ⟨p, by simp, fun hp => hne ?_, rfl⟩
    rw [hp, identifier_empty]
  rcases List.mem_append.1 hmem with hq | hq
  · unfold Dialect.catalogInCall at hq
    split at hq
    · obtain ⟨p, hp, hrest⟩ := hpart _ (Option.mem_toList.1 hq)
      exact ⟨p, List.mem_append_left _ hp, hrest⟩
    · cases hq
  · unfold Dialect.schemaInCall at hq
    split at hq
    · obtain ⟨p, hp, hrest⟩ := hpart _ (Option.mem_toList.1 hq)
      exact ⟨p, List.mem_append_right _ hp, hrest⟩
    · cases hq

variable {c}

/-- The parts of the call text of an accepted configuration. -/
def shape (hvalid : c.config.validate = .ok ()) (placeholders : ℕ) : CallShape where
  bindsReturn := c.config.bindsReturn
  qualifiers := c.qualifiersInCall
  name := c.dialect.identifier c.config.routine.name
  placeholders := placeholders
  length_qualifiers := c.length_qualifiersInCall
  isIdentifier_qualifiers := by
    intro q hq
    obtain ⟨p, hp, hne, rfl⟩ := c.exists_of_mem_qualifiersInCall hq
    exact isIdentifier_identifierCase _ ((identifiers_of_validate hvalid).2 p hp hne)
  isIdentifier_name := isIdentifier_identifierCase _ (identifiers_of_validate hvalid).1

theorem text_shape (hvalid : c.config.validate = .ok ()) (l : ParameterList) :
    (c.shape hvalid (c.placeholders l)).text = c.callText l := by
  rw [CallShape.text, CallShape.target, ← CallShape.questionMarks_eq_marks, ← String.append_assoc]
  rfl

end CallContext

section

variable {call : CallDefinition} {dialect : Dialect} {columns : List Column}
  {compiled : CompiledCall}

/-- The text of a compiled call has a shape, and only this one. Its placeholders, together with the
return placeholder if a return parameter is bound to it, are as many as the parameters that are no
result sets. -/
theorem text_of_compileWith (h : (call.compileWith dialect columns).outcome = .ok compiled) :
    ∃ s : CallShape, compiled.text = s.text ∧
      (s.bindsReturn = true ↔ call.config.isFunction = true ∨ call.config.returnRequired = true) ∧
      s.placeholders + (if s.bindsReturn && compiled.parameters.returnIndex.isSome then 1 else 0) =
        ordinaryCount compiled.parameters.entries ∧
      ∀ t : CallShape, compiled.text = t.text → t = s := by
  obtain ⟨hvalid, l, hl, rfl⟩ := CallDefinition.compileWith_eq_ok_iff.1 h
  have htext := CallContext.text_shape (c := .start call.config dialect) hvalid l
  refine ⟨_, htext.symm, ?_, ?_, fun t ht => CallShape.text_injective (ht.symm.trans htext.symm)⟩
  · exact Bool.or_eq_true_iff
  · exact placeholders_add (returnPlaced_of_reconcile hl)

theorem text_of_compileWith_add_user :
    let call : CallDefinition := { config := { CallConfig.procedure "add_user" with
      routine := ⟨none, some "dbo", "add_user"⟩ } }
    ∃ compiled, (call.compileWith (.sqlServer Fixtures.sqlServer)
        Fixtures.sqlServerAddUser.columns).outcome = .ok compiled ∧
      ∃ s : CallShape, compiled.text = s.text ∧
        (s.bindsReturn = true ↔ call.config.isFunction = true ∨ call.config.returnRequired = true) ∧
        s.placeholders +
            (if s.bindsReturn && compiled.parameters.returnIndex.isSome then 1 else 0) =
          ordinaryCount compiled.parameters.entries ∧
        ∀ t : CallShape, compiled.text = t.text → t = s := by
  intro call
  obtain ⟨compiled, h⟩ := call.exists_compileWith_of_procedure (.sqlServer Fixtures.sqlServer)
    Fixtures.sqlServerAddUser.columns (by decide +kernel) rfl
  exact ⟨compiled, h, text_of_compileWith h⟩

/-- The return parameter of a call that binds a return value has the placeholder before the call and
none between the parentheses; in other calls it has one there like any other parameter. -/
theorem text_of_returnIndex (h : (call.compileWith dialect columns).outcome = .ok compiled) {i : ℕ}
    (hi : compiled.parameters.returnIndex = some i) :
    ∃ e, compiled.parameters.entries[i]? = some e ∧ e.isResultSet = false ∧
      ∃ target : String, '(' ∉ target.toList ∧ '?' ∉ target.toList ∧
        compiled.text =
          if call.config.bindsReturn then
            "\x7b? = call " ++ target ++ "(" ++
              CallShape.marks (ordinaryCount (compiled.parameters.entries.eraseIdx i)) ++ ")\x7d"
          else
            "\x7bcall " ++ target ++ "(" ++
              CallShape.marks (ordinaryCount compiled.parameters.entries) ++ ")\x7d" := by
  obtain ⟨hvalid, l, hl, rfl⟩ := CallDefinition.compileWith_eq_ok_iff.1 h
  obtain ⟨e, he, hres⟩ := returnPlaced_of_reconcile hl i hi
  refine ⟨e, he, hres, ?_⟩
  set c := CallContext.start call.config dialect with hc
  have htext := CallContext.text_shape (c := c) hvalid l
  set s := c.shape hvalid (c.placeholders l) with hs
  refine ⟨s.target, s.not_mem_target (by decide) (by decide),
    s.not_mem_target (by decide) (by decide), ?_⟩
  have hbinds : s.bindsReturn = c.config.bindsReturn := rfl
  have hconfig : call.config.bindsReturn = c.config.bindsReturn := rfl
  rw [CallDefinition.text_compiledFor, ← hc, ← htext, CallShape.text, hbinds, hconfig]
  cases hb : c.config.bindsReturn with
  | true =>
    have hbound : c.boundReturn l = some i := by
      rw [CallContext.boundReturn, hb]
      exact hi
    have hcount : s.placeholders = ordinaryCount (l.entries.eraseIdx i) :=
      placeholders_of_boundReturn_eq_some hbound
    rw [hcount]
    rfl
  | false =>
    have hbound : c.boundReturn l = none := by
      rw [CallContext.boundReturn, hb]
      rfl
    have hcount : s.placeholders = ordinaryCount l.entries :=
      placeholders_of_boundReturn_eq_none hbound
    rw [hcount]
    rfl

/-- The return parameter of a procedure call that binds no return value stands between the
parentheses. -/
theorem procedure_return_between_parentheses :
    ∃ compiled, ((CallDefinition.mk (.procedure "p") []).compileWith (.generic Fixtures.mySql)
        [{ name := none, kind := .returned, sqlType := .integer, ordinal := 0 }]).outcome =
          .ok compiled ∧
      compiled.parameters.returnIndex = some 0 ∧ compiled.text = "\x7bcall p(?)\x7d" := by
  set c := CallContext.start (.procedure "p") (.generic Fixtures.mySql)
  set column : Column := { name := none, kind := .returned, sqlType := .integer, ordinal := 0 }
  have run : (c.plan []).Run (c.draft [] [column]) [column] _ := .cons (by decide +kernel) (.nil _)
  have hl := CallContext.reconcile_of_run rfl (List.mergeSort_singleton _) run
  exact ⟨_, CallDefinition.compileWith_eq_ok_iff.2 ⟨by decide +kernel, _, hl, rfl⟩, rfl,
    by decide +kernel⟩

/-- After a result set and before two inputs, the return parameter of a call that binds it has none
of the placeholders between the parentheses. -/
theorem text_of_returnIndex_required :
    let rows : Parameter := { name := some "rows", direction := .resultSet, sqlType := .other }
    let call : CallDefinition :=
      { config := { CallConfig.procedure "p" with returnRequired := true }
        declared := [.input "id" .integer, rows] }
    let columns : List Column :=
      [{ name := none, kind := .returned, sqlType := .integer, ordinal := 0 },
        Fixtures.column "id" .input .integer 1, Fixtures.column "amount" .input .integer 2]
    ∃ compiled, (call.compileWith (.generic Fixtures.mySql) columns).outcome = .ok compiled ∧
      compiled.parameters.entries.map (·.name) =
        [some "rows", some "return", some "id", some "amount"] ∧
      compiled.parameters.returnIndex = some 1 ∧
      compiled.text = "\x7b? = call p(?, ?)\x7d" ∧
      ∃ e, compiled.parameters.entries[1]? = some e ∧ e.isResultSet = false ∧
        ∃ target : String, '(' ∉ target.toList ∧ '?' ∉ target.toList ∧ compiled.text =
          "\x7b? = call " ++ target ++ "(" ++
            CallShape.marks (ordinaryCount (compiled.parameters.entries.eraseIdx 1)) ++
              ")\x7d" := by
  intro rows call columns
  set c := CallContext.start call.config (.generic Fixtures.mySql)
  have hsorted : inOrdinalOrder columns = columns := List.mergeSort_of_pairwise (by decide)
  obtain ⟨last, run, hnames, hindex, htext⟩ : ∃ last,
      (c.plan call.declared).Run (c.draft call.declared columns) columns last ∧
        last.finish.entries.map (·.name) = [some "rows", some "return", some "id", some "amount"] ∧
        last.finish.returnIndex = some 1 ∧
        c.callText last.finish = "\x7b? = call p(?, ?)\x7d" :=
    ⟨_, .cons (by decide +kernel) (.cons (by decide +kernel) (.cons (by decide +kernel) (.nil _))),
      by decide +kernel, by decide +kernel, by decide +kernel⟩
  have hl := CallContext.reconcile_of_run rfl hsorted run
  have h : (call.compileWith (.generic Fixtures.mySql) columns).outcome = .ok _ :=
    CallDefinition.compileWith_eq_ok_iff.2 ⟨by decide +kernel, _, hl, rfl⟩
  exact ⟨_, h, hnames, hindex, htext, text_of_returnIndex h hindex⟩

end

end StoredCall
