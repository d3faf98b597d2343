import StoredCall.CallKey
import StoredCall.Proofs.LetterCase

/-!
# Parameters up to letter case

What remains of parameters and parameter lists when the ASCII letter case of names and the row
mappers are forgotten.

* `Parameter.folded`, `Kept.folded`, `Entry.folded`, `ParameterList.folded`: names in ASCII lower
  case, and no mappers;
* `Dialect.identifier_congr`, `Dialect.normalize_congr`: dialects do not tell apart names that
  differ in ASCII letter case only;
* `folded_defaultOutput`: neither do the parameters made for columns.
-/

namespace StoredCall

/-! ### Names by the rules of a dialect -/

namespace Dialect

variable {s t : String}

theorem identifierCase_congr (info : DatabaseInfo) (h : s.toLower = t.toLower) :
    (identifierCase info s).toLower = (identifierCase info t).toLower := by
  have hsame := Text.toLower_eq_iff.1 h
  unfold identifierCase
  split
  · rw [Text.upper_eq_of_sameLetters hsame]
  · split
    · rw [Text.lower_eq_of_sameLetters hsame]
    · exact h

theorem dropAtSign_of_toList {c : Char} {cs : List Char} (h : s.toList = '@' :: c :: cs) :
    dropAtSign s = String.ofList (c :: cs) := by
  unfold dropAtSign
  rw [h]
  rfl

theorem dropAtSign_eq_self (h : ∀ c cs, s.toList ≠ '@' :: c :: cs) : dropAtSign s = s := by
  unfold dropAtSign
  split
  · rename_i c cs hs
    exact absurd hs (h c cs)
  · rfl

theorem dropAtSign_congr (h : s.toLower = t.toLower) :
    (dropAtSign s).toLower = (dropAtSign t).toLower := by
  have hchars : s.toList.map Char.toLower = t.toList.map Char.toLower := by
    rw [← Text.toList_toLower, ← Text.toList_toLower, h]
  by_cases hs : ∃ c cs, s.toList = '@' :: c :: cs
  · obtain ⟨c, cs, hs⟩ := hs
    rw [hs, List.map_cons, List.map_cons] at hchars
    obtain ⟨x, ts, ht, hx, hts⟩ := List.map_eq_cons_iff.1 hchars.symm
    obtain ⟨y, ys, rfl, hy, hys⟩ := List.map_eq_cons_iff.1 hts
    obtain rfl := Text.eq_at_of_toLower_eq (hx.trans (by decide))
    rw [dropAtSign_of_toList hs, dropAtSign_of_toList ht, ← String.toList_inj, Text.toList_toLower,
      Text.toList_toLower, String.toList_ofList, String.toList_ofList, List.map_cons, List.map_cons,
      hy, hys]
  · have ht : ¬∃ c cs, t.toList = '@' :: c :: cs := by
      rintro ⟨c, cs, ht⟩
      rw [ht, List.map_cons, List.map_cons] at hchars
      obtain ⟨x, ss, hs', hx, hss⟩ := List.map_eq_cons_iff.1 hchars
      obtain ⟨y, ys, rfl, -, -⟩ := List.map_eq_cons_iff.1 hss
      obtain rfl := Text.eq_at_of_toLower_eq (hx.trans (by decide))
      exact hs ⟨y, ys, hs'⟩
    rw [dropAtSign_eq_self fun c cs hc => hs ⟨c, cs, hc⟩,
      dropAtSign_eq_self fun c cs hc => ht ⟨c, cs, hc⟩]
    exact h

variable (d : Dialect)

theorem identifier_congr (h : s.toLower = t.toLower) :
    (d.identifier s).toLower = (d.identifier t).toLower :=
  identifierCase_congr d.info h

theorem parameterName_congr (h : s.toLower = t.toLower) :
    (d.parameterName s).toLower = (d.parameterName t).toLower := by
  unfold parameterName
  split
  · exact d.identifier_congr (dropAtSign_congr h)
  · exact d.identifier_congr h

theorem normalize_congr (h : s.toLower = t.toLower) : d.normalize s = d.normalize t :=
  Text.lower_eq_of_sameLetters (Text.toLower_eq_iff.1 (d.parameterName_congr h))

theorem normalize_toLower (s : String) : d.normalize s.toLower = d.normalize s :=
  d.normalize_congr (Text.toLower_toLower s)

end Dialect

/-! ### Folding -/

/-- The parameter with its name in ASCII lower case and without its mapper. -/
def Parameter.folded (p : Parameter) : Parameter :=
  { p with name := p.name.map String.toLower, mapper := none }

def Kept.folded (k : Kept) : Kept :=
  { k with name := k.name.toLower, parameter := k.parameter.folded }

def Entry.folded : Entry → Entry
  | declared i p => .declared i p.folded
  | synthesized p => .synthesized p.folded

/-- The parameter list with its names in ASCII lower case and without mappers. -/
def ParameterList.folded (l : ParameterList) : ParameterList :=
  { entries := l.entries.map Entry.folded
    returnIndex := l.returnIndex
    outputNames := l.outputNames.map String.toLower
    returnName := l.returnName.toLower }

theorem Kept.key_eq_of_folded_eq {k k' : Kept} (h : k.folded = k'.folded) : k.key = k'.key :=
  (Kept.mk.inj h).2.2.1

theorem Kept.name_eq_of_folded_eq {k k' : Kept} (h : k.folded = k'.folded) :
    k.name.toLower = k'.name.toLower :=
  (Kept.mk.inj h).2.1

@[simp] theorem Entry.isResultSet_folded (e : Entry) : e.folded.isResultSet = e.isResultSet := by
  cases e <;> rfl

theorem Entry.name_folded (e : Entry) : e.folded.name = e.name.map String.toLower := by
  cases e <;> rfl

theorem Parameter.folded_eq_of_key_eq {p q : Parameter} (h : p.key = q.key) :
    p.folded = q.folded := by
  obtain ⟨hname, hdirection, htype, htypeName⟩ := ParameterKey.mk.inj h
  unfold folded
  rw [hname, hdirection, htype, htypeName]

/-- A name does not matter to a parameter made for an output column but for its letters. -/
theorem folded_defaultOutput (d : Dialect) (column : Column) {s t : String}
    (h : s.toLower = t.toLower) :
    (d.defaultOutput s column).folded = (d.defaultOutput t column).folded := by
  unfold Dialect.defaultOutput
  split <;> (try split) <;>
    simp [Parameter.folded, Parameter.output, Parameter.withTypeName, Dialect.typedAs, h]

end StoredCall
