import StoredCall.Proofs.CaseForms
import StoredCall.Proofs.PropertyNames
import StoredCall.Proofs.ReportedNames
import StoredCall.Record.Casing

/-!
# Names that spell a word

ASCII names that begin with a letter, up to underscores and letter case.

* `Spells`: the characters of a name make a word when underscores and letter case are forgotten;
* `Spells.apply`, `Spells.parameterName`: every casing and the rules of every dialect leave the word
  as it is;
* `reaches_iff_of_spells`: an argument may be taken by a parameter exactly if both spell one word.
-/

namespace StoredCall

/-! ### Spellings -/

/-- The other characters are ASCII characters and, but for underscores and letter case, the same. -/
structure Respells (cs cs' : List Char) : Prop where
  ascii : ∀ c ∈ cs', c.toNat < 128
  bare_eq : bare cs' = bare cs

/-- ASCII characters that begin with a letter make the word when underscores and letter case are
forgotten. -/
structure Spells (word cs : List Char) : Prop where
  ascii : ∀ c ∈ cs, c.toNat < 128
  letter : ∃ c rest, cs = c :: rest ∧ c.isAlpha = true
  bare_eq : bare cs = word

variable {word word' cs cs' ds ds' : List Char} {s : String}

theorem Respells.append (h : Respells cs cs') (h' : Respells ds ds') :
    Respells (cs ++ ds) (cs' ++ ds') :=
  ⟨List.forall_mem_append.2 ⟨h.ascii, h'.ascii⟩,
    by rw [bare_append, bare_append, h.bare_eq, h'.bare_eq]⟩

theorem Respells.of_alikeChars (h : ∀ c ∈ cs, c.toNat < 128) (halike : Text.AlikeChars cs cs') :
    Respells cs cs' :=
  ⟨Text.ascii_of_alikeChars h halike, (bare_congr halike).symm⟩

section

variable {c : Char}

theorem respells_self (hc : c.toNat < 128) : Respells [c] [c] :=
  .of_alikeChars (by simpa using hc) rfl

theorem respells_toLower (hc : c.toNat < 128) : Respells [c] [c.toLower] :=
  .of_alikeChars (by simpa using hc) (Text.alikeChars_toLower [c])

theorem respells_toUpper (hc : c.toNat < 128) : Respells [c] [c.toUpper] := by
  have hascii : ∀ x ∈ [c], x.toNat < 128 := by simpa using hc
  exact .of_alikeChars hascii (Text.alikeChars_toUpper hascii)

end

theorem isAlpha_congr {c c' : Char} (h : c.toLower = c'.toLower) : c.isAlpha = c'.isAlpha :=
  Text.congr_of_toLower_eq Char.isAlpha (fun c hc => Text.forall_ascii
    (P := fun c => c.isAlpha = c.toLower.isAlpha) (by decide) hc) h

theorem ne_underscore_of_isAlpha {c : Char} (h : c.isAlpha = true) : c ≠ '_' := by
  rintro rfl
  exact absurd h (by decide)

/-- The word remains if the first character keeps its letter. -/
theorem Spells.respell {c c' : Char} {rest rest' : List Char} (h : Spells word (c :: rest))
    (hc : c.toLower = c'.toLower) (hrest : Respells rest rest') : Spells word (c' :: rest') := by
  obtain ⟨hascii, ⟨_, _, ⟨rfl, rfl⟩, hletter⟩, rfl⟩ := h
  have hfirst : Respells [c] [c'] :=
    .of_alikeChars (by simpa using (List.forall_mem_cons.1 hascii).1) (congrArg ([·]) hc)
  have hall := hfirst.append hrest
  exact ⟨hall.ascii, ⟨c', rest', rfl, isAlpha_congr hc ▸ hletter⟩, hall.bare_eq⟩

theorem Spells.congr (h : Spells word cs) (halike : Text.AlikeChars cs cs') : Spells word cs' := by
  obtain ⟨c, rest, rfl, -⟩ := h.letter
  obtain ⟨c', rest', rfl, hc, hrest⟩ := List.map_eq_cons_iff.1 halike.symm
  exact h.respell hc.symm (.of_alikeChars (List.forall_mem_cons.1 h.ascii).2 hrest.symm)

theorem Spells.of_sameLetters {a b : String} (h : Spells word b.toList)
    (hsame : Text.sameLetters a b = true) : Spells word a.toList :=
  h.congr (Text.sameLetters_iff.1 hsame).symm

theorem Spells.lower (h : Spells word s.toList) : Spells word (Text.lower s).toList := by
  rw [Text.toList_lower_of_ascii h.ascii]
  exact h.congr (Text.alikeChars_toLower _)

theorem Spells.upper (h : Spells word s.toList) : Spells word (Text.upper s).toList := by
  rw [Text.toList_upper_of_ascii h.ascii]
  exact h.congr (Text.alikeChars_toUpper h.ascii)

/-! ### Casings -/

/-- What is written stays, and nothing but underscores comes between the words. -/
theorem exists_snakeAfter (h : ∀ c ∈ cs, c.toNat < 128) (written : List Char) :
    ∃ rest, Casing.snakeAfter written cs = written ++ rest ∧ Respells cs rest := by
  induction cs generalizing written with
  | nil => exact ⟨[], (List.append_nil _).symm, by simp, rfl⟩
  | cons c cs ih =>
    obtain ⟨hc, hcs⟩ := List.forall_mem_cons.1 h
    rw [Casing.snakeAfter]
    split
    · generalize hgap : (if written ≠ [] && written.getLast? ≠ some '_' then ['_'] else []) = gap
      have hnone : Respells [] gap := by
        rw [← hgap]
        split <;> exact ⟨by simp, rfl⟩
      obtain ⟨rest, hrest, hrespells⟩ := ih hcs (written ++ gap ++ [c.toLower])
      refine ⟨gap ++ ([c.toLower] ++ rest), ?_,
        hnone.append ((respells_toLower hc).append hrespells)⟩
      rw [Text.lowerChar_of_ascii hc, hrest, List.append_assoc, List.append_assoc]
    · obtain ⟨rest, hrest, hrespells⟩ := ih hcs (written ++ [c])
      refine ⟨[c] ++ rest, ?_, (respells_self hc).append hrespells⟩
      rw [hrest, List.append_assoc]

theorem Spells.snakeChars (h : Spells word cs) : Spells word (Casing.snakeChars cs) := by
  obtain ⟨c, rest, rfl, -⟩ := h.letter
  obtain ⟨hc, hrest⟩ := List.forall_mem_cons.1 h.ascii
  -- no underscore is put before the first word
  have hfirst : ∃ c', c.toLower = c'.toLower ∧
      Casing.snakeChars (c :: rest) = Casing.snakeAfter [c'] rest := by
    rw [Casing.snakeChars, Casing.snakeAfter]
    split
    · exact ⟨c.toLower, (Text.toLower_toLower_char c).symm, by rw [Text.lowerChar_of_ascii hc]; rfl⟩
    · exact ⟨c, rfl, rfl⟩
  obtain ⟨c', hc', hchars⟩ := hfirst
  obtain ⟨rest', hrest', hrespells⟩ := exists_snakeAfter hrest [c']
  rw [hchars, hrest']
  exact h.respell hc' hrespells

theorem respells_pascalFrom (h : ∀ c ∈ cs, c.toNat < 128) (capitalize : Bool) :
    Respells cs (Casing.pascalFrom capitalize cs) := by
  induction cs generalizing capitalize with
  | nil => exact ⟨by simp [Casing.pascalFrom], rfl⟩
  | cons c cs ih =>
    obtain ⟨hc, hcs⟩ := List.forall_mem_cons.1 h
    rw [Casing.pascalFrom]
    split
    · rename_i hunderscore
      obtain ⟨hascii, hbare⟩ := ih hcs true
      exact ⟨hascii, by rw [hbare, hunderscore, bare_underscore]⟩
    · have hform : Respells [c] (if capitalize then Text.upperChar c else [c]) := by
        split
        · rw [Text.upperChar_of_ascii hc]
          exact respells_toUpper hc
        · exact respells_self hc
      exact hform.append (ih hcs false)

theorem Spells.pascalChars (h : Spells word cs) : Spells word (Casing.pascalChars cs) := by
  obtain ⟨c, rest, rfl, hletter⟩ := h.letter
  obtain ⟨hc, hrest⟩ := List.forall_mem_cons.1 h.ascii
  have hchars : Casing.pascalChars (c :: rest) = c.toUpper :: Casing.pascalFrom false rest := by
    rw [Casing.pascalChars, Casing.pascalFrom, if_neg (ne_underscore_of_isAlpha hletter),
      if_pos rfl, Text.upperChar_of_ascii hc]
    rfl
  have hupper : c.toLower = c.toUpper.toLower :=
    Text.forall_ascii (P := fun c => c.toLower = c.toUpper.toLower) (by decide) hc
  rw [hchars]
  exact h.respell hupper (respells_pascalFrom hrest false)

theorem Spells.camelChars (h : Spells word cs) : Spells word (Casing.camelChars cs) := by
  have hpascal := h.pascalChars
  obtain ⟨c, rest, hcs, -⟩ := hpascal.letter
  rw [hcs] at hpascal
  obtain ⟨hc, hrest⟩ := List.forall_mem_cons.1 hpascal.ascii
  have hchars : Casing.camelChars cs = c.toLower :: rest := by
    unfold Casing.camelChars
    rw [hcs]
    exact congrArg (· ++ rest) (Text.lowerChar_of_ascii hc)
  rw [hchars]
  exact hpascal.respell (Text.toLower_toLower_char c).symm (.of_alikeChars hrest rfl)

/-- A name in a casing spells the word that it spelled. -/
theorem Spells.apply (casing : Casing) (h : Spells word s.toList) :
    Spells word (casing.apply s).toList := by
  have hsnake : Spells word (String.ofList (Casing.snakeChars s.toList)).toList := by
    rw [String.toList_ofList]
    exact h.snakeChars
  cases casing with
  | snake => exact hsnake
  | camel =>
    rw [Casing.apply, String.toList_ofList]
    exact h.camelChars
  | pascal =>
    rw [Casing.apply, String.toList_ofList]
    exact h.pascalChars
  | screamingSnake => exact hsnake.upper

/-! ### Names that reach each other -/

theorem Spells.propertyKey_eq (h : Spells word s.toList) : propertyKey s = word := by
  obtain ⟨-, ⟨c, rest, hs, hletter⟩, rfl⟩ := h
  rw [propertyKey, hs, bare_cons (ne_underscore_of_isAlpha hletter)]

theorem Spells.identifier (d : Dialect) (h : Spells word s.toList) :
    Spells word (d.identifier s).toList := by
  unfold Dialect.identifier Dialect.identifierCase
  split
  · exact h.upper
  · split
    · exact h.lower
    · exact h

theorem Spells.parameterName (d : Dialect) (h : Spells word s.toList) :
    Spells word (d.parameterName s).toList := by
  -- the first letter is no at-sign
  have hdrop : Dialect.dropAtSign s = s := by
    rw [Dialect.dropAtSign_eq_self_iff]
    rintro ⟨c, rest, hs⟩
    obtain ⟨c', rest', hs', hletter⟩ := h.letter
    rw [hs] at hs'
    obtain ⟨rfl, -⟩ := List.cons.inj hs'
    exact absurd hletter (by decide)
  rw [Dialect.parameterName, hdrop, ite_self]
  exact h.identifier d

theorem Spells.normalize (d : Dialect) (h : Spells word s.toList) :
    Spells word (d.normalize s).toList := (h.parameterName d).lower

/-- Names that spell words reach each other if they spell the same one. -/
theorem reaches_iff_of_spells {d : Dialect} {a p : String} (ha : Spells word a.toList)
    (hp : Spells word' p.toList) : d.Reaches a p ↔ word = word' := by
  have hname := hp.parameterName d
  have hproperty : sameProperty a (d.parameterName p) = true ↔ word = word' := by
    rw [sameProperty_iff_of_ascii ha.ascii hname.ascii, ha.propertyKey_eq, hname.propertyKey_eq]
  constructor
  · rintro (hnormalize | hsame)
    · rw [← (ha.normalize d).bare_eq, hnormalize, (hp.normalize d).bare_eq]
    · exact hproperty.1 hsame
  · exact fun h => Or.inr (hproperty.2 h)

end StoredCall
