import StoredCall.Text.CaseData

/-!
# Letter case

Lower- and upper-casing of text by the full case mappings, which may change the length of a text,
and the comparison that ignores ASCII letter case.

* `lower`, `upper`: the mappings of a text; a capital sigma that ends a word becomes `ς`;
* `lowerChar`, `upperChar`: the mappings of one character, without regard to its neighbours;
* `sameLetters`: equality up to ASCII letter case.
-/

namespace StoredCall.Text

/-! ## Single characters -/

/-- The character moved by the first run that holds it, or the character itself. -/
def shiftBy (runs : List CaseRun) (c : Char) : Char :=
  match runs.find? (·.run.has c.toNat) with
  | some r => Char.ofNat (c.toNat + r.shift).toNat
  | none => c

/-- The lower-case form of one character. -/
def lowerChar (c : Char) : List Char :=
  if c.toNat < 128 then [c.toLower]
  else match lowerExpansions.lookup c.toNat with
    | some form => form.map Char.ofNat
    | none => [shiftBy lowerShifts c]

/-- The upper-case form of one character. -/
def upperChar (c : Char) : List Char :=
  if c.toNat < 128 then [c.toUpper]
  else match upperExpansions.lookup c.toNat with
    | some form => form.map Char.ofNat
    | none => [shiftBy upperShifts c]

def isCapital (c : Char) : Bool := inRuns capitals c.toNat

def isCased (c : Char) : Bool := inRuns cased c.toNat

def isCaseIgnorable (c : Char) : Bool := inRuns caseIgnorable c.toNat

/-! ## Texts -/

/-- Whether the first character that counts for case is a cased letter. -/
def meetsCased : List Char → Bool
  | [] => false
  | c :: cs => if isCaseIgnorable c then meetsCased cs else isCased c

/-- The lower-case form of a text whose earlier characters, last one first, are `before`: a capital
sigma is final when a cased letter stands before it and none after it. -/
def lowerAfter (before : List Char) : List Char → List Char
  | [] => []
  | c :: cs =>
    let form :=
      if c = 'Σ' then [if meetsCased before && !meetsCased cs then 'ς' else 'σ'] else lowerChar c
    form ++ lowerAfter (c :: before) cs

/-- The lower-case form of a text. -/
def lower (s : String) : String := String.ofList (lowerAfter [] s.toList)

/-- The upper-case form of a text. -/
def upper (s : String) : String := String.ofList (s.toList.flatMap upperChar)

/-- Equality up to ASCII letter case. -/
def sameLetters (a b : String) : Bool := a.toList.map Char.toLower == b.toList.map Char.toLower

end StoredCall.Text
