import Mathlib.Logic.Function.Basic
import StoredCall.Naming
import StoredCall.Proofs.LetterCase

/-!
# Names of one field

When two ASCII names denote one field, said without the property names that are compared.

* `bare`: characters without underscores, in lower case;
* `propertyKey`: the first character of a name, whatever it is, and the bare form of the rest;
* `map_toLower_propertyName`: what a capital does in a property name is lost when letter case is
  ignored, so that the key is all that remains of the property name;
* `sameProperty_iff_propertyKey_eq`: names denote one field exactly if they have one key.
-/

namespace StoredCall

/-! ### Letter case of ASCII characters -/

namespace Text

theorem ascii_of_alikeChars {cs cs' : List Char} (h : ∀ c ∈ cs, c.toNat < 128)
    (halike : AlikeChars cs cs') : ∀ c ∈ cs', c.toNat < 128 := by
  intro c hc
  have hmem : c.toLower ∈ cs.map Char.toLower := by
    rw [halike]
    exact List.mem_map_of_mem hc
  obtain ⟨c', hc', heq⟩ := List.mem_map.1 hmem
  rcases eq_or_ascii_of_toLower_eq heq with rfl | ⟨-, hascii⟩
  · exact h _ hc'
  · exact hascii

theorem alikeChars_toLower (cs : List Char) : AlikeChars cs (cs.map Char.toLower) := by
  rw [AlikeChars, List.map_map]
  exact List.map_congr_left fun c _ => (toLower_toLower_char c).symm

theorem alikeChars_toUpper {cs : List Char} (h : ∀ c ∈ cs, c.toNat < 128) :
    AlikeChars cs (cs.map Char.toUpper) := by
  rw [AlikeChars, List.map_map]
  exact List.map_congr_left fun c hc =>
    forall_ascii (P := fun c => c.toLower = c.toUpper.toLower) (by decide) (h c hc)

end Text

/-! ### Keys -/

/-- The characters but for underscores, in lower case. -/
def bare (cs : List Char) : List Char := (cs.filter (· ≠ '_')).map Char.toLower

/-- The first character of a name, also if it is an underscore, and the later ones but for
underscores, all in lower case. -/
def propertyKey (name : String) : List Char :=
  match name.toList with
  | [] => []
  | c :: cs => c.toLower :: bare cs

theorem bare_underscore (cs : List Char) : bare ('_' :: cs) = bare cs := rfl

theorem bare_cons {c : Char} (hc : c ≠ '_') (cs : List Char) :
    bare (c :: cs) = c.toLower :: bare cs := by
  rw [bare, List.filter_cons_of_pos (by simpa using hc)]
  rfl

@[simp] theorem bare_append (cs ds : List Char) : bare (cs ++ ds) = bare cs ++ bare ds := by
  rw [bare, List.filter_append, List.map_append]
  rfl

theorem toLower_eq_underscore_iff {c : Char} : c.toLower = '_' ↔ c = '_' := by
  by_cases hc : c.toNat < 128
  · exact Text.forall_ascii (P := fun c => c.toLower = '_' ↔ c = '_') (by decide) hc
  · rw [Text.toLower_of_not_ascii hc]

/-- Underscores may as well be dropped after the letters are lowered. -/
theorem bare_eq_filter_map (cs : List Char) : bare cs = (cs.map Char.toLower).filter (· ≠ '_') := by
  rw [bare, List.filter_map]
  refine congrArg _ (List.filter_congr fun c _ => ?_)
  simp [toLower_eq_underscore_iff]

theorem bare_congr {cs cs' : List Char} (h : Text.AlikeChars cs cs') : bare cs = bare cs' := by
  rw [bare_eq_filter_map, bare_eq_filter_map, h]

theorem propertyKey_ofList (c : Char) (cs : List Char) :
    propertyKey (String.ofList (c :: cs)) = c.toLower :: bare cs := by
  rw [propertyKey, String.toList_ofList]

theorem propertyKey_congr {a b : String} (h : Text.sameLetters a b = true) :
    propertyKey a = propertyKey b := by
  have halike := Text.sameLetters_iff.1 h
  unfold propertyKey
  cases ha : a.toList with
  | nil =>
    rw [ha] at halike
    rw [List.map_eq_nil_iff.1 halike.symm]
  | cons c cs =>
    rw [ha] at halike
    obtain ⟨c', cs', hb, hc, hcs⟩ := List.map_eq_cons_iff.1 halike.symm
    rw [hb]
    exact congrArg₂ List.cons hc.symm (bare_congr hcs.symm)

theorem propertyKey_underscore (c : Char) (cs ds : List Char) :
    propertyKey (String.ofList (c :: (cs ++ '_' :: ds))) =
      propertyKey (String.ofList (c :: (cs ++ ds))) := by
  rw [propertyKey_ofList, propertyKey_ofList, bare_append, bare_append, bare_underscore]

/-! ### Property names up to letter case -/

theorem map_toLower_form {q : Prop} [Decidable q] {c : Char} (hc : c.toNat < 128) :
    (if q then Text.upperChar c else Text.lowerChar c).map Char.toLower = [c.toLower] := by
  have hcs : ∀ x ∈ [c], x.toNat < 128 := by simpa using hc
  split
  · rw [Text.upperChar_of_ascii hc]
    exact (Text.alikeChars_toUpper hcs).symm
  · rw [Text.lowerChar_of_ascii hc]
    exact (Text.alikeChars_toLower [c]).symm

/-- Whether a capital is due does not matter. -/
theorem map_toLower_propertyTail {cs : List Char} (h : ∀ c ∈ cs, c.toNat < 128)
    (capitalize : Bool) : (propertyTail capitalize cs).map Char.toLower = bare cs := by
  induction cs generalizing capitalize with
  | nil => rfl
  | cons c cs ih =>
    obtain ⟨hc, hcs⟩ := List.forall_mem_cons.1 h
    rw [propertyTail]
    split
    · rename_i hunderscore
      rw [ih hcs, hunderscore, bare_underscore]
    · rename_i hletter
      rw [List.map_append, map_toLower_form hc, ih hcs, bare_cons hletter]
      rfl

theorem map_toLower_propertyName {name : String} (h : Text.IsAscii name) :
    (propertyName name).toList.map Char.toLower = propertyKey name := by
  rw [propertyName, String.toList_ofList, propertyKey]
  cases hname : name.toList with
  | nil => rfl
  | cons c cs =>
    rw [Text.IsAscii, hname] at h
    obtain ⟨hc, hcs⟩ := List.forall_mem_cons.1 h
    -- the first character is not dropped, not even an underscore
    rw [propertyChars, List.map_append, map_toLower_form hc, map_toLower_propertyTail hcs]
    rfl

theorem sameProperty_iff_of_ascii {a b : String} (ha : Text.IsAscii a) (hb : Text.IsAscii b) :
    sameProperty a b = true ↔ propertyKey a = propertyKey b := by
  rw [sameProperty, Text.sameLetters_iff, Text.AlikeChars, map_toLower_propertyName ha,
    map_toLower_propertyName hb]

theorem sameProperty_congr {a a' b : String} (ha : Text.IsAscii a) (ha' : Text.IsAscii a')
    (hb : Text.IsAscii b) (h : propertyKey a = propertyKey a') :
    sameProperty a b = sameProperty a' b := by
  rw [Bool.eq_iff_iff, sameProperty_iff_of_ascii ha hb, sameProperty_iff_of_ascii ha' hb, h]

/-- ASCII names denote one field exactly if their first characters, and their later ones but for
underscores, agree in lower case. Denoting one field is therefore an equivalence of such names,
which ignores letter case and all underscores but a first one. -/
theorem sameProperty_iff_propertyKey_eq :
    (∀ a b, Text.IsAscii a → Text.IsAscii b →
        (sameProperty a b = true ↔ propertyKey a = propertyKey b)) ∧
      (Equivalence fun a b : {name : String // Text.IsAscii name} => sameProperty a b = true) ∧
      (∀ c cs ds b, Text.IsAscii (String.ofList (c :: (cs ++ '_' :: ds))) → Text.IsAscii b →
        sameProperty (String.ofList (c :: (cs ++ '_' :: ds))) b =
          sameProperty (String.ofList (c :: (cs ++ ds))) b) ∧
      ∀ a a' b, Text.IsAscii a → Text.IsAscii b → Text.sameLetters a a' = true →
        sameProperty a b = sameProperty a' b := by
  refine ⟨fun a b ha hb => sameProperty_iff_of_ascii ha hb, ?_, ?_, ?_⟩
  · have hkeys : (fun a b : {name : String // Text.IsAscii name} => sameProperty a b = true) =
        fun a b => propertyKey a.1 = propertyKey b.1 := by
      funext a b
      exact propext (sameProperty_iff_of_ascii a.2 b.2)
    rw [hkeys]
    exact InvImage.equivalence _ (fun a : {name : String // Text.IsAscii name} => propertyKey a.1)
      eq_equivalence
  · intro c cs ds b ha hb
    have ha' : Text.IsAscii (String.ofList (c :: (cs ++ ds))) := by
      intro x hx
      refine ha x ?_
      rw [String.toList_ofList] at hx ⊢
      exact ((List.sublist_cons_self '_' ds).append_left cs).cons_cons c |>.subset hx
    exact sameProperty_congr ha ha' hb (propertyKey_underscore c cs ds)
  · intro a a' b ha hb h
    have ha' : Text.IsAscii a' := Text.ascii_of_alikeChars ha (Text.sameLetters_iff.1 h)
    exact sameProperty_congr ha ha' hb (propertyKey_congr h)

/-- A doubled and a trailing underscore do not count, a first underscore does. -/
theorem sameProperty_iff_propertyKey_eq_user_id :
    Text.IsAscii "user__Id_" ∧ Text.IsAscii "USERid" ∧ Text.IsAscii "_user_id" ∧
      sameProperty "user__Id_" "USERid" = true ∧ sameProperty "_user_id" "USERid" = false ∧
      sameProperty "_user_id" "__UserId" = true := by
  have hname : Text.IsAscii "user__Id_" := by decide
  have hcapitals : Text.IsAscii "USERid" := by decide
  have hfirst : Text.IsAscii "_user_id" := by decide
  have hdoubled : Text.IsAscii "__UserId" := by decide
  obtain ⟨hiff, -⟩ := sameProperty_iff_propertyKey_eq
  refine ⟨hname, hcapitals, hfirst, ?_, ?_, ?_⟩
  · exact (hiff _ _ hname hcapitals).2 (by decide)
  · rw [Bool.eq_false_iff, ne_eq, hiff _ _ hfirst hcapitals]
    decide
  · exact (hiff _ _ hfirst hdoubled).2 (by decide)

end StoredCall
