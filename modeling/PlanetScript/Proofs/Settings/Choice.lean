import PlanetScript.Proofs.Json.Reading
import PlanetScript.Settings.Reader

/-! # Reading a choice

The choices of a settings file are read by a reader of their own, from the text and not from a
document.  It accepts the same values as the grammar of documents does, if these name a choice
(`Json.choiceName?`): a string, or an object with one member that is null.  A name is read with
paired escapes, which makes no difference to a name that can be chosen
(`Json.Letters.paired_or_half`).

What a reader reads is compared without its fault (`Except.toOption`), so one equation says both
what is read and that everything else is refused (`Settings.toOption_choice`).
-/
namespace PlanetScript
open Text

theorem toOption_bind {ε α β : Type} (x : Except ε α) (f : α → Except ε β) :
    (x >>= f).toOption = x.toOption.bind fun a => (f a).toOption := by
  cases x <;> rfl

namespace Json

/-! ### Halves of pairs -/

section Strings
variable {code body t : Text} {n : Nat}

theorem toOption_pushChar (c : Char) (r : Except Fault (Text × Text)) :
    (pushChar c r).toOption = r.toOption.map fun (t, rest) => (c :: t, rest) := by
  cases r <;> rfl

/-- Half of a pair is refused where escapes have to be paired. -/
theorem toOption_stringRest_half (hcode : UnitEscape code n)
    (hhalf : isHighSurrogate n = true ∨ isLowSurrogate n = true)
    (hnext : isHighSurrogate n = true →
      ∀ a b c d rest, t = '\\' :: 'u' :: a :: b :: c :: d :: rest →
        ∃ low, hexUnit? a b c d = some low ∧ isLowSurrogate low = false) :
    (stringRest true (code ++ t)).toOption = none := by
  obtain ⟨hn⟩ := hcode
  show (stringRest true ('\\' :: 'u' :: _ :: _ :: _ :: _ :: t)).toOption = _
  rw [stringRest]
  simp only [hn]
  cases hhigh : isHighSurrogate n with
  | true =>
    rw [if_pos rfl]
    split
    · next a b c d rest =>
      obtain ⟨low, hlow, hsecond⟩ := hnext hhigh a b c d rest rfl
      simp only [hlow, hsecond, Bool.false_eq_true, if_false, if_true]
      rfl
    · rfl
  | false =>
    rw [hhigh, or_iff_right Bool.false_ne_true] at hhalf
    simp only [hhalf, Bool.false_eq_true, if_false, if_true]
    rfl

/-- **The letters of a string are paired, or they have half of a pair.**  In the second case the
string has U+FFFD, and it is refused where escapes have to be paired. -/
theorem Letters.paired_or_half (h : Letters false body t) :
    Letters true body t ∨ '\uFFFD' ∈ t ∧
      ∀ rest, (stringRest true (body ++ '\"' :: rest)).toOption = none := by
  have hpush : ∀ {c : Char} {r : Except Fault (Text × Text)}, r.toOption = none →
      (pushChar c r).toOption = none := by
    intro c r hr
    rw [toOption_pushChar, hr]
    rfl
  induction h with
  | nil => exact Or.inl .nil
  | plain hcontrol hquote hslash _ ih =>
    refine ih.imp (.plain hcontrol hquote hslash) fun ⟨hmem, hfails⟩ => ?_
    refine ⟨List.mem_cons_of_mem _ hmem, fun rest => ?_⟩
    rw [List.cons_append, stringRest_plain hcontrol hquote hslash]
    exact hpush (hfails rest)
  | letter he _ ih =>
    refine ih.imp (.letter he) fun ⟨hmem, hfails⟩ => ?_
    refine ⟨List.mem_cons_of_mem _ hmem, fun rest => ?_⟩
    rw [List.cons_append, List.cons_append, stringRest_letter he]
    exact hpush (hfails rest)
  | unit hn hhigh hlow _ ih =>
    refine ih.imp (.unit hn hhigh hlow) fun ⟨hmem, hfails⟩ => ?_
    refine ⟨List.mem_cons_of_mem _ hmem, fun rest => ?_⟩
    rw [List.append_assoc, stringRest_unit hn hhigh hlow]
    exact hpush (hfails rest)
  | pair hfirst hsecond hhigh hlow _ ih =>
    refine ih.imp (.pair hfirst hsecond hhigh hlow) fun ⟨hmem, hfails⟩ => ?_
    refine ⟨List.mem_cons_of_mem _ hmem, fun rest => ?_⟩
    rw [List.append_assoc, List.append_assoc, stringRest_pair hfirst hsecond hhigh hlow]
    exact hpush (hfails rest)
  | half _ hn hhalf hnext hletters _ =>
    refine Or.inr ⟨List.mem_cons_self, fun rest => ?_⟩
    rw [List.append_assoc]
    exact toOption_stringRest_half hn hhalf (hletters.secondHalf_eq_false hnext rest)

end Strings

/-! ### First characters -/

theorem StartsWith.eq_null {j : Json} (h : StartsWith 'n' j) : j = .null := by
  cases j with
  | null => rfl
  | _ => simp +decide [StartsWith] at h

theorem StartsWith.exists_string {j : Json} (h : StartsWith '\"' j) : ∃ t, j = .string t := by
  cases j with
  | string t => exact ⟨t, rfl⟩
  | _ => simp +decide [StartsWith] at h

theorem StartsWith.exists_object {j : Json} (h : StartsWith '\x7b' j) :
    ∃ members, j = .object members := by
  cases j with
  | object members => exact ⟨members, rfl⟩
  | _ => simp +decide [StartsWith] at h

/-- The name by which a value gives a choice: a string, or the name of a single member that is
null. -/
def choiceName? : Json → Option Text
  | .string name => some name
  | .object [(name, .null)] => some name
  | _ => none

theorem choiceName?_member_of_ne {name : Text} {j : Json} (hj : j ≠ .null) :
    (Json.object [(name, j)]).choiceName? = none := by
  cases j with
  | null => exact absurd rfl hj
  | _ => rfl

theorem choiceName?_members {member : Text × Json} {members : List (Text × Json)}
    (h : members ≠ []) : (Json.object (member :: members)).choiceName? = none := by
  obtain ⟨second, rest, rfl⟩ := List.exists_cons_of_ne_nil h
  obtain ⟨name, j⟩ := member
  cases j <;> rfl

end Json

namespace Settings
open Json
variable {t body gap rest : Text} {j : Json} {known : List Text} {name : Text}

/-! ### Names -/

theorem toOption_lift {α : Type} (r : Except Fault α) : (lift r).toOption = r.toOption := by
  cases r <;> rfl

theorem toOption_knownName :
    (knownName known name).toOption = if name ∈ known then some name else none := by
  unfold knownName
  split <;> rfl

/-- Where a name has to be a known one, it is read if it is, and what follows decides. -/
theorem toOption_readName {β : Type} (hknown : ∀ name ∈ known, '\uFFFD' ∉ name)
    (h : Letters false body name) (rest : Text) (next : Text → Text → Except SettingsFault β) :
    (lift (stringRest true (body ++ '\"' :: rest)) >>= fun r =>
        knownName known r.1 >>= fun name => next name r.2).toOption =
      if name ∈ known then (next name rest).toOption else none := by
  rw [toOption_bind, toOption_lift]
  rcases h.paired_or_half with hpaired | ⟨hhalf, hfails⟩
  · rw [hpaired.stringRest_eq]
    show (knownName known name >>= fun name => next name rest).toOption = _
    rw [toOption_bind, toOption_knownName]
    split <;> rfl
  · rw [hfails, if_neg fun hmem => hknown name hmem hhalf]
    rfl

/-! ### The content of a choice -/

theorem emptyContent_null (h : Writes t (.padded .null)) :
    ∃ after, Gap after ∧ ∀ rest, emptyContent (t ++ rest) = .ok (after ++ rest) := by
  cases h with
  | @padded gap _ after _ hgap h hafter =>
    cases h
    refine ⟨after, hafter, fun rest => ?_⟩
    have hnull : "null".toList ++ (after ++ rest) = 'n' :: ("ull".toList ++ (after ++ rest)) := rfl
    rw [List.append_assoc, List.append_assoc, hnull, emptyContent,
      skipGap_append_cons hgap (by decide)]
    rfl

theorem toOption_emptyContent_of_ne (h : Writes t (.padded j)) (hj : j ≠ .null) (rest : Text) :
    (emptyContent (t ++ rest)).toOption = none := by
  cases h with
  | @padded gap t after _ hgap h hafter =>
    obtain ⟨c, tail, rfl, hc, hstart⟩ := h.exists_startsWith
    rw [List.append_assoc, List.append_assoc, List.cons_append, emptyContent,
      skipGap_append_cons hgap hc]
    split
    · next heq =>
      obtain ⟨rfl, -⟩ := List.cons.inj heq
      exact absurd hstart.eq_null hj
    · rfl
    · rfl

/-- What stands behind the name of a choice in its object, up to the closing brace. -/
def objectRest (name : Text) : Reader Text := fun t =>
  match skipGap t with
  | ':' :: t => do
    let t ← emptyContent t
    match skipGap t with
    | '\x7d' :: t => .ok (name, t)
    | t => .error (misplaced t)
  | t => .error (misplaced t)

section ObjectRest
variable {after : Text} (hafter : Gap after)
include hafter

theorem toOption_objectRest_of_ne (h : Writes t (.padded j)) (hj : j ≠ .null) (rest : Text) :
    (objectRest name (after ++ ':' :: (t ++ rest))).toOption = none := by
  rw [objectRest, skipGap_append_cons hafter isGap_colon]
  simp only [toOption_bind, toOption_emptyContent_of_ne h hj]
  rfl

theorem objectRest_brace (h : Writes t (.padded .null)) (rest : Text) :
    objectRest name (after ++ ':' :: (t ++ '\x7d' :: rest)) = .ok (name, rest) := by
  obtain ⟨gap, hgap, hread⟩ := emptyContent_null h
  rw [objectRest, skipGap_append_cons hafter isGap_colon]
  simp only [hread, bind, Except.bind, skipGap_append_cons hgap isGap_brace]

/-- There is no second member. -/
theorem toOption_objectRest_comma (h : Writes t (.padded j)) (rest : Text) :
    (objectRest name (after ++ ':' :: (t ++ ',' :: rest))).toOption = none := by
  by_cases hj : j = .null
  · subst hj
    obtain ⟨gap, hgap, hread⟩ := emptyContent_null h
    rw [objectRest, skipGap_append_cons hafter isGap_colon]
    simp only [hread, bind, Except.bind, skipGap_append_cons hgap isGap_comma]
    rfl
  · exact toOption_objectRest_of_ne hafter h hj _

end ObjectRest

/-! ### Choices -/

/-- A value that is neither string nor object gives no choice. -/
theorem toOption_choiceName_of_ne (h : Writes t (.value j)) (hstring : ∀ t, j ≠ .string t)
    (hobject : ∀ members, j ≠ .object members) (hgap : Gap gap) (rest : Text) :
    (choiceName known (gap ++ (t ++ rest))).toOption = none := by
  obtain ⟨c, tail, rfl, hc, hstart⟩ := h.exists_startsWith
  rw [List.cons_append, choiceName, skipGap_append_cons hgap hc]
  split
  · next heq =>
    obtain ⟨rfl, -⟩ := List.cons.inj heq
    obtain ⟨t, rfl⟩ := hstart.exists_string
    exact absurd rfl (hstring t)
  · next heq =>
    obtain ⟨rfl, -⟩ := List.cons.inj heq
    obtain ⟨members, rfl⟩ := hstart.exists_object
    exact absurd rfl (hobject members)
  · rfl

theorem toOption_choiceName_string (hknown : ∀ name ∈ known, '\uFFFD' ∉ name)
    (h : Letters false body name) (hgap : Gap gap) (rest : Text) :
    (choiceName known (gap ++ '\"' :: (body ++ '\"' :: rest))).toOption =
      if name ∈ known then some (name, rest) else none := by
  rw [choiceName, skipGap_append_cons hgap isGap_quote]
  exact toOption_readName hknown h rest fun name t => .ok (name, t)

/-- Of an object the first name is read, and what follows it decides. -/
theorem toOption_choiceName_member (hknown : ∀ name ∈ known, '\uFFFD' ∉ name)
    (hgap : Gap gap) {gap' : Text} (hgap' : Gap gap') (hname : Letters false body name)
    (tail : Text) :
    (choiceName known (gap ++ '\x7b' :: (gap' ++ '\"' :: (body ++ '\"' :: tail)))).toOption =
      if name ∈ known then (objectRest name tail).toOption else none := by
  rw [choiceName, skipGap_append_cons hgap (by decide)]
  simp only [skipGap_append_cons hgap' isGap_quote]
  exact toOption_readName hknown hname tail objectRest

/-- The object form of a choice: one member, and null as its value. -/
theorem toOption_choiceName_object (hknown : ∀ name ∈ known, '\uFFFD' ∉ name) (hgap : Gap gap)
    {members : List (Text × Json)} (h : Writes t (.members members)) (rest : Text) :
    (choiceName known (gap ++ '\x7b' :: (t ++ '\x7d' :: rest))).toOption =
      (Json.object members).choiceName?.bind fun name =>
        if name ∈ known then some (name, rest) else none := by
  cases h with
  | lastMember h =>
    cases h with
    | @member gap' body name after t j hgap' hname hafter h =>
      simp only [List.append_assoc, List.cons_append]
      rw [toOption_choiceName_member hknown hgap hgap' hname]
      by_cases hj : j = .null
      · subst hj
        rw [objectRest_brace hafter h]
        rfl
      · rw [choiceName?_member_of_ne hj, toOption_objectRest_of_ne hafter h hj]
        exact ite_self none
  | @members tm tr m ms h hrest =>
    have hms : ms ≠ [] := by
      cases hrest <;> exact List.cons_ne_nil _ _
    cases h with
    | @member gap' body name after t j hgap' hname hafter h =>
      simp only [List.append_assoc, List.cons_append]
      rw [toOption_choiceName_member hknown hgap hgap' hname, choiceName?_members hms,
        toOption_objectRest_comma hafter h]
      exact ite_self none

/-- **The name of a choice is read if the value gives one that is known.** -/
theorem toOption_choiceName (hknown : ∀ name ∈ known, '\uFFFD' ∉ name)
    (h : Writes t (.padded j)) :
    ∃ after, Gap after ∧ ∀ rest, (choiceName known (t ++ rest)).toOption =
      j.choiceName?.bind fun name =>
        if name ∈ known then some (name, after ++ rest) else none := by
  cases h with
  | @padded gap t after _ hgap h hafter =>
    refine ⟨after, hafter, fun rest => ?_⟩
    rw [List.append_assoc, List.append_assoc]
    have hother : (∀ t, j ≠ .string t) → (∀ members, j ≠ .object members) →
        (choiceName known (gap ++ (t ++ (after ++ rest)))).toOption = none :=
      fun hstring hobject => toOption_choiceName_of_ne h hstring hobject hgap (after ++ rest)
    cases h with
    | null | boolTrue | boolFalse | number _ | emptyArray _ | array _ => exact hother nofun nofun
    | @string body name h =>
      rw [List.cons_append, List.append_assoc]
      exact toOption_choiceName_string hknown h hgap (after ++ rest)
    | emptyObject h =>
      rw [List.cons_append, List.append_assoc, choiceName, skipGap_append_cons hgap (by decide)]
      simp only [List.singleton_append, skipGap_append_cons h isGap_brace]
      rfl
    | object h =>
      rw [List.cons_append, List.append_assoc]
      exact toOption_choiceName_object hknown hgap h (after ++ rest)

/-- The choice that a value gives among those that can be named. -/
def chosen? {α : Type} (all : List α) (name : α → Text) (j : Json) : Option α :=
  j.choiceName?.bind fun chosen => all.find? fun a => name a = chosen

/-- **A choice is read if the value names one.** -/
theorem toOption_choice {α : Type} {all : List α} {name : α → Text} (default : α)
    (hknown : ∀ a ∈ all, '\uFFFD' ∉ name a) (h : Writes t (.padded j)) :
    ∃ after, Gap after ∧ ∀ rest, (choice all name default (t ++ rest)).toOption =
      (chosen? all name j).map fun a => (a, after ++ rest) := by
  have hnames : ∀ n ∈ all.map name, '\uFFFD' ∉ n := List.forall_mem_map.mpr hknown
  obtain ⟨after, hafter, hread⟩ := toOption_choiceName hnames h
  refine ⟨after, hafter, fun rest => ?_⟩
  rw [choice, toOption_bind, hread, chosen?]
  cases j.choiceName? with
  | none => rfl
  | some chosen =>
    show ((if chosen ∈ all.map name then some (chosen, after ++ rest) else none).bind _) =
      (all.find? fun a => name a = chosen).map _
    cases hfind : all.find? fun a => name a = chosen with
    | none =>
      rw [if_neg]
      · rfl
      · intro hmem
        obtain ⟨a, ha, heq⟩ := List.mem_map.mp hmem
        exact List.find?_eq_none.mp hfind a ha (decide_eq_true heq)
    | some a =>
      have hname := List.find?_some hfind
      obtain rfl : name a = chosen := of_decide_eq_true hname
      rw [if_pos (List.mem_map_of_mem (List.mem_of_find?_eq_some hfind))]
      show some ((all.find? fun b => name b = name a).getD default, after ++ rest) = _
      rw [hfind]
      rfl

end Settings
end PlanetScript
