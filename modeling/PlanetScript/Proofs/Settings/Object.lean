import PlanetScript.Proofs.Settings.Choice

/-! # Reading an object of settings

`Settings.ObjectText` says of a text which members it writes, with gaps wherever they may stand.
The reader takes the members one after the other: what it has read after them is a fold over the
members (`Settings.toOption_read`), in which the text does not occur any more, and a member that
cannot be taken is refused (`Settings.Given.add?`).
-/
namespace PlanetScript
open Text

/-- Letters with paired escapes are letters of any string. -/
theorem Json.Letters.unpaired {body t : Text} (h : Letters true body t) : Letters false body t := by
  induction h with
  | nil => exact .nil
  | plain hcontrol hquote hslash _ ih => exact .plain hcontrol hquote hslash ih
  | letter he _ ih => exact .letter he ih
  | unit hn hhigh hlow _ ih => exact .unit hn hhigh hlow ih
  | pair hfirst hsecond hhigh hlow _ ih => exact .pair hfirst hsecond hhigh hlow ih
  | half hpaired _ _ _ _ _ => cases hpaired

namespace Settings
open Json

/-! ### The grammar of objects -/

/-- The texts that write a member.  Its value is any value of a document; the escapes in its name
are paired. -/
inductive MemberText : Text → Text × Json → Prop
  | intro {gap body name after t : Text} {j : Json} (hgap : Gap gap)
      (hname : Letters true body name) (hafter : Gap after) (h : Writes t (.padded j)) :
      MemberText (gap ++ '\"' :: (body ++ '\"' :: (after ++ ':' :: t))) (name, j)

/-- The texts behind a member, up to the closing brace, with the members that follow it. -/
inductive MembersRest : Text → List (Text × Json) → Prop
  | close : MembersRest [] []
  | more {t rest : Text} {m : Text × Json} {ms : List (Text × Json)} (h : MemberText t m)
      (hrest : MembersRest rest ms) : MembersRest (',' :: (t ++ rest)) (m :: ms)

/-- The texts that write an object, each with its members in their order. -/
inductive ObjectText : Text → List (Text × Json) → Prop
  | empty {gap inner after : Text} (hgap : Gap gap) (hinner : Gap inner) (hafter : Gap after) :
      ObjectText (gap ++ '\x7b' :: (inner ++ '\x7d' :: after)) []
  | members {gap t rest after : Text} {m : Text × Json} {ms : List (Text × Json)} (hgap : Gap gap)
      (h : MemberText t m) (hrest : MembersRest rest ms) (hafter : Gap after) :
      ObjectText (gap ++ '\x7b' :: (t ++ (rest ++ '\x7d' :: after))) (m :: ms)

section Grammar
variable {t : Text} {m : Text × Json} {ms : List (Text × Json)}

theorem MemberText.writes (h : MemberText t m) : Writes t (.member m) := by
  cases h with
  | intro hgap hname hafter h => exact .member hgap hname.unpaired hafter h

theorem MembersRest.writes {rest : Text} (hrest : MembersRest rest ms) :
    ∀ {t m}, Writes t (.member m) → Writes (t ++ rest) (.members (m :: ms)) := by
  induction hrest with
  | close =>
    intro t m h
    rw [List.append_nil]
    exact .lastMember h
  | more hsecond _ ih => exact fun h => .members h (ih hsecond.writes)

/-- The text of an object is a document with this object. -/
theorem ObjectText.writes (h : ObjectText t ms) : Writes t (.padded (.object ms)) := by
  cases h with
  | empty hgap hinner hafter =>
    have hobject := Writes.padded hgap (.emptyObject hinner) hafter
    simpa only [List.cons_append, List.append_assoc, List.nil_append] using hobject
  | members hgap h hrest hafter =>
    have hobject := Writes.padded hgap (.object (hrest.writes h.writes)) hafter
    simpa only [List.cons_append, List.append_assoc, List.nil_append] using hobject

theorem MembersRest.length_le (h : MembersRest t ms) : ms.length ≤ t.length := by
  induction h with
  | close => exact Nat.le_refl _
  | more _ _ ih =>
    simp only [List.length_cons, List.length_append]
    omega

/-- A number ends before a comma and before the closing brace. -/
theorem MembersRest.ends_append (h : MembersRest t ms) (rest : Text) :
    Ends (t ++ '\x7d' :: rest) := by
  cases h with
  | close => exact ends_brace rest
  | more _ _ => exact ends_comma _

end Grammar

/-! ### Reading members -/

/-- What an object has given after another member, if this one can be taken. -/
def Given.add? (given : Given) (m : Text × Json) : Option Given :=
  if m.1 = scopeMember then
    if given.scope.isSome then none
    else (chosen? BlockScope.all BlockScope.name m.2).map fun scope =>
      { given with scope := some scope }
  else if m.1 = styleMember then
    if given.style.isSome then none
    else (chosen? NumberStyle.all NumberStyle.name m.2).map fun style =>
      { given with style := some style }
  else some given

section Reading
variable {t body name after gap : Text} {j : Json} {m : Text × Json} {ms : List (Text × Json)}

/-- No name of a choice has the character that half of a pair is read as. -/
theorem replacement_notMem_scope : ∀ a ∈ BlockScope.all, '\uFFFD' ∉ a.name := by decide

theorem replacement_notMem_style : ∀ a ∈ NumberStyle.all, '\uFFFD' ∉ a.name := by decide

theorem colon_append (hafter : Gap after) (t : Text) : colon (after ++ ':' :: t) = .ok t := by
  rw [colon, skipGap_append_cons hafter isGap_colon]
  rfl

/-- A choice is taken if it was not given before. -/
theorem toOption_take {α : Type} {read : Reader α} {chosen : Option α} (repeated : Bool)
    (fault : SettingsFault) (take : α → Given)
    (hread : (read t).toOption = chosen.map fun a => (a, after)) :
    (if repeated then .error fault
      else read t >>= fun r => .ok (take r.1, r.2) : Except SettingsFault (Given × Text)).toOption =
      (if repeated then none else chosen.map take).map fun given => (given, after) := by
  cases repeated with
  | true => rfl
  | false =>
    simp only [Bool.false_eq_true, if_false, toOption_bind, hread]
    cases chosen <;> rfl

/-- **A member is taken by what it is**, and refused if it cannot be taken. -/
theorem toOption_member (hname : Letters true body name) (hafter : Gap after)
    (h : Writes t (.padded j)) :
    ∃ gap, Gap gap ∧ ∀ given rest, Ends rest →
      (member given (body ++ '\"' :: (after ++ ':' :: (t ++ rest)))).toOption =
        (given.add? (name, j)).map fun given => (given, gap ++ rest) := by
  have hstart : ∀ given rest, member given (body ++ '\"' :: (after ++ ':' :: (t ++ rest))) =
      if name = scopeMember then
        if given.scope.isSome then .error (.repeatedMember name)
        else readScope (t ++ rest) >>= fun r => .ok ({ given with scope := some r.1 }, r.2)
      else if name = styleMember then
        if given.style.isSome then .error (.repeatedMember name)
        else readStyle (t ++ rest) >>= fun r => .ok ({ given with style := some r.1 }, r.2)
      else lift (value (t ++ rest)) >>= fun r => .ok (given, r.2) := by
    intro given rest
    rw [member, hname.stringRest_eq]
    simp only [lift, Except.mapError, bind, Except.bind, colon_append hafter]
  by_cases hscope : name = scopeMember
  · obtain ⟨gap, hgap, hread⟩ := toOption_choice .sticky replacement_notMem_scope h
    refine ⟨gap, hgap, fun given rest _ => ?_⟩
    rw [hstart, if_pos hscope, Given.add?, if_pos hscope]
    exact toOption_take given.scope.isSome _ (fun a => { given with scope := some a }) (hread rest)
  by_cases hstyle : name = styleMember
  · obtain ⟨gap, hgap, hread⟩ := toOption_choice .strictInteger replacement_notMem_style h
    refine ⟨gap, hgap, fun given rest _ => ?_⟩
    rw [hstart, if_neg hscope, if_pos hstyle, Given.add?, if_neg hscope, if_pos hstyle]
    exact toOption_take given.style.isSome _ (fun a => { given with style := some a }) (hread rest)
  · obtain ⟨gap, hgap, hread⟩ := h.read
    refine ⟨gap, hgap, fun given rest hrest => ?_⟩
    have hvalue : value (t ++ rest) = .ok (j, gap ++ rest) := by
      refine hread _ rest hrest ?_
      rw [List.length_append]
      omega
    rw [hstart, if_neg hscope, if_neg hstyle, Given.add?, if_neg hscope, if_neg hstyle, hvalue]
    rfl

/-- The members behind another one are added one after the other. -/
theorem MembersRest.toOption_moreMembers (h : MembersRest t ms) :
    ∀ fuel gap given rest, ms.length < fuel → Gap gap →
      (moreMembers fuel given (gap ++ (t ++ '\x7d' :: rest))).toOption =
        (ms.foldlM Given.add? given).map fun given => (given, rest) := by
  induction h with
  | close =>
    intro fuel gap given rest hfuel hgap
    obtain ⟨fuel, rfl⟩ := Nat.exists_eq_add_of_lt hfuel
    rw [List.nil_append, moreMembers, skipGap_append_cons hgap isGap_brace]
    rfl
  | @more _ tr m ms h hrest ih =>
    obtain ⟨hgap, hname, hafter, h⟩ := h
    obtain ⟨tail, htail, hmember⟩ := toOption_member hname hafter h
    intro fuel gap given rest hfuel hgap'
    obtain ⟨fuel, rfl⟩ := Nat.exists_eq_add_of_lt hfuel
    simp only [List.append_assoc, List.cons_append]
    rw [moreMembers, skipGap_append_cons hgap' isGap_comma]
    simp only [skipGap_append_cons hgap isGap_quote]
    rw [toOption_bind, hmember given _ (hrest.ends_append rest), List.foldlM_cons]
    cases given.add? _ with
    | none => rfl
    | some given => exact ih _ tail given rest (by rw [List.length_cons]; omega) htail

/-- The members of an object are added one after the other, from nothing given. -/
theorem toOption_members {tr : Text} (h : MemberText t m) (hrest : MembersRest tr ms)
    (rest : Text) :
    (members (t ++ (tr ++ '\x7d' :: rest))).toOption =
      ((m :: ms).foldlM Given.add? {}).map fun given => (given, rest) := by
  obtain ⟨hgap, hname, hafter, h⟩ := h
  obtain ⟨tail, htail, hmember⟩ := toOption_member hname hafter h
  simp only [List.append_assoc, List.cons_append]
  rw [members, skipGap_append_cons hgap isGap_quote]
  show Except.toOption (member {} _ >>= fun r => moreMembers (r.2.length + 1) r.1 r.2) = _
  rw [toOption_bind, hmember {} _ (hrest.ends_append rest), List.foldlM_cons]
  cases Given.add? {} _ with
  | none => rfl
  | some given =>
    refine hrest.toOption_moreMembers _ tail given rest ?_ htail
    have hlength := hrest.length_le
    simp only [List.length_append]
    omega

/-- **Reading an object adds its members, one after the other.** -/
theorem toOption_read (h : ObjectText t ms) :
    (read t).toOption = (ms.foldlM Given.add? {}).map Given.settings := by
  have hread : ∀ {gap t after}, Gap gap → Gap after →
      (members t).toOption = (ms.foldlM Given.add? {}).map (fun given => (given, after)) →
      (read (gap ++ '\x7b' :: t)).toOption = (ms.foldlM Given.add? {}).map Given.settings := by
    intro gap t after hgap hafter hmembers
    rw [read, skipGap_append_cons hgap (by decide)]
    show Except.toOption (members t >>= fun r =>
      if skipGap r.2 = [] then .ok r.1.settings else .error (.json .malformed)) = _
    rw [toOption_bind, hmembers]
    cases ms.foldlM Given.add? {} with
    | none => rfl
    | some given => exact congrArg Except.toOption (if_pos (skipGap_eq_nil hafter))
  cases h with
  | empty hgap hinner hafter =>
    refine hread hgap hafter ?_
    rw [members, skipGap_append_cons hinner isGap_brace]
    rfl
  | members hgap h hrest hafter => exact hread hgap hafter (toOption_members h hrest _)

end Reading

end Settings
end PlanetScript
