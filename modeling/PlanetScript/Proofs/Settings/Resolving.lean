import PlanetScript.Proofs.Command.Printing
import PlanetScript.Proofs.Json.Layout
import PlanetScript.Proofs.Settings.Object

/-! # What settings come to

An object gives settings by the members that it has, wherever they stand: `Settings.Gives` says what
the values of one name give, and the fold that the reader goes through comes down to this
(`Settings.Given.foldlM_eq_some_iff`).  So neither the order of the members nor the unknown ones
among them decide anything, and the flags of a command go over what its settings file gives, each
over its own choice (`Settings.read_object`).
-/
namespace PlanetScript
open Text

/-! ### Variants and their names -/

theorem BlockScope.mem_all (a : BlockScope) : a ∈ all := by
  cases a <;> decide

theorem NumberStyle.mem_all (a : NumberStyle) : a ∈ all := by
  cases a <;> decide

theorem BlockScope.name_injective : Function.Injective name := by
  have hall : ∀ a ∈ all, ∀ b ∈ all, a.name = b.name → a = b := by decide
  exact fun a b h => hall a a.mem_all b b.mem_all h

theorem NumberStyle.name_injective : Function.Injective name := by
  have hall : ∀ a ∈ all, ∀ b ∈ all, a.name = b.name → a = b := by decide
  exact fun a b h => hall a a.mem_all b b.mem_all h

/-! ### Flags and files -/

namespace ReadOptions
variable {options : ReadOptions} {world : World} {path t : Text} {given : Settings}
  {fault : SettingsFault}

theorem settings_of_none (hfile : options.settingsFile = none) :
    options.settings world =
      .ok ⟨options.blockScope.getD .sticky, options.numberStyle.getD .strictInteger⟩ := by
  rw [settings, hfile]
  rfl

theorem settings_of_read (hfile : options.settingsFile = some path)
    (hholds : Holds world.file path t) (hread : Settings.read t = .ok given) :
    options.settings world = .ok ⟨options.blockScope.getD given.blockScope,
      options.numberStyle.getD given.numberStyle⟩ := by
  have htext := World.text_eq_ok_iff.mpr hholds
  rw [settings, hfile]
  simp only [htext, hread, bind, Except.bind]
  rfl

/-- A settings file that is refused cannot be made up for by flags. -/
theorem settings_of_refused (hfile : options.settingsFile = some path)
    (hholds : Holds world.file path t) (hread : Settings.read t = .error fault) :
    options.settings world = .error (.invalidSettings path) := by
  have htext := World.text_eq_ok_iff.mpr hholds
  rw [settings, hfile]
  simp only [htext, hread, bind, Except.bind]

end ReadOptions

namespace Settings
open Json

/-! ### What values give -/

/-- The values of the members with a name, in their order. -/
def valuesOf (name : Text) (ms : List (Text × Json)) : List Json :=
  (ms.filter fun m => m.1 = name).map Prod.snd

/-- A value names a variant: by a string, or as an object with the name as its only member and null
as the value. -/
inductive Names : Json → Text → Prop
  | string (name : Text) : Names (.string name) name
  | object (name : Text) : Names (.object [(name, .null)]) name

section Values
variable {α : Type} {name : α → Text} {values : List Json} {j : Json}

/-- What the values of one name give for a choice: nothing if there are none, and the variant that
is named if there is one. -/
inductive Gives (name : α → Text) : List Json → Option α → Prop
  | absent : Gives name [] none
  | given {j : Json} {a : α} (h : Names j (name a)) : Gives name [j] (some a)

/-- The values of one name give nothing for a choice: the name is repeated, or there is a value that
names no variant. -/
def Misgiven (name : α → Text) (values : List Json) : Prop :=
  1 < values.length ∨ ∃ j ∈ values, ∀ a, ¬ Names j (name a)

theorem names_iff {n : Text} : Names j n ↔ j.choiceName? = some n := by
  constructor
  · rintro (_ | _) <;> rfl
  · intro h
    unfold choiceName? at h
    split at h
    · cases h
      exact .string n
    · cases h
      exact .object n
    · cases h

theorem chosen?_eq_some_iff {all : List α} (hall : ∀ a, a ∈ all)
    (hname : Function.Injective name) {a : α} :
    chosen? all name j = some a ↔ Names j (name a) := by
  rw [names_iff, chosen?, Option.bind_eq_some_iff]
  constructor
  · rintro ⟨n, hn, hfind⟩
    have heq := List.find?_some hfind
    rw [hn, of_decide_eq_true heq]
  · intro hj
    refine ⟨name a, hj, ?_⟩
    cases hfind : all.find? fun b => name b = name a with
    | none => exact absurd (decide_eq_true rfl) (List.find?_eq_none.mp hfind a (hall a))
    | some b =>
      have heq := List.find?_some hfind
      rw [hname (of_decide_eq_true heq)]

theorem gives_none_iff : Gives name values none ↔ values = [] := by
  constructor
  · rintro ⟨⟩
    rfl
  · rintro rfl
    exact .absent

/-- A value more is only taken if there was none before. -/
theorem gives_concat_iff {o : Option α} :
    Gives name (values ++ [j]) o ↔ values = [] ∧ ∃ a, Names j (name a) ∧ o = some a := by
  constructor
  · intro h
    generalize hvalues : values ++ [j] = list at h
    cases h with
    | absent => exact absurd hvalues (List.append_ne_nil_of_right_ne_nil _ (List.cons_ne_nil _ _))
    | @given _ a h =>
      obtain ⟨rfl, hj⟩ := (List.append_eq_singleton_iff.mp hvalues).resolve_right nofun
      cases hj
      exact ⟨rfl, a, h, rfl⟩
  · rintro ⟨rfl, a, h, rfl⟩
    exact .given h

/-- The values of a name give something unless they are misgiven. -/
theorem exists_gives_iff : (∃ o, Gives name values o) ↔ ¬ Misgiven name values := by
  constructor
  · rintro ⟨o, h⟩ hnot
    cases h with
    | absent => rcases hnot with hnot | ⟨j, hj, -⟩ <;> contradiction
    | given h =>
      rcases hnot with hnot | ⟨j, hj, hnot⟩
      · exact absurd hnot (Nat.lt_irrefl 1)
      · obtain rfl := List.mem_singleton.mp hj
        exact hnot _ h
  · intro hnot
    obtain ⟨hshort, hnames⟩ := not_or.mp hnot
    rcases values with _ | ⟨j, _ | ⟨second, rest⟩⟩
    · exact ⟨none, .absent⟩
    · by_contra hnone
      exact hnames ⟨j, List.mem_singleton_self j, fun a ha => hnone ⟨some a, .given ha⟩⟩
    · exact absurd (Nat.le_add_left 2 rest.length) hshort

/-- The order of values makes no difference, since two of them give nothing. -/
theorem Gives.of_perm {values' : List Json} {o : Option α} (h : Gives name values o)
    (hperm : values'.Perm values) : Gives name values' o := by
  cases h with
  | absent =>
    rw [hperm.eq_nil]
    exact .absent
  | given h =>
    rw [hperm.eq_singleton]
    exact .given h

end Values

/-! ### What members give -/

section Members
variable {ms ms' : List (Text × Json)} {m : Text × Json} {n : Text} {given before : Given}

theorem valuesOf_concat_self (h : m.1 = n) : valuesOf n (ms ++ [m]) = valuesOf n ms ++ [m.2] := by
  simp [valuesOf, h]

theorem valuesOf_concat_of_ne (h : m.1 ≠ n) : valuesOf n (ms ++ [m]) = valuesOf n ms := by
  simp [valuesOf, h]

/-- The names that an object of settings knows. -/
def knownNames : List Text := [scopeMember, styleMember]

/-- The values of a known name are those among the members with known names. -/
theorem valuesOf_filter_known (hn : n ∈ knownNames) :
    valuesOf n (ms.filter fun m => m.1 ∈ knownNames) = valuesOf n ms := by
  rw [valuesOf, List.filter_filter, valuesOf]
  congr 1
  refine List.filter_congr fun m _ => ?_
  by_cases hm : m.1 = n
  · simp [hm, hn]
  · simp [hm]

theorem Given.add?_scope (h : m.1 = scopeMember) :
    before.add? m = some given ↔ before.scope = none ∧
      ∃ a : BlockScope, Names m.2 a.name ∧ given = { before with scope := some a } := by
  rw [add?, if_pos h]
  simp only [← chosen?_eq_some_iff BlockScope.mem_all BlockScope.name_injective]
  cases before.scope <;> simp [Option.map_eq_some_iff, @eq_comm _ given]

theorem Given.add?_style (hne : m.1 ≠ scopeMember) (h : m.1 = styleMember) :
    before.add? m = some given ↔ before.style = none ∧
      ∃ a : NumberStyle, Names m.2 a.name ∧ given = { before with style := some a } := by
  rw [add?, if_neg hne, if_pos h]
  simp only [← chosen?_eq_some_iff NumberStyle.mem_all NumberStyle.name_injective]
  cases before.style <;> simp [Option.map_eq_some_iff, @eq_comm _ given]

theorem Given.add?_other (hscope : m.1 ≠ scopeMember) (hstyle : m.1 ≠ styleMember) :
    before.add? m = some before := by
  rw [add?, if_neg hscope, if_neg hstyle]

/-- **What the members give is what the values of the two known names give**, each by itself. -/
theorem Given.foldlM_eq_some_iff :
    ms.foldlM Given.add? {} = some given ↔
      Gives BlockScope.name (valuesOf scopeMember ms) given.scope ∧
      Gives NumberStyle.name (valuesOf styleMember ms) given.style := by
  induction ms using List.reverseRecOn generalizing given with
  | nil =>
    constructor
    · rintro ⟨⟩
      exact ⟨.absent, .absent⟩
    · obtain ⟨scope, style⟩ := given
      rintro ⟨⟨⟩, ⟨⟩⟩
      rfl
  | append_singleton ms m ih =>
    have hstep : (ms ++ [m]).foldlM Given.add? {} = some given ↔ ∃ before : Given,
        (Gives BlockScope.name (valuesOf scopeMember ms) before.scope ∧
          Gives NumberStyle.name (valuesOf styleMember ms) before.style) ∧
        before.add? m = some given := by
      simp only [← ih, List.foldlM_append, List.foldlM_cons, List.foldlM_nil, Option.bind_eq_bind,
        Option.bind_eq_some_iff, Option.pure_def, Option.some.injEq, exists_eq_right]
    rw [hstep]
    by_cases hscope : m.1 = scopeMember
    · have hother : m.1 ≠ styleMember := hscope ▸ by decide
      rw [valuesOf_concat_self hscope, valuesOf_concat_of_ne hother, gives_concat_iff]
      simp only [add?_scope hscope]
      constructor
      · rintro ⟨before, ⟨hempty, hstyle⟩, hnone, a, ha, rfl⟩
        rw [hnone, gives_none_iff] at hempty
        exact ⟨⟨hempty, a, ha, rfl⟩, hstyle⟩
      · rintro ⟨⟨hempty, a, ha, hgiven⟩, hstyle⟩
        refine ⟨{ given with scope := none }, ⟨gives_none_iff.mpr hempty, hstyle⟩, rfl, a, ha, ?_⟩
        rw [← hgiven]
    by_cases hstyle : m.1 = styleMember
    · rw [valuesOf_concat_self hstyle, valuesOf_concat_of_ne hscope, gives_concat_iff]
      simp only [add?_style hscope hstyle]
      constructor
      · rintro ⟨before, ⟨hscope, hempty⟩, hnone, a, ha, rfl⟩
        rw [hnone, gives_none_iff] at hempty
        exact ⟨hscope, hempty, a, ha, rfl⟩
      · rintro ⟨hscope, hempty, a, ha, hgiven⟩
        refine ⟨{ given with style := none }, ⟨hscope, gives_none_iff.mpr hempty⟩, rfl, a, ha, ?_⟩
        rw [← hgiven]
    · rw [valuesOf_concat_of_ne hscope, valuesOf_concat_of_ne hstyle]
      simp only [add?_other hscope hstyle, Option.some.injEq, exists_eq_right]

end Members

/-! ### What objects write -/

section Reading
variable {t t' : Text} {ms ms' : List (Text × Json)} {settings : Settings}

theorem toOption_eq_some_iff {ε α : Type} {x : Except ε α} {a : α} :
    x.toOption = some a ↔ x = .ok a := by
  cases x <;> simp [Except.toOption]

/-- **An object writes the settings that its values give**, with the default where these give
nothing. -/
theorem read_eq_ok_iff (h : ObjectText t ms) :
    read t = .ok settings ↔ ∃ scope style,
      Gives BlockScope.name (valuesOf scopeMember ms) scope ∧
      Gives NumberStyle.name (valuesOf styleMember ms) style ∧
      settings = ⟨scope.getD .sticky, style.getD .strictInteger⟩ := by
  rw [← toOption_eq_some_iff, toOption_read h, Option.map_eq_some_iff]
  simp only [Given.foldlM_eq_some_iff]
  constructor
  · rintro ⟨⟨scope, style⟩, ⟨hscope, hstyle⟩, rfl⟩
    exact ⟨scope, style, hscope, hstyle, rfl⟩
  · rintro ⟨scope, style, hscope, hstyle, rfl⟩
    exact ⟨⟨scope, style⟩, ⟨hscope, hstyle⟩, rfl⟩

/-- An object is refused if and only if the values of a known name are misgiven. -/
theorem exists_read_eq_error_iff (h : ObjectText t ms) :
    (∃ fault, read t = .error fault) ↔
      Misgiven BlockScope.name (valuesOf scopeMember ms) ∨
      Misgiven NumberStyle.name (valuesOf styleMember ms) := by
  have herror : (∃ fault, read t = .error fault) ↔ ¬ ∃ settings, read t = .ok settings := by
    cases read t <;> simp
  have hok : (∃ settings, read t = .ok settings) ↔
      (∃ scope, Gives BlockScope.name (valuesOf scopeMember ms) scope) ∧
      ∃ style, Gives NumberStyle.name (valuesOf styleMember ms) style := by
    simp only [read_eq_ok_iff h]
    constructor
    · rintro ⟨_, scope, style, hscope, hstyle, -⟩
      exact ⟨⟨scope, hscope⟩, style, hstyle⟩
    · rintro ⟨⟨scope, hscope⟩, style, hstyle⟩
      exact ⟨_, scope, style, hscope, hstyle, rfl⟩
  rw [herror, hok, exists_gives_iff, exists_gives_iff, ← not_or, not_not]

/-- Two objects whose members with known names are the same up to order write the same settings. -/
theorem read_eq_ok_of_perm (h : ObjectText t ms) (h' : ObjectText t' ms')
    (hperm : (ms'.filter fun m => m.1 ∈ knownNames).Perm (ms.filter fun m => m.1 ∈ knownNames))
    (hread : read t = .ok settings) : read t' = .ok settings := by
  have hvalues : ∀ n ∈ knownNames, (valuesOf n ms').Perm (valuesOf n ms) := by
    intro n hn
    rw [← @valuesOf_filter_known ms n hn, ← @valuesOf_filter_known ms' n hn]
    exact (hperm.filter _).map _
  obtain ⟨scope, style, hscope, hstyle, rfl⟩ := (read_eq_ok_iff h).mp hread
  exact (read_eq_ok_iff h').mpr ⟨scope, style, hscope.of_perm (hvalues _ (by decide)),
    hstyle.of_perm (hvalues _ (by decide)), rfl⟩

end Reading

/-- **Settings are given name by name.**  The text of an object is a document with the same members.
It writes settings if and only if each of the two known names occurs at most once in it, with a
value that names a variant; the settings are then the variants that are named, with the default
where there is none.  Otherwise the object is refused.  So order and unknown members make no
difference.  And a command takes a choice from its flag, else from its settings file, else it takes
the default, each choice by itself; a settings file that is refused makes it fail, whatever the
flags are. -/
theorem read_object :
    (∀ t ms, ObjectText t ms → document t = .ok (.object ms) ∧
      (∀ settings, read t = .ok settings ↔ ∃ scope style,
        Gives BlockScope.name (valuesOf scopeMember ms) scope ∧
        Gives NumberStyle.name (valuesOf styleMember ms) style ∧
        settings = ⟨scope.getD .sticky, style.getD .strictInteger⟩) ∧
      ((∃ fault, read t = .error fault) ↔
        Misgiven BlockScope.name (valuesOf scopeMember ms) ∨
        Misgiven NumberStyle.name (valuesOf styleMember ms)) ∧
      ∀ t' ms', ObjectText t' ms' →
        (ms'.filter fun m => m.1 ∈ knownNames).Perm (ms.filter fun m => m.1 ∈ knownNames) →
        ∀ settings, read t' = .ok settings ↔ read t = .ok settings) ∧
    ∀ (options : ReadOptions) (world : World),
      (options.settingsFile = none → options.settings world =
        .ok ⟨options.blockScope.getD .sticky, options.numberStyle.getD .strictInteger⟩) ∧
      ∀ path t, options.settingsFile = some path → Holds world.file path t →
        (∀ given, read t = .ok given → options.settings world =
          .ok ⟨options.blockScope.getD given.blockScope,
            options.numberStyle.getD given.numberStyle⟩) ∧
        ∀ fault, read t = .error fault → options.settings world =
          .error (.invalidSettings path) := by
  refine ⟨fun t ms h => ⟨h.writes.document_eq, fun settings => read_eq_ok_iff h,
    exists_read_eq_error_iff h, ?_⟩, ?_⟩
  · intro t' ms' h' hperm settings
    exact ⟨read_eq_ok_of_perm h' h hperm.symm, read_eq_ok_of_perm h h' hperm⟩
  · intro options world
    refine ⟨ReadOptions.settings_of_none, fun path t hfile hholds => ⟨?_, ?_⟩⟩
    · exact fun given hread => ReadOptions.settings_of_read hfile hholds hread
    · exact fun fault hread => ReadOptions.settings_of_refused hfile hholds hread

/-- An unknown member in front of the number style, and a flag for the scope. -/
theorem read_object_flag :
    let t := "\x7b\"x\": [[]], \"numeric\":\x7b\"lenient\":null\x7d\x7d".toList
    let file : Text → FileContent := fun _ => .bytes (t.flatMap String.utf8EncodeChar)
    let network : Text → HttpReply := fun _ => .none []
    let options : ReadOptions := ⟨some "s".toList, some .resetAfterContent, none⟩
    let ms := [("x".toList, .array [.array []]),
      ("numeric".toList, .object [("lenient".toList, .null)])]
    (ObjectText t ms ∧ Holds file "s".toList t) ∧ read t = .ok ⟨.sticky, .lenient⟩ ∧
      options.settings ⟨file, network⟩ = .ok ⟨.resetAfterContent, .lenient⟩ := by
  intro t file network options ms
  have hgap : Gap [' '] := gap_singleton rfl
  have hx : Writes " [[]]".toList (.padded (.array [.array []])) :=
    .padded hgap (.array (.lastItem (Writes.emptyArray gap_nil).bare)) gap_nil
  have hstyle : Writes "\x7b\"lenient\":null\x7d".toList
      (.padded (.object [("lenient".toList, .null)])) :=
    (Writes.object (.lastMember
      (.member gap_nil (letters_flatMap false "lenient".toList) gap_nil Writes.null.bare))).bare
  have hobject : ObjectText t ms :=
    .members gap_nil (.intro gap_nil (letters_flatMap true "x".toList) gap_nil hx)
      (.more (.intro hgap (letters_flatMap true styleMember) gap_nil hstyle) .close) gap_nil
  have htext : Holds file "s".toList t := rfl
  have hread : read t = .ok ⟨.sticky, .lenient⟩ :=
    ((read_object.1 t ms hobject).2.1 _).mpr ⟨none, some .lenient, .absent, .given (.object _), rfl⟩
  exact ⟨⟨hobject, htext⟩, hread,
    ((read_object.2 options ⟨file, network⟩).2 _ t rfl htext).1 _ hread⟩

end Settings
end PlanetScript
