import Mathlib.Data.List.DropRight
import PlanetScript.Script.Reading

/-! # Places in a script

What a line says depends on the lines before it.  A place is a line together with these,
and this module reads off them what the line is about: the block that is open and the id
and kind that its fields belong to (`focusAt`).  Nothing is carried from line to line here;
`Reading.focus_run` proves that the focus which a reading does carry is this one.

A field keeps what was given to it last.  `lastGiven f lines` is the last thing that `f`
finds at a place of the lines, and `lastGiven_eq_some_iff` says so in terms of the lines
before and after it.
-/
namespace PlanetScript
open Text

/-- A line with the lines before it. -/
structure Place where
  before : List Text
  line : Text

/-- What the line of a place says. -/
def Place.directive (p : Place) : Directive := .ofLine p.line

/-- The places of lines that stand behind others. -/
def placesBehind (before : List Text) : List Text → List Place
  | [] => []
  | line :: lines => ⟨before, line⟩ :: placesBehind (before ++ [line]) lines

/-- The places of all lines, in their order. -/
def places (lines : List Text) : List Place := placesBehind [] lines

theorem placesBehind_append (before xs ys : List Text) :
    placesBehind before (xs ++ ys) = placesBehind before xs ++ placesBehind (before ++ xs) ys := by
  induction xs generalizing before with
  | nil => simp [placesBehind]
  | cons x xs ih => simp [placesBehind, ih]

theorem places_append (xs ys : List Text) :
    places (xs ++ ys) = places xs ++ placesBehind xs ys := placesBehind_append [] xs ys

@[simp] theorem places_concat (lines : List Text) (line : Text) :
    places (lines ++ [line]) = places lines ++ [⟨lines, line⟩] := places_append lines [line]

theorem mem_placesBehind_iff {before lines : List Text} {p : Place} :
    p ∈ placesBehind before lines ↔
      ∃ middle after, lines = middle ++ p.line :: after ∧ p.before = before ++ middle := by
  induction lines generalizing before with
  | nil => simp [placesBehind]
  | cons line lines ih =>
    rw [placesBehind, List.mem_cons, ih]
    constructor
    · rintro (rfl | ⟨middle, after, rfl, hb⟩)
      · exact ⟨[], lines, rfl, (List.append_nil before).symm⟩
      · exact ⟨line :: middle, after, rfl, by rw [hb, List.append_assoc]; rfl⟩
    · rintro ⟨middle, after, hl, hb⟩
      cases middle with
      | nil =>
        rw [List.nil_append, List.cons.injEq] at hl
        rw [List.append_nil] at hb
        exact Or.inl (by cases p; simp_all)
      | cons m middle =>
        rw [List.cons_append, List.cons.injEq] at hl
        exact Or.inr ⟨middle, after, hl.2, by rw [hb, hl.1, List.append_assoc]; rfl⟩

/-- A place of the lines is a line of theirs with all the lines before it. -/
theorem mem_places_iff {lines : List Text} {p : Place} :
    p ∈ places lines ↔ ∃ after, lines = p.before ++ p.line :: after := by
  rw [places, mem_placesBehind_iff]
  constructor
  · rintro ⟨middle, after, rfl, hb⟩
    exact ⟨after, by rw [hb]; rfl⟩
  · rintro ⟨after, h⟩
    exact ⟨p.before, after, h, rfl⟩

theorem line_mem_of_mem_places {lines : List Text} {p : Place} (h : p ∈ places lines) :
    p.line ∈ lines := by
  obtain ⟨after, rfl⟩ := mem_places_iff.mp h
  exact List.mem_append_right _ List.mem_cons_self

/-! ### The last thing given -/

section LastGiven
variable {α : Type} (f : Place → Option α)

/-- The last thing that `f` finds at a place of the lines. -/
def lastGiven (lines : List Text) : Option α := ((places lines).filterMap f).getLast?

@[simp] theorem lastGiven_nil : lastGiven f [] = none := rfl

theorem lastGiven_concat (lines : List Text) (line : Text) :
    lastGiven f (lines ++ [line]) = (f ⟨lines, line⟩).or (lastGiven f lines) := by
  unfold lastGiven
  rw [places_concat, List.filterMap_append, List.getLast?_append]
  cases h : f ⟨lines, line⟩ <;> simp [h]

/-- What is given last is given by some place. -/
theorem exists_place_of_lastGiven {lines : List Text} {v : α} (h : lastGiven f lines = some v) :
    ∃ p ∈ places lines, f p = some v := List.mem_filterMap.mp (List.mem_of_getLast? h)

/-- If some place gives something, something is given last. -/
theorem exists_lastGiven_of_place {lines : List Text} {p : Place} {v : α} (hp : p ∈ places lines)
    (h : f p = some v) : ∃ last, lastGiven f lines = some last := by
  have hmem : v ∈ (places lines).filterMap f := List.mem_filterMap.mpr ⟨p, hp, h⟩
  exact ⟨_, List.getLast?_eq_some_getLast (List.ne_nil_of_mem hmem)⟩

theorem lastGiven_map {β : Type} (g : α → β) (lines : List Text) :
    lastGiven (fun p => (f p).map g) lines = (lastGiven f lines).map g := by
  rw [lastGiven, lastGiven, ← List.getLast?_map, List.map_filterMap]

/-- Something is given last if some place gives it and no later place gives anything. -/
theorem lastGiven_eq_some_iff {lines : List Text} {v : α} :
    lastGiven f lines = some v ↔
      ∃ before line after, lines = before ++ line :: after ∧ f ⟨before, line⟩ = some v ∧
        ∀ p ∈ placesBehind (before ++ [line]) after, f p = none := by
  induction lines using List.reverseRecOn with
  | nil => simp
  | append_singleton lines last ih =>
    rw [lastGiven_concat, Option.or_eq_some_iff, ih]
    -- either the last place gives the value, or it gives nothing and an earlier one does
    constructor
    · rintro (hv | ⟨hn, before, line, after, rfl, hv, hafter⟩)
      · exact ⟨lines, last, [], rfl, hv, by simp [placesBehind]⟩
      · refine ⟨before, line, after ++ [last], by simp, hv, ?_⟩
        intro p hp
        rw [placesBehind_append, List.mem_append] at hp
        rcases hp with hp | hp
        · exact hafter p hp
        · rw [show p = ⟨before ++ line :: after, last⟩ by simpa [placesBehind] using hp]
          exact hn
    · rintro ⟨before, line, after, hl, hv, hafter⟩
      rcases List.eq_nil_or_concat after with rfl | ⟨init, z, rfl⟩
      · obtain ⟨rfl, hz⟩ := List.append_inj' hl rfl
        obtain rfl : last = line := by simpa using hz
        exact Or.inl hv
      · rw [List.concat_eq_append, ← List.cons_append, ← List.append_assoc] at hl
        rw [List.concat_eq_append, placesBehind_append] at hafter
        obtain ⟨rfl, hz⟩ := List.append_inj' hl rfl
        obtain rfl : last = z := by simpa using hz
        refine Or.inr ⟨hafter _ ?_, before, line, init, rfl, hv, ?_⟩
        · simp [placesBehind]
        · exact fun p hp => hafter p (List.mem_append_left _ hp)

end LastGiven

/-! ### What the lines before a place leave open -/

namespace Directive

/-- The id and kind that the fields after a directive belong to. -/
structure Subject where
  id : Option Text
  kind : Option Kind
deriving DecidableEq, Repr

/-- The block that a directive opens. -/
def opened? : Directive → Option Block
  | .thumbnail => some .thumbnail
  | .spawn => some .spawn
  | .setTexture _ _ => some .texture
  | .setPosition _ => some .position
  | .setSize _ => some .size
  | .properties _ => some .properties
  | .onClick _ => some .onClick
  | _ => none

/-- What a directive points the fields after it at.  An opener of an id's block does so even
if its id is missing; a declaration does so if it has an id. -/
def subject? : Directive → Option Subject
  | .newBackground (some id) => some ⟨some id, some .background⟩
  | .newObject (some id) => some ⟨some id, some .object⟩
  | .setTexture id kind => some ⟨id, kind⟩
  | .setPosition id | .setSize id | .properties id | .onClick id => some ⟨id, some .object⟩
  | _ => none

/-- A directive that opens a texture block also says whose texture it is. -/
theorem subject?_isSome_of_texture {d : Directive} (h : d.opened? = some .texture) :
    d.subject?.isSome := by
  cases d <;> simp_all [opened?, subject?]

end Directive

/-- The last thing that a line of some lines says to `f`. -/
def lastSaid {α : Type} (f : Directive → Option α) (lines : List Text) : Option α :=
  (lines.filterMap fun line => f (.ofLine line)).getLast?

theorem lastSaid_concat {α : Type} (f : Directive → Option α) (lines : List Text)
    (line : Text) :
    lastSaid f (lines ++ [line]) = (f (.ofLine line)).or (lastSaid f lines) := by
  unfold lastSaid
  rw [List.filterMap_append, List.getLast?_append]
  cases h : f (.ofLine line) <;> simp [h]

/-- The lines after the last one that opens a block, or all lines if there is none. -/
def sinceOpener (lines : List Text) : List Text :=
  lines.rtakeWhile fun line => (Directive.ofLine line).opened?.isNone

/-- Whether content came after the last line that opens a block. -/
def hasContent (lines : List Text) : Bool :=
  (sinceOpener lines).any fun line => (Directive.ofLine line).isContent

theorem hasContent_concat (lines : List Text) (line : Text) :
    hasContent (lines ++ [line]) = ((Directive.ofLine line).opened?.isNone &&
      ((Directive.ofLine line).isContent || hasContent lines)) := by
  unfold hasContent sinceOpener
  rw [List.rtakeWhile_concat]
  cases (Directive.ofLine line).opened?.isNone <;> simp [Bool.or_comm]

/-- The block that is open after some lines: the one opened last, unless it closes after
content and there was some. -/
def openBlock? (scope : BlockScope) (lines : List Text) : Option Block :=
  match scope with
  | .sticky => lastSaid Directive.opened? lines
  | .resetAfterContent =>
    if hasContent lines then none else lastSaid Directive.opened? lines

/-- The id that fields after some lines belong to. -/
def currentId? (lines : List Text) : Option Text :=
  (lastSaid Directive.subject? lines).bind (·.id)

/-- The kind that fields after some lines belong to. -/
def currentKind? (lines : List Text) : Option Kind :=
  (lastSaid Directive.subject? lines).bind (·.kind)

/-- What a line that comes after some lines is about. -/
def focusAt (scope : BlockScope) (lines : List Text) : Focus :=
  ⟨openBlock? scope lines, currentId? lines, currentKind? lines⟩

/-- Whether a line declares an object. -/
def DeclaresObject (lines : List Text) (id : Text) : Prop :=
  ∃ line ∈ lines, Directive.ofLine line = .newObject (some id)

/-- Whether a line declares a background. -/
def DeclaresBackground (lines : List Text) (id : Text) : Prop :=
  ∃ line ∈ lines, Directive.ofLine line = .newBackground (some id)

instance (lines : List Text) (id : Text) : Decidable (DeclaresObject lines id) :=
  inferInstanceAs (Decidable (∃ line ∈ lines, _))

instance (lines : List Text) (id : Text) : Decidable (DeclaresBackground lines id) :=
  inferInstanceAs (Decidable (∃ line ∈ lines, _))

theorem declaresObject_concat {lines : List Text} {line id : Text} :
    DeclaresObject (lines ++ [line]) id ↔
      DeclaresObject lines id ∨ Directive.ofLine line = .newObject (some id) := by
  simp [DeclaresObject, or_and_right, exists_or]

theorem declaresBackground_concat {lines : List Text} {line id : Text} :
    DeclaresBackground (lines ++ [line]) id ↔
      DeclaresBackground lines id ∨ Directive.ofLine line = .newBackground (some id) := by
  simp [DeclaresBackground, or_and_right, exists_or]

/-- What an id stands for after some lines, objects first. -/
def declaredKind? (lines : List Text) (id : Text) : Option Kind :=
  if DeclaresObject lines id then some .object
  else if DeclaresBackground lines id then some .background
  else none

/-- What the line of a place is about. -/
def Place.focus (scope : BlockScope) (p : Place) : Focus := focusAt scope p.before

/-! ### The focus of a reading -/

namespace Focus

/-- The focus after a line, which depends on what the line says alone. -/
def next (scope : BlockScope) (focus : Focus) (d : Directive) : Focus :=
  if d.isContent then focus.afterContent scope
  else ⟨d.opened?.or focus.block, (d.subject?.map (·.id)).getD focus.id,
    (d.subject?.map (·.kind)).getD focus.kind⟩

/-- Two focuses that no line can tell apart: the kind matters for textures alone. -/
structure Same (f g : Focus) : Prop where
  block : f.block = g.block
  id : f.id = g.id
  kind : f.block = some .texture → f.kind = g.kind

end Focus

theorem Reading.focus_step (settings : Settings) (r : Reading) (line : Text) :
    (r.step settings line).1.focus = r.focus.next settings.blockScope (.ofLine line) := by
  unfold Reading.step Focus.next
  cases h : Directive.ofLine line with
  | content => simp [Reading.content, Directive.isContent]
  | newBackground id | newObject id =>
    cases id <;>
      simp [Reading.directive, Directive.isContent, Directive.opened?, Directive.subject?,
        Focus.retarget]
  | switchBackground id =>
    cases id with
    | none => simp [Reading.directive, Directive.isContent, Directive.opened?, Directive.subject?]
    | some id =>
      simp only [Reading.directive]
      split <;> simp [Directive.isContent, Directive.opened?, Directive.subject?]
  | remove =>
    simp only [Reading.directive]
    split <;> simp [Directive.isContent, Directive.opened?, Directive.subject?]
  | _ =>
    simp [Reading.directive, Directive.isContent, Directive.opened?, Directive.subject?,
      Focus.openAt, Focus.openPlanet]

theorem openBlock?_concat_of_content {scope : BlockScope} {lines : List Text} {line : Text}
    (h : Directive.ofLine line = .content) :
    openBlock? scope (lines ++ [line]) =
      match scope with
      | .sticky => openBlock? .sticky lines
      | .resetAfterContent => none := by
  cases scope <;>
    simp [openBlock?, lastSaid_concat, hasContent_concat, h, Directive.opened?, Directive.isContent]

theorem openBlock?_concat {scope : BlockScope} {lines : List Text} {line : Text}
    (h : Directive.ofLine line ≠ .content) :
    openBlock? scope (lines ++ [line]) =
      (Directive.ofLine line).opened?.or (openBlock? scope lines) := by
  cases scope with
  | sticky => exact lastSaid_concat Directive.opened? lines line
  | resetAfterContent =>
    simp only [openBlock?, lastSaid_concat, hasContent_concat]
    cases (Directive.ofLine line).opened? <;> simp [Directive.isContent, h]

theorem currentId?_concat (lines : List Text) (line : Text) :
    currentId? (lines ++ [line]) =
      ((Directive.ofLine line).subject?.map (·.id)).getD (currentId? lines) := by
  unfold currentId?
  rw [lastSaid_concat]
  cases (Directive.ofLine line).subject? <;> rfl

theorem currentKind?_concat (lines : List Text) (line : Text) :
    currentKind? (lines ++ [line]) =
      ((Directive.ofLine line).subject?.map (·.kind)).getD (currentKind? lines) := by
  unfold currentKind?
  rw [lastSaid_concat]
  cases (Directive.ofLine line).subject? <;> rfl

/-- Before the first line no block is open and no id is current. -/
theorem Focus.Same.initial (scope : BlockScope) : Focus.Same {} (focusAt scope []) := by
  cases scope <;> exact ⟨rfl, rfl, fun _ => rfl⟩

/-- One line keeps a carried focus the same as the one read off the lines. -/
theorem Focus.Same.next {scope : BlockScope} {f : Focus} {lines : List Text}
    (h : f.Same (focusAt scope lines)) (line : Text) :
    (f.next scope (.ofLine line)).Same (focusAt scope (lines ++ [line])) := by
  obtain ⟨hb, hi, hk⟩ := h
  by_cases hc : Directive.ofLine line = .content
  · have hid : f.id = currentId? (lines ++ [line]) := by
      rw [hi, currentId?_concat, hc]; rfl
    cases scope with
    | sticky =>
      refine ⟨?_, ?_, ?_⟩
      · simpa [hc, Focus.next, Focus.afterContent, focusAt, Directive.isContent,
          openBlock?_concat_of_content] using hb
      · simpa [hc, Focus.next, Focus.afterContent, focusAt, Directive.isContent] using hid
      · simpa [hc, Focus.next, Focus.afterContent, focusAt, Directive.isContent,
          currentKind?_concat, Directive.subject?] using hk
    | resetAfterContent =>
      -- the carried kind is dropped here, which no block is left to notice
      refine ⟨?_, ?_, ?_⟩
      · simp [hc, Focus.next, Focus.afterContent, focusAt, Directive.isContent,
          openBlock?_concat_of_content]
      · simpa [hc, Focus.next, Focus.afterContent, focusAt, Directive.isContent] using hid
      · simp [hc, Focus.next, Focus.afterContent, Directive.isContent]
  · have hn : f.next scope (.ofLine line) =
        ⟨(Directive.ofLine line).opened?.or f.block,
          ((Directive.ofLine line).subject?.map (·.id)).getD f.id,
          ((Directive.ofLine line).subject?.map (·.kind)).getD f.kind⟩ := by
      simp [Focus.next, Directive.isContent, hc]
    rw [hn]
    refine ⟨?_, ?_, ?_⟩
    · rw [show f.block = openBlock? scope lines from hb]
      exact (openBlock?_concat hc).symm
    · rw [show f.id = currentId? lines from hi]
      exact (currentId?_concat lines line).symm
    · intro ht
      -- a texture block was opened here, with a kind, or it is the one that was open
      show _ = currentKind? (lines ++ [line])
      rw [currentKind?_concat]
      cases ho : (Directive.ofLine line).opened? with
      | some block =>
        rw [ho, Option.some_or] at ht
        obtain ⟨subject, hs⟩ := Option.isSome_iff_exists.mp
          (Directive.subject?_isSome_of_texture (ho.trans ht))
        rw [hs]; rfl
      | none =>
        rw [ho, Option.none_or] at ht
        rw [hk ht]; rfl

/-- **The focus that a reading carries is the one that the lines before say.** -/
theorem Reading.focus_run (settings : Settings) (lines : List Text) :
    (Reading.run settings {} lines).focus.Same (focusAt settings.blockScope lines) := by
  induction lines using List.reverseRecOn with
  | nil => exact Focus.Same.initial settings.blockScope
  | append_singleton lines line ih =>
    rw [Reading.run, List.foldl_append]
    show (Reading.step settings _ line).1.focus.Same _
    rw [Reading.focus_step]
    exact ih.next line

end PlanetScript
