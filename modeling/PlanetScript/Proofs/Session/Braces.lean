import PlanetScript.Proofs.Scene.Commuting
import PlanetScript.Proofs.Session.Missing
import PlanetScript.Proofs.Text.Lines

/-! # Lines that are a brace

The language has no grammar of blocks, so a brace on a line of its own is content of whatever block
is open.  Every block but one finds no field in it and ignores it (`Focus.edit?_of_brace`).  The
exception is a size: that is the whole line, whatever it says, so a brace becomes the size of the
object that the block is about.

What is left to see is how far that goes.  Nothing else of a session depends on a size
(`Session.follow_size_comm`), so a size that was stored stays, with no other effect, until the next
size of the object takes its place (`Session.foldl_follow_size`).
-/
namespace PlanetScript
open Text

/-- A line with a brace and nothing else. -/
def IsBrace (line : Text) : Prop := line = ['{'] ∨ line = ['}']

/-- Whether the line of a place is the size of an object, in the sticky scope. -/
def Place.Sizes (p : Place) (id : Text) : Prop :=
  p.directive = .content ∧ (p.focus .sticky).block = some .size ∧
    (p.focus .sticky).id = some id ∧ DeclaresObject p.before id

instance (p : Place) (id : Text) : Decidable (p.Sizes id) := by unfold Place.Sizes; infer_instance

/-! ### A size and another edit -/

/-- Changing a value twice is changing it once. -/
theorem Registry.modify_modify {α : Type} (r : Registry α) (key : Text) (f g : α → α) :
    (r.modify key f).modify key g = r.modify key (g ∘ f) := by
  refine eq_of_keys_of_get? (by simp) fun k _ => ?_
  simp only [get?_modify]
  split <;> simp

/-- A value that is there can be changed before or after a key is put in if it is new. -/
theorem Registry.modify_insertIfNew {α : Type} {r : Registry α} {key : Text}
    (h : r.contains key = true) (f : α → α) (other : Text) (value : α) :
    (r.modify key f).insertIfNew other value = (r.insertIfNew other value).modify key f := by
  have hcontains : (r.modify key f).contains other = r.contains other := by
    simp only [contains, get?_modify]
    split <;> simp
  by_cases hother : r.contains other = true
  · rw [insertIfNew, insertIfNew, hcontains, if_pos hother, if_pos hother]
  · have hne : other ≠ key := by
      rintro rfl
      exact hother h
    rw [insertIfNew, insertIfNew, hcontains, if_neg hother, if_neg hother]
    refine eq_of_keys_of_get? ?_ fun k _ => ?_
    · simp only [keys_insert, keys_modify]
    · simp only [get?_insert, get?_modify]
      by_cases hk : k = other
      · simp [hk, hne]
      · simp [hk]

namespace Scene
variable {style : NumberStyle} {scene other : Scene} {id : Text}

/-- The size of an object commutes with every edit that is not its size. -/
theorem edited_size_comm (style : NumberStyle) (h : scene.objects.contains id = true)
    (word : Text) {e : Edit} (he : ∀ other, e ≠ .size id other) :
    (scene.edited style (.size id word)).edited style e =
      (scene.edited style e).edited style (.size id word) := by
  cases hf : e.field? with
  | some field =>
    refine edited_comm rfl (by rw [hf]; rfl) (fun heq => ?_) scene
    cases e <;> cases heq
    exact he _ rfl
  | none =>
    cases e with
    | validate | declareBackground => rfl
    | declareObject target =>
      simp only [edited, modifyObject, declareObject, Registry.modify_insertIfNew h]
    | activate target =>
      by_cases hb : scene.backgrounds.contains target = true
      · simp [edited, modifyObject, activate, deactivateAll, hb]
      · simp [edited, modifyObject, hb]
    | _ => cases hf

/-- What an edit asks for depends on which ids there are. -/
theorem effect?_congr (h : ∀ id kind, scene.Has id kind ↔ other.Has id kind) (e : Edit) :
    scene.effect? e = other.effect? e := by
  cases e with
  | activate target => exact if_congr (h target (some .background)) rfl rfl
  | position target => exact if_congr (h target (some .object)) rfl rfl
  | texture target kind url =>
    have hstored : (scene.storeTexture? kind target url).isSome =
        (other.storeTexture? kind target url).isSome := by
      rw [Bool.eq_iff_iff, isSome_storeTexture?_iff, isSome_storeTexture?_iff, h]
    simp only [effect?]
    cases hs : scene.storeTexture? kind target url <;>
      cases ho : other.storeTexture? kind target url <;> rw [hs, ho] at hstored <;>
      first | rfl | cases hstored
  | _ => rfl

theorem has_edited_of_field {e : Edit} (he : e.field?.isSome = true) (id : Text)
    (kind : Option Kind) : (scene.edited style e).Has id kind ↔ scene.Has id kind := by
  obtain ⟨hobjects, hbackgrounds⟩ := scene.contains_edited_of_field style he id
  unfold Has
  rw [hobjects, hbackgrounds]

section Size
variable (scene : Scene) (id word : Text)

theorem get?_objects_edited_size (target : Text) :
    (scene.edited style (.size id word)).objects.get? target =
      (scene.objects.get? target).map fun object =>
        if id = target then { object with size := word } else object := by
  rw [get?_objects_edited, if_neg nofun]
  rfl

/-- A size is no texture. -/
theorem texture?_edited_size (target : Text) :
    (scene.edited style (.size id word)).texture? target = scene.texture? target := by
  have hbackgrounds : (scene.edited style (.size id word)).backgrounds = scene.backgrounds := rfl
  simp only [texture?, get?_objects_edited_size, hbackgrounds]
  cases scene.objects.get? target with
  | none => rfl
  | some object =>
    simp only [Option.map_some]
    split <;> rfl

/-- A size is no position. -/
theorem position_edited_size (target : Text) :
    ((scene.edited style (.size id word)).objects.get? target).map (·.position) =
      (scene.objects.get? target).map (·.position) := by
  simp only [get?_objects_edited_size, Option.map_map]
  refine congrArg (Option.map · _) (funext fun object => ?_)
  simp only [Function.comp_apply]
  split <;> rfl

end Size
end Scene

namespace Session
variable {s : Session} {id : Text}

/-- What a session does about an effect depends on the textures and the positions of its scene. -/
theorem perform_congr {scene : Scene} (htexture : ∀ id, scene.texture? id = s.scene.texture? id)
    (hposition : ∀ id, (scene.objects.get? id).map (·.position) =
      (s.scene.objects.get? id).map (·.position)) (effect : Effect) :
    ({ s with scene } : Session).perform effect = { s.perform effect with scene } := by
  cases effect with
  | ignored line => rfl
  | showTexture target =>
    have hdispatch : ({ s with scene } : Session).dispatch target = s.dispatch target := by
      simp only [dispatch, htexture, namesOf]
    simp only [perform, showTexture, hdispatch]
    cases s.dispatch target <;> rfl
  | followPosition target =>
    have hsame := hposition target
    simp only [perform, followPosition, namesOf]
    cases hs : s.scene.objects.get? target with
    | none =>
      rw [hs, Option.map_none, Option.map_eq_none_iff] at hsame
      simp only [hsame]
    | some object =>
      rw [hs, Option.map_some] at hsame
      obtain ⟨other, hother, hplace⟩ := Option.map_eq_some_iff.mp hsame
      simp only [hother, hplace]

theorem scene_perform (s : Session) (effect : Effect) : (s.perform effect).scene = s.scene := by
  obtain ⟨_, _, _, _, _, h⟩ := s.perform_eq effect
  rw [h]

theorem follow_size (s : Session) (id word : Text) :
    s.follow (.size id word) =
      { s with scene := s.scene.modifyObject id fun object => { object with size := word } } := rfl

/-- **A size and any other edit can be followed in either order.** -/
theorem follow_size_comm (h : s.scene.objects.contains id = true) (word : Text) {e : Edit}
    (he : ∀ other, e ≠ .size id other) :
    (s.follow (.size id word)).follow e = (s.follow e).follow (.size id word) := by
  have heffect : (s.follow (.size id word)).scene.effect? e = s.scene.effect? e :=
    Scene.effect?_congr (Scene.has_edited_of_field rfl) e
  have hscene := Scene.edited_size_comm s.settings.numberStyle h word he
  have hedit : (s.follow (.size id word)).editScene e =
      { s.editScene e with
        scene := (s.editScene e).scene.edited s.settings.numberStyle (.size id word) } :=
    congrArg (fun scene => { s with scene }) hscene
  -- what the other edit asks for sees neither the size nor a change of it
  have htexture : ∀ target, ((s.editScene e).scene.edited s.settings.numberStyle
      (.size id word)).texture? target = (s.editScene e).scene.texture? target :=
    Scene.texture?_edited_size _ id word
  have hposition : ∀ target, (((s.editScene e).scene.edited s.settings.numberStyle
      (.size id word)).objects.get? target).map (·.position) =
        ((s.editScene e).scene.objects.get? target).map (·.position) :=
    Scene.position_edited_size _ id word
  have hleft : (s.follow (.size id word)).follow e =
      (s.scene.effect? e).elim ((s.follow (.size id word)).editScene e)
        ((s.follow (.size id word)).editScene e).perform := by
    rw [← heffect]
    rfl
  rw [hleft, hedit, follow_size (s.follow e)]
  unfold follow
  cases s.scene.effect? e with
  | none => rfl
  | some effect =>
    rw [Option.elim_some, Option.elim_some, perform_congr htexture hposition, scene_perform]
    rfl

/-- A size takes the place of an earlier one. -/
theorem follow_size_size (s : Session) (id word other : Text) :
    (s.follow (.size id word)).follow (.size id other) = s.follow (.size id other) := by
  simp only [follow_size, Scene.modifyObject, Registry.modify_modify]
  rfl

/-- **A size stays until the next size of the object, and nothing else comes of it.** -/
theorem foldl_follow_size (h : s.scene.objects.contains id = true) (word : Text)
    (es : List Edit) :
    ((∃ other, Edit.size id other ∈ es) →
      es.foldl follow (s.follow (.size id word)) = es.foldl follow s) ∧
    ((∀ other, Edit.size id other ∉ es) →
      es.foldl follow (s.follow (.size id word)) =
        (es.foldl follow s).follow (.size id word)) := by
  induction es generalizing s with
  | nil =>
    refine ⟨?_, fun _ => rfl⟩
    rintro ⟨other, hmem⟩
    cases hmem
  | cons e es ih =>
    have hnext : (s.follow e).scene.objects.contains id = true := by
      rw [scene_follow]
      exact Scene.contains_objects_edited _ _ _ h e
    obtain ⟨hsome, hnone⟩ := ih hnext
    rw [List.foldl_cons, List.foldl_cons]
    by_cases he : ∃ other, e = .size id other
    · obtain ⟨other, rfl⟩ := he
      rw [follow_size_size]
      exact ⟨fun _ => rfl, fun habsent => absurd List.mem_cons_self (habsent other)⟩
    · rw [follow_size_comm h word fun other heq => he ⟨other, heq⟩]
      refine ⟨fun ⟨other, hmem⟩ => hsome ⟨other, ?_⟩, fun habsent => hnone fun other hmem => ?_⟩
      · exact (List.mem_cons.mp hmem).resolve_left fun heq => he ⟨other, heq.symm⟩
      · exact habsent other (List.mem_cons_of_mem e hmem)

end Session

/-! ### The edit of a brace -/

/-- **A brace is ignored but for the size of an id.** -/
theorem Focus.edit?_of_brace {line : Text} (h : IsBrace line) (focus : Focus) :
    focus.edit? line = none ∨ focus.edit? line = some (.spawn none none) ∨
      ∃ id, focus.block = some .size ∧ focus.id = some id ∧
        focus.edit? line = some (.size id line) := by
  obtain ⟨block, id, kind⟩ := focus
  rcases h with rfl | rfl
  all_goals
    cases block with
    | none => exact Or.inl rfl
    | some block =>
      cases block with
      | thumbnail => exact Or.inl rfl
      | onClick => exact Or.inl rfl
      | spawn => exact Or.inr (Or.inl rfl)
      | size =>
        cases id with
        | none => exact Or.inl rfl
        | some id => exact Or.inr (Or.inr ⟨id, rfl, rfl, rfl⟩)
      | texture | position | properties => cases id <;> exact Or.inl rfl

namespace Place
variable {p : Place} {id : Text}

theorem sizes_iff (h : DeclaresObject p.before id) :
    p.Sizes id ↔ ∃ word, p.edit? .sticky = some (.size id word) := by
  constructor
  · rintro ⟨hd, hblock, hid, -⟩
    exact ⟨_, Focus.edit?_eq_some_iff.mpr ⟨hd, hblock, hid, rfl⟩⟩
  · rintro ⟨word, he⟩
    obtain ⟨hd, hblock, hid, -⟩ := Focus.edit?_eq_some_iff.mp he
    exact ⟨hd, hblock, hid, h⟩

/-- Behind a line that declares an object, the sizes of the object are its edits of size. -/
theorem exists_sizes_iff {before behind : List Text} (h : DeclaresObject before id) :
    (∃ p ∈ placesBehind before behind, p.Sizes id) ↔
      ∃ word, Edit.size id word ∈
        (placesBehind before behind).filterMap (Place.edit? .sticky) := by
  have hdeclared : ∀ p ∈ placesBehind before behind, DeclaresObject p.before id := by
    intro p hp
    obtain ⟨middle, -, -, hbefore⟩ := mem_placesBehind_iff.mp hp
    obtain ⟨line, hline, hd⟩ := h
    exact ⟨line, by rw [hbefore]; exact List.mem_append_left middle hline, hd⟩
  constructor
  · rintro ⟨p, hp, hsizes⟩
    obtain ⟨word, he⟩ := (sizes_iff (hdeclared p hp)).mp hsizes
    exact ⟨word, List.mem_filterMap.mpr ⟨p, hp, he⟩⟩
  · rintro ⟨word, hmem⟩
    obtain ⟨p, hp, he⟩ := List.mem_filterMap.mp hmem
    exact ⟨p, hp, (sizes_iff (hdeclared p hp)).mpr ⟨word, he⟩⟩

end Place

namespace Session
variable (s : Session) {before behind : List Text} {line : Text}

/-- A session that has followed some lines ignores a brace that is no size of an object. -/
theorem ignores_brace (hscope : s.settings.blockScope = .sticky) (hbrace : IsBrace line)
    (hsizes : ∀ id, ¬ Place.Sizes ⟨before, line⟩ id) {e : Edit}
    (he : (focusAt .sticky before).edit? line = some e) :
    ((edits .sticky before).foldl follow s.clear).scene.Ignores
      ((edits .sticky before).foldl follow s.clear).settings.numberStyle e := by
  have hdescribes := s.describes_foldl_follow before
  rw [hscope] at hdescribes
  rcases Focus.edit?_of_brace hbrace (focusAt .sticky before) with hnone | hspawn | hsize
  · cases hnone.symm.trans he
  · cases hspawn.symm.trans he
    exact ⟨rfl, rfl⟩
  · obtain ⟨id, -, -, hedit⟩ := hsize
    cases hedit.symm.trans he
    refine Scene.ignores_of_not_has rfl fun hhas => ?_
    have hdeclared : DeclaresObject before id := (hdescribes.has_iff id (some .object)).mp hhas
    exact hsizes id ((Place.sizes_iff hdeclared).mpr ⟨line, hedit⟩)

/-- What a brace does to a script whose lines are given. -/
theorem alike_read_brace (hscope : s.settings.blockScope = .sticky) (hbrace : IsBrace line)
    {script braced : Text} (hscript : contentLines script = before ++ behind)
    (hbraced : contentLines braced = before ++ line :: behind) :
    ((∀ id, ¬ Place.Sizes ⟨before, line⟩ id) → (s.read braced).Alike (s.read script)) ∧
      ∀ id, Place.Sizes ⟨before, line⟩ id →
        ((∃ p ∈ placesBehind before behind, p.Sizes id) →
          (s.read braced).Alike (s.read script)) ∧
        ((∀ p ∈ placesBehind before behind, ¬ p.Sizes id) →
          (s.read braced).Alike ((s.read script).follow (.size id line))) := by
  -- the line leaves the focus as it is, so that the same edits stand behind it
  have hnext : ∀ focus : Focus, focus.next .sticky (.ofLine line) = focus := by
    intro focus
    rcases hbrace with rfl | rfl <;> rfl
  have hplain := s.alike_read script
  have hread := s.alike_read braced
  rw [hscope, hscript, Focus.edits_split, List.foldl_append, Focus.edits_after] at hplain
  rw [hscope, hbraced, Focus.edits_split, Focus.edits, hnext, List.foldl_append,
    List.foldl_append, (Focus.same_after .sticky before).edit?_eq line, Focus.edits_after] at hread
  constructor
  · intro hsizes
    rw [foldl_follow_of_ignores fun e he =>
      s.ignores_brace hscope hbrace hsizes (Option.mem_toList.mp he)] at hread
    exact hread.trans hplain.symm
  · intro id hsizes
    have hdeclared := hsizes.2.2.2
    have hedit : (focusAt .sticky before).edit? line = some (.size id line) := by
      obtain ⟨word, he⟩ := (Place.sizes_iff hdeclared).mp hsizes
      obtain ⟨-, -, -, rfl⟩ := Focus.edit?_eq_some_iff.mp he
      rcases hbrace with rfl | rfl <;> exact he
    have hcontains : ((edits .sticky before).foldl follow s.clear).scene.objects.contains id =
        true := by
      have hdescribes := s.describes_foldl_follow before
      rw [hscope] at hdescribes
      exact (hdescribes.contains_objects id).mpr hdeclared
    obtain ⟨hsome, hnone⟩ := foldl_follow_size hcontains line
      ((placesBehind before behind).filterMap (Place.edit? .sticky))
    rw [hedit, Option.toList_some, List.foldl_cons, List.foldl_nil] at hread
    constructor
    · intro hlater
      rw [hsome ((Place.exists_sizes_iff hdeclared).mp hlater)] at hread
      exact hread.trans hplain.symm
    · intro hlater
      have habsent : ∀ other, Edit.size id other ∉
          (placesBehind before behind).filterMap (Place.edit? .sticky) := by
        intro other hmem
        obtain ⟨p, hp, hsize⟩ := (Place.exists_sizes_iff hdeclared).mpr ⟨other, hmem⟩
        exact hlater p hp hsize
      rw [hnone habsent] at hread
      exact hread.trans (hplain.symm.follow _)

/-- **What a brace on a line of its own does, in the sticky scope.**  Where it is not the size of
an object it makes no difference.  Where it is, it makes none either if a size of the object
follows, and else the object has the brace for its size, with no other difference. -/
theorem read_brace (hscope : s.settings.blockScope = .sticky) (above below : List Text)
    (brace : Text) (hbrace : IsBrace (trim brace))
    (hlines : ∀ raw ∈ above ++ brace :: below, '\n' ∉ raw) :
    let plain := s.read (['\n'].intercalate (above ++ below))
    let braced := s.read (['\n'].intercalate (above ++ brace :: below))
    let place : Place := ⟨countingLines above, trim brace⟩
    let later := placesBehind (countingLines above) (countingLines below)
    ((∀ id, ¬ place.Sizes id) → braced.Alike plain) ∧
      ∀ id, place.Sizes id →
        ((∃ p ∈ later, p.Sizes id) → braced.Alike plain) ∧
        ((∀ p ∈ later, ¬ p.Sizes id) → braced.Alike
          { plain with
            scene := plain.scene.modifyObject id fun object =>
              { object with size := trim brace } }) := by
  intro plain braced place later
  have hcounts : trim brace ≠ [] := by
    rcases hbrace with h | h <;> rw [h] <;> exact nofun
  have hplain : contentLines (['\n'].intercalate (above ++ below)) =
      countingLines above ++ countingLines below := by
    rw [contentLines_intercalate, countingLines_append]
    intro raw hraw
    refine hlines raw ?_
    rcases List.mem_append.mp hraw with hraw | hraw
    · exact List.mem_append_left _ hraw
    · exact List.mem_append_right _ (List.mem_cons_of_mem brace hraw)
  have hbraced : contentLines (['\n'].intercalate (above ++ brace :: below)) =
      countingLines above ++ trim brace :: countingLines below := by
    rw [contentLines_intercalate hlines, countingLines_append]
    simp [countingLines, hcounts]
  exact s.alike_read_brace hscope hbrace hplain hbraced

/-- Braces around the fields of a spawn point and around the size of an object. -/
theorem read_brace_spawn_and_size :
    let spawn := ["planets.spawn".toList, "x: 1".toList]
    let size := ["new Object:o;".toList, "setSizeOf with id \"o\"".toList]
    let plain : Session := read {} (['\n'].intercalate size)
    IsBrace (trim ['}']) ∧ (∀ id, ¬ Place.Sizes ⟨countingLines spawn, trim ['}']⟩ id) ∧
      (read {} (['\n'].intercalate (spawn ++ [['}']]))).Alike
        (read {} (['\n'].intercalate spawn)) ∧
      Place.Sizes ⟨countingLines size, trim ['{']⟩ ['o'] ∧
      (read {} (['\n'].intercalate (size ++ [['{'], "big".toList]))).Alike
        (read {} (['\n'].intercalate (size ++ ["big".toList]))) ∧
      (read {} (['\n'].intercalate (size ++ [['{']]))).Alike
        { plain with
          scene := plain.scene.modifyObject ['o'] fun object =>
            { object with size := ['{'] } } := by
  intro spawn size plain
  have hspawn : ∀ id, ¬ Place.Sizes ⟨countingLines spawn, trim ['}']⟩ id := by
    intro id hsizes
    have hblock : openBlock? .sticky (countingLines spawn) = some .spawn := by decide
    cases hblock.symm.trans hsizes.2.1
  have hsize : Place.Sizes ⟨countingLines size, trim ['{']⟩ ['o'] := by decide
  have hlater : ∃ p ∈ placesBehind (countingLines size) (countingLines ["big".toList]),
      p.Sizes ['o'] :=
    ⟨⟨countingLines size, "big".toList⟩, List.mem_cons_self, by decide⟩
  have hclose := read_brace {} rfl spawn [] ['}'] (Or.inr rfl) (by decide)
  have hopen := read_brace {} rfl size [] ['{'] (Or.inl rfl) (by decide)
  have hfilled := read_brace {} rfl size ["big".toList] ['{'] (Or.inl rfl) (by decide)
  exact ⟨Or.inr rfl, hspawn, hclose.1 hspawn, hsize, (hfilled.2 _ hsize).1 hlater,
    (hopen.2 _ hsize).2 nofun⟩

/-- A brace that closes the size of an object is its size. -/
theorem size_of_closing_brace :
    let plain : Session := read {} "new Object:o;\nsetSizeOf with id \"o\"\n\x7b\nmedium".toList
    let braced : Session :=
      read {} "new Object:o;\nsetSizeOf with id \"o\"\n\x7b\nmedium\n\x7d".toList
    (plain.scene.objects.get? ['o']).map (·.size) = some "medium".toList ∧
      (braced.scene.objects.get? ['o']).map (·.size) = some ['}'] ∧ ¬ braced.Alike plain := by
  intro plain braced
  have hplain : (plain.scene.objects.get? ['o']).map (·.size) = some "medium".toList := by decide
  have hbraced : (braced.scene.objects.get? ['o']).map (·.size) = some ['}'] := by decide
  refine ⟨hplain, hbraced, fun halike => ?_⟩
  rw [halike.scene, hplain] at hbraced
  cases hbraced

end Session
end PlanetScript
