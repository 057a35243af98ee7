import PlanetScript.Proofs.Number.Styles
import PlanetScript.Proofs.Session.Coordinates

/-! # Scripts in the two styles

A scene depends on the number style only through the texts that its lines give as coordinates
(`Reading.scene_run_congr`).  So a script whose coordinates are integers with finite nearest numbers
describes the same scene in both styles (`Session.styles_agree`).
-/
namespace PlanetScript
open Text

/-- Whether two styles make the same coordinates of texts. -/
def NumberStyle.AgreeOn (style other : NumberStyle) (texts : List Text) : Prop :=
  ∀ raw ∈ texts, style.coordinate raw = other.coordinate raw

/-- The settings with another number style. -/
def Settings.withStyle (settings : Settings) (style : NumberStyle) : Settings :=
  { settings with numberStyle := style }

section Edit
variable {style other : NumberStyle} {scene : Scene} {e : Edit} {x y : Option Text}

theorem Point.update_congr (h : style.AgreeOn other (x.toList ++ y.toList)) (p : Point) :
    p.update style x y = p.update other x y := by
  have hmap : ∀ raw : Option Text, style.AgreeOn other raw.toList →
      raw.map style.coordinate = raw.map other.coordinate := by
    intro raw hraw
    cases raw with
    | none => rfl
    | some t => rw [Option.map_some, Option.map_some, hraw t List.mem_cons_self]
  obtain ⟨hx, hy⟩ := List.forall_mem_append.mp h
  rw [Point.update, Point.update, hmap x hx, hmap y hy]

/-- What an edit makes of a scene depends on the style only through the coordinates it gives. -/
theorem Scene.edited_congr (h : style.AgreeOn other (e.coordinates scene.objects.contains)) :
    scene.edited style e = scene.edited other e := by
  cases e with
  | spawn x y =>
    rw [Scene.edited, Scene.edited, Point.update_congr h]
  | position id x y =>
    rw [Edit.coordinates] at h
    cases hdeclared : scene.objects.contains id with
    | false =>
      rw [Scene.edited, Scene.edited, Scene.modifyObject_of_contains_eq_false hdeclared,
        Scene.modifyObject_of_contains_eq_false hdeclared]
    | true =>
      rw [if_pos hdeclared] at h
      simp only [Scene.edited, Point.update_congr h]
  | _ => rfl

end Edit

section Run
variable {settings : Settings} {style : NumberStyle} {lines : List Text} {scene : Scene}

theorem Describes.sceneAfter_congr (h : Describes settings lines scene) {line : Text}
    (hagree : settings.numberStyle.AgreeOn style
      (Place.coordinates settings.blockScope ⟨lines, line⟩)) :
    Place.sceneAfter settings ⟨lines, line⟩ scene =
      Place.sceneAfter (settings.withStyle style) ⟨lines, line⟩ scene := by
  unfold Place.coordinates at hagree
  unfold Place.sceneAfter
  show Option.elim _ _ _ = Option.elim (Place.edit? settings.blockScope ⟨lines, line⟩) _ _
  cases he : Place.edit? settings.blockScope ⟨lines, line⟩ with
  | none => rfl
  | some e =>
    rw [he, Option.elim_some, ← h.contains_objects_eq] at hagree
    exact Scene.edited_congr hagree

/-- **The scene depends on the number style only through the texts that lines give as
coordinates.** -/
theorem Reading.scene_run_congr
    (h : settings.numberStyle.AgreeOn style (coordinates settings.blockScope lines)) :
    (run settings {} lines).scene = (run (settings.withStyle style) {} lines).scene := by
  induction lines using List.reverseRecOn with
  | nil => rfl
  | append_singleton lines line ih =>
    rw [coordinates_concat] at h
    obtain ⟨hlines, hline⟩ := List.forall_mem_append.mp h
    rw [scene_run_concat, scene_run_concat, (describes_run settings lines).sceneAfter_congr hline,
      ih hlines]

end Run

/-- The texts of coordinates that are integers with finite nearest numbers. -/
def IntegerCoordinate (raw : Text) : Prop :=
  ∃ n, IntegerText (coordinateText raw) n ∧ (Number.ofInt n).IsFinite

theorem NumberStyle.agreeOn_of_integers {texts : List Text}
    (h : ∀ raw ∈ texts, IntegerCoordinate raw) : AgreeOn .strictInteger .lenient texts := by
  intro raw hraw
  obtain ⟨n, hinteger, hfinite⟩ := h raw hraw
  obtain ⟨x, hstrict, hlenient, -⟩ := (readings_coordinate raw).integer n hinteger hfinite
  rw [hstrict, hlenient]

namespace Session

/-- A session with another number style. -/
def withStyle (s : Session) (style : NumberStyle) : Session :=
  { s with settings := s.settings.withStyle style }

/-- **The two styles agree on integers**, text by text, and hence on every script whose coordinates
are integers with finite nearest numbers: it describes the same scene in both styles. -/
theorem styles_agree (s : Session) (script : Text) :
    (∀ raw, NumberStyle.Readings raw (coordinateText raw)) ∧
      ((∀ raw ∈ coordinates s.settings.blockScope (contentLines script), IntegerCoordinate raw) →
        ((s.withStyle .strictInteger).read script).scene =
          ((s.withStyle .lenient).read script).scene) := by
  refine ⟨NumberStyle.readings_coordinate, fun h => ?_⟩
  have hagree : (s.settings.withStyle .strictInteger).numberStyle.AgreeOn .lenient
      (coordinates s.settings.blockScope (contentLines script)) :=
    NumberStyle.agreeOn_of_integers h
  rw [scene_read, scene_read]
  exact Reading.scene_run_congr hagree

end Session
end PlanetScript
