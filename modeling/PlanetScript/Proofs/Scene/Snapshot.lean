import PlanetScript.Command.Run
import PlanetScript.Proofs.Json.Layout
import PlanetScript.Proofs.Number.RoundTrip

/-! # Faithful snapshots

The snapshot of a scene writes its document and no other one, in both layouts
(`Scene.recordedBy_snapshot`, `Scene.recordedBy_pretty`).  The document tells the scene up to what
it writes as null: a coordinate that is not finite, and gravity that is no finite number
(`Scene.json_eq_iff`).  So two scenes with one snapshot show the same.
-/
namespace PlanetScript
open Text

/-! ### What a document shows -/

/-- A number as a document shows it: those that are not finite are all alike. -/
def Number.shown : Number → Number
  | .finite x => .finite x
  | _ => .nan

/-- Gravity as a document shows it: what is no finite number is as good as not given. -/
def Gravity.shown : Gravity → Gravity
  | .value (.finite x) => .value (.finite x)
  | _ => .unset

/-- A point as a document shows it. -/
def Point.shown (p : Point) : Point := ⟨p.x.shown, p.y.shown⟩

/-- An object as a document shows it. -/
def Object.shown (o : Object) : Object :=
  { o with position := o.position.shown, gravity := o.gravity.shown }

/-- A scene as its snapshot shows it. -/
def Scene.shown (scene : Scene) : Scene :=
  { scene with spawn := scene.spawn.shown, objects := scene.objects.mapValues Object.shown }

/-! ### The documents of numbers -/

/-- A finite number is one token, from which it is read back. -/
theorem FiniteNumber.json_eq (x : FiniteNumber) :
    ∃ token, Number.json (.finite x) = .number token ∧ Json.NumberToken token ∧
      Number.read? token = some (.finite x) :=
  ⟨x.text, rfl, x.numberToken_text, Number.read?_text x⟩

theorem Number.json_eq_null_iff (n : Number) : n.json = .null ↔ ¬ n.IsFinite := by
  cases n with
  | finite x => exact iff_of_false nofun (not_not_intro trivial)
  | infinite negative => exact iff_of_true rfl id
  | nan => exact iff_of_true rfl id

/-- Gravity is null if it is unset, unreadable or not finite. -/
theorem Gravity.json_eq_null_iff (g : Gravity) :
    g.json = .null ↔ g = .unset ∨ g = .unreadable ∨ ∃ n, g = .value n ∧ ¬ n.IsFinite := by
  cases g with
  | unset => exact iff_of_true rfl (Or.inl rfl)
  | unreadable => exact iff_of_true rfl (Or.inr (Or.inl rfl))
  | value n => simp [Gravity.json, Number.json_eq_null_iff]

theorem Number.json_eq_iff {n m : Number} : n.json = m.json ↔ n.shown = m.shown := by
  cases n <;> cases m <;> simp [json, shown, FiniteNumber.text_inj]

theorem Gravity.json_eq_iff {g h : Gravity} : g.json = h.json ↔ g.shown = h.shown := by
  rcases g with _ | (_ | _ | _) | _ <;> rcases h with _ | (_ | _ | _) | _ <;>
    simp [json, Number.json, shown, FiniteNumber.text_inj]

/-! ### The documents of scenes -/

theorem Point.json_eq_iff {p q : Point} : p.json = q.json ↔ p.shown = q.shown := by
  simp [Point.json, Point.shown, Number.json_eq_iff]

theorem Object.json_eq_iff {o o' : Object} : o.json = o'.json ↔ o.shown = o'.shown := by
  obtain ⟨position, texture, size, gravity, removed⟩ := o
  obtain ⟨position', texture', size', gravity', removed'⟩ := o'
  simp [Object.json, Object.shown, Point.json_eq_iff, Gravity.json_eq_iff]

theorem Background.json_eq_iff {b b' : Background} : b.json = b'.json ↔ b = b' := by
  obtain ⟨texture, active⟩ := b
  obtain ⟨texture', active'⟩ := b'
  simp [Background.json]

/-- The documents of registries are equal if those of their values are. -/
theorem Registry.json_eq_iff {α β : Type} {f : α → Json} {g : α → β}
    (hfg : ∀ a b, f a = f b ↔ g a = g b) {r r' : Registry α} :
    r.json f = r'.json f ↔ r.mapValues g = r'.mapValues g := by
  have hlists : ∀ l l' : List (Text × α),
      (l.map fun entry => Json.array [.string entry.1, f entry.2]) =
          (l'.map fun entry => Json.array [.string entry.1, f entry.2]) ↔
        (l.map fun entry => (entry.1, g entry.2)) = l'.map fun entry => (entry.1, g entry.2) := by
    intro l
    induction l with
    | nil => intro l'; cases l' <;> simp
    | cons entry rest ih => intro l'; cases l' <;> simp [ih, hfg]
  simp [Registry.json, Registry.mapValues, hlists]

theorem Registry.mapValues_id {α : Type} (r : Registry α) : r.mapValues id = r := by
  obtain ⟨entries, nodup⟩ := r
  simp [Registry.mapValues]

/-- The document of a scene tells the scene as it is shown. -/
theorem Scene.json_eq_iff {scene other : Scene} :
    scene.json = other.json ↔ scene.shown = other.shown := by
  have hbackgrounds : ∀ r r' : Registry Background,
      r.json Background.json = r'.json Background.json ↔ r = r' := by
    intro r r'
    have hjson : r.json Background.json = r'.json Background.json ↔
        r.mapValues id = r'.mapValues id :=
      Registry.json_eq_iff fun _ _ => Background.json_eq_iff
    rwa [Registry.mapValues_id, Registry.mapValues_id] at hjson
  have hobjects : ∀ r r' : Registry Object, r.json Object.json = r'.json Object.json ↔
      r.mapValues Object.shown = r'.mapValues Object.shown :=
    fun _ _ => Registry.json_eq_iff fun _ _ => Object.json_eq_iff
  obtain ⟨valid, thumbnail, spawn, backgrounds, objects⟩ := scene
  obtain ⟨valid', thumbnail', spawn', backgrounds', objects'⟩ := other
  simp only [Scene.json, Scene.shown, Json.object.injEq, List.cons.injEq, Prod.mk.injEq, true_and,
    and_true, Json.bool.injEq, Json.string.injEq, Scene.mk.injEq, Point.json_eq_iff, hbackgrounds,
    hobjects, and_assoc]

/-! ### Well-formed documents -/

theorem Number.wellFormed_json (n : Number) : n.json.WellFormed := by
  cases n with
  | finite x => exact .number x.numberToken_text
  | infinite negative => exact .null
  | nan => exact .null

theorem Gravity.wellFormed_json (g : Gravity) : g.json.WellFormed := by
  cases g with
  | unset => exact .null
  | value n => exact n.wellFormed_json
  | unreadable => exact .null

theorem Point.wellFormed_json (p : Point) : p.json.WellFormed :=
  .object (by simp [Number.wellFormed_json])

theorem Object.wellFormed_json (o : Object) : o.json.WellFormed :=
  .object (by
    simp [Point.wellFormed_json, Gravity.wellFormed_json, Json.WellFormed.string,
      Json.WellFormed.bool])

theorem Background.wellFormed_json (b : Background) : b.json.WellFormed :=
  .object (by simp [Json.WellFormed.string, Json.WellFormed.bool])

theorem Registry.wellFormed_json {α : Type} {f : α → Json} (hf : ∀ a, (f a).WellFormed)
    (r : Registry α) : (r.json f).WellFormed := by
  refine .array (List.forall_mem_map.mpr fun entry _ => .array ?_)
  simp [hf, Json.WellFormed.string]

theorem Scene.wellFormed_json (scene : Scene) : scene.json.WellFormed := by
  have hplanet : (Json.object [("thumbnail_url".toList, .string scene.thumbnail),
      ("spawn".toList, scene.spawn.json)]).WellFormed :=
    .object (by simp [Point.wellFormed_json, Json.WellFormed.string])
  refine .object ?_
  simp only [List.forall_mem_cons]
  exact ⟨.bool _, hplanet, Registry.wellFormed_json Background.wellFormed_json _,
    Registry.wellFormed_json Object.wellFormed_json _, nofun⟩

/-! ### Snapshots -/

/-- A text records a scene if it writes the document of the scene and no other one, and is read as
this document. -/
structure Scene.RecordedBy (scene : Scene) (t : Text) : Prop where
  writes : ∀ j, Json.Writes t (.padded j) ↔ j = scene.json
  read : Json.document t = .ok scene.json

namespace Scene
variable {scene : Scene} {t : Text}

theorem recordedBy_of_writes (h : Json.Writes t (.padded scene.json)) : scene.RecordedBy t where
  writes := fun _ => ⟨fun h' => h'.unique h, fun hj => hj ▸ h⟩
  read := h.document_eq

theorem recordedBy_snapshot (scene : Scene) : scene.RecordedBy scene.snapshot :=
  recordedBy_of_writes scene.wellFormed_json.writes_compact.bare

theorem recordedBy_pretty (scene : Scene) (hafter : Json.Gap t) :
    scene.RecordedBy (scene.json.pretty ++ t) :=
  recordedBy_of_writes (.padded Json.gap_nil scene.wellFormed_json.writes_pretty hafter)

/-- Two scenes have one snapshot if and only if they show the same. -/
theorem snapshot_eq_iff {other : Scene} :
    other.snapshot = scene.snapshot ↔ other.shown = scene.shown := by
  rw [← json_eq_iff]
  refine ⟨fun h => ?_, fun h => congrArg Json.compact h⟩
  have hread := other.recordedBy_snapshot.read
  rw [h, scene.recordedBy_snapshot.read] at hread
  exact (Except.ok.inj hread).symm

-- gravity that was not read is shown as gravity that is not finite
example :
    let withGravity (gravity : Gravity) : Scene :=
      { objects := Registry.empty.insert "a\"".toList { gravity } }
    withGravity .unreadable ≠ withGravity (.value (.infinite true)) ∧
      (withGravity .unreadable).snapshot = (withGravity (.value (.infinite true))).snapshot :=
  ⟨by decide, rfl⟩

/-- **Snapshots are faithful.**  The snapshot of a scene records it, and so does what the inspection
of a script prints.  A number in them is a token that names the number, or null if it is not finite;
gravity is null also if it was not given or not read.  Scenes with one snapshot are equal up to
these. -/
theorem snapshot_faithful (scene : Scene) :
    scene.RecordedBy scene.snapshot ∧
      (∀ settings network script bindings, ∃ t,
        (Command.inspectOutcome settings network script bindings).result = .ok t ∧
          (Session.inspected settings network script bindings).1.scene.RecordedBy t) ∧
      (∀ x : FiniteNumber, ∃ token, Number.json (.finite x) = .number token ∧
        Json.NumberToken token ∧ Number.read? token = some (.finite x)) ∧
      (∀ n : Number, n.json = .null ↔ ¬ n.IsFinite) ∧
      (∀ g : Gravity, g.json = .null ↔
        g = .unset ∨ g = .unreadable ∨ ∃ n, g = .value n ∧ ¬ n.IsFinite) ∧
      ∀ other : Scene, other.snapshot = scene.snapshot ↔ other.shown = scene.shown := by
  refine ⟨scene.recordedBy_snapshot, fun settings network script bindings => ?_,
    FiniteNumber.json_eq, Number.json_eq_null_iff, Gravity.json_eq_null_iff,
    fun other => snapshot_eq_iff⟩
  exact ⟨_, rfl, recordedBy_pretty _ (Json.gap_singleton rfl)⟩

end Scene
end PlanetScript
