import PlanetScript.Proofs.Script.Forms
import PlanetScript.Proofs.Session.Following
import PlanetScript.Proofs.Text.Lines

/-! # What makes a planet valid

One line makes a planet valid, the signature, and it does so wherever it stands: no other form
accepts the line (`Directive.ofLine_eq_signature_iff`), the block that is open does not matter to
a directive, and no line takes the validity back.  Before a script is read the scene is cleared,
so an earlier script has no say.

After the script nothing but another script or clearing changes the scene
(`Session.scene_run_of_keeps`), and so the validity stays (`Session.valid_run_read`).
-/
namespace PlanetScript
open Text

/-- Whether a script has the signature line, with blanks around it or without. -/
def HasSignature (script : Text) : Prop :=
  ∃ line ∈ script.splitOn '\n', trim line = "planets.push(new Planet);".toList

namespace Directive

/-- The signature is one line and has no other form. -/
theorem ofLine_eq_signature_iff {line : Text} :
    ofLine line = .signature ↔ line = Form.signature.opening := by
  constructor
  · intro h
    obtain ⟨f, haccepts, hdirective⟩ := exists_form_of_ofLine h nofun
    cases f with
    | signature => exact of_decide_eq_true haccepts
    | _ => cases hdirective
  · intro h
    exact ofLine_of_accepts (f := .signature) (decide_eq_true h)

end Directive

/-- The scene of a script is valid if the script has the signature line. -/
theorem Scene.valid_ofScript_iff (settings : Settings) (script : Text) :
    (ofScript settings script).valid = true ↔ HasSignature script := by
  rw [ofScript, (describes_run settings (contentLines script)).valid, HasSignature,
    ← splitLines_eq_splitOn]
  simp only [Directive.ofLine_eq_signature_iff, exists_eq_right]
  constructor
  · intro h
    obtain ⟨hline, -⟩ := List.mem_filter.mp h
    exact List.mem_map.mp hline
  · rintro ⟨line, hline, htrim⟩
    refine List.mem_filter.mpr ⟨List.mem_map.mpr ⟨line, hline, htrim⟩, ?_⟩
    decide

namespace Session

/-- Only a script, or clearing, changes the scene. -/
theorem scene_run_of_keeps (s : Session) {operations : List Operation}
    (h : ∀ operation ∈ operations, operation.script? = none) :
    (s.run operations).scene = s.scene := by
  induction operations generalizing s with
  | nil => rfl
  | cons operation operations ih =>
    rw [List.forall_mem_cons] at h
    rw [run_cons, ih _ h.2, (s.scene_apply operation).2, h.1, Option.elim_none]

/-- **The signature line alone decides whether a planet is valid.**  After a script was read, the
scene is valid if and only if the script has the line, whatever the session was before, wherever
the line stands and whichever block is open there.  It stays so whatever happens next, as long as
no script is read and the scene is not cleared; when it is cleared, it is not valid any more. -/
theorem valid_run_read (s : Session) (script : Text) {operations : List Operation}
    (hkeeps : ∀ operation ∈ operations, operation.script? = none) :
    (((s.read script).run operations).scene.valid = true ↔ HasSignature script) ∧
      ((s.read script).run operations).clear.scene.valid = false := by
  refine ⟨?_, rfl⟩
  rw [scene_run_of_keeps _ hkeeps, scene_read, Scene.valid_ofScript_iff]

/-- A signature with blanks around it counts in the middle of a block, and nothing that happens to
the sprites afterwards takes it back. -/
theorem valid_run_read_in_block :
    let script := "planets.spawn\n\t planets.push(new Planet);\u3000\r\nx: 1".toList
    let operations : List Operation :=
      [.bindObject "Rock".toList "r".toList, .click "Rock".toList, .addSprite { name := ['s'] },
        .bindBackground "Sky".toList "b".toList, .showTexture "r".toList,
        .followPosition "r".toList, .flush, .askTexture "b".toList]
    let s : Session := {}
    (∀ operation ∈ operations, operation.script? = none) ∧
      ((s.read script).run operations).scene.valid = true ∧
      ((s.read script).run operations).clear.scene.valid = false := by
  intro script operations s
  have hkeeps : ∀ operation ∈ operations, operation.script? = none := by
    simp [operations, Operation.script?]
  have hsignature : HasSignature script :=
    ⟨"\t planets.push(new Planet);\u3000\r".toList, by decide, by decide⟩
  obtain ⟨hvalid, hcleared⟩ := valid_run_read s script hkeeps
  exact ⟨hkeeps, hvalid.mpr hsignature, hcleared⟩

end Session
end PlanetScript
