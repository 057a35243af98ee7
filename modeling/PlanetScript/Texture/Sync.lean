import PlanetScript.Stage.Basic
import PlanetScript.Text.Quoted
import PlanetScript.Texture.Basic

/-! # Texture syncs

A sync carries a texture to a sprite.  It is issued with the answer of its request and
waits in a queue; when it lands, its costume is installed on the first sprite of its
name.  It lands in one of three ways: applied, failed, or skipped because no such sprite
is there any more.
-/
namespace PlanetScript
open Text

/-- A texture on its way to a sprite. -/
structure Sync where
  /-- The id whose texture it is. -/
  id : Text
  /-- The name of the sprite, which is looked up again when the sync lands. -/
  sprite : Text
  url : Text
  kind : Graphic
  result : FetchResult

/-- The syncs that have not landed, the oldest first. -/
abbrev Backlog := List Sync

namespace Backlog

/-- Puts a sync behind all others. -/
def push (queue : Backlog) (sync : Sync) : Backlog := queue ++ [sync]

/-- The oldest sync and the others. -/
def pop? : Backlog → Option (Sync × Backlog)
  | [] => none
  | sync :: queue => some (sync, queue)

end Backlog

/-- How a sync landed. -/
inductive Landing where
  | applied
  | failed (failure : FetchFailure)
  | skipped
deriving DecidableEq

/-- How many syncs landed in which way. -/
structure FlushReport where
  applied : Nat := 0
  failed : Nat := 0
  skipped : Nat := 0
deriving DecidableEq, Repr

namespace FlushReport

/-- The number of all syncs that landed. -/
def total (report : FlushReport) : Nat := report.applied + report.failed + report.skipped

/-- Counts one more landing. -/
def count (report : FlushReport) : Landing → FlushReport
  | .applied => { report with applied := report.applied + 1 }
  | .failed _ => { report with failed := report.failed + 1 }
  | .skipped => { report with skipped := report.skipped + 1 }

@[simp] theorem total_count (report : FlushReport) (landing : Landing) :
    (report.count landing).total = report.total + 1 := by
  cases landing <;> simp only [count, total] <;> omega

end FlushReport

namespace Sync

/-- The sync of an id's texture to a sprite, with the answer to its request. -/
def issue (id sprite url : Text) (result : FetchResult) : Sync :=
  ⟨id, sprite, url, .ofUrl url, result⟩

/-- The costume that shows a texture. -/
def costume (sync : Sync) (texture : Texture) : Costume :=
  .make (Costume.nameOf sync.id) sync.kind texture.bytes sync.url

/-- Lands a sync on a stage. -/
def land (sync : Sync) (stage : Stage) : Stage × Landing :=
  match sync.result with
  | .error failure => (stage, .failed failure)
  | .ok texture =>
    if stage.has sync.sprite then
      (stage.modifyFirst sync.sprite (·.wear (sync.costume texture)), .applied)
    else (stage, .skipped)

/-- A pending sync as diagnostic text. -/
def describe (sync : Sync) : Text :=
  "PendingSync \x7b id: ".toList ++ quote sync.id ++ ", entity: ".toList ++ quote sync.sprite ++
    ", url: ".toList ++ quote sync.url ++ ", kind: ".toList ++
    (match sync.kind with
      | .vector => "Vector".toList
      | .raster => "Raster".toList) ++
    ", .. \x7d".toList

end Sync
end PlanetScript
