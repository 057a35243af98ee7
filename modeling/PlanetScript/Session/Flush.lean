import PlanetScript.Session.Basic

/-! # Flushing

Flushing lands every pending sync, the oldest first.  A failure is told and leaves its
sprite as it is.
-/
namespace PlanetScript

/-- What is told when a sync lands. -/
def Sync.notice (sync : Sync) : Landing → Notice
  | .applied => .textureApplied sync.id sync.url
  | .failed failure => .textureFailed sync.id failure
  | .skipped => .spriteGone sync.sprite sync.url

namespace Session

/-- Lands one sync and counts it. -/
def land (state : Session × FlushReport) (sync : Sync) : Session × FlushReport :=
  let (s, report) := state
  let (stage, landing) := sync.land s.stage
  ({ s with stage }.tell (sync.notice landing), report.count landing)

/-- Lands every pending sync. -/
def flush (s : Session) : Session × FlushReport :=
  s.pending.foldl land ({ s with pending := [] }, {})

theorem total_foldl_land (syncs : List Sync) (state : Session × FlushReport) :
    (syncs.foldl land state).2.total = state.2.total + syncs.length := by
  induction syncs generalizing state with
  | nil => rfl
  | cons sync syncs ih =>
    rw [List.foldl_cons, ih, List.length_cons]
    simp only [land, FlushReport.total_count]
    omega

/-- A flush reports as many landings as there were pending syncs. -/
theorem total_flush (s : Session) : s.flush.2.total = s.pending.length := by
  rw [flush, total_foldl_land]
  simp [FlushReport.total]

end Session
end PlanetScript
