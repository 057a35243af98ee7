import Mathlib.Data.List.Forall2
import PlanetScript.Proofs.Session.Accounting
import PlanetScript.Proofs.Session.Moving

/-! # What a script sends, and what it leaves alone

While a script is read, a line that shows a texture may send a sync, and no line sends more than
one.  So each sync that a script adds to the queue has a line that it comes from: before this line
it was not there, and after it the scene has the texture that the sync carries
(`Session.Sent`, where `origin` says so).  Lines that come later may give the id another texture,
which is why the scene after the line is spoken of, and not the scene in the end.

All else that a script does outside of the scene is to move sprites, so a sprite keeps its name,
its costumes and the one that it wears, and it stays as it is altogether unless its name is bound
to an object of the script (`Session.frame_read`).
-/
namespace PlanetScript
open Text

/-- Whether two states of a sprite differ in where it stands and how often it was moved alone. -/
def Sprite.MovedTo (before after : Sprite) : Prop :=
  ∃ position moves redraws, after = { before with position, moves, redraws }

theorem Sprite.movedTo_moved (sprite : Sprite) (times : Nat) (p : Point) :
    sprite.MovedTo (sprite.moved times p) := by
  unfold moved
  split
  · exact ⟨_, _, _, rfl⟩
  · split
    · exact ⟨_, _, _, rfl⟩
    · exact ⟨_, _, _, rfl⟩

namespace Session

/-- A sync takes the texture that a session has for its id to the first name that is bound to
the id. -/
structure Carries (s : Session) (sync : Sync) : Prop where
  first : (s.namesOf sync.id).head? = some sync.sprite
  staged : s.stage.has sync.sprite = true
  texture : s.scene.texture? sync.id = some sync.url
  nonempty : sync.url ≠ []
  kind : sync.kind = .ofUrl sync.url
  result : sync.result = s.source.answer sync.url

/-- Reading some lines has sent these syncs, each of them by one of the lines. -/
structure Sent (s : Session) (lines : List Text) (syncs : List Sync) : Prop where
  pending : (s.afterLines lines).pending = s.pending ++ syncs
  requests : (s.afterLines lines).source.requests = s.source.requests ++ syncs.map (·.url)
  origin : ∀ earlier sync later, syncs = earlier ++ sync :: later →
    ∃ before line after, lines = before ++ line :: after ∧
      (s.afterLines before).pending = s.pending ++ earlier ∧
      (s.afterLines (before ++ [line])).pending = s.pending ++ earlier ++ [sync] ∧
      (s.afterLines (before ++ [line])).Carries sync

/-! ### One line -/

section Line
variable {s : Session} {sync : Sync}

/-- What showing a texture sends is the texture of the session. -/
theorem carries_of_syncOf? {id : Text} (h : s.syncOf? id = some sync) : s.Carries sync := by
  unfold syncOf? at h
  split at h
  · next sprite url hd =>
    cases h
    obtain ⟨⟨htexture, hurl⟩, hfirst, hstaged⟩ := dispatch_eq_send_iff.mp hd
    exact ⟨hfirst, hstaged, htexture, hurl, rfl, rfl⟩
  · cases h
  · cases h

/-- A sync that was sent carries the texture also after it was sent. -/
theorem Carries.showTexture (h : s.Carries sync) (id : Text) :
    (s.showTexture id).1.Carries sync := by
  obtain ⟨requests, pending, notices, hshow⟩ := s.showTexture_eq id
  rw [hshow]
  exact ⟨h.first, h.staged, h.texture, h.nonempty, h.kind, h.result⟩

/-- A line sends nothing, or one sync with a texture that the scene has after it. -/
theorem lineRead_eq (state : Session × Focus) (line : Text) :
    lineRead state line = [] ∨ ∃ sync, lineRead state line = [.issued sync] ∧
      (readLine state line).1.Carries sync := by
  obtain ⟨s, focus⟩ := state
  simp only [lineRead, readLine]
  generalize Reading.step s.settings ⟨s.scene, focus⟩ line = step
  obtain ⟨reading, effect⟩ := step
  cases effect with
  | none => exact Or.inl rfl
  | some effect =>
    cases effect with
    | ignored line => exact Or.inl rfl
    | followPosition id => exact Or.inl rfl
    | showTexture id =>
      simp only [Option.elim_some, performed, shown]
      cases hs : syncOf? { s with scene := reading.scene } id with
      | none => exact Or.inl rfl
      | some sync => exact Or.inr ⟨sync, rfl, (carries_of_syncOf? hs).showTexture id⟩

theorem bindings_afterLines (s : Session) (lines : List Text) :
    (s.afterLines lines).bindings = s.bindings :=
  (s.alike_afterLines lines).bindings.trans
    (foldl_follow_eq (f := Session.bindings) bindings_follow s.clear _)

theorem afterLines_concat (s : Session) (lines : List Text) (line : Text) :
    s.afterLines (lines ++ [line]) =
      (readLine (lines.foldl readLine (s.clear, {})) line).1 := by
  rw [afterLines, List.foldl_append]
  rfl

/-- One more line leaves the queue and the requests as they are, or it sends one sync. -/
theorem sends_concat (s : Session) (lines : List Text) (line : Text) :
    let t := s.afterLines lines
    let u := s.afterLines (lines ++ [line])
    (u.pending = t.pending ∧ u.source.requests = t.source.requests) ∨
      ∃ sync, u.Carries sync ∧ u.pending = t.pending ++ [sync] ∧
        u.source.requests = t.source.requests ++ [sync.url] := by
  intro t u
  have haccounts := accounts_readLine (lines.foldl readLine (s.clear, {})) line
  rw [← afterLines_concat] at haccounts
  obtain ⟨hqueue, hrequests⟩ := haccounts
  rcases lineRead_eq (lines.foldl readLine (s.clear, {})) line with hnone | ⟨sync, hone, hcarries⟩
  · rw [hnone] at hqueue hrequests
    exact Or.inl ⟨hqueue.trans (List.append_nil _), hrequests.trans (List.append_nil _)⟩
  · rw [hone] at hqueue hrequests
    rw [← afterLines_concat] at hcarries
    exact Or.inr ⟨sync, hcarries, hqueue, hrequests⟩

end Line

/-! ### All lines -/

namespace Sent
variable {s : Session} {lines : List Text} {line : Text} {syncs : List Sync}

theorem nil (s : Session) : s.Sent [] [] where
  pending := (List.append_nil _).symm
  requests := (List.append_nil _).symm
  origin := by
    intro earlier sync later h
    exact absurd h (List.append_ne_nil_of_right_ne_nil _ (List.cons_ne_nil _ _)).symm

/-- What was sent before comes from the lines before. -/
theorem origin_concat (h : s.Sent lines syncs) (line : Text) {earlier later : List Sync}
    {sync : Sync} (hsyncs : syncs = earlier ++ sync :: later) :
    ∃ before l after, lines ++ [line] = before ++ l :: after ∧
      (s.afterLines before).pending = s.pending ++ earlier ∧
      (s.afterLines (before ++ [l])).pending = s.pending ++ earlier ++ [sync] ∧
      (s.afterLines (before ++ [l])).Carries sync := by
  obtain ⟨before, l, after, rfl, hbefore, hafter, hcarries⟩ := h.origin earlier sync later hsyncs
  exact ⟨before, l, after ++ [line], by simp, hbefore, hafter, hcarries⟩

/-- A line that sends nothing. -/
theorem quiet (h : s.Sent lines syncs)
    (hpending : (s.afterLines (lines ++ [line])).pending = (s.afterLines lines).pending)
    (hrequests : (s.afterLines (lines ++ [line])).source.requests =
      (s.afterLines lines).source.requests) : s.Sent (lines ++ [line]) syncs where
  pending := hpending.trans h.pending
  requests := hrequests.trans h.requests
  origin := fun _ _ _ hsyncs => h.origin_concat line hsyncs

/-- A line that sends a sync. -/
theorem send {sync : Sync} (h : s.Sent lines syncs)
    (hcarries : (s.afterLines (lines ++ [line])).Carries sync)
    (hpending : (s.afterLines (lines ++ [line])).pending =
      (s.afterLines lines).pending ++ [sync])
    (hrequests : (s.afterLines (lines ++ [line])).source.requests =
      (s.afterLines lines).source.requests ++ [sync.url]) :
    s.Sent (lines ++ [line]) (syncs ++ [sync]) where
  pending := by rw [hpending, h.pending, List.append_assoc]
  requests := by rw [hrequests, h.requests, List.map_append, List.append_assoc]; rfl
  origin := by
    intro earlier other later hsyncs
    -- the last sync comes from this line, and every other one from a line before it
    rcases List.eq_nil_or_concat later with rfl | ⟨init, last, rfl⟩
    · obtain ⟨rfl, hlast⟩ := List.append_inj' hsyncs rfl
      obtain rfl : sync = other := by simpa using hlast
      exact ⟨lines, line, [], rfl, h.pending, by rw [hpending, h.pending], hcarries⟩
    · rw [List.concat_eq_append, ← List.cons_append, ← List.append_assoc] at hsyncs
      obtain ⟨hinit, -⟩ := List.append_inj' hsyncs rfl
      exact h.origin_concat line hinit

end Sent

/-- **Every sync that lines send comes from one of them.** -/
theorem exists_sent (s : Session) (lines : List Text) : ∃ syncs, s.Sent lines syncs := by
  induction lines using List.reverseRecOn with
  | nil => exact ⟨[], Sent.nil s⟩
  | append_singleton lines line ih =>
    obtain ⟨syncs, hsent⟩ := ih
    rcases s.sends_concat lines line with
      ⟨hpending, hrequests⟩ | ⟨sync, hcarries, hpending, hrequests⟩
    · exact ⟨syncs, hsent.quiet hpending hrequests⟩
    · exact ⟨syncs ++ [sync], hsent.send hcarries hpending hrequests⟩

/-! ### A script -/

/-- A sprite before and after some lines: it was moved at most, and only if its name is bound to
an object that the lines declare. -/
structure Framed (s : Session) (lines : List Text) (before after : Sprite) : Prop where
  moved : before.MovedTo after
  bound : after ≠ before →
    ∃ id, s.bindings.get? before.name = some id ∧ DeclaresObject lines id

/-- Reading a script moves the sprites of its objects, and does nothing else to the stage. -/
theorem framed_read (s : Session) (script : Text) :
    List.Forall₂ (s.Framed (contentLines script)) s.stage (s.read script).stage := by
  rw [(s.inStep_read script).stage, List.forall₂_map_right_iff, List.forall₂_same]
  intro sprite _
  cases hb : s.bindings.get? sprite.name with
  | none => exact ⟨⟨_, _, _, rfl⟩, fun hne => absurd rfl hne⟩
  | some id =>
    refine ⟨sprite.movedTo_moved _ _, fun hne => ⟨id, hb, ?_⟩⟩
    -- a sprite that is not as it was has been moved by a line about a declared object
    have hpositions : 0 < positionLines s.settings.blockScope (contentLines script) id := by
      refine Nat.pos_of_ne_zero fun hzero => hne ?_
      rw [Option.elim_some, hzero, Sprite.moved_zero]
    exact declaresObject_of_positionLines hpositions

/-- **What reading a script leaves alone, and what it sends.**  The bindings stay, no id counts as
clicked, and the syncs that were pending stay in front of the queue.  On the stage no sprite
comes, goes or changes its place, and a sprite is at most moved, which happens only if its name
is bound to an object that the script declares.  Every new sync was sent by a line: it goes to
the first name that is bound to its id, which is on the stage, and carries the texture that the
scene had for the id at this line.  The source was asked for the URLs of the new syncs in their
order, and for nothing else. -/
theorem frame_read (s : Session) (script : Text) :
    let t := s.read script
    t.bindings = s.bindings ∧ (∀ id, t.isClicked id = false) ∧
      List.Forall₂ (s.Framed (contentLines script)) s.stage t.stage ∧
      ∃ syncs, t.pending = s.pending ++ syncs ∧
        t.source.requests = s.source.requests ++ syncs.map (·.url) ∧
        ∀ earlier sync later, syncs = earlier ++ sync :: later →
          (s.namesOf sync.id).head? = some sync.sprite ∧ s.stage.has sync.sprite = true ∧
            sync.kind = .ofUrl sync.url ∧ sync.url ≠ [] ∧
            ∃ before line after, contentLines script = before ++ line :: after ∧
              (s.afterLines before).pending = s.pending ++ earlier ∧
              (s.afterLines (before ++ [line])).pending = s.pending ++ earlier ++ [sync] ∧
              (s.afterLines (before ++ [line])).scene.texture? sync.id = some sync.url := by
  intro t
  obtain ⟨syncs, hsent⟩ := s.exists_sent (contentLines script)
  refine ⟨s.bindings_read script, ?_, s.framed_read script, syncs, hsent.pending,
    hsent.requests, ?_⟩
  · intro id
    show (s.read script).clicks.isClicked id = false
    rw [clicks_read, Clicks.isClicked_none]
  · intro earlier sync later hsyncs
    obtain ⟨before, line, after, hlines, hbefore, hafter, hcarries⟩ :=
      hsent.origin earlier sync later hsyncs
    -- neither the bindings nor the names on the stage change on the way to the line
    have hfirst : (s.namesOf sync.id).head? = some sync.sprite := by
      have hthen := hcarries.first
      unfold namesOf at hthen ⊢
      rwa [bindings_afterLines] at hthen
    have hstaged : s.stage.has sync.sprite = true := by
      rw [← hcarries.staged, (s.alike_afterLines (before ++ [line])).stage]
      exact (foldl_follow_eq (f := (·.stage.has sync.sprite))
        (fun s e => has_follow s e sync.sprite) s.clear _).symm
    exact ⟨hfirst, hstaged, hcarries.kind, hcarries.nonempty, before, line, after, hlines, hbefore,
      hafter, hcarries.texture⟩

end Session
end PlanetScript
