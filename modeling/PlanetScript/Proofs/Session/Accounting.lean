import Mathlib.Algebra.Ring.Nat
import PlanetScript.Proofs.Session.Following

/-! # Accounting for syncs and requests

Syncs are issued at many places: by lines that store a texture, by switches of the background,
by both ways of binding and by showing a texture directly.  Each of these is one call that
shows the texture of an id, and it issues a sync, makes a request, or does neither.  All
syncs are consumed at one place, a flush, which takes the oldest one first until none is left.

What happens to syncs and requests during a run is written down as a list of events, in the
order of the calls that cause them (`Session.history`).  The books balance after any run
(`Session.Accounts`): what landed, followed by what is pending, is what was issued; and the
requests that the source has seen are those of the events.
-/
namespace PlanetScript
open Text

/-- Something that happens to a sync or a request. -/
inductive Event where
  /-- A texture was shown, and a sync was issued for it. -/
  | issued (sync : Sync)
  /-- A sync was taken from the queue and landed. -/
  | landed (sync : Sync)
  /-- The data of a texture were asked for. -/
  | asked (url : Text)

namespace Event

/-- The sync that was issued. -/
def issued? : Event → Option Sync
  | .issued sync => some sync
  | _ => none

/-- The sync that landed. -/
def landed? : Event → Option Sync
  | .landed sync => some sync
  | _ => none

/-- The URL that was asked for. -/
def request? : Event → Option Text
  | .issued sync => some sync.url
  | .asked url => some url
  | .landed _ => none

end Event

/-- The report of a flush. -/
def Answer.report? : Answer → Option FlushReport
  | .landed report => some report
  | _ => none

namespace Session

/-! ### The events of a run -/

/-- The sync that showing the texture of an id issues, if it issues one. -/
def syncOf? (s : Session) (id : Text) : Option Sync :=
  match s.dispatch id with
  | .send sprite url => some (.issue id sprite url (s.source.answer url))
  | .nothing | .noSprite _ => none

/-- The events of showing the texture of an id. -/
def shown (s : Session) (id : Text) : List Event := (s.syncOf? id).toList.map .issued

/-- The events of doing what a line asks for. -/
def performed (s : Session) : Effect → List Event
  | .showTexture id => s.shown id
  | .ignored _ | .followPosition _ => []

/-- The events of reading one line. -/
def lineRead (state : Session × Focus) (line : Text) : List Event :=
  let (s, focus) := state
  let (reading, effect) := Reading.step s.settings ⟨s.scene, focus⟩ line
  let s := { s with scene := reading.scene }
  effect.elim [] s.performed

/-- The events of reading lines. -/
def linesRead (state : Session × Focus) : List Text → List Event
  | [] => []
  | line :: lines => lineRead state line ++ linesRead (readLine state line) lines

/-- The events of an operation. -/
def events (s : Session) : Operation → List Event
  | .read script => linesRead (s.clear, {}) (contentLines script)
  | .bindObject sprite id =>
    { s with bindings := s.bindings.insert sprite id, clicks := s.clicks.unmark id }.shown id
  | .bindBackground sprite id =>
    match (s.scene.backgrounds.get? id).bind fun background => nonEmpty? background.texture with
    | some _ => { s with bindings := s.bindings.insert sprite id }.shown id
    | none => []
  | .showTexture id => s.shown id
  | .flush => s.pending.map .landed
  | .askTexture id => ((s.scene.texture? id).bind nonEmpty?).toList.map .asked
  | .clear | .click _ | .followPosition _ | .addSprite _ | .removeSprites _
  | .supplyTexture _ _ => []

/-- The events of a run. -/
def history (s : Session) : List Operation → List Event
  | [] => []
  | operation :: operations => s.events operation ++ (s.apply operation).1.history operations

/-- What the operations of a run answer. -/
def answers (s : Session) : List Operation → List Answer
  | [] => []
  | operation :: operations =>
    (s.apply operation).2 :: (s.apply operation).1.answers operations

/-- Taking syncs from the queue and landing them, one after the other, until none is left. -/
inductive Drains : Session × FlushReport → List Sync → Session × FlushReport → Prop
  | done {s : Session} {report : FlushReport} (h : s.pending.pop? = none) :
      Drains (s, report) [] (s, report)
  | next {s : Session} {report : FlushReport} {sync : Sync} {rest : Backlog} {syncs : List Sync}
      {last : Session × FlushReport} (h : s.pending.pop? = some (sync, rest))
      (drains : Drains (land ({ s with pending := rest }, report) sync) syncs last) :
      Drains (s, report) (sync :: syncs) last

/-! ### Accounts -/

/-- Events account for what becomes of the queue and the requests of a session. -/
structure Accounts (s : Session) (events : List Event) (t : Session) : Prop where
  queue : events.filterMap Event.landed? ++ t.pending =
    s.pending ++ events.filterMap Event.issued?
  requests : t.source.requests = s.source.requests ++ events.filterMap Event.request?

namespace Accounts
variable {s t u : Session} {first second : List Event}

theorem nothing (hpending : t.pending = s.pending)
    (hrequests : t.source.requests = s.source.requests) : s.Accounts [] t :=
  ⟨by simp [hpending], by simp [hrequests]⟩

/-- Accounts of one part and the next add up to accounts of both. -/
theorem trans (h : s.Accounts first t) (h' : t.Accounts second u) :
    s.Accounts (first ++ second) u where
  queue := by
    have hfirst := h.queue
    have hsecond := h'.queue
    rw [List.filterMap_append, List.filterMap_append, List.append_assoc, hsecond,
      ← List.append_assoc, hfirst, List.append_assoc]
  requests := by
    rw [h'.requests, h.requests, List.filterMap_append, List.append_assoc]

end Accounts

/-! ### Showing a texture -/

section Show
variable (s : Session) (id : Text)

/-- Showing a texture answers whether it issues a sync. -/
theorem snd_showTexture : (s.showTexture id).2 = (s.syncOf? id).isSome := by
  unfold showTexture syncOf?
  cases s.dispatch id <;> rfl

theorem accounts_showTexture : s.Accounts (s.shown id) (s.showTexture id).1 := by
  unfold shown showTexture syncOf?
  cases s.dispatch id with
  | nothing => exact .nothing rfl rfl
  | noSprite sprite => exact .nothing rfl rfl
  | send sprite url => exact ⟨rfl, rfl⟩

theorem landed?_shown : (s.shown id).filterMap Event.landed? = [] := by
  unfold shown
  cases s.syncOf? id <;> rfl

end Show

/-! ### Reading a script -/

theorem accounts_perform (s : Session) (effect : Effect) :
    s.Accounts (s.performed effect) (s.perform effect) := by
  cases effect with
  | ignored line => exact .nothing rfl rfl
  | showTexture id => exact s.accounts_showTexture id
  | followPosition id =>
    show s.Accounts [] (s.followPosition id).1
    unfold followPosition
    split
    · exact .nothing rfl rfl
    · exact .nothing rfl rfl

theorem landed?_performed (s : Session) (effect : Effect) :
    (s.performed effect).filterMap Event.landed? = [] := by
  cases effect with
  | showTexture id => exact s.landed?_shown id
  | ignored line => rfl
  | followPosition id => rfl

theorem accounts_readLine (state : Session × Focus) (line : Text) :
    state.1.Accounts (lineRead state line) (readLine state line).1 := by
  obtain ⟨s, focus⟩ := state
  simp only [lineRead, readLine]
  generalize Reading.step s.settings ⟨s.scene, focus⟩ line = step
  obtain ⟨reading, effect⟩ := step
  cases effect with
  | none => exact .nothing rfl rfl
  | some effect =>
    have hperform := accounts_perform { s with scene := reading.scene } effect
    exact ⟨hperform.queue, hperform.requests⟩

theorem landed?_lineRead (state : Session × Focus) (line : Text) :
    (lineRead state line).filterMap Event.landed? = [] := by
  obtain ⟨s, focus⟩ := state
  simp only [lineRead]
  cases (Reading.step s.settings ⟨s.scene, focus⟩ line).2 with
  | none => rfl
  | some effect => exact landed?_performed _ effect

theorem accounts_linesRead (lines : List Text) (state : Session × Focus) :
    state.1.Accounts (linesRead state lines) (lines.foldl readLine state).1 := by
  induction lines generalizing state with
  | nil => exact .nothing rfl rfl
  | cons line lines ih => exact (accounts_readLine state line).trans (ih _)

/-- Reading consumes no sync. -/
theorem landed?_linesRead (lines : List Text) (state : Session × Focus) :
    (linesRead state lines).filterMap Event.landed? = [] := by
  induction lines generalizing state with
  | nil => rfl
  | cons line lines ih => rw [linesRead, List.filterMap_append, landed?_lineRead, ih]; rfl

theorem accounts_read (s : Session) (script : Text) :
    s.Accounts (s.events (.read script)) (s.read script) := by
  have hlines := accounts_linesRead (contentLines script) (s.clear, {})
  exact ⟨hlines.queue, hlines.requests⟩

/-- Reading a script only adds to the queue. -/
theorem pending_prefix_read (s : Session) (script : Text) :
    s.pending <+: (s.read script).pending := by
  have hqueue := (s.accounts_read script).queue
  have hlanded := landed?_linesRead (contentLines script) (s.clear, {})
  rw [events, hlanded, List.nil_append] at hqueue
  exact ⟨_, hqueue.symm⟩

/-! ### Flushing -/

theorem accounts_flush (s : Session) : s.Accounts (s.events .flush) s.flush.1 where
  queue := by
    rw [pending_flush, events, List.filterMap_map, List.filterMap_map]
    simp [Function.comp_def, Event.landed?, Event.issued?]
  requests := by
    obtain ⟨_, _, h⟩ := s.flush_eq
    rw [h, events, List.filterMap_map]
    simp [Function.comp_def, Event.request?]

theorem Drains.eq {state last : Session × FlushReport} {syncs : List Sync}
    (h : Drains state syncs last) :
    syncs = state.1.pending ∧
      last = state.1.pending.foldl land ({ state.1 with pending := [] }, state.2) := by
  induction h with
  | @done s report h =>
    cases hp : s.pending with
    | nil =>
      refine ⟨rfl, ?_⟩
      show (s, report) = ({ s with pending := [] }, report)
      rw [← hp]
    | cons sync rest =>
      rw [hp] at h
      cases h
  | @next s report sync rest syncs last h _ ih =>
    cases hp : s.pending with
    | nil =>
      rw [hp] at h
      cases h
    | cons head tail =>
      rw [hp] at h
      cases h
      -- landing does not look at the queue, so what is left in it does not matter
      exact ⟨by rw [ih.1]; rfl, ih.2⟩

theorem drains_of_pending {s : Session} {queue : Backlog} (h : s.pending = queue)
    (report : FlushReport) :
    Drains (s, report) queue (queue.foldl land ({ s with pending := [] }, report)) := by
  induction queue generalizing s report with
  | nil =>
    have hs : ({ s with pending := [] } : Session) = s := by rw [← h]
    show Drains (s, report) [] ({ s with pending := [] }, report)
    rw [hs]
    exact .done (by rw [h]; rfl)
  | cons sync rest ih =>
    have hpop : s.pending.pop? = some (sync, rest) := by rw [h]; rfl
    exact .next hpop (ih rfl _)

/-- **A flush takes every pending sync, the oldest first, and nothing else.** -/
theorem drains_iff (s : Session) (syncs : List Sync) (last : Session × FlushReport) :
    Drains (s, {}) syncs last ↔ syncs = s.pending ∧ last = s.flush := by
  constructor
  · exact Drains.eq
  · rintro ⟨rfl, rfl⟩
    exact drains_of_pending rfl {}

/-! ### Operations and runs -/

theorem accounts_textureText (s : Session) (id : Text) :
    s.Accounts (s.events (.askTexture id)) (s.textureText id).1 := by
  simp only [events, textureText]
  cases (s.scene.texture? id).bind nonEmpty? with
  | none => exact .nothing rfl rfl
  | some url =>
    simp only
    have hqueue : s.pending = s.pending ++ [] := (List.append_nil _).symm
    cases (dataOf url (s.source.ask url).1).2 with
    | none => exact ⟨hqueue, rfl⟩
    | some notice => exact ⟨hqueue, rfl⟩

/-- **Every operation is accounted for by its events.** -/
theorem accounts_apply (s : Session) (operation : Operation) :
    s.Accounts (s.events operation) (s.apply operation).1 := by
  cases operation with
  | read script => exact s.accounts_read script
  | bindObject sprite id =>
    have hshown := accounts_showTexture
      { s with bindings := s.bindings.insert sprite id, clicks := s.clicks.unmark id } id
    exact ⟨hshown.queue, hshown.requests⟩
  | bindBackground sprite id =>
    show s.Accounts (s.events (.bindBackground sprite id)) (s.bindBackground sprite id)
    simp only [events, bindBackground]
    cases (s.scene.backgrounds.get? id).bind fun background => nonEmpty? background.texture with
    | none => exact .nothing rfl rfl
    | some url =>
      have hshown := accounts_showTexture { s with bindings := s.bindings.insert sprite id } id
      exact ⟨hshown.queue, hshown.requests⟩
  | showTexture id => exact s.accounts_showTexture id
  | followPosition id => exact s.accounts_perform (.followPosition id)
  | flush => exact s.accounts_flush
  | askTexture id => exact s.accounts_textureText id
  | click sprite =>
    show s.Accounts [] (s.click sprite)
    unfold click
    split
    · exact .nothing rfl rfl
    · exact .nothing rfl rfl
  | clear | addSprite | removeSprites | supplyTexture => exact .nothing rfl rfl

/-- **A run is accounted for by its history.** -/
theorem accounts_run (s : Session) (operations : List Operation) :
    s.Accounts (s.history operations) (s.run operations) := by
  induction operations generalizing s with
  | nil => exact .nothing rfl rfl
  | cons operation operations ih => exact (s.accounts_apply operation).trans (ih _)

/-- An operation reports as many landings as there are in its events. -/
theorem total_apply (s : Session) (operation : Operation) :
    ((s.apply operation).2.report?.toList.map (·.total)).sum =
      ((s.events operation).filterMap Event.landed?).length := by
  cases operation with
  | flush =>
    have htotal := s.total_flush
    simp [apply, Answer.report?, events, htotal, List.filterMap_map, Function.comp_def,
      Event.landed?]
  | read script => simp [apply, Answer.report?, events, landed?_linesRead]
  | bindObject sprite id => simp [apply, Answer.report?, events, landed?_shown]
  | bindBackground sprite id =>
    simp only [apply, Answer.report?, events]
    split <;> simp [landed?_shown]
  | showTexture id => simp [apply, Answer.report?, events, landed?_shown]
  | askTexture id =>
    simp only [apply, Answer.report?, events]
    cases (s.scene.texture? id).bind nonEmpty? <;> rfl
  | _ => rfl

theorem total_answers (s : Session) (operations : List Operation) :
    (((s.answers operations).filterMap Answer.report?).map (·.total)).sum =
      ((s.history operations).filterMap Event.landed?).length := by
  induction operations generalizing s with
  | nil => rfl
  | cons operation operations ih =>
    have hone := s.total_apply operation
    have hrest := ih (s.apply operation).1
    simp only [answers, history, List.filterMap_append, List.length_append, ← hone, ← hrest]
    cases hr : (s.apply operation).2.report? with
    | none => simp [hr]
    | some report => simp [hr]

/-- **No sync is lost, issued twice or moved in the queue.**  After any run of a fresh session
the syncs that landed, followed by those that are pending, are the syncs that were issued, in
the order of their issue; the flush reports and the queue count all of them; and the source
was asked for the URLs of the syncs and of the textures whose data were asked for, in the
order of the calls.  Clearing keeps the queue, reading a script adds to its end, and a flush
empties it from its start. -/
theorem syncs_run (settings : Settings) (stage : Stage) (source : TextureSource)
    (operations : List Operation) :
    let start := fresh settings stage source
    let s := start.run operations
    let events := start.history operations
    events.filterMap Event.landed? ++ s.pending = events.filterMap Event.issued? ∧
      ((((start.answers operations).filterMap Answer.report?).map (·.total)).sum +
          s.pending.length = (events.filterMap Event.issued?).length ∧
        s.flush.1.pending = []) ∧
      s.source.requests = source.requests ++ events.filterMap Event.request? ∧
      (s.clear.pending = s.pending ∧ ∀ script, s.pending <+: (s.read script).pending) ∧
      (∀ (t : Session) id, (t.showTexture id).2 = (t.syncOf? id).isSome) ∧
      ∀ (t : Session) syncs last, Drains (t, {}) syncs last ↔
        (t.events .flush).filterMap Event.landed? = syncs ∧ last = t.flush := by
  intro start s events
  have haccounts := start.accounts_run operations
  have hqueue : events.filterMap Event.landed? ++ s.pending =
      events.filterMap Event.issued? := haccounts.queue
  have htotal := start.total_answers operations
  refine ⟨hqueue, ⟨?_, s.pending_flush⟩, haccounts.requests, ⟨rfl, s.pending_prefix_read⟩,
    snd_showTexture, ?_⟩
  · rw [htotal, ← hqueue, List.length_append]
  · intro t syncs last
    have hlanded : (t.events .flush).filterMap Event.landed? = t.pending := by
      simp [Session.events, List.filterMap_map, Function.comp_def, Event.landed?]
    rw [drains_iff, hlanded, eq_comm]

end Session
end PlanetScript
