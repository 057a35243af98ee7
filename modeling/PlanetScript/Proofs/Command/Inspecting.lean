import PlanetScript.Command.Run
import PlanetScript.Proofs.Session.Backdrop
import PlanetScript.Proofs.Session.Sending
import PlanetScript.Proofs.Session.Showing
import PlanetScript.Proofs.Texture.Dressing

/-! # The sprites of an inspection

An inspection binds its sprite names one after the other.  Each binding shows the texture of its
id, and a texture always goes to the first name that is bound to the id.  So a second name of an
id sends the texture to the first one once more and stays bare itself; and if the id is that of a
background without a texture, nothing is sent at all, even if an object of the same id has one
(`Scene.showsWhenBound`).

While names are bound, the last sync to each of them is the one that is due to it by the bindings
so far (`Session.Dressing`).  A new name does not change what is due to the others, because it
comes behind them.  When the syncs land, this says which sprites are dressed
(`Session.worn?_inspected`).
-/
namespace PlanetScript
open Text

namespace Stage

theorem find?_withName (stage : Stage) (name other : Text) :
    (stage.withName name).find? other =
      (stage.find? other).or (if other = name then some { name } else none) := by
  unfold withName
  split
  · next hhas =>
    by_cases hname : other = name
    · obtain ⟨sprite, hsprite⟩ := Option.isSome_iff_exists.mp hhas
      rw [hname, hsprite, Option.some_or]
    · rw [if_neg hname, Option.or_none]
  · rw [add, find?, List.find?_append]
    by_cases hname : other = name
    · simp [find?, hname]
    · simp [find?, hname, Ne.symm hname]

/-- An inspection has a bare sprite for every name, and no other ones. -/
theorem find?_ofBindings (bindings : List (Text × Text)) (name : Text) :
    (ofBindings bindings).find? name =
      if name ∈ bindings.map Prod.fst then some { name } else none := by
  induction bindings using List.reverseRecOn with
  | nil => rfl
  | append_singleton bindings binding ih =>
    have hlast : ofBindings (bindings ++ [binding]) =
        (ofBindings bindings).withName binding.1 := by
      rw [ofBindings, List.foldl_append]
      rfl
    rw [hlast, find?_withName, ih, List.map_append]
    by_cases hbefore : name ∈ bindings.map Prod.fst
    · rw [if_pos hbefore, if_pos (List.mem_append_left _ hbefore), Option.some_or]
    · rw [if_neg hbefore, Option.none_or]
      by_cases hname : name = binding.1
      · simp [hname]
      · simp [hname, hbefore]

end Stage

/-- Whether a texture is sent when a name is bound to an id: it is not if there is a background
of this id and this background has no texture. -/
def Scene.showsWhenBound (scene : Scene) (id : Text) : Bool :=
  (scene.backgrounds.get? id).all fun background => background.texture ≠ []

namespace Session

/-! ### What binding a name sends -/

/-- What a session sends for an id to which a name was just bound. -/
def offer? (s : Session) (id : Text) : Option Sync :=
  if s.scene.showsWhenBound id = true then (s.scene.texture? id).bind (s.syncTo? id) else none

/-- The sync that is due to a name that is bound to an id: none unless it is the first one. -/
def due? (s : Session) (name id : Text) : Option Sync :=
  if (s.namesOf id).head? = some name then s.offer? id else none

/-- The last sync to every name is the one that is due to it. -/
def Dressing (s : Session) : Prop :=
  ∀ name, s.pending.lastTo? name = (s.bindings.get? name).bind (s.due? name)

section Send
variable (s : Session) (name id : Text)

/-- The session in which a name is bound already and nothing is sent yet. -/
def withBinding : Session := { s with bindings := s.bindings.insert name id }

theorem bindEither_eq :
    ∃ clicks requests pending notices, s.bindEither name id =
      { s.withBinding name id with
        clicks, source := { s.source with requests }, pending, notices } := by
  unfold bindEither
  split
  · obtain ⟨requests, pending, notices, h⟩ := s.bindBackground_eq name id
    exact ⟨_, requests, pending, notices, h⟩
  · obtain ⟨requests, pending, notices, h⟩ := s.bindObject_eq name id
    exact ⟨_, requests, pending, notices, h⟩

theorem pending_bindEither :
    (s.bindEither name id).pending =
      s.pending ++ ((s.withBinding name id).offer? id).toList := by
  show _ = s.pending ++ (if s.scene.showsWhenBound id = true then _ else none).toList
  unfold bindEither Scene.showsWhenBound Registry.contains
  cases hb : s.scene.backgrounds.get? id with
  | none => exact pending_showTexture_eq _ id
  | some background =>
    rw [Option.isSome_some, if_pos rfl, bindBackground, hb, Option.bind_some, Option.all_some]
    cases ht : background.texture with
    | nil => exact (List.append_nil _).symm
    | cons c url => exact pending_showTexture_eq _ id

theorem bindings_bindEither : (s.bindEither name id).bindings = s.bindings.insert name id := by
  obtain ⟨clicks, requests, pending, notices, h⟩ := s.bindEither_eq name id
  rw [h]
  rfl

theorem due?_bindEither : (s.bindEither name id).due? = (s.withBinding name id).due? := by
  obtain ⟨clicks, requests, pending, notices, h⟩ := s.bindEither_eq name id
  rw [h]
  rfl

end Send

/-! ### What is due to a name -/

section Due
variable {s : Session} {name other id target : Text}

theorem syncTo?_of_head? (h : (s.namesOf id).head? = some name) (url : Text) :
    s.syncTo? id url =
      if url = [] then none
      else if s.stage.has name then some (.issue id name url (s.source.answer url)) else none := by
  rw [syncTo?, h, Option.bind_some]

theorem head?_of_syncTo? {url : Text} {sync : Sync} (h : s.syncTo? id url = some sync) :
    (s.namesOf id).head? = some sync.sprite := by
  unfold syncTo? at h
  split at h
  · cases h
  · obtain ⟨first, hfirst, hsync⟩ := Option.bind_eq_some_iff.mp h
    split at hsync
    · cases hsync
      exact hfirst
    · cases hsync

/-- A new name comes last among the names of its id. -/
theorem namesOf_withBinding (hnew : s.bindings.get? name = none) (target : Text) :
    (s.withBinding name id).namesOf target =
      s.namesOf target ++ if id = target then [name] else [] := by
  unfold namesOf withBinding
  rw [Registry.keysWhere_insert_of_new hnew]
  simp only [decide_eq_true_eq]

theorem head?_namesOf_withBinding (hnew : s.bindings.get? name = none) (hne : other ≠ name) :
    ((s.withBinding name id).namesOf target).head? = some other ↔
      (s.namesOf target).head? = some other := by
  rw [namesOf_withBinding hnew, List.head?_append]
  cases (s.namesOf target).head? with
  | some first => rfl
  | none =>
    rw [Option.none_or]
    split
    · simp [Ne.symm hne]
    · rfl

/-- What is sent for an id goes to its first name. -/
theorem head?_of_offer? {sync : Sync} (h : s.offer? id = some sync) :
    (s.namesOf id).head? = some sync.sprite := by
  unfold offer? at h
  split at h
  · obtain ⟨url, -, hsync⟩ := Option.bind_eq_some_iff.mp h
    exact head?_of_syncTo? hsync
  · cases h

/-- A new name leaves what is due to the others. -/
theorem due?_withBinding_of_ne (hnew : s.bindings.get? name = none) (hne : other ≠ name) :
    (s.withBinding name id).due? other target = s.due? other target := by
  have hhead : ((s.withBinding name id).namesOf target).head? = some other ↔
      (s.namesOf target).head? = some other := head?_namesOf_withBinding hnew hne
  unfold due?
  by_cases hfirst : (s.namesOf target).head? = some other
  · have hsync : (s.withBinding name id).syncTo? target = s.syncTo? target := by
      funext url
      rw [syncTo?_of_head? hfirst, syncTo?_of_head? (hhead.mpr hfirst)]
      rfl
    rw [if_pos hfirst, if_pos (hhead.mpr hfirst), offer?, hsync]
    rfl
  · rw [if_neg hfirst, if_neg (mt hhead.mp hfirst)]

end Due

/-- **Binding one more name keeps what is on its way what is due.** -/
theorem Dressing.bindEither {s : Session} (h : s.Dressing) {name : Text}
    (hnew : s.bindings.get? name = none) (id : Text) : (s.bindEither name id).Dressing := by
  intro other
  rw [due?_bindEither, bindings_bindEither, pending_bindEither]
  by_cases hhead : ((s.withBinding name id).namesOf id).head? = some other
  · -- the name gets what is sent now, and if nothing is sent, then nothing was before
    have hbound : (s.bindings.insert name id).get? other = some id := get?_bindings_of_head? hhead
    have hdue : (s.withBinding name id).due? other id = (s.withBinding name id).offer? id :=
      if_pos hhead
    rw [hbound, Option.bind_some, hdue]
    cases hsent : (s.withBinding name id).offer? id with
    | some sync =>
      have hsprite := head?_of_offer? hsent
      rw [hhead] at hsprite
      exact (Backlog.lastTo?_push ..).trans (if_pos (Option.some.inj hsprite).symm)
    | none =>
      rw [Option.toList_none, List.append_nil, h other]
      by_cases hname : other = name
      · rw [hname, hnew]
        rfl
      · rw [Registry.get?_insert, if_neg hname] at hbound
        rw [hbound, Option.bind_some, ← due?_withBinding_of_ne hnew hname, hdue, hsent]
  · -- what is sent now goes to another name
    have hkept : Backlog.lastTo? (s.pending ++ ((s.withBinding name id).offer? id).toList) other =
        s.pending.lastTo? other := by
      cases hsent : (s.withBinding name id).offer? id with
      | none => rw [Option.toList_none, List.append_nil]
      | some sync =>
        refine (Backlog.lastTo?_push ..).trans (if_neg ?_)
        rintro rfl
        exact hhead (head?_of_offer? hsent)
    rw [hkept, h other, Registry.get?_insert]
    by_cases hname : other = name
    · rw [hname] at hhead ⊢
      rw [hnew, if_pos rfl, Option.bind_some, due?, if_neg hhead]
      rfl
    · rw [if_neg hname]
      refine Option.bind_congr fun target _ => ?_
      exact (due?_withBinding_of_ne hnew hname).symm

/-! ### What a flush leaves -/

section Flush
variable {s : Session} {name id : Text} {bare : Sprite}

/-- A name to which a texture is due wears it. -/
theorem Dressing.worn?_flush (h : s.Dressing) (hname : s.bindings.get? name = some id)
    (hsprite : s.stage.find? name = some bare) {url : Text} {texture : Texture}
    (htexture : s.scene.texture? id = some url) (hurl : url ≠ [])
    (hanswer : s.source.answer url = .ok texture)
    (hfirst : (s.namesOf id).head? = some name) (hshows : s.scene.showsWhenBound id = true) :
    ∃ sprite, s.flush.1.stage.find? name = some sprite ∧
      sprite.worn? = some (.make (Costume.nameOf id) (.ofUrl url) texture.bytes url) := by
  have hstaged : s.stage.has name = true := by rw [Stage.has, hsprite]; rfl
  have hlast : s.pending.lastTo? name = some (.issue id name url (.ok texture)) := by
    rw [h name, hname, Option.bind_some, due?, if_pos hfirst, offer?, if_pos hshows, htexture,
      Option.bind_some, syncTo?_of_head? hfirst, if_neg hurl, if_pos hstaged, hanswer]
  rw [← Backlog.has_landed s.pending, Stage.has, ← stage_flush] at hstaged
  obtain ⟨sprite, hfound⟩ := Option.isSome_iff_exists.mp hstaged
  have hlanded := hfound
  rw [stage_flush] at hlanded
  exact ⟨sprite, hfound, Backlog.worn?_landed hlast rfl hlanded⟩

/-- A name to which nothing is due has its sprite as it was. -/
theorem Dressing.find?_flush (h : s.Dressing) (hname : s.bindings.get? name = some id)
    (hdue : ¬ ((s.namesOf id).head? = some name ∧ s.scene.showsWhenBound id = true)) :
    s.flush.1.stage.find? name = s.stage.find? name := by
  have hnone : s.due? name id = none := by
    unfold due? offer?
    by_cases hfirst : (s.namesOf id).head? = some name
    · rw [if_pos hfirst, if_neg fun hshows => hdue ⟨hfirst, hshows⟩]
    · rw [if_neg hfirst]
  have hlast : s.pending.lastTo? name = none := by rw [h name, hname, Option.bind_some, hnone]
  rw [stage_flush, Backlog.find?_landed_of_lastTo?_eq_none hlast]

end Flush

/-! ### All bindings -/

/-- What becomes of a session without bindings when names are bound in it. -/
structure Binds (s : Session) (bindings : List (Text × Text)) (t : Session) : Prop where
  scene : t.scene = s.scene
  stage : t.stage = s.stage
  answer : t.source.answer = s.source.answer
  entries : t.bindings.entries = bindings
  dressing : t.Dressing

namespace Binds
variable {s t : Session} {bindings : List (Text × Text)}

theorem nil (hbindings : s.bindings = .empty) (hpending : s.pending = []) : s.Binds [] s where
  scene := rfl
  stage := rfl
  answer := rfl
  entries := by rw [hbindings]; rfl
  dressing := by
    intro name
    rw [hpending, hbindings]
    rfl

theorem concat (h : s.Binds bindings t) {binding : Text × Text}
    (hnew : binding.1 ∉ bindings.map Prod.fst) :
    s.Binds (bindings ++ [binding]) (t.bindEither binding.1 binding.2) := by
  have hget : t.bindings.get? binding.1 = none := by
    rw [← h.entries] at hnew
    exact Registry.notMem_keys_iff.mp hnew
  obtain ⟨clicks, requests, pending, notices, hbound⟩ := t.bindEither_eq binding.1 binding.2
  refine ⟨?_, ?_, ?_, ?_, h.dressing.bindEither hget binding.2⟩
  · rw [hbound]
    exact h.scene
  · rw [hbound]
    exact h.stage
  · rw [hbound]
    exact h.answer
  · rw [bindings_bindEither, Registry.entries_insert_of_new hget, h.entries]

/-- **Binding names one after the other keeps what is on its way what is due.** -/
theorem foldl (hbindings : s.bindings = .empty) (hpending : s.pending = [])
    (hdistinct : (bindings.map Prod.fst).Nodup) :
    s.Binds bindings (bindings.foldl (fun t binding => t.bindEither binding.1 binding.2) s) := by
  induction bindings using List.reverseRecOn with
  | nil => exact nil hbindings hpending
  | append_singleton bindings binding ih =>
    rw [List.map_append, List.nodup_append] at hdistinct
    obtain ⟨hbefore, -, hnew⟩ := hdistinct
    rw [List.foldl_append]
    refine (ih hbefore).concat fun hmem => ?_
    exact hnew _ hmem _ (List.mem_singleton_self _) rfl

variable {before after : List (Text × Text)} {name id : Text}

theorem get?_bindings (h : s.Binds (before ++ (name, id) :: after) t) :
    t.bindings.get? name = some id := by
  rw [Registry.get?_eq_some_iff, h.entries]
  exact List.mem_append_right _ List.mem_cons_self

/-- A name is the first one of its id if no name before it is bound to the id. -/
theorem head?_namesOf_iff (h : s.Binds (before ++ (name, id) :: after) t) :
    (t.namesOf id).head? = some name ↔ id ∉ before.map Prod.snd := by
  have hdistinct := t.bindings.nodup
  rw [h.entries, List.map_append, List.map_cons, List.nodup_append] at hdistinct
  have hself : List.find? (fun entry => decide (entry.2 = id)) ((name, id) :: after) =
      some (name, id) := List.find?_cons_of_pos (decide_eq_true rfl)
  unfold namesOf Registry.keysWhere
  rw [List.head?_map, List.head?_filter, h.entries, List.find?_append, hself]
  cases hfind : before.find? fun entry => decide (entry.2 = id) with
  | some entry =>
    -- another name is bound to the id before this one
    have hmem := List.mem_of_find?_eq_some hfind
    have hid : entry.2 = id := by simpa using List.find?_some hfind
    have hname : entry.1 ≠ name :=
      hdistinct.2.2 _ (List.mem_map_of_mem hmem) _ List.mem_cons_self
    have hbefore : id ∈ before.map Prod.snd := hid ▸ List.mem_map_of_mem hmem
    simp [hname, hbefore]
  | none =>
    have hbefore : id ∉ before.map Prod.snd := by
      intro hmem
      obtain ⟨entry, hentry, hid⟩ := List.mem_map.mp hmem
      exact List.find?_eq_none.mp hfind entry hentry (decide_eq_true hid)
    simp [hbefore]

end Binds

/-- Without bindings a script sends nothing and moves nothing. -/
theorem read_of_unbound {s : Session} (h : s.bindings = .empty) (script : Text) :
    (s.read script).pending = s.pending ∧ (s.read script).stage = s.stage := by
  constructor
  · obtain ⟨syncs, hsent⟩ := s.exists_sent (contentLines script)
    cases syncs with
    | nil => exact hsent.pending.trans (List.append_nil _)
    | cons sync syncs =>
      obtain ⟨before, line, after, -, -, -, hcarries⟩ := hsent.origin [] sync syncs rfl
      have hget := get?_bindings_of_head? hcarries.first
      rw [bindings_afterLines, h] at hget
      cases hget
  · rw [(s.inStep_read script).stage, h]
    exact List.map_id s.stage

/-- **The sprites that an inspection dresses.**  If an id has a texture and its URL answers with
one, then a name that is bound to the id is on the stage.  It wears the texture under the id's
name if no name before it is bound to the same id, and if there is no background of this id that
is without a texture of its own.  Otherwise its sprite is as bare as it was made. -/
theorem worn?_inspected (settings : Settings) (network : Text → HttpReply) (script : Text)
    {bindings before after : List (Text × Text)} (hdistinct : (bindings.map Prod.fst).Nodup)
    {name id url : Text} {texture : Texture} (hbinding : bindings = before ++ (name, id) :: after)
    (htexture : (inspected settings network script bindings).1.scene.texture? id = some url)
    (hurl : url ≠ []) (hanswer : (network url).result url = .ok texture) :
    let s := (inspected settings network script bindings).1
    ∃ sprite, s.stage.find? name = some sprite ∧
      (id ∉ before.map Prod.snd ∧ s.scene.showsWhenBound id = true →
        ∃ costume, sprite.worn? = some costume ∧ costume.Shows id url texture.bytes) ∧
      (id ∈ before.map Prod.snd ∨ s.scene.showsWhenBound id = false → sprite = { name }) := by
  intro s
  let made := fresh settings (.ofBindings bindings) (.ofNetwork network)
  let bound := bindings.foldl (fun t binding => t.bindEither binding.1 binding.2)
    (made.read script)
  obtain ⟨hpending, hstage⟩ := read_of_unbound (s := made) rfl script
  have hbinds : (made.read script).Binds bindings bound :=
    .foldl (made.bindings_read script) hpending hdistinct
  have hscene : bound.scene = s.scene := by
    obtain ⟨stage, notices, hflush⟩ := bound.flush_eq
    show bound.scene = bound.flush.1.scene
    rw [hflush]
  have hbare : bound.stage.find? name = some { name } := by
    have hname : name ∈ bindings.map Prod.fst := by simp [hbinding]
    rw [hbinds.stage, hstage]
    exact (Stage.find?_ofBindings bindings name).trans (if_pos hname)
  have hsource : bound.source.answer url = .ok texture := by
    rw [hbinds.answer, answer_read]
    exact hanswer
  rw [hbinding] at hbinds
  have hname := hbinds.get?_bindings
  have hdue := hbinds.head?_namesOf_iff
  by_cases hdresses : id ∉ before.map Prod.snd ∧ s.scene.showsWhenBound id = true
  · obtain ⟨sprite, hsprite, hworn⟩ := hbinds.dressing.worn?_flush hname hbare
      (hscene ▸ htexture) hurl hsource (hdue.mpr hdresses.1) (hscene ▸ hdresses.2)
    refine ⟨sprite, hsprite, fun _ => ⟨_, hworn, Costume.shows_make id url texture.bytes⟩, ?_⟩
    rintro (hbefore | hshows)
    · exact absurd hbefore hdresses.1
    · exact absurd hdresses.2 (ne_true_of_eq_false hshows)
  · have hkept := hbinds.dressing.find?_flush hname fun h =>
      hdresses ⟨hdue.mp h.1, hscene ▸ h.2⟩
    exact ⟨{ name }, hkept.trans hbare, fun h => absurd h hdresses, fun _ => rfl⟩

/-- Of two names that are bound to one id only the first is dressed, and no name is that is bound
to the id of an object if there is a background of this id that has no texture. -/
theorem worn?_inspected_sharedId :
    let network : Text → HttpReply := fun _ => .response 200 none [1, 2]
    let rock := "new Object:rock;\nsetTextureOf with id \"rock\"\nurl: https://a/rock.svg;\n"
    let worn := fun (script : String) (bindings : List (String × String)) =>
      let bindings := bindings.map fun binding => (binding.1.toList, binding.2.toList)
      let s := (inspected {} network script.toList bindings).1
      (s.scene.texture? "rock".toList,
        s.stage.map fun sprite => (sprite.name, sprite.worn?.map (·.name)))
    worn rock [("A", "rock"), ("B", "rock")] =
        (some "https://a/rock.svg".toList,
          [("A".toList, some "rock-texture".toList), ("B".toList, none)]) ∧
      worn (rock ++ "new Background:rock;") [("A", "rock")] =
        (some "https://a/rock.svg".toList, [("A".toList, none)]) := by
  decide +kernel

/-- The first one of two names for a rock wears it, whatever the others are bound to. -/
theorem worn?_inspected_rock :
    let network : Text → HttpReply := fun _ => .response 200 none [1, 2]
    let script := "new Object:rock;\nsetTextureOf with id \"rock\"\nurl: https://a/rock.svg;".toList
    let bindings := [("S".toList, "sky".toList), ("A".toList, "rock".toList),
      ("B".toList, "rock".toList)]
    let url := "https://a/rock.svg".toList
    let s := (inspected {} network script bindings).1
    ((bindings.map Prod.fst).Nodup ∧ s.scene.texture? "rock".toList = some url ∧
        (network url).result url = .ok ⟨[1, 2], none⟩) ∧
      ∃ sprite costume, s.stage.find? "A".toList = some sprite ∧ sprite.worn? = some costume ∧
        costume.name = "rock-texture".toList ∧ costume.url = url ∧ costume.kind = .vector ∧
        costume.assetId = Sha256.hexDigest [1, 2] ++ ".svg".toList := by
  intro network script bindings url s
  have hdistinct : (bindings.map Prod.fst).Nodup := by decide
  have htexture : s.scene.texture? "rock".toList = some url := by decide +kernel
  have hshows : s.scene.showsWhenBound "rock".toList = true := by decide +kernel
  have hbinding : bindings = [("S".toList, "sky".toList)] ++
      ("A".toList, "rock".toList) :: [("B".toList, "rock".toList)] := rfl
  have hanswer : (network url).result url = .ok ⟨[1, 2], none⟩ := rfl
  have hfirst : "rock".toList ∉ [("S".toList, "sky".toList)].map Prod.snd := by decide
  have hvector : ".svg".toList <:+ url := by decide
  obtain ⟨sprite, hsprite, hdressed, -⟩ :=
    worn?_inspected {} network script hdistinct hbinding htexture (by decide) hanswer
  obtain ⟨costume, hworn, hcostume⟩ := hdressed ⟨hfirst, hshows⟩
  have hkind := hcostume.kind
  have hasset := hcostume.assetId
  rw [if_pos hvector] at hkind hasset
  exact ⟨⟨hdistinct, htexture, hanswer⟩, sprite, costume, hsprite, hworn, hcostume.name,
    hcostume.url, hkind, hasset⟩

end Session
end PlanetScript
