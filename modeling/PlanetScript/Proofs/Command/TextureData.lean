import PlanetScript.Proofs.Command.Printing
import PlanetScript.Proofs.Script.Naming

/-! # The data of a texture

A query for the data of the texture of an id makes a request if the id shows a URL, and answers by
what comes back (`TextureData`): nothing after a failure or without a content type, a marker if the
content type does not announce vector graphics, and else the text of the body.  Apart from the
request, and from a notice about a failure, the session stays as it is
(`Session.asks_textureText`).

The texture command prints this answer for the script that it has read.  It has nothing to print if
the id shows no URL or what the URL answers gives no data (`NoData`), and in these cases alone it
fails (`Command.textureText_decides`).
-/
namespace PlanetScript
open Text

/-! ### What a scene shows -/

/-- The URL that a scene shows at an id: the texture of its object, and of its background only if
there is no object. -/
inductive Scene.Shows (scene : Scene) (id : Text) : Text → Prop
  | object {object : Object} (h : scene.objects.get? id = some object) :
      scene.Shows id object.texture
  | background {background : Background} (hobject : scene.objects.get? id = none)
      (h : scene.backgrounds.get? id = some background) : scene.Shows id background.texture

/-- An id without a texture: it is unknown, or its texture is empty. -/
def Scene.Untextured (scene : Scene) (id : Text) : Prop := ∀ url, scene.Shows id url → url = []

theorem Scene.texture?_eq_some_iff {scene : Scene} {id url : Text} :
    scene.texture? id = some url ↔ scene.Shows id url := by
  unfold texture?
  cases hobject : scene.objects.get? id with
  | some object =>
    constructor
    · intro h
      cases h
      exact .object hobject
    · rintro (h | ⟨h, -⟩)
      · rw [hobject] at h
        cases h
        rfl
      · rw [hobject] at h
        cases h
  | none =>
    rw [Option.map_eq_some_iff]
    constructor
    · rintro ⟨background, h, rfl⟩
      exact .background hobject h
    · rintro (h | ⟨-, h⟩)
      · rw [hobject] at h
        cases h
      · exact ⟨_, h, rfl⟩

/-! ### What an answer gives -/

/-- The data that the answer to a request gives.  A body that is no UTF-8 gives its text with the
ill-formed parts replaced. -/
inductive TextureData : FetchResult → Text → Prop
  | failed (failure : FetchFailure) : TextureData (.error failure) []
  | untyped (body : Bytes) : TextureData (.ok ⟨body, none⟩) []
  | raster (body : Bytes) {type : Text} (h : ¬ "svg".toList <:+: type) :
      TextureData (.ok ⟨body, some type⟩) "[non-SVG texture]".toList
  | vector {type : Text} (h : "svg".toList <:+: type) (t : Text) :
      TextureData (.ok ⟨t.flatMap String.utf8EncodeChar, some type⟩) t
  | replaced {type : Text} (h : "svg".toList <:+: type) {body : Bytes}
      (hbody : ∀ t : Text, body ≠ t.flatMap String.utf8EncodeChar) :
      TextureData (.ok ⟨body, some type⟩) (decodeLossy body)

/-- An answer that gives no data. -/
inductive NoData : FetchResult → Prop
  | failed (failure : FetchFailure) : NoData (.error failure)
  | untyped (body : Bytes) : NoData (.ok ⟨body, none⟩)
  | empty {type : Text} (h : "svg".toList <:+: type) : NoData (.ok ⟨[], some type⟩)

namespace Session
variable {result : FetchResult}

theorem dataOf_typed (url : Text) (body : Bytes) (type : Text) :
    (dataOf url (.ok ⟨body, some type⟩)).1 =
      if "svg".toList <:+: type then decodeLossy body else rasterMarker := by
  have hvector : (Texture.isVector ⟨body, some type⟩ = true) = ("svg".toList <:+: type) :=
    propext contains_iff_piece
  show (if Texture.isVector ⟨body, some type⟩ = true then decodeLossy body else rasterMarker) = _
  simp only [hvector]

theorem textureData_dataOf (url : Text) (result : FetchResult) :
    TextureData result (dataOf url result).1 := by
  rcases result with failure | ⟨body, none | type⟩
  · exact .failed failure
  · exact .untyped body
  · rw [dataOf_typed]
    by_cases hvector : "svg".toList <:+: type
    · rw [if_pos hvector]
      by_cases hbody : ∃ t : Text, body = t.flatMap String.utf8EncodeChar
      · obtain ⟨t, rfl⟩ := hbody
        have hdata := TextureData.vector hvector t
        rwa [← encode_eq_flatMap, decodeLossy_encode, encode_eq_flatMap]
      · exact .replaced hvector (not_exists.mp hbody)
    · rw [if_neg hvector]
      exact .raster body hvector

theorem dataOf_eq_nil_iff (url : Text) : (dataOf url result).1 = [] ↔ NoData result := by
  rcases result with failure | ⟨body, none | type⟩
  · exact iff_of_true rfl (.failed failure)
  · exact iff_of_true rfl (.untyped body)
  · rw [dataOf_typed]
    by_cases hvector : "svg".toList <:+: type
    · rw [if_pos hvector, decodeLossy_eq_nil_iff]
      constructor
      · rintro rfl
        exact .empty hvector
      · intro h
        cases h
        rfl
    · rw [if_neg hvector]
      refine iff_of_false (by decide) ?_
      intro h
      cases h
      contradiction

/-! ### Asking -/

/-- What asking for the data of the texture of an id comes to: one request if the id shows a URL
and none otherwise, and what the answer gives. -/
structure Asks (s : Session) (id : Text) (after : Session) (data : Text) : Prop where
  settings : after.settings = s.settings
  scene : after.scene = s.scene
  bindings : after.bindings = s.bindings
  clicks : after.clicks = s.clicks
  stage : after.stage = s.stage
  pending : after.pending = s.pending
  answer : after.source.answer = s.source.answer
  textured : ∀ url, s.scene.Shows id url → url ≠ [] →
    after.source.requests = s.source.requests ++ [url] ∧ TextureData (s.source.answer url) data
  untextured : s.scene.Untextured id →
    after.source.requests = s.source.requests ∧ data = []

/-- The URL that is asked for. -/
theorem bind_nonEmpty?_eq_some_iff {scene : Scene} {id url : Text} :
    (scene.texture? id).bind nonEmpty? = some url ↔ scene.Shows id url ∧ url ≠ [] := by
  simp only [Option.bind_eq_some_iff, nonEmpty?_eq_some_iff, Scene.texture?_eq_some_iff]
  constructor
  · rintro ⟨_, hshows, rfl, hne⟩
    exact ⟨hshows, hne⟩
  · rintro ⟨hshows, hne⟩
    exact ⟨url, hshows, rfl, hne⟩

theorem bind_nonEmpty?_eq_none_iff {scene : Scene} {id : Text} :
    (scene.texture? id).bind nonEmpty? = none ↔ scene.Untextured id := by
  simp only [Option.eq_none_iff_forall_ne_some, ne_eq, bind_nonEmpty?_eq_some_iff, not_and_or,
    not_not, ← imp_iff_not_or]
  rfl

theorem textureText_of_untextured {s : Session} {id : Text} (h : s.scene.Untextured id) :
    s.textureText id = (s, []) := by
  rw [textureText, bind_nonEmpty?_eq_none_iff.mpr h]

/-- The answer to the request decides the data. -/
theorem textureText_of_shows {s : Session} {id url : Text} (h : s.scene.Shows id url)
    (hurl : url ≠ []) :
    (s.textureText id).1.source.requests = s.source.requests ++ [url] ∧
      (s.textureText id).2 = (dataOf url (s.source.answer url)).1 := by
  rw [textureText, bind_nonEmpty?_eq_some_iff.mpr ⟨h, hurl⟩]
  refine ⟨?_, rfl⟩
  simp only [TextureSource.ask]
  cases (dataOf url (s.source.answer url)).2 <;> rfl

/-- **Asking for data makes at most one request and changes nothing else.** -/
theorem asks_textureText (s : Session) (id : Text) :
    s.Asks id (s.textureText id).1 (s.textureText id).2 := by
  obtain ⟨requests, notices, hafter⟩ := s.textureText_eq id
  have htextured : ∀ url, s.scene.Shows id url → url ≠ [] →
      (s.textureText id).1.source.requests = s.source.requests ++ [url] ∧
        TextureData (s.source.answer url) (s.textureText id).2 := by
    intro url hshows hurl
    obtain ⟨hrequests, hdata⟩ := textureText_of_shows hshows hurl
    rw [hdata]
    exact ⟨hrequests, textureData_dataOf url _⟩
  have huntextured : s.scene.Untextured id →
      (s.textureText id).1.source.requests = s.source.requests ∧ (s.textureText id).2 = [] := by
    intro h
    rw [textureText_of_untextured h]
    exact ⟨rfl, rfl⟩
  refine ⟨?_, ?_, ?_, ?_, ?_, ?_, ?_, htextured, huntextured⟩ <;> rw [hafter]

/-- There are no data if and only if there is nothing to ask for or the answer gives none. -/
theorem textureText_eq_nil_iff {s : Session} {id : Text} :
    (s.textureText id).2 = [] ↔ s.scene.Untextured id ∨
      ∃ url, s.scene.Shows id url ∧ url ≠ [] ∧ NoData (s.source.answer url) := by
  by_cases h : s.scene.Untextured id
  · rw [textureText_of_untextured h]
    exact iff_of_true rfl (Or.inl h)
  · rw [or_iff_right h]
    constructor
    · intro hdata
      obtain ⟨url, hshows, hurl⟩ : ∃ url, s.scene.Shows id url ∧ url ≠ [] := by
        simpa only [Scene.Untextured, not_forall, exists_prop] using h
      rw [(textureText_of_shows hshows hurl).2, dataOf_eq_nil_iff] at hdata
      exact ⟨url, hshows, hurl, hdata⟩
    · rintro ⟨url, hshows, hurl, hnone⟩
      rw [(textureText_of_shows hshows hurl).2, dataOf_eq_nil_iff]
      exact hnone

end Session

/-! ### The command -/

namespace Command

theorem run_texture {file : Text → FileContent} {network : Text → HttpReply}
    {script id text : Text} {options : ReadOptions} {settings : Settings}
    (hsettings : options.Give file settings) (htext : Holds file script text) :
    (texture script id options).run ⟨file, network⟩ = textureOutcome settings network text id := by
  have hoptions : options.settings ⟨file, network⟩ = .ok settings :=
    ReadOptions.settings_eq_ok_iff.mpr hsettings
  have hscript : World.text ⟨file, network⟩ script = .ok text := World.text_eq_ok_iff.mpr htext
  rw [run, hoptions, hscript]

/-- **The data of a texture, as one decision.**  Asking for the data of the texture of an id makes
exactly one request, for the URL that the id shows, and none if the id shows no URL; the answer to
the request decides the data, and nothing else of the session but its notices changes.  Once its
files are read, the texture command prints the data for the scene of the script and a line feed if
there are data.  It fails, for want of data, if and only if the id is unknown or without a texture,
the request fails, the answer has no content type, or it is an empty vector graphic. -/
theorem textureText_decides :
    (∀ (s : Session) (id : Text), s.Asks id (s.textureText id).1 (s.textureText id).2) ∧
      ∀ (file : Text → FileContent) (network : Text → HttpReply) (script id text : Text)
        (options : ReadOptions) (settings : Settings),
        options.Give file settings → Holds file script text →
        let s := (Session.fresh settings [] (.ofNetwork network)).read text
        let data := (s.textureText id).2
        let result := ((texture script id options).run ⟨file, network⟩).result
        (∀ printed, result = .ok printed ↔ data ≠ [] ∧ printed = data ++ ['\n']) ∧
          ((∃ fault, result = .error fault) ↔ result = .error (.noTexture id)) ∧
          (result = .error (.noTexture id) ↔
            s.scene.Untextured id ∨ ∃ url, s.scene.Shows id url ∧ url ≠ [] ∧
              NoData ((network url).result url)) := by
  refine ⟨Session.asks_textureText, ?_⟩
  intro file network script id text options settings hsettings htext s data result
  have hresult : result = if data = [] then .error (.noTexture id) else .ok (data ++ ['\n']) := by
    have hrun : (texture script id options).run ⟨file, network⟩ = _ := run_texture hsettings htext
    exact congrArg Outcome.result hrun
  have hanswer : s.source.answer = fun url => (network url).result url := Session.answer_read _ _
  have hdata : data = [] ↔ s.scene.Untextured id ∨
      ∃ url, s.scene.Shows id url ∧ url ≠ [] ∧ NoData ((network url).result url) := by
    rw [Session.textureText_eq_nil_iff, hanswer]
  by_cases hnil : data = []
  · rw [if_pos hnil] at hresult
    refine ⟨fun printed => ?_, ?_, ?_⟩
    · rw [hresult]
      exact iff_of_false nofun fun h => h.1 hnil
    · exact iff_of_true ⟨_, hresult⟩ hresult
    · exact iff_of_true hresult (hdata.mp hnil)
  · rw [if_neg hnil] at hresult
    have hok : result ≠ .error (.noTexture id) := by
      rw [hresult]
      exact nofun
    refine ⟨fun printed => ?_, ?_, ?_⟩
    · rw [hresult, Except.ok.injEq, and_iff_right hnil, eq_comm]
    · refine iff_of_false ?_ hok
      rintro ⟨fault, hfault⟩
      rw [hresult] at hfault
      cases hfault
    · exact iff_of_false hok fun h => hnil (hdata.mpr h)

/-- The texture of an object is printed, and not that of a background with the same id. -/
theorem textureText_decides_vector :
    let script := ("new Object:v;\nnew Background:v;\n" ++
      "setTextureOf(Background) with id \"v\"\nurl: sky.svg\n" ++
      "setTextureOf(Object) with id \"v\"\nurl: rock.svg").toList
    let file : Text → FileContent := fun _ => .bytes (script.flatMap String.utf8EncodeChar)
    let network : Text → HttpReply := fun url =>
      .response 200 (some (encode "image/svg+xml".toList)) (encode url)
    (ReadOptions.Give {} file {} ∧ Holds file "w".toList script) ∧
      ((texture "w".toList "v".toList {}).run ⟨file, network⟩).result =
        .ok "rock.svg\n".toList := by
  intro script file network
  have hsettings : ReadOptions.Give {} file {} := ⟨{}, rfl, rfl⟩
  have htext : Holds file "w".toList script := rfl
  have hcommand := textureText_decides.2 file network "w".toList "v".toList script {} {}
    hsettings htext
  exact ⟨⟨hsettings, htext⟩, (hcommand.1 _).mpr ⟨by decide +kernel, by decide +kernel⟩⟩

end Command
end PlanetScript
