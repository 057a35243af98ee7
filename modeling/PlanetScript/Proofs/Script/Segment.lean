import PlanetScript.Proofs.Script.Edit

/-! # Segments of a script

Lines make their edits from the focus that stands in front of them (`Focus.edits`), and they see
little of it: the id counts in a block that takes one, and the kind counts for textures.  Focuses
that agree in this much make the same edits of all lines behind them (`Focus.Agree.edits_eq`),
and a line that opens a block makes any two of them agree (`Focus.agree_next`).

A segment is a line that opens a block, with the content and the removals behind it.  Its edits
are therefore the same wherever it stands (`Focus.edits_segment`), and each of them is the edit
that one of its lines makes in the block and about the id of its opener
(`Segment.exists_field_of_mem_edits`).
-/
namespace PlanetScript
open Text

/-- Whether the fields of a block belong to an id. -/
def Block.takesId : Block → Bool
  | .thumbnail | .spawn => false
  | _ => true

/-- A directive that opens a block for an id also says whose fields follow. -/
theorem Directive.subject?_isSome_of_takesId {d : Directive} {block : Block}
    (h : d.opened? = some block) (hid : block.takesId = true) : d.subject?.isSome = true := by
  cases d <;> cases h <;> first | rfl | cases hid

/-- What opens a block is no content. -/
theorem Directive.isContent_of_opened {d : Directive} {block : Block}
    (h : d.opened? = some block) : d.isContent = false := by
  cases d <;> first | rfl | cases h

namespace Focus
variable {scope : BlockScope}

/-- The focus after some lines. -/
def after (scope : BlockScope) (focus : Focus) (lines : List Text) : Focus :=
  lines.foldl (fun focus line => focus.next scope (.ofLine line)) focus

/-- The edits that some lines make behind a focus. -/
def edits (scope : BlockScope) : Focus → List Text → List Edit
  | _, [] => []
  | focus, line :: lines =>
    (focus.edit? line).toList ++ edits scope (focus.next scope (.ofLine line)) lines

theorem edits_append (focus : Focus) (xs ys : List Text) :
    focus.edits scope (xs ++ ys) =
      focus.edits scope xs ++ (focus.after scope xs).edits scope ys := by
  induction xs generalizing focus with
  | nil => rfl
  | cons x xs ih =>
    rw [List.cons_append, edits, edits, ih, List.append_assoc]
    rfl

/-- The focus that is carried over some lines is the one that they say. -/
theorem same_after (scope : BlockScope) (lines : List Text) :
    (({} : Focus).after scope lines).Same (focusAt scope lines) := by
  induction lines using List.reverseRecOn with
  | nil => exact Same.initial scope
  | append_singleton lines line ih =>
    rw [after, List.foldl_append]
    exact ih.next line

/-- From the first line on, the edits behind a focus are the edits of the lines. -/
theorem edits_initial (scope : BlockScope) (lines : List Text) :
    ({} : Focus).edits scope lines = PlanetScript.edits scope lines := by
  induction lines using List.reverseRecOn with
  | nil => rfl
  | append_singleton lines line ih =>
    rw [edits_append, edits_concat, ih, ← (same_after scope lines).edit?_eq line, edits, edits,
      List.append_nil]

/-- The edits of later lines are those that they make behind the focus of the earlier ones. -/
theorem edits_split (scope : BlockScope) (before behind : List Text) :
    PlanetScript.edits scope (before ++ behind) =
      PlanetScript.edits scope before ++
        (({} : Focus).after scope before).edits scope behind := by
  rw [← edits_initial, edits_append, edits_initial]

/-- They are the edits of the places of these lines. -/
theorem edits_after (scope : BlockScope) (before behind : List Text) :
    (({} : Focus).after scope before).edits scope behind =
      (placesBehind before behind).filterMap (Place.edit? scope) := by
  have hsplit := edits_split scope before behind
  rw [PlanetScript.edits, places_append, List.filterMap_append] at hsplit
  exact (List.append_cancel_left hsplit).symm

/-! ### What later lines see of a focus -/

/-- Two focuses that no later line can tell apart. -/
structure Agree (f g : Focus) : Prop where
  block : f.block = g.block
  id : ∀ block, f.block = some block → block.takesId = true → f.id = g.id
  kind : f.block = some .texture → f.kind = g.kind

/-- A line that opens a block leaves nothing of what was open before. -/
theorem agree_next {d : Directive} {block : Block} (h : d.opened? = some block) (f g : Focus) :
    (f.next scope d).Agree (g.next scope d) := by
  have hnext : ∀ focus : Focus, focus.next scope d = ⟨some block,
      (d.subject?.map (·.id)).getD focus.id, (d.subject?.map (·.kind)).getD focus.kind⟩ := by
    intro focus
    rw [next, Directive.isContent_of_opened h, h]
    rfl
  rw [hnext f, hnext g]
  refine ⟨rfl, ?_, ?_⟩
  · intro other hother hid
    cases hother
    obtain ⟨subject, hsubject⟩ :=
      Option.isSome_iff_exists.mp (Directive.subject?_isSome_of_takesId h hid)
    rw [hsubject]
    rfl
  · intro htexture
    cases htexture
    obtain ⟨subject, hsubject⟩ :=
      Option.isSome_iff_exists.mp (Directive.subject?_isSome_of_takesId h rfl)
    rw [hsubject]
    rfl

namespace Agree
variable {f g : Focus}

theorem edit?_eq (h : f.Agree g) (line : Text) : f.edit? line = g.edit? line := by
  obtain ⟨hblock, hid, hkind⟩ := h
  unfold edit?
  cases Directive.ofLine line with
  | remove =>
    by_cases hb : f.block = some .onClick
    · simp only [← hblock, hid .onClick hb rfl]
    · simp only [← hblock, hb, if_false]
  | content =>
    simp only [← hblock]
    refine Option.bind_congr fun block hb => ?_
    cases block with
    | thumbnail | spawn | onClick => rfl
    | texture => simp only [fieldEdit?, hid _ hb rfl, hkind hb]
    | position | size | properties => simp only [fieldEdit?, hid _ hb rfl]
  | _ => rfl

/-- Focuses that agree do so after any line. -/
theorem next (h : f.Agree g) (d : Directive) : (f.next scope d).Agree (g.next scope d) := by
  obtain ⟨hblock, hid, hkind⟩ := h
  cases hd : d.opened? with
  | some block => exact agree_next hd f g
  | none =>
    by_cases hc : d = .content
    · subst hc
      cases scope with
      | sticky => exact ⟨hblock, hid, hkind⟩
      | resetAfterContent => exact ⟨rfl, nofun, nofun⟩
    · have hnext : ∀ focus : Focus, focus.next scope d = ⟨focus.block,
          (d.subject?.map (·.id)).getD focus.id, (d.subject?.map (·.kind)).getD focus.kind⟩ := by
        intro focus
        rw [Focus.next, if_neg (by simpa [Directive.isContent] using hc), hd]
        rfl
      rw [hnext f, hnext g]
      cases d.subject? with
      | none => exact ⟨hblock, hid, hkind⟩
      | some subject => exact ⟨hblock, fun _ _ _ => rfl, fun _ => rfl⟩

/-- **Focuses that agree make the same edits of all later lines.** -/
theorem edits_eq (h : f.Agree g) (lines : List Text) :
    f.edits scope lines = g.edits scope lines := by
  induction lines generalizing f g with
  | nil => rfl
  | cons line lines ih => rw [edits, edits, h.edit?_eq line, ih (h.next (.ofLine line))]

end Agree

/-- A line that opens a block makes no edit. -/
theorem edit?_of_opened {line : Text} {block : Block}
    (h : (Directive.ofLine line).opened? = some block) (focus : Focus) :
    focus.edit? line = none := by
  unfold edit?
  cases hd : Directive.ofLine line <;> rw [hd] at h <;> first | rfl | cases h

/-- From a line that opens a block on, the edits are the same behind any focus. -/
theorem edits_of_opened {line : Text} {block : Block}
    (h : (Directive.ofLine line).opened? = some block) (f g : Focus) (lines : List Text) :
    f.edits scope (line :: lines) = g.edits scope (line :: lines) := by
  rw [edits, edits, edit?_of_opened h, edit?_of_opened h, (agree_next h f g).edits_eq]

end Focus

/-! ### Segments -/

/-- A part of a script: a line that opens a block, and content and removals behind it. -/
structure Segment where
  opener : Text
  block : Block
  opens : (Directive.ofLine opener).opened? = some block
  fields : List Text
  speak : ∀ line ∈ fields, Directive.ofLine line = .content ∨ Directive.ofLine line = .remove

namespace Segment
variable {scope : BlockScope} (a : Segment)

/-- The lines of a segment. -/
def lines : List Text := a.opener :: a.fields

/-- The id that the opener of a segment names. -/
def id : Option Text := (Directive.ofLine a.opener).subject?.bind (·.id)

/-- The kind that the fields of a segment go to. -/
def kind : Option Kind := (Directive.ofLine a.opener).subject?.bind (·.kind)

/-- What the fields of a segment are about. -/
def focus : Focus := ⟨some a.block, a.id, a.kind⟩

/-- The edits of a segment. -/
def edits (scope : BlockScope) (a : Segment) : List Edit := a.focus.edits scope a.fields

theorem next_opener (scope : BlockScope) :
    ({} : Focus).next scope (.ofLine a.opener) = a.focus := by
  rw [Focus.next, Directive.isContent_of_opened a.opens, a.opens, focus, id, kind]
  cases (Directive.ofLine a.opener).subject? <;> rfl

end Segment

namespace Focus
variable {scope : BlockScope}

/-- **A segment makes the same edits wherever it stands.** -/
theorem edits_segment (focus : Focus) (a : Segment) :
    focus.edits scope a.lines = a.edits scope := by
  rw [Segment.lines, edits_of_opened a.opens focus {}, edits, edit?_of_opened a.opens,
    Segment.next_opener]
  rfl

theorem edits_segments (focus : Focus) (segments : List Segment) :
    focus.edits scope (segments.flatMap Segment.lines) =
      segments.flatMap (Segment.edits scope) := by
  induction segments generalizing focus with
  | nil => rfl
  | cons a segments ih =>
    rw [List.flatMap_cons, List.flatMap_cons, edits_append, edits_segment, ih]

/-- Where no block is open, content and removals make no edits. -/
theorem edits_of_block {focus : Focus} {lines : List Text} (hblock : focus.block = none)
    (h : ∀ line ∈ lines, Directive.ofLine line = .content ∨ Directive.ofLine line = .remove) :
    focus.edits scope lines = [] := by
  induction lines generalizing focus with
  | nil => rfl
  | cons line lines ih =>
    rw [List.forall_mem_cons] at h
    have hnext : (focus.next scope (.ofLine line)).block = none := by
      rcases h.1 with hd | hd <;> rw [hd]
      · cases scope with
        | sticky => exact hblock
        | resetAfterContent => rfl
      · exact hblock
    rw [edits, edit?_eq_none_of_block hblock h.1, ih hnext h.2]
    rfl

/-- The edits of content and removals are all made in the focus in front of them. -/
theorem exists_of_mem_edits {focus : Focus} {lines : List Text} {e : Edit}
    (h : ∀ line ∈ lines, Directive.ofLine line = .content ∨ Directive.ofLine line = .remove)
    (he : e ∈ focus.edits scope lines) : ∃ line ∈ lines, focus.edit? line = some e := by
  induction lines with
  | nil => cases he
  | cons line lines ih =>
    rw [List.forall_mem_cons] at h
    rw [edits, List.mem_append, Option.mem_toList] at he
    rcases he with he | he
    · exact ⟨line, List.mem_cons_self, he⟩
    -- content may have closed the block, and then there are no edits behind it
    · have hsame : focus.next scope (.ofLine line) = focus ∨
          (focus.next scope (.ofLine line)).block = none := by
        rcases h.1 with hd | hd <;> rw [hd]
        · cases scope with
          | sticky => exact Or.inl rfl
          | resetAfterContent => exact Or.inr rfl
        · exact Or.inl rfl
      rcases hsame with hsame | hclosed
      · rw [hsame] at he
        obtain ⟨other, hother, hedit⟩ := ih h.2 he
        exact ⟨other, List.mem_cons_of_mem line hother, hedit⟩
      · rw [edits_of_block hclosed h.2] at he
        cases he

end Focus

/-- **An edit of a segment is one that a line of it makes in the segment's own focus.** -/
theorem Segment.exists_field_of_mem_edits {scope : BlockScope} {a : Segment} {e : Edit}
    (he : e ∈ a.edits scope) : ∃ line ∈ a.fields, a.focus.edit? line = some e :=
  Focus.exists_of_mem_edits a.speak he

end PlanetScript
