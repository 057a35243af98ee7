import PlanetScript.Json.Printer
import PlanetScript.Proofs.Json.Reading

/-! # The two layouts

Both layouts of a document write it (`Json.WellFormed.writes_compact`,
`Json.WellFormed.writes_pretty`), if its numbers are tokens: they differ in the gaps alone.  So both
are read as the document.
-/
namespace PlanetScript.Json
open Text

/-- The documents whose numbers are tokens. -/
inductive WellFormed : Json → Prop
  | null : WellFormed .null
  | bool (b : Bool) : WellFormed (.bool b)
  | number {token : Text} (h : NumberToken token) : WellFormed (.number token)
  | string (t : Text) : WellFormed (.string t)
  | array {list : List Json} (h : ∀ item ∈ list, WellFormed item) : WellFormed (.array list)
  | object {list : List (Text × Json)} (h : ∀ pair ∈ list, WellFormed pair.2) :
      WellFormed (.object list)

/-! ### Tokens -/

section Tokens
variable {paired : Bool} {body t : Text} {c : Char}

/-- A control character is the unit of its escape. -/
theorem unitEscape_control (h : c.toNat < 0x20) :
    UnitEscape ("\\u00".toList ++ [Nat.digitChar (c.toNat / 16), Nat.digitChar (c.toNat % 16)])
      c.toNat := by
  have hunits : ∀ n < 0x20,
      hexUnit? '0' '0' (Nat.digitChar (n / 16)) (Nat.digitChar (n % 16)) = some n := by decide
  exact .intro (hunits c.toNat h)

theorem not_surrogate_control {n : Nat} (h : n < 0x20) :
    isHighSurrogate n = false ∧ isLowSurrogate n = false := by
  have hunits : ∀ n < 0x20, isHighSurrogate n = false ∧ isLowSurrogate n = false := by decide
  exact hunits n h

/-- An escaped character writes the character. -/
theorem Letters.escapeChar_append (h : Letters paired body t) (c : Char) :
    Letters paired (escapeChar c ++ body) (c :: t) := by
  unfold escapeChar
  split
  · exact .letter rfl h
  · exact .letter rfl h
  · exact .letter rfl h
  · exact .letter rfl h
  · exact .letter rfl h
  · exact .letter rfl h
  · exact .letter rfl h
  · next hquote hslash _ _ _ _ _ =>
    split
    · next hcontrol =>
      obtain ⟨hhigh, hlow⟩ := not_surrogate_control hcontrol
      have hletters := Letters.unit (unitEscape_control hcontrol) hhigh hlow h
      rwa [Char.ofNat_toNat] at hletters
    · next hcontrol => exact .plain (Nat.not_lt.mp hcontrol) hquote hslash h

theorem letters_flatMap (paired : Bool) (t : Text) : Letters paired (t.flatMap escapeChar) t := by
  induction t with
  | nil => exact .nil
  | cons c t ih => exact ih.escapeChar_append c

theorem writes_quoted (t : Text) : Writes (quoted t) (.value (.string t)) :=
  .string (letters_flatMap false t)

theorem writes_boolToken (b : Bool) : Writes (boolToken b) (.value (.bool b)) := by
  cases b with
  | true => exact .boolTrue
  | false => exact .boolFalse

end Tokens

/-! ### Without blanks -/

theorem writes_compactItems {list : List Json} (hne : list ≠ [])
    (h : ∀ item ∈ list, Writes item.compact (.value item)) :
    Writes (compactItems list) (.items list) := by
  induction list with
  | nil => exact absurd rfl hne
  | cons item rest ih =>
    obtain ⟨hitem, hrest⟩ := List.forall_mem_cons.mp h
    cases rest with
    | nil => exact .lastItem hitem.bare
    | cons next rest => exact .items hitem.bare (ih (List.cons_ne_nil _ _) hrest)

theorem writes_compactMember {name : Text} {j : Json} (h : Writes j.compact (.value j)) :
    Writes (quoted name ++ ':' :: j.compact) (.member (name, j)) := by
  have hmember := Writes.member gap_nil (letters_flatMap false name) gap_nil h.bare
  simpa [quoted] using hmember

theorem writes_compactMembers {list : List (Text × Json)} (hne : list ≠ [])
    (h : ∀ pair ∈ list, Writes pair.2.compact (.value pair.2)) :
    Writes (compactMembers list) (.members list) := by
  induction list with
  | nil => exact absurd rfl hne
  | cons pair rest ih =>
    obtain ⟨hpair, hrest⟩ := List.forall_mem_cons.mp h
    obtain ⟨name, j⟩ := pair
    cases rest with
    | nil => exact .lastMember (writes_compactMember hpair)
    | cons next rest =>
      exact .members (writes_compactMember hpair) (ih (List.cons_ne_nil _ _) hrest)

/-- **A document without blanks writes the document.** -/
theorem WellFormed.writes_compact {j : Json} (h : j.WellFormed) : Writes j.compact (.value j) := by
  induction h with
  | null => exact .null
  | bool b => exact writes_boolToken b
  | number h => exact .number h
  | string t => exact writes_quoted t
  | @array list _ ih =>
    cases list with
    | nil => exact .emptyArray gap_nil
    | cons item rest => exact .array (writes_compactItems (List.cons_ne_nil _ _) ih)
  | @object list _ ih =>
    cases list with
    | nil => exact .emptyObject gap_nil
    | cons pair rest => exact .object (writes_compactMembers (List.cons_ne_nil _ _) ih)

/-! ### One item a line -/

theorem gap_newLine (level : Nat) : Gap (newLine level) := by
  intro c hc
  rcases List.mem_cons.mp hc with rfl | hc
  · decide
  · rw [List.eq_of_mem_replicate hc]
    decide

section Lines
variable {level : Nat} {after : Text}

theorem writes_prettyItems (hafter : Gap after) {item : Json} {list : List Json}
    (h : ∀ j ∈ item :: list, Writes (prettyAt level j) (.value j)) :
    Writes (newLine level ++ (prettyAt level item ++ (prettyItems level list ++ after)))
      (.items (item :: list)) := by
  induction list generalizing item with
  | nil =>
    exact .lastItem (.padded (gap_newLine level) (h item List.mem_cons_self) hafter)
  | cons next rest ih =>
    obtain ⟨hitem, hrest⟩ := List.forall_mem_cons.mp h
    have hitems := Writes.items (.padded (gap_newLine level) hitem gap_nil) (ih hrest)
    simpa [prettyItems] using hitems

theorem writes_prettyMember (hafter : Gap after) {pair : Text × Json}
    (h : Writes (prettyAt level pair.2) (.value pair.2)) :
    Writes (newLine level ++ (quoted pair.1 ++ (": ".toList ++ (prettyAt level pair.2 ++ after))))
      (.member pair) := by
  have hspace : Gap [' '] := gap_singleton rfl
  have hmember := Writes.member (gap_newLine level) (letters_flatMap false pair.1) gap_nil
    (.padded hspace h hafter)
  simpa [quoted] using hmember

theorem writes_prettyMembers (hafter : Gap after) {pair : Text × Json} {list : List (Text × Json)}
    (h : ∀ p ∈ pair :: list, Writes (prettyAt level p.2) (.value p.2)) :
    Writes (newLine level ++ (quoted pair.1 ++ (": ".toList ++ (prettyAt level pair.2 ++
      (prettyMembers level list ++ after))))) (.members (pair :: list)) := by
  induction list generalizing pair with
  | nil =>
    exact .lastMember (writes_prettyMember hafter (h pair List.mem_cons_self))
  | cons next rest ih =>
    obtain ⟨hpair, hrest⟩ := List.forall_mem_cons.mp h
    have hmembers := Writes.members (writes_prettyMember gap_nil hpair) (ih hrest)
    simpa [prettyMembers] using hmembers

end Lines

/-- **A document with one item a line writes the document**, at every level. -/
theorem WellFormed.writes_prettyAt {j : Json} (h : j.WellFormed) (level : Nat) :
    Writes (prettyAt level j) (.value j) := by
  induction h generalizing level with
  | null => exact .null
  | bool b => exact writes_boolToken b
  | number h => exact .number h
  | string t => exact writes_quoted t
  | @array list _ ih =>
    cases list with
    | nil => exact .emptyArray gap_nil
    | cons item rest =>
      have harray := Writes.array
        (writes_prettyItems (gap_newLine level) fun j hj => ih j hj (level + 1))
      simpa [prettyAt] using harray
  | @object list _ ih =>
    cases list with
    | nil => exact .emptyObject gap_nil
    | cons pair rest =>
      have hobject := Writes.object
        (writes_prettyMembers (gap_newLine level) fun p hp => ih p hp (level + 1))
      simpa [prettyAt] using hobject

theorem WellFormed.writes_pretty {j : Json} (h : j.WellFormed) : Writes j.pretty (.value j) :=
  h.writes_prettyAt 0

-- the two layouts of one document
example :
    let j := array [.string "a\"".toList, .array []]
    j.compact = "[\"a\\\"\",[]]".toList ∧ j.pretty = "[\n  \"a\\\"\",\n  []\n]".toList := by
  decide

end PlanetScript.Json
