import ReportGrid.Proofs.BracketWalk
import ReportGrid.Proofs.TextCutting

/-!
# The texts of the parts of a document

The text of a document holds the texts of its items and fields.  `Json.itemTexts` and
`Json.fieldText?` find them in the characters alone, by counting brackets outside strings, and
`Json.squeeze` takes away the blanks outside strings.

In the text of a value they find what is written for its parts: `Json.itemTexts_write_array`,
`Json.fieldText?_write` and `Json.squeeze_write`.
-/

namespace ReportGrid

namespace Json

/-- The text of a document without the blanks outside strings. -/
def squeeze (s : List Char) : List Char :=
  (Spot.outside 0).squeeze s

/-- The texts of the items of an array or of the fields of an object: what stands between its
brackets, cut at the commas of its own. -/
def itemTexts (s : List Char) : List (List Char) :=
  (((Spot.outside 0).cut ',' s.tail.dropLast).map Text.trim).filter (· ≠ [])

/-- The text of the value of a field, where the text of a field is given. -/
def valueText? (name : String) (field : List Char) : Option (List Char) :=
  match (Spot.outside 0).cut ':' field with
  | [key, value] => if Text.trim key = quote name.toList then some (Text.trim value) else none
  | _ => none

/-- The text of the value of a field of an object. -/
def fieldText? (name : String) (s : List Char) : Option (List Char) :=
  (itemTexts s).findSome? (valueText? name)

end Json

/-! ## Texts without blanks at their ends -/

/-- A text that neither starts nor ends with a blank. -/
structure IsTight (s : List Char) : Prop where
  ne_nil : s ≠ []
  first : ∀ c, s.head? = some c → Text.isBlank c = false
  last : ∀ c, s.getLast? = some c → Text.isBlank c = false

namespace IsTight

theorem trim {s : List Char} (h : IsTight s) : Text.trim s = s :=
  Text.trim_eq_self h.first h.last

/-- Only the ends of a text count. -/
theorem append {s t : List Char} (hs : IsTight s) (ht : IsTight t) (middle : List Char) :
    IsTight (s ++ (middle ++ t)) where
  ne_nil := by simp [hs.ne_nil]
  first := by
    intro c hc
    rw [head?_append_left hs.ne_nil] at hc
    exact hs.first c hc
  last := by
    intro c hc
    rw [List.getLast?_append_of_ne_nil _ (by simp [ht.ne_nil]),
      List.getLast?_append_of_ne_nil _ ht.ne_nil] at hc
    exact ht.last c hc

theorem of_isPlain {s : List Char} (hne : s ≠ []) (h : ∀ c ∈ s, Spot.isPlain c = true) :
    IsTight s := by
  have hblank : ∀ c ∈ s, Text.isBlank c = false := by
    intro c hc
    have hplain := h c hc
    simp only [Spot.isPlain, Bool.and_eq_true, Bool.not_eq_true'] at hplain
    exact hplain.1.1
  exact ⟨hne, fun c hc => hblank c (List.mem_of_head? hc),
    fun c hc => hblank c (List.mem_of_getLast? hc)⟩

theorem singleton {c : Char} (h : Text.isBlank c = false) : IsTight [c] :=
  ⟨List.cons_ne_nil _ _, by simp [h], by simp [h]⟩

end IsTight

theorem Numeral.IsStrict.text_ne_nil {n : Numeral} (h : n.IsStrict) : n.text ≠ [] := by
  obtain ⟨sign, magnitude⟩ := n
  cases magnitude with
  | decimal whole fraction exponent =>
      have hwhole := h.2.1.ne_nil
      change _ ++ (whole ++ _ ++ _) ≠ []
      simp [hwhole]
  | _ => exact h.2.elim

namespace Json

theorem isTight_quote (s : List Char) : IsTight (quote s) := by
  have hmark : IsTight ['"'] := .singleton (by decide)
  exact hmark.append hmark (s.flatMap escapeChar)

theorem isTight_writeWith (last : Bool) (v : Json) (layout : Option Nat) :
    IsTight (v.writeWith last layout) := by
  have hword : ∀ {s : List Char}, s ≠ [] → s.all Spot.isPlain = true → IsTight s := fun hne h =>
    .of_isPlain hne (List.all_eq_true.mp h)
  have hopen : IsTight ['['] := .singleton (by decide)
  have hclose : IsTight [']'] := .singleton (by decide)
  have hopenBrace : IsTight ['\x7b'] := .singleton (by decide)
  have hcloseBrace : IsTight ['\x7d'] := .singleton (by decide)
  cases v with
  | null => exact hword (s := "null".toList) (by decide) (by decide)
  | bool value =>
      cases value with
      | true => exact hword (s := "true".toList) (by decide) (by decide)
      | false => exact hword (s := "false".toList) (by decide) (by decide)
  | number n =>
      exact .of_isPlain n.isStrict_numeral.text_ne_nil
        fun _ => n.isStrict_numeral.isPlain_of_mem_text
  | string s => exact isTight_quote s.toList
  | array items =>
      cases items with
      | nil => exact hopen.append hclose []
      | cons item rest => exact hopen.append hclose _
  | object fields =>
      cases fields with
      | nil => exact hopenBrace.append hcloseBrace []
      | cons field rest => exact hopenBrace.append hcloseBrace _

theorem isTight_write (v : Json) (layout : Option Nat) : IsTight (v.write layout) := by
  rw [← writeWith_false]
  exact isTight_writeWith false v layout

/-! ## Items and fields -/

/-- The text of a field. -/
def writeField (layout : Option Nat) (field : String × Json) : List Char :=
  quote field.1.toList ++ (fieldMark layout ++ field.2.write layout)

theorem writeItems_eq_flatMap (layout : Option Nat) (items : List Json) :
    writeItems layout items =
      (items.map (write layout)).flatMap fun t => ',' :: (gap layout ++ t) := by
  induction items with
  | nil => rfl
  | cons item rest ih => simp [writeItems, ih]

theorem writeFields_eq_flatMap (layout : Option Nat) (fields : List (String × Json)) :
    writeFields layout fields =
      (fields.map (writeField layout)).flatMap fun t => ',' :: (gap layout ++ t) := by
  induction fields with
  | nil => rfl
  | cons field rest ih => simp [writeFields, writeField, ih]

theorem isBlank_of_mem_gap {layout : Option Nat} {c : Char} (h : c ∈ gap layout) :
    Text.isBlank c = true := by
  cases layout with
  | none => exact absurd h List.not_mem_nil
  | some depth =>
      rcases List.mem_cons.mp h with rfl | h
      · decide
      · rw [List.eq_of_mem_replicate h]
        decide

/-- Whether a text outside brackets is not cut at a mark. -/
def IsQuiet (mark : Char) (s : List Char) : Prop :=
  ∀ rest, (Spot.outside 0).cut mark (s ++ rest) =
    Spot.prepend s ((Spot.outside 0).cut mark rest)

namespace IsQuiet

variable {mark : Char} {s t : List Char}

theorem of_passes {kept : List Char} (h : Spot.Passes (.outside 0) (.outside 0) s kept)
    (hmark : mark ∈ [',', ':']) : IsQuiet mark s :=
  h.cut mark hmark

theorem append (hs : IsQuiet mark s) (ht : IsQuiet mark t) : IsQuiet mark (s ++ t) := by
  intro rest
  rw [List.append_assoc, hs, ht, Spot.prepend_append]

/-- A mark ends the piece before it. -/
theorem cut_mark (h : IsQuiet mark s) (rest : List Char) :
    (Spot.outside 0).cut mark (s ++ mark :: rest) = s :: (Spot.outside 0).cut mark rest := by
  have hcut : (Spot.outside 0).cut mark (mark :: rest) = [] :: (Spot.outside 0).cut mark rest :=
    if_pos ⟨rfl, rfl⟩
  rw [h, hcut, Spot.prepend, List.append_nil]

/-- A text without marks of its own is one piece. -/
theorem cut_end (h : IsQuiet mark s) : (Spot.outside 0).cut mark s = [s] := by
  have hcut := h []
  rwa [List.append_nil, Spot.cut, Spot.prepend, List.append_nil] at hcut

end IsQuiet

theorem isQuiet_gap {mark : Char} (h : mark ∈ [',', ':']) (layout : Option Nat) :
    IsQuiet mark (gap layout) :=
  .of_passes (Spot.passes_gap layout 0) h

theorem isQuiet_quote {mark : Char} (h : mark ∈ [',', ':']) (s : List Char) :
    IsQuiet mark (quote s) :=
  .of_passes (Spot.passes_quote s 0) h

theorem isQuiet_write {mark : Char} (h : mark ∈ [',', ':']) (v : Json) (layout : Option Nat) :
    IsQuiet mark (v.write layout) :=
  .of_passes (Spot.passes_write v layout 0) h

/-- Texts with commas between them are found again, up to the blanks around them. -/
theorem map_trim_cut (outer inner : Option Nat) {first : List Char} {texts : List (List Char)}
    (h : ∀ t ∈ first :: texts, IsQuiet ',' t) :
    ((Spot.outside 0).cut ',' (gap inner ++ first ++
        (texts.flatMap (fun t => ',' :: (gap inner ++ t)) ++ gap outer))).map Text.trim =
      (first :: texts).map Text.trim := by
  have hgap : ∀ layout, IsQuiet ',' (gap layout) := isQuiet_gap (by decide)
  have hfirst : IsQuiet ',' (gap inner ++ first) :=
    (hgap inner).append (h first List.mem_cons_self)
  have htrim : Text.trim (gap inner ++ first) = Text.trim first :=
    Text.trim_blanks_append first fun _ => isBlank_of_mem_gap
  -- What stands after the last comma belongs to the last text, so the outer gap is cut off with it.
  induction texts generalizing first with
  | nil =>
      rw [List.flatMap_nil, List.nil_append,
        (hfirst.append (hgap outer)).cut_end, List.map_singleton,
        Text.trim_append_blanks _ fun _ => isBlank_of_mem_gap, htrim]
      rfl
  | cons next texts ih =>
      obtain ⟨-, hrest⟩ := List.forall_mem_cons.mp h
      have hnext : IsQuiet ',' (gap inner ++ next) :=
        (hgap inner).append (hrest next List.mem_cons_self)
      rw [List.flatMap_cons, List.cons_append, List.cons_append, hfirst.cut_mark,
        List.map_cons, htrim, List.append_assoc (gap inner ++ next),
        ih hrest hnext (Text.trim_blanks_append next fun _ => isBlank_of_mem_gap)]
      rfl

/-- The texts between two brackets are found again. -/
theorem itemTexts_texts (opening closing : Char) (outer inner : Option Nat) (first : List Char)
    (texts : List (List Char)) (h : ∀ t ∈ first :: texts, IsQuiet ',' t ∧ IsTight t) :
    itemTexts (opening :: (gap inner ++ first ++
        (texts.flatMap (fun t => ',' :: (gap inner ++ t)) ++ gap outer)) ++ [closing]) =
      first :: texts := by
  have htrim : (first :: texts).map Text.trim = first :: texts :=
    (List.map_congr_left fun t ht => (h t ht).2.trim).trans (List.map_id _)
  have hfilter : (first :: texts).filter (· ≠ []) = first :: texts :=
    List.filter_eq_self.mpr fun t ht => by simpa using (h t ht).2.ne_nil
  rw [itemTexts, List.cons_append, List.tail_cons, List.dropLast_concat,
    map_trim_cut outer inner fun t ht => (h t ht).1, htrim, hfilter]

/-- **Items.**  The texts of the items of an array are found in its text. -/
theorem itemTexts_write_array (items : List Json) (layout : Option Nat) :
    itemTexts ((Json.array items).write layout) =
      items.map (write (layout.map (· + 1))) := by
  cases items with
  | nil => rfl
  | cons item rest =>
      have hparts : ∀ t ∈ item.write (layout.map (· + 1)) :: rest.map (write (layout.map (· + 1))),
          IsQuiet ',' t ∧ IsTight t := by
        rw [← List.map_cons (f := write (layout.map (· + 1)))]
        intro t ht
        obtain ⟨v, -, rfl⟩ := List.mem_map.mp ht
        exact ⟨isQuiet_write (by decide) v _, isTight_write v _⟩
      have hitems := itemTexts_texts '[' ']' layout (layout.map (· + 1)) _ _ hparts
      simpa [write, writeItems_eq_flatMap] using hitems

/-- What stands between a name and its value is a colon and blanks. -/
theorem fieldMark_eq (layout : Option Nat) :
    ∃ blanks, fieldMark layout = ':' :: blanks ∧
      (∀ mark ∈ [',', ':'], IsQuiet mark blanks) ∧ ∀ c ∈ blanks, Text.isBlank c = true := by
  cases layout with
  | none => exact ⟨[], rfl, fun _ h => .of_passes (.nil _) h, by simp⟩
  | some depth =>
      refine ⟨[' '], rfl, fun _ h => .of_passes (Spot.passes_blank (by decide) 0) h, ?_⟩
      intro c hc
      obtain rfl := List.mem_singleton.mp hc
      decide

/-- What stands between a name and its value only depends on whether the text is laid out. -/
theorem fieldMark_map (layout : Option Nat) :
    fieldMark (layout.map (· + 1)) = fieldMark layout := by
  cases layout <;> rfl

/-- A field is not cut at commas. -/
theorem isQuiet_writeField (layout : Option Nat) (field : String × Json) :
    IsQuiet ',' (writeField layout field) := by
  obtain ⟨blanks, hmark, hquiet, -⟩ := fieldMark_eq layout
  have hcolon : IsQuiet ',' [':'] := fun rest => Spot.cut_char (by decide) rest
  rw [writeField, hmark, List.cons_append, ← List.singleton_append]
  exact (isQuiet_quote (by decide) _).append
    (hcolon.append ((hquiet ',' (by decide)).append (isQuiet_write (by decide) _ _)))

theorem isTight_writeField (layout : Option Nat) (field : String × Json) :
    IsTight (writeField layout field) :=
  (isTight_quote _).append (isTight_write _ _) _

/-- **Fields.**  The texts of the fields of an object are found in its text. -/
theorem itemTexts_write_object (fields : List (String × Json)) (layout : Option Nat) :
    itemTexts ((Json.object fields).write layout) =
      fields.map (writeField (layout.map (· + 1))) := by
  match fields with
  | [] => rfl
  | field :: rest =>
      have hparts : ∀ t ∈ writeField (layout.map (· + 1)) field ::
          rest.map (writeField (layout.map (· + 1))), IsQuiet ',' t ∧ IsTight t := by
        rw [← List.map_cons (f := writeField (layout.map (· + 1)))]
        intro t ht
        obtain ⟨f, -, rfl⟩ := List.mem_map.mp ht
        exact ⟨isQuiet_writeField _ f, isTight_writeField _ f⟩
      have hitems := itemTexts_texts '\x7b' '\x7d' layout (layout.map (· + 1)) _ _ hparts
      simpa [write, writeFields_eq_flatMap, writeField, fieldMark_map] using hitems

/-- Quoted texts are told apart. -/
theorem quote_injective {s t : List Char} (h : quote s = quote t) : s = t := by
  have hs := Strict.tokens_quote s []
  have ht := Strict.tokens_quote t []
  rw [h, ht] at hs
  exact (String.ofList_injective (Option.some.inj (Token.text.inj (List.cons.inj hs).1))).symm

/-- The value of a field is found in the text of the field. -/
theorem valueText?_writeField (name : String) (layout : Option Nat) (field : String × Json) :
    valueText? name (writeField layout field) =
      if field.1 = name then some (field.2.write layout) else none := by
  obtain ⟨blanks, hmark, hquiet, hblank⟩ := fieldMark_eq layout
  have hcut : (Spot.outside 0).cut ':' (writeField layout field) =
      [quote field.1.toList, blanks ++ field.2.write layout] := by
    rw [writeField, hmark, List.cons_append, (isQuiet_quote (by decide) _).cut_mark,
      ((hquiet ':' (by decide)).append (isQuiet_write (by decide) _ _)).cut_end]
  have hname : quote field.1.toList = quote name.toList ↔ field.1 = name := by
    constructor
    · intro h
      exact String.toList_injective (quote_injective h)
    · rintro rfl
      rfl
  rw [valueText?, hcut]
  dsimp only
  rw [(isTight_quote _).trim, Text.trim_blanks_append _ hblank, (isTight_write _ _).trim]
  simp only [hname]

/-- **One field.**  The text of the value of a field is found in the text of the object. -/
theorem fieldText?_write (name : String) (fields : List (String × Json)) (layout : Option Nat) :
    fieldText? name ((Json.object fields).write layout) =
      (lookup name fields).map (write (layout.map (· + 1))) := by
  rw [fieldText?, itemTexts_write_object]
  induction fields with
  | nil => rfl
  | cons field rest ih =>
      rw [List.map_cons, List.findSome?_cons, valueText?_writeField, ih]
      by_cases h : field.1 = name
      · simp [lookup, h]
      · simp [lookup, h]

/-- **Blanks.**  Without its blanks the text of a value is the compact one. -/
theorem squeeze_write (v : Json) (layout : Option Nat) :
    squeeze (v.write layout) = v.write none := by
  have hpasses := (Spot.passes_write v layout 0).squeeze []
  rwa [List.append_nil, Spot.squeeze, List.append_nil] at hpasses

example : squeeze "[1, \"a b\"]".toList = "[1,\"a b\"]".toList := by decide

end Json

end ReportGrid
