import ReportGrid.Proofs.PayloadFences
import ReportGrid.Proofs.ReadValues
import ReportGrid.Proofs.RefusedDocuments
import ReportGrid.Proofs.WrittenParts

/-!
# Payloads as texts and as values

A value that is printed, compact or laid out, is read again as a payload text with the same result
as the value itself (`Payload.ofText_printed`).  For an object this is reading after printing: the
text is strict, and since it starts with a brace it is never taken for a code block.

A value of another kind is refused as a value, while its text has no sections.  The text need not
be readable for that: a strict reader gives a tree of the same kind, and a relaxed one finds no
brace at the start (`Document.root_ne_object`).
-/

namespace ReportGrid

/-- A strict numeral starts with a minus sign or a digit. -/
theorem Numeral.IsStrict.exists_cons_text {n : Numeral} (h : n.IsStrict) :
    ∃ c rest, n.text = c :: rest ∧ (c = '-' ∨ c.isDigit = true) := by
  obtain ⟨sign, magnitude⟩ := n
  obtain ⟨hsign, hmagnitude⟩ := h
  cases magnitude with
  | decimal whole fraction exponent =>
      obtain ⟨c, digits, rfl⟩ := List.exists_cons_of_ne_nil hmagnitude.1.ne_nil
      rcases sign with _ | _ | _
      · exact ⟨c, _, rfl, Or.inr (hmagnitude.1.isDigit c List.mem_cons_self)⟩
      · exact absurd rfl hsign
      · exact ⟨'-', _, rfl, Or.inl rfl⟩
  | _ => exact hmagnitude.elim

namespace Json

/-- The characters that the text of a value may start with. -/
def openings : List Char :=
  "\"-[\x7bntf0123456789".toList

/-- The first character of a text tells whether the value is an object. -/
theorem exists_cons_writeWith (last : Bool) (v : Json) (layout : Option Nat) :
    ∃ c rest, v.writeWith last layout = c :: rest ∧ c ∈ openings ∧
      (c = '\x7b' → ∃ fields, v = .object fields) := by
  have hdigits : ∀ d ∈ "0123456789".toList, d ∈ openings ∧ d ≠ '\x7b' :=
    List.all_iff_forall_prop.mp (by decide)
  match v with
  | .null => exact ⟨'n', "ull".toList, rfl, by decide, fun h => absurd h (by decide)⟩
  | .bool true => exact ⟨'t', "rue".toList, rfl, by decide, fun h => absurd h (by decide)⟩
  | .bool false => exact ⟨'f', "alse".toList, rfl, by decide, fun h => absurd h (by decide)⟩
  | .string s => exact ⟨'"', _, rfl, by decide, fun h => absurd h (by decide)⟩
  | .array [] => exact ⟨'[', _, rfl, by decide, fun h => absurd h (by decide)⟩
  | .array (_ :: _) => exact ⟨'[', _, rfl, by decide, fun h => absurd h (by decide)⟩
  | .object [] => exact ⟨'\x7b', _, rfl, by decide, fun _ => ⟨_, rfl⟩⟩
  | .object (_ :: _) => exact ⟨'\x7b', _, rfl, by decide, fun _ => ⟨_, rfl⟩⟩
  | .number n =>
      obtain ⟨c, rest, htext, hc⟩ := n.isStrict_numeral.exists_cons_text
      rw [writeWith, Number.text, htext]
      rcases hc with rfl | hc
      · exact ⟨'-', rest, rfl, by decide, fun h => absurd h (by decide)⟩
      · have hdigit := hdigits c (mem_of_isDigit hc)
        exact ⟨c, rest, rfl, hdigit.1, fun h => absurd h hdigit.2⟩

/-- The value of a tree is an object only if the tree is one. -/
theorem exists_object_of_json {d : Dialect} {room : Room} {t : Tree}
    {fields : List (String × Json)} (h : t.json d room = .ok (.object fields)) :
    ∃ found ending, t = .object found ending := by
  cases t with
  | object found ending => exact ⟨found, ending, rfl⟩
  | array items ending =>
      simp only [Tree.json, bind_eq_ok] at h
      obtain ⟨_, _, _, _, _, _, hvalue⟩ := h
      cases hvalue
  | number n =>
      simp only [Tree.json, Tree.quantity] at h
      rcases hq : d.quantity? n with _ | q
      · simp [hq, Except.map] at h
      · cases q <;> simp [hq, Except.map, Quantity.json] at h
  | text written => cases written <;> simp [Tree.json, Tree.content, Except.map] at h
  | _ => simp [Tree.json] at h

/-- The text of a value that is no object is read as no object, if it can be read. -/
theorem parse_write_ne_object {v : Json} (hv : ∀ fields, v ≠ .object fields) (d : Dialect)
    (layout : Option Nat) (fields : List (String × Json)) :
    parse d (v.write layout) ≠ .ok (.object fields) := by
  intro hparse
  obtain ⟨found, ending, hroot⟩ := exists_object_of_json (value_of_parse hparse).1
  cases d with
  | strict =>
      rw [Document.read_write] at hroot
      cases v with
      | object others => exact hv others rfl
      | _ => simp [tree] at hroot
  | relaxed =>
      obtain ⟨c, rest, hwrite, hc, hbrace⟩ := exists_cons_writeWith false v layout
      rw [writeWith_false] at hwrite
      have hall : ∀ d ∈ openings, Relaxed.isSpace d = false ∧ d ≠ '/' :=
        List.all_iff_forall_prop.mp (by decide)
      have hfirst : (Relaxed.scan c rest).1 ≠ .openObject := by
        apply Relaxed.scan_ne_openObject
        intro heq
        obtain ⟨others, hothers⟩ := hbrace heq
        exact hv others hothers
      apply Document.root_ne_object hfirst (Relaxed.tokens (Relaxed.scan c rest).2) found ending
      rw [← Relaxed.tokens_cons (hall c hc).1 (hall c hc).2, ← hwrite]
      exact hroot

end Json

namespace Payload

/-- The text of a value is its own document: it is trimmed, and no value starts with a fence. -/
theorem body_writeWith (last : Bool) (v : Json) (layout : Option Nat) :
    body (v.writeWith last layout) = v.writeWith last layout := by
  apply body_of_not_fence (Json.isTight_writeWith last v layout).trim
  intro hfence
  obtain ⟨c, rest, hwrite, hc, -⟩ := v.exists_cons_writeWith last layout
  have hall : ∀ d ∈ Json.openings, d ≠ '\x60' := List.all_iff_forall_prop.mp (by decide)
  rw [hwrite] at hfence
  exact hall c hc (List.cons_prefix_cons.mp hfence).1.symm

theorem body_write (v : Json) (layout : Option Nat) : body (v.write layout) = v.write layout := by
  rw [← Json.writeWith_false, body_writeWith]

/-- An object that is printed is the document of its text. -/
theorem document?_write {v : Json} (h : v.Fits .strict) (hdepth : v.depth ≤ 127)
    {layout : Option Nat} {text : List Char} (htext : body text = v.write layout) :
    document? text = some v := by
  simp only [document?, htext, Json.parse_write h hdepth]

/-- The compact text of a value has the document that its tree is read as. -/
theorem document?_compact {v document : Json}
    (h : v.tree.json .strict Dialect.strict.room = .ok document) :
    document? v.compact.toList = some document := by
  have hbody : body v.compact.toList = v.write none := by
    rw [Json.compact, String.toList_ofList, body_write]
  rw [document?, hbody, Json.parse_of_read (Document.read_write v none), h]

/-- A value of another kind is not the document of an object. -/
theorem document?_write_ne_object {v : Json} (hv : ∀ fields, v ≠ .object fields)
    {layout : Option Nat} {text : List Char} (htext : body text = v.write layout)
    (fields : List (String × Json)) : document? text ≠ some (.object fields) := by
  unfold document?
  rw [htext]
  cases hstrict : Json.parse .strict (v.write layout) with
  | ok w =>
      rintro ⟨⟩
      exact Json.parse_write_ne_object hv .strict layout fields hstrict
  | error fault =>
      cases hrelaxed : Json.parse .relaxed (v.write layout) with
      | error fault => simp [Except.toOption]
      | ok w =>
          rintro ⟨⟩
          exact Json.parse_write_ne_object hv .relaxed layout fields hrelaxed

/-- **Reading a text agrees with reading a value.**  The compact and the laid out text of a value,
with any blanks around it, has the sections of the value if that is an object.  Any other value is
refused, and its text has no sections. -/
theorem ofText_printed (v : Json) {before text after : String}
    (htext : text = v.compact ∨ text = v.pretty)
    (hbefore : ∀ c ∈ before.toList, Text.isBlank c = true)
    (hafter : ∀ c ∈ after.toList, Text.isBlank c = true) :
    (∀ fields, v = .object fields → v.Fits .strict → v.depth ≤ 127 →
      sections? v = .ok (ofText (before ++ text ++ after))) ∧
    ((∀ fields, v ≠ .object fields) →
      sections? v = .error (.notObject v.kindName) ∧
        ofText (before ++ text ++ after) = .empty) := by
  obtain ⟨layout, hlayout⟩ : ∃ layout, text.toList = v.write layout := by
    rcases htext with rfl | rfl
    · exact ⟨none, String.toList_ofList⟩
    · exact ⟨some 0, String.toList_ofList⟩
  have hbody : body (before ++ text ++ after).toList = v.write layout := by
    rw [String.toList_append, String.toList_append, body_pad _ hbefore hafter, hlayout, body_write]
  constructor
  · rintro fields rfl hfits hdepth
    have hdocument := document?_write hfits hdepth hbody
    rw [sections?, ofText_eq_of_document? hdocument rfl]
  · intro hv
    refine ⟨?_, ofText_eq_empty (document?_write_ne_object hv hbody)⟩
    cases v with
    | object fields => exact absurd rfl (hv fields)
    | _ => rfl

/-- A payload with the integers at both ends of their range and a code block in a string. -/
def edges : List (String × Json) :=
  [("counts", .array [.int (-9223372036854775808), .int 18446744073709551615]),
    ("sections", .array [.object [("content", .string "\x60\x60\x60\n\x60\x60\x60"),
      ("shortcode", .string "a")]])]

/-- Its text is read like the value itself, and an array around it is refused. -/
theorem ofText_printed_edges :
    (Json.object edges).Fits .strict ∧ (Json.object edges).depth ≤ 127 ∧
      sections? (.object edges) = .ok (ofText ("\n" ++ (Json.object edges).pretty ++ " ")) ∧
      (∀ fields, Json.array [.object edges] ≠ .object fields) ∧
      sections? (.array [.object edges]) = .error (.notObject "an array") ∧
      ofText ("\n" ++ (Json.array [.object edges]).compact ++ " ") = .empty := by
  have hcounts : (Json.array [.int (-9223372036854775808), .int 18446744073709551615]).Fits
      .strict := by
    refine .array ?_
    simp only [List.forall_mem_cons, List.not_mem_nil, false_implies, implies_true, and_true]
    exact ⟨.int (by simp [Dialect.KeepsInt]), .int (by simp [Dialect.KeepsInt])⟩
  have hrecord : (Json.object [("content", .string "\x60\x60\x60\n\x60\x60\x60"),
      ("shortcode", .string "a")]).Fits .strict := by
    refine .object (by decide) (fun _ _ => trivial) ?_
    simp only [List.forall_mem_cons, List.not_mem_nil, false_implies, implies_true, and_true]
    exact ⟨.string trivial, .string trivial⟩
  have hfits : (Json.object edges).Fits .strict := by
    refine .object (by decide) (fun _ _ => trivial) ?_
    simp only [edges, List.forall_mem_cons, List.not_mem_nil, false_implies, implies_true,
      and_true]
    exact ⟨hcounts, .array (by simpa using hrecord)⟩
  have hdepth : (Json.object edges).depth ≤ 127 := by decide
  have harray : ∀ fields, Json.array [.object edges] ≠ .object fields := by simp
  have hline : ∀ c ∈ "\n".toList, Text.isBlank c = true :=
    List.all_iff_forall_prop.mp (by decide)
  have hblank : ∀ c ∈ " ".toList, Text.isBlank c = true :=
    List.all_iff_forall_prop.mp (by decide)
  have hobject := ofText_printed (.object edges) (Or.inr rfl) hline hblank
  have hother := ofText_printed (.array [.object edges]) (Or.inl rfl) hline hblank
  exact ⟨hfits, hdepth, hobject.1 _ rfl hfits hdepth, harray, hother.2 harray⟩

end Payload

end ReportGrid
