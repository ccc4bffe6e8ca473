import ReportGrid.Proofs.WrittenPayloads

/-!
# Payloads with last commas

A comma in front of a closing mark makes a text a relaxed document.  A strict reader refuses it: no
document in which a closing mark follows a comma has a value (`Document.noValue_of_comma_close`).
The relaxed reader then gives back the value that was written, since it has no limit on how deeply a
document is nested (`Payload.document?_writeWith`).
-/

namespace ReportGrid

/-! ## Texts with last commas -/

namespace Json

/-- An object that is not empty ends with a comma and its closing mark. -/
theorem exists_tokens_object (field : String × Json) (fields : List (String × Json)) :
    ∃ before, (object (field :: fields)).tokens true = before ++ [.comma, .closeObject] :=
  ⟨_, rfl⟩

/-- **The strict reader refuses last commas.** -/
theorem parse_strict_writeWith (field : String × Json) (fields : List (String × Json))
    (layout : Option Nat) (v : Json) :
    parse .strict ((object (field :: fields)).writeWith true layout) ≠ .ok v := by
  obtain ⟨before, hbefore⟩ := exists_tokens_object field fields
  apply parse_ne_ok
  rw [Document.read, (Strict.isCut _).tokens_eq, hbefore]
  exact Document.noValue_of_comma_close before [] (Or.inr rfl)

/-- Relaxed documents cut off the numbers and texts of a value that they can hold. -/
theorem Fits.isCut {v : Json} (h : v.Fits .relaxed) : v.IsCut .relaxed := by
  induction h with
  | null => exact .null
  | bool value => exact .bool value
  | int h => exact .number fun _ hrest => Relaxed.tokens_ofInt _ hrest
  | string h => exact .string (Relaxed.tokens_quote h)
  | array h ih => exact .array ih
  | object sorted names values ih =>
      exact .object (fun field hfield => Relaxed.tokens_quote (names field hfield)) ih

/-- **The relaxed reader gives the value back**, with or without last commas, at any depth. -/
theorem parse_relaxed_writeWith {v : Json} (h : v.Fits .relaxed) (last : Bool)
    (layout : Option Nat) : parse .relaxed (v.writeWith last layout) = .ok v := by
  rw [parse_of_read (Document.read_writeWith (fun _ => rfl) h.isCut layout)]
  apply json_tree v h
  rintro _ ⟨⟩

end Json

namespace Payload

/-- An object with last commas is the document of its text.  Without a field there is no comma. -/
theorem document?_writeWith {fields : List (String × Json)}
    (h : (Json.object fields).Fits .relaxed) (layout : Option Nat) :
    document? ((Json.object fields).writeWith true layout) = some (.object fields) := by
  have hrelaxed := Json.parse_relaxed_writeWith h true layout
  unfold document?
  rw [body_writeWith]
  cases fields with
  | nil =>
      have hempty : (Json.object []).Fits .strict := .object .nil (by simp) (by simp)
      have hstrict := Json.parse_write hempty (by decide) layout
      change Json.parse .strict ((Json.object []).writeWith true layout) = _ at hstrict
      rw [hstrict]
  | cons field fields =>
      cases hstrict : Json.parse .strict
          ((Json.object (field :: fields)).writeWith true layout) with
      | ok v => exact absurd hstrict (Json.parse_strict_writeWith field fields layout v)
      | error fault => simp [hrelaxed, Except.toOption]

/-- **Relaxed texts agree with values.**  The text of an object with a comma before the closing mark
of every array and object that is not empty has the sections of the object, however deeply it is
nested. -/
theorem ofText_lastCommas {fields : List (String × Json)}
    (h : (Json.object fields).Fits .relaxed) (layout : Option Nat) :
    sections? (.object fields) =
      .ok (ofText (String.ofList ((Json.object fields).writeWith true layout))) := by
  have hdocument : document? (String.ofList ((Json.object fields).writeWith true layout)).toList =
      some (.object fields) := by
    rw [String.toList_ofList, document?_writeWith h]
  rw [sections?, ofText_eq_of_document? hdocument rfl]

/-- Arrays one inside the other. -/
def nested : Nat → Json
  | 0 => .array []
  | n + 1 => .array [nested n]

theorem fits_nested (d : Dialect) (n : Nat) : (nested n).Fits d := by
  induction n with
  | zero => exact .array (by simp)
  | succ n ih => exact .array (by simpa using ih)

theorem depth_nested (n : Nat) : (nested n).depth = n + 1 := by
  induction n with
  | zero => rfl
  | succ n ih => simp [nested, Json.depth, Json.depthOfItems, ih]

/-- A payload that is nested more deeply than strict documents may be. -/
def deep : List (String × Json) :=
  [("notes", nested 200),
    ("sections", .array [.object [("content", .string "x"), ("shortcode", .string "a")]])]

/-- It is read from its relaxed text. -/
theorem ofText_lastCommas_deep :
    (Json.object deep).Fits .relaxed ∧ 127 < (Json.object deep).depth ∧
      sections? (.object deep) =
        .ok (ofText (String.ofList ((Json.object deep).writeWith true none))) := by
  have hrecord : (Json.object [("content", .string "x"), ("shortcode", .string "a")]).Fits
      .relaxed := by
    refine .object (by decide) (by simp [Dialect.KeepsText]) ?_
    simp only [List.forall_mem_cons, List.not_mem_nil, false_implies, implies_true, and_true]
    exact ⟨.string (by simp [Dialect.KeepsText]), .string (by simp [Dialect.KeepsText])⟩
  have hfits : (Json.object deep).Fits .relaxed := by
    refine .object (by decide) (by simp [deep, Dialect.KeepsText]) ?_
    simp only [deep, List.forall_mem_cons, List.not_mem_nil, false_implies, implies_true, and_true]
    exact ⟨fits_nested .relaxed 200, .array (by simpa using hrecord)⟩
  have hdepth : 127 < (Json.object deep).depth := by
    simp only [deep, Json.depth, Json.depthOfFields, depth_nested]
    omega
  exact ⟨hfits, hdepth, ofText_lastCommas hfits none⟩

end Payload

end ReportGrid
