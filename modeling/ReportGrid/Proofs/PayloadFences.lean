import ReportGrid.Payload
import ReportGrid.Proofs.TextCutting

/-!
# Payloads in a code block

A payload text may stand between the fences of one Markdown code block.  `Payload.Fences` holds all
that may be written around it: blanks outside the block, a tag and blanks behind the opening fence,
and the ends of the two lines.

`Payload.body_text` says that what is read is exactly the text between the fences.  Nothing in that
text can move the cut.  The opening line is over at the first line end, since neither a tag nor the
blanks behind it have one, and the closing fence is the one at the end of everything.  The line end
in front of it is the written one, because a trimmed text has none at its end.
-/

namespace ReportGrid.Payload

/-! ## Texts and their documents -/

/-- The sections of a payload text are those of its document. -/
theorem ofText_eq_of_document? {text : String} {document : Json} {s : Sections}
    (hdocument : document? text.toList = some document) (hsections : sections? document = .ok s) :
    ofText text = s := by
  simp [ofText, hdocument, hsections]

/-- A text whose document is no object, or that has none, has no sections. -/
theorem ofText_eq_empty {text : String}
    (h : ∀ fields, document? text.toList ≠ some (.object fields)) : ofText text = .empty := by
  unfold ofText
  cases hdocument : document? text.toList with
  | none => rfl
  | some document =>
      cases document with
      | object fields => exact absurd hdocument (h fields)
      | _ => rfl

/-- Texts that hold the same document have the same sections. -/
theorem ofText_congr {s t : String} (h : body s.toList = body t.toList) : ofText s = ofText t := by
  simp only [ofText, document?, h]

/-- Blanks around a text are not part of its document. -/
theorem body_pad {before after : List Char} (s : List Char)
    (hbefore : ∀ c ∈ before, Text.isBlank c = true)
    (hafter : ∀ c ∈ after, Text.isBlank c = true) : body (before ++ s ++ after) = body s := by
  simp only [body, Text.trim_pad s hbefore hafter]

/-- A text that does not start with a fence is its own document, up to the blanks at its ends. -/
theorem body_of_not_fence {s : List Char} (htrim : Text.trim s = s) (h : ¬ fence <+: s) :
    body s = s := by
  have hopening : Text.afterOpening? fence s = none := by
    rw [Option.eq_none_iff_forall_ne_some]
    intro rest hrest
    exact h ⟨rest, (Text.afterOpening?_eq_some_iff.mp hrest).symm⟩
  have hunfenced : unfenced? s = none := by
    simp [unfenced?, hopening]
  rw [body, htrim, hunfenced]
  rfl

/-! ## Code blocks -/

/-- All that may stand around the text of a code block. -/
structure Fences where
  before : List Char
  tag : List Char
  blanks : List Char
  lineEnd : List Char
  closingEnd : List Char
  after : List Char
  before_blank : ∀ c ∈ before, Text.isBlank c = true
  tag_chars : ∀ c ∈ tag, isTagChar c = true
  blanks_chars : ∀ c ∈ blanks, c = ' ' ∨ c = '\t'
  lineEnd_mem : lineEnd ∈ [['\n'], ['\r', '\n']]
  closingEnd_mem : closingEnd ∈ [[], ['\n'], ['\r'], ['\r', '\n']]
  after_blank : ∀ c ∈ after, Text.isBlank c = true

namespace Fences

/-- The code block, from its opening fence to its closing one. -/
def block (f : Fences) (inside : List Char) : List Char :=
  fence ++ (f.tag ++ (f.blanks ++ (f.lineEnd ++ (inside ++ f.closingEnd ++ fence))))

/-- The code block with the blanks around it. -/
def text (f : Fences) (inside : List Char) : List Char :=
  f.before ++ f.block inside ++ f.after

end Fences

/-! ## The two lines of the fences -/

/-- The line end of the opening line is passed over. -/
theorem afterLineEnd?_append {lineEnd : List Char} (h : lineEnd ∈ [['\n'], ['\r', '\n']])
    (rest : List Char) : afterLineEnd? (lineEnd ++ rest) = some rest := by
  simp only [List.mem_cons, List.not_mem_nil, or_false] at h
  rcases h with rfl | rfl <;> rfl

/-- A line end starts with no character of a tag and with no blank of the opening line. -/
theorem head?_lineEnd {lineEnd : List Char} (h : lineEnd ∈ [['\n'], ['\r', '\n']])
    (rest : List Char) {c : Char} (hc : (lineEnd ++ rest).head? = some c) :
    c = '\n' ∨ c = '\r' := by
  simp only [List.mem_cons, List.not_mem_nil, or_false] at h
  rcases h with rfl | rfl
  · exact Or.inl (Option.some.inj hc).symm
  · exact Or.inr (Option.some.inj hc).symm

/-- **The closing line end.**  Where no blank stands at the end of a text, the line end behind it is
taken off as it was written. -/
theorem dropLineEnd_append {inside closingEnd : List Char}
    (hinside : ∀ c, inside.getLast? = some c → Text.isBlank c = false)
    (h : closingEnd ∈ [[], ['\n'], ['\r'], ['\r', '\n']]) :
    dropLineEnd (inside ++ closingEnd) = inside := by
  have hkept : ∀ e, Text.isBlank e = true → Text.beforeEnding? [e] inside = none := by
    intro e he
    rw [Option.eq_none_iff_forall_ne_some]
    intro start hstart
    rw [Text.beforeEnding?_eq_some_iff] at hstart
    have hnot := hinside e (by simp [hstart])
    simp [he] at hnot
  have htaken : ∀ s e : List Char, Text.beforeEnding? e (s ++ e) = some s :=
    fun s e => Text.beforeEnding?_eq_some_iff.mpr rfl
  have hfeed := hkept '\n' (by decide)
  have hreturn := hkept '\r' (by decide)
  simp only [List.mem_cons, List.not_mem_nil, or_false] at h
  rcases h with rfl | rfl | rfl | rfl
  · simp [dropLineEnd, hfeed, hreturn]
  · simp [dropLineEnd, htaken, hreturn]
  · have hother : Text.beforeEnding? ['\n'] (inside ++ ['\r']) = none := by
      rw [Option.eq_none_iff_forall_ne_some]
      intro start hstart
      rw [Text.beforeEnding?_eq_some_iff] at hstart
      simp at hstart
    simp [dropLineEnd, htaken, hother]
  · have hsplit : inside ++ ['\r', '\n'] = (inside ++ ['\r']) ++ ['\n'] := by simp
    simp only [dropLineEnd, hsplit, htaken, Option.getD_some]

/-! ## The whole block -/

namespace Fences

variable (f : Fences)

theorem trim_block (inside : List Char) : Text.trim (f.block inside) = f.block inside := by
  have hlast : (f.block inside).getLast? = some '\x60' := by
    simp only [block, ← List.append_assoc, List.getLast?_append]
    rfl
  apply Text.trim_eq_self
  · intro c hc
    obtain rfl : '\x60' = c := Option.some.inj hc
    rfl
  · intro c hc
    obtain rfl : '\x60' = c := Option.some.inj (hlast.symm.trans hc)
    rfl

/-- Behind the opening fence, the tag ends before the blanks and the blanks before the line end. -/
theorem dropWhile_opening (rest : List Char) :
    ((f.tag ++ (f.blanks ++ (f.lineEnd ++ rest))).dropWhile isTagChar).dropWhile
      (fun c => c = ' ' || c = '\t') = f.lineEnd ++ rest := by
  have hblanks : ∀ c ∈ f.blanks, (decide (c = ' ') || decide (c = '\t')) = true := by
    intro c hc
    simpa using f.blanks_chars c hc
  have htag : ∀ c, (f.blanks ++ (f.lineEnd ++ rest)).head? = some c → isTagChar c = false := by
    intro c hc
    have hcases : (c = ' ' ∨ c = '\t') ∨ c = '\n' ∨ c = '\r' := by
      cases hnil : f.blanks with
      | nil => exact Or.inr (head?_lineEnd f.lineEnd_mem rest (by simpa [hnil] using hc))
      | cons d blanks =>
          obtain rfl : d = c := by simpa [hnil] using hc
          exact Or.inl (f.blanks_chars d (by simp [hnil]))
    rcases hcases with (rfl | rfl) | rfl | rfl <;> decide
  have hend : ∀ c, (f.lineEnd ++ rest).head? = some c →
      (decide (c = ' ') || decide (c = '\t')) = false := by
    intro c hc
    rcases head?_lineEnd f.lineEnd_mem rest hc with rfl | rfl <;> decide
  rw [(Text.span_append f.tag_chars htag).2, (Text.span_append hblanks hend).2]

/-- **What is read is what stands between the fences**, whatever that is. -/
theorem body_text {inside : List Char} (htrim : Text.trim inside = inside) :
    body (f.text inside) = inside := by
  have hinside : ∀ c, inside.getLast? = some c → Text.isBlank c = false := by
    intro c hc
    exact Text.getLast?_trim (htrim.symm ▸ hc)
  have hopening : Text.afterOpening? fence (f.block inside) =
      some (f.tag ++ (f.blanks ++ (f.lineEnd ++ (inside ++ f.closingEnd ++ fence)))) :=
    Text.afterOpening?_eq_some_iff.mpr rfl
  have hclosing : Text.beforeEnding? fence (inside ++ f.closingEnd ++ fence) =
      some (inside ++ f.closingEnd) :=
    Text.beforeEnding?_eq_some_iff.mpr rfl
  have hunfenced : unfenced? (f.block inside) = some inside := by
    simp only [unfenced?, hopening, Option.bind_eq_bind, Option.bind_some, dropWhile_opening,
      afterLineEnd?_append f.lineEnd_mem, hclosing,
      dropLineEnd_append hinside f.closingEnd_mem, Option.pure_def]
  rw [text, body_pad _ f.before_blank f.after_blank, body, f.trim_block, hunfenced]
  rfl

end Fences

/-- **One code block around a payload is invisible.**  A trimmed text that does not open a code
block itself has the same sections between fences as alone, whatever it holds: fences, blank lines,
or nothing at all. -/
theorem ofText_fenced (f : Fences) {inside : List Char} (htrim : Text.trim inside = inside)
    (hopening : ¬ fence <+: inside) :
    ofText (String.ofList (f.text inside)) = ofText (String.ofList inside) := by
  apply ofText_congr
  rw [String.toList_ofList, String.toList_ofList, f.body_text htrim,
    body_of_not_fence htrim hopening]

/-- A text that ends with a fence of its own, in a block without a line end before its closing
fence. -/
theorem ofText_fenced_fence_at_end :
    Text.trim ("[]\n".toList ++ fence) = "[]\n".toList ++ fence ∧
      ¬ fence <+: "[]\n".toList ++ fence ∧
      ofText (String.ofList
          (' ' :: (fence ++ "json5 \r\n[]\n".toList ++ fence ++ fence ++ ['\n']))) =
        ofText (String.ofList ("[]\n".toList ++ fence)) := by
  have htrim : Text.trim ("[]\n".toList ++ fence) = "[]\n".toList ++ fence := by decide
  have hopening : ¬ fence <+: "[]\n".toList ++ fence := by decide
  have hbefore : ∀ c ∈ [' '], Text.isBlank c = true := List.all_iff_forall_prop.mp (by decide)
  have htag : ∀ c ∈ "json5".toList, isTagChar c = true := List.all_iff_forall_prop.mp (by decide)
  have hafter : ∀ c ∈ ['\n'], Text.isBlank c = true := List.all_iff_forall_prop.mp (by decide)
  have hsame := ofText_fenced
    ⟨[' '], "json5".toList, [' '], ['\r', '\n'], [], ['\n'], hbefore, htag, by simp, by decide,
      by decide, hafter⟩ htrim hopening
  refine ⟨htrim, hopening, ?_⟩
  rw [← hsame]
  rfl

end ReportGrid.Payload
