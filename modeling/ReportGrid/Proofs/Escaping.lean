import ReportGrid.Page.Markup

/-!
# Escaped text

Escaping replaces the special characters of a text in five passes.  No pass touches what an earlier
one has written, so it is the same to write every character once (`Markup.escape_eq_flatMap`).

`Markup.unescape` reads the entities back from left to right.  It undoes escaping, also in front of
further text (`Markup.unescape_escape_append`).  Escaped text holds none of the marks that tags are
made of (`Markup.isMark_of_mem_escape`), and every ampersand in it starts an entity
(`Markup.exists_entity_of_escape`), which follows from `Markup.escapeChar_cases`: a character is
written as its entity or as it is.
-/

namespace ReportGrid.Markup

/-- Whether a character is one that tags and attribute values are set off by. -/
def isMark (c : Char) : Bool :=
  c = '<' || c = '>' || c = '"'

/-- How a character is written on a page. -/
def escapeChar (c : Char) : List Char :=
  if c = '&' then ['&', 'a', 'm', 'p', ';']
  else if c = '<' then ['&', 'l', 't', ';']
  else if c = '>' then ['&', 'g', 't', ';']
  else if c = '"' then ['&', 'q', 'u', 'o', 't', ';']
  else if c = '\x27' then ['&', '#', '3', '9', ';']
  else [c]

/-- A text with its entities read back, from left to right. -/
def unescape : List Char → List Char
  | '&' :: 'a' :: 'm' :: 'p' :: ';' :: rest => '&' :: unescape rest
  | '&' :: 'l' :: 't' :: ';' :: rest => '<' :: unescape rest
  | '&' :: 'g' :: 't' :: ';' :: rest => '>' :: unescape rest
  | '&' :: 'q' :: 'u' :: 'o' :: 't' :: ';' :: rest => '"' :: unescape rest
  | '&' :: '#' :: '3' :: '9' :: ';' :: rest => '\x27' :: unescape rest
  | c :: rest => c :: unescape rest
  | [] => []

/-- **One pass.**  The five passes write every character once. -/
theorem escape_eq_flatMap (s : List Char) : escape s = s.flatMap escapeChar := by
  have hpasses : ∀ c : Char, escape [c] = escapeChar c := by
    intro c
    unfold escapeChar
    by_cases hamp : c = '&'
    · subst hamp; rfl
    by_cases hless : c = '<'
    · subst hless; rfl
    by_cases hgreater : c = '>'
    · subst hgreater; rfl
    by_cases hquote : c = '"'
    · subst hquote; rfl
    by_cases hapostrophe : c = '\x27'
    · subst hapostrophe; rfl
    simp only [escape, entities, List.foldl_cons, List.foldl_nil, Text.replaceChar,
      List.flatMap_singleton, if_neg hamp, if_neg hless, if_neg hgreater, if_neg hquote,
      if_neg hapostrophe]
  have happend : ∀ s t : List Char, escape (s ++ t) = escape s ++ escape t := by
    intro s t
    simp only [escape, entities, List.foldl_cons, List.foldl_nil, Text.replaceChar,
      List.flatMap_append]
  induction s with
  | nil => rfl
  | cons c s ih =>
      rw [← List.singleton_append, happend, ih, hpasses, List.flatMap_append]
      simp

@[simp] theorem escape_nil : escape [] = [] := rfl

theorem escape_append (s t : List Char) : escape (s ++ t) = escape s ++ escape t := by
  simp [escape_eq_flatMap]

theorem escape_cons (c : Char) (s : List Char) : escape (c :: s) = escapeChar c ++ escape s := by
  simp [escape_eq_flatMap]

/-- A character that starts no entity is read as it is. -/
theorem unescape_cons {c : Char} (h : c ≠ '&') (rest : List Char) :
    unescape (c :: rest) = c :: unescape rest := by
  rw [unescape.eq_def]
  split
  case h_6 heq =>
    obtain ⟨rfl, rfl⟩ := List.cons.inj heq
    rfl
  case h_7 heq => exact absurd heq (List.cons_ne_nil c rest)
  all_goals
    next heq => exact absurd (List.cons.inj heq).1 h

/-- What is written for a character is read as that character. -/
theorem unescape_escapeChar (c : Char) (rest : List Char) :
    unescape (escapeChar c ++ rest) = c :: unescape rest := by
  unfold escapeChar
  split
  · subst_vars; simp [unescape]
  split
  · subst_vars; simp [unescape]
  split
  · subst_vars; simp [unescape]
  split
  · subst_vars; simp [unescape]
  split
  · subst_vars; simp [unescape]
  · rename_i hamp _ _ _ _
    exact unescape_cons hamp rest

/-- **Reading back undoes escaping**, also where more text follows. -/
theorem unescape_escape_append (s rest : List Char) :
    unescape (escape s ++ rest) = s ++ unescape rest := by
  induction s with
  | nil => rfl
  | cons c s ih => rw [escape_cons, List.append_assoc, unescape_escapeChar, ih, List.cons_append]

theorem unescape_escape (s : List Char) : unescape (escape s) = s := by
  have h := unescape_escape_append s []
  rwa [List.append_nil, unescape, List.append_nil] at h

/-! ## What escaped text holds -/

/-- An entity starts with the only ampersand in it and holds nothing else that is escaped. -/
theorem plain_of_mem_entities {entity : Char × String} (h : entity ∈ entities) :
    ∃ tail, entity.2.toList = '&' :: tail ∧ ∀ c ∈ tail, ∀ other ∈ entities, c ≠ other.1 := by
  have hall : ∀ entity ∈ entities, entity.2.toList = '&' :: entity.2.toList.tail ∧
      ∀ c ∈ entity.2.toList.tail, ∀ other ∈ entities, c ≠ other.1 := by
    simp [entities]
  exact ⟨_, hall entity h⟩

/-- A character that has an entity is written as the entity, and every other one as it is. -/
theorem escapeChar_cases (c : Char) :
    (∃ entity ∈ entities, c = entity.1 ∧ escapeChar c = entity.2.toList) ∨
      ((∀ entity ∈ entities, c ≠ entity.1) ∧ escapeChar c = [c]) := by
  by_cases hspecial : ∃ entity ∈ entities, c = entity.1
  · obtain ⟨entity, hentity, rfl⟩ := hspecial
    have hwritten : ∀ entity ∈ entities, escapeChar entity.1 = entity.2.toList := by decide
    exact Or.inl ⟨entity, hentity, rfl, hwritten entity hentity⟩
  · have hplain : ∀ entity ∈ entities, c ≠ entity.1 := by
      intro entity hentity heq
      exact hspecial ⟨entity, hentity, heq⟩
    refine Or.inr ⟨hplain, ?_⟩
    simp only [entities, List.forall_mem_cons] at hplain
    obtain ⟨hamp, hless, hgreater, hquote, hapostrophe, -⟩ := hplain
    rw [escapeChar, if_neg hamp, if_neg hless, if_neg hgreater, if_neg hquote,
      if_neg hapostrophe]

/-- Of the characters that are escaped, only ampersands are left. -/
theorem eq_ampersand_of_mem_escape {s : List Char} {entity : Char × String}
    (hentity : entity ∈ entities) (h : entity.1 ∈ escape s) : entity.1 = '&' := by
  rw [escape_eq_flatMap] at h
  obtain ⟨d, -, hc⟩ := List.mem_flatMap.mp h
  rcases escapeChar_cases d with ⟨other, hother, -, hwritten⟩ | ⟨hplain, hwritten⟩
  · obtain ⟨tail, htail, hrest⟩ := plain_of_mem_entities hother
    rw [hwritten, htail] at hc
    rcases List.mem_cons.mp hc with hamp | hc
    · exact hamp
    · exact absurd rfl (hrest _ hc entity hentity)
  · rw [hwritten, List.mem_singleton] at hc
    exact absurd hc.symm (hplain entity hentity)

/-- Escaped text holds no angle brackets, quotation marks and apostrophes. -/
theorem not_mem_escape {c : Char} (hc : c ∈ ['<', '>', '"', '\x27']) (s : List Char) :
    c ∉ escape s := by
  have hspecial : ∀ c ∈ ['<', '>', '"', '\x27'], c ≠ '&' ∧ ∃ entity ∈ entities, entity.1 = c := by
    simp [entities]
  obtain ⟨hne, entity, hentity, rfl⟩ := hspecial c hc
  exact fun hmem => hne (eq_ampersand_of_mem_escape hentity hmem)

/-- **No marks.**  Escaped text holds none of the marks of tags. -/
theorem isMark_of_mem_escape {s : List Char} {c : Char} (h : c ∈ escape s) : isMark c = false := by
  have hless : c ≠ '<' := ne_of_mem_of_not_mem h (not_mem_escape (by decide) s)
  have hgreater : c ≠ '>' := ne_of_mem_of_not_mem h (not_mem_escape (by decide) s)
  have hquote : c ≠ '"' := ne_of_mem_of_not_mem h (not_mem_escape (by decide) s)
  simp [isMark, hless, hgreater, hquote]

/-- **Ampersands** of escaped text start entities. -/
theorem exists_entity_of_escape {s before after : List Char}
    (h : escape s = before ++ '&' :: after) :
    ∃ entity ∈ entities, entity.2.toList <+: '&' :: after := by
  induction s generalizing before with
  | nil => simp at h
  | cons c s ih =>
      rw [escape_cons, List.append_eq_append_iff] at h
      rcases h with ⟨between, rfl, hrest⟩ | ⟨inside, hwritten, hrest⟩
      · exact ih hrest
      cases inside with
      | nil => exact @ih [] hrest.symm
      | cons d inside =>
          -- The ampersand is one of the characters that are written for the first one.
          obtain ⟨rfl, -⟩ := List.cons.inj hrest
          rcases escapeChar_cases c with ⟨entity, hentity, -, heq⟩ | ⟨hplain, heq⟩
          · obtain ⟨tail, htail, hnone⟩ := plain_of_mem_entities hentity
            rw [heq, htail] at hwritten
            cases before with
            | nil =>
                rw [List.nil_append] at hwritten
                exact ⟨entity, hentity, escape s, by rw [htail, hwritten, hrest]⟩
            | cons e before =>
                obtain ⟨-, rfl⟩ := List.cons.inj hwritten
                exact absurd rfl (hnone '&' (by simp) ('&', "&amp;") (by decide))
          · rw [heq] at hwritten
            have hamp : '&' ∈ [c] := by simp [hwritten]
            exact absurd (List.mem_singleton.mp hamp).symm (hplain ('&', "&amp;") (by decide))

/-- How a text is written on a page: every character once, so that the only special characters left
are ampersands that start entities, and reading the entities back gives the text. -/
structure IsEscaped (s written : List Char) : Prop where
  once : written = s.flatMap escapeChar
  plain : ∀ c ∈ ['<', '>', '"', '\x27'], c ∉ written
  ampersand : ∀ before after, written = before ++ '&' :: after →
    ∃ entity ∈ entities, entity.2.toList <+: '&' :: after
  readBack : unescape written = s

/-- **Escaping is reversible.**  The five passes write every character once, what they write can be
read back whatever the text is, and so no two texts are written alike. -/
theorem escape_reversible :
    (∀ s, IsEscaped s (escape s)) ∧ Function.Injective escape := by
  have hreads : Function.LeftInverse unescape escape := unescape_escape
  refine ⟨?_, hreads.injective⟩
  intro s
  exact ⟨escape_eq_flatMap s, fun c hc => not_mem_escape hc s,
    fun before after => exists_entity_of_escape, hreads s⟩

-- Entities in a text are escaped like any other text.
example : escape "&amp;lt;".toList = "&amp;amp;lt;".toList := by decide

end ReportGrid.Markup
