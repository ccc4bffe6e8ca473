import ReportGrid.Proofs.LayoutRoundTrip
import ReportGrid.Proofs.PlanMirror
import ReportGrid.Proofs.SectionReread

/-!
# Sections that a layout can name

A section is named in a layout by its shortcode between brackets.  Reading a payload trims
shortcodes and reading a layout trims tokens, so that the two agree on every shortcode that can be
written on a line at all:

* `Layout.tokens_bracketed` — a written token alone on its line is the one token of its template,
  whatever brackets, bars or carriage returns it has;
* `RenderPlan.isCell_of_tokens` — such a template has a plan of one cell;
* `Layout.feed_not_mem_token` — a token has no line feed, since every step from a template to its
  tokens only leaves characters out; a shortcode with one is out of reach of all templates.
-/

namespace ReportGrid

namespace Layout

/-! ## Tokens that are written alone -/

/-- A token alone on its line is read as the one token of the template. -/
theorem tokens_bracketed (token : Token) :
    (parse ("[" ++ token.name ++ "]")).map LayoutRow.tokens = [[token.name]] := by
  have hpiece : token.bracketed = joined [⟨.none, token, .none⟩] := by
    simp [joined_singleton, Piece.text, Padding.none]
  have hchars : ("[" ++ token.name ++ "]").toList =
      (WrittenLine.row ⟨.none, token, .none⟩ []).text := by
    rw [WrittenLine.text, ← hpiece]
    simp [Token.bracketed, Token.name]
  have hrow := WrittenLine.map_tokens_rowOfLine (.row ⟨.none, token, .none⟩ [])
  rw [parse, hchars, rows_of_no_feed (WrittenLine.feed_not_mem_text _)]
  obtain ⟨row, hrow, htokens⟩ := Option.map_eq_some_iff.mp hrow
  rw [hrow]
  simpa using htokens

/-! ## Characters of tokens -/

theorem stripBrackets_subset (s : List Char) : stripBrackets s ⊆ s := by
  have hopening : dropOpening s ⊆ s := by
    unfold dropOpening
    split
    · exact List.subset_cons_self _ _
    · exact List.Subset.refl _
  have hclosing : dropClosing (dropOpening s) ⊆ dropOpening s := by
    unfold dropClosing
    split
    · exact List.dropLast_subset _
    · exact List.Subset.refl _
  exact List.Subset.trans (Text.trim_subset _) (List.Subset.trans hclosing hopening)

/-- The characters of a token are characters of its line. -/
theorem subset_of_mem_lineTokens {token line : List Char} (h : token ∈ lineTokens line) :
    token ⊆ line := by
  unfold lineTokens at h
  dsimp only at h
  split at h
  · unfold pieceTokens at h
    obtain ⟨piece, hpiece, rfl⟩ := List.mem_map.mp (List.mem_of_mem_filter h)
    have htrim : Text.trim piece ⊆ line :=
      List.Subset.trans (Text.trim_subset piece) (Text.splitAfter_subset hpiece)
    exact List.Subset.trans (stripBrackets_subset _) htrim
  · rw [List.mem_singleton.mp (List.mem_of_mem_filter h)]
    exact stripBrackets_subset _

/-- **Tokens have no line feed.** -/
theorem feed_not_mem_token {template : List Char} {row : LayoutRow} {token : String}
    (hrow : row ∈ rows template) (htoken : token ∈ row.tokens) : '\n' ∉ token.toList := by
  obtain ⟨line, hline, hsome⟩ := List.mem_filterMap.mp hrow
  have hfeed : '\n' ∉ line := Text.feed_not_mem_of_mem_lines hline
  have htokens : row.tokens = (lineTokens (Text.trim line)).map String.ofList := by
    unfold LayoutRow.ofTokens? at hsome
    split at hsome
    · exact absurd hsome (by simp)
    · rw [← Option.some.inj hsome]
  rw [htokens] at htoken
  obtain ⟨chars, hchars, rfl⟩ := List.mem_map.mp htoken
  rw [String.toList_ofList]
  exact fun hmem => hfeed (Text.trim_subset _ (subset_of_mem_lineTokens hchars hmem))

end Layout

namespace RenderPlan

/-- A template with one token has a plan of one cell. -/
structure IsCell (template : String) (sections : Sections) (token : String) (cell : RenderCell) :
    Prop where
  tokens : (Layout.parse template).map LayoutRow.tokens = [[token]]
  plan : compile (Layout.parse template) sections = ⟨[⟨.one, [cell]⟩]⟩

theorem isCell_of_tokens {template token : String} (sections : Sections)
    (h : (Layout.parse template).map LayoutRow.tokens = [[token]]) :
    IsCell template sections token (RenderCell.resolve sections token) := by
  refine ⟨h, ?_⟩
  obtain ⟨row, hrows, htokens⟩ := List.map_eq_singleton_iff.mp h
  simp [compile, hrows, htokens, LayoutRow.columns, GridColumns.ofCount]

/-- How layouts can name a section of a collection.  Its shortcode is a trimmed text that is not
empty.  Where it can be written between brackets on a line, this gives the cell of the section; with
a line feed in it no template has a cell for it. -/
structure Addresses (sections : Sections) (m : Section) : Prop where
  shortcode_ne : m.shortcode ≠ ""
  trimmed : Text.trim m.shortcode.toList = m.shortcode.toList
  known : '\n' ∉ m.shortcode.toList → ¬ " | ".toList <:+: m.shortcode.toList →
    m.kind ≠ .unknown →
    IsCell ("[" ++ m.shortcode ++ "]") sections m.shortcode (.resolved m)
  unknown : '\n' ∉ m.shortcode.toList → ¬ " | ".toList <:+: m.shortcode.toList →
    m.kind = .unknown →
    IsCell ("[" ++ m.shortcode ++ "]") sections m.shortcode
      (.unresolved m.shortcode RenderCell.unknownKind)
  unreached : '\n' ∈ m.shortcode.toList → ∀ template,
    ∀ cell ∈ (compile (Layout.parse template) sections).cells, cell.shortcode ≠ m.shortcode

/-- The shortcodes of the cells of a plan have no line feed. -/
theorem feed_not_mem_shortcode {template : String} {sections : Sections} {cell : RenderCell}
    (h : cell ∈ (compile (Layout.parse template) sections).cells) :
    '\n' ∉ cell.shortcode.toList := by
  have hcode := List.mem_map_of_mem (f := RenderCell.shortcode) h
  rw [shortcodes_compile] at hcode
  obtain ⟨row, hrow, htoken⟩ := List.mem_flatMap.mp hcode
  exact Layout.feed_not_mem_token hrow htoken

/-- A readable section of a collection can be named wherever its shortcode can be written. -/
theorem addresses_of_readable {sections : Sections} {m : Section} (h : m.Readable)
    (hm : m ∈ sections.toList) : Addresses sections m := by
  have hget : sections.get? m.shortcode = some m := Sections.get?_eq_some_iff.mpr ⟨hm, rfl⟩
  have hcell : '\n' ∉ m.shortcode.toList → ¬ " | ".toList <:+: m.shortcode.toList →
      IsCell ("[" ++ m.shortcode ++ "]") sections m.shortcode
        (RenderCell.resolve sections m.shortcode) := by
    intro hfeed hseparator
    have hne : m.shortcode.toList ≠ [] := by simpa using h.shortcode_ne
    have htokens :=
      Layout.tokens_bracketed ⟨m.shortcode.toList, hne, h.shortcode_trimmed, hfeed, hseparator⟩
    rw [Layout.Token.name, String.ofList_toList] at htokens
    exact isCell_of_tokens sections htokens
  refine ⟨h.shortcode_ne, h.shortcode_trimmed, ?_, ?_, ?_⟩
  · intro hfeed hseparator hkind
    have hresolve : RenderCell.resolve sections m.shortcode = .resolved m := by
      simp [RenderCell.resolve, hget, hkind]
    exact hresolve ▸ hcell hfeed hseparator
  · intro hfeed hseparator hkind
    have hresolve : RenderCell.resolve sections m.shortcode =
        .unresolved m.shortcode RenderCell.unknownKind := by
      simp [RenderCell.resolve, hget, hkind]
    exact hresolve ▸ hcell hfeed hseparator
  · intro hfeed template cell hmem hsame
    exact feed_not_mem_shortcode hmem (hsame ▸ hfeed)

end RenderPlan

/-- **Every section that is kept can be named**, as far as its shortcode can be written on one line
at all. -/
theorem Payload.sections?_addresses (fields : List (String × Json)) :
    ∃ s, sections? (.object fields) = .ok s ∧ ∀ m ∈ s.toList, RenderPlan.Addresses s m :=
  ⟨_, sections?_eq_takeAll fields,
    fun _ hm => RenderPlan.addresses_of_readable (readable_takeAll hm) hm⟩

end ReportGrid
