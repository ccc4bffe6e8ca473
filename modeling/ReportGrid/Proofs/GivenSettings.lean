import ReportGrid.Config
import ReportGrid.Proofs.HeightTexts
import ReportGrid.Proofs.ReadDocuments
import ReportGrid.Proofs.RecordFields
import ReportGrid.Proofs.RefusedDocuments

/-!
# What a configuration document gives

A configuration document gives some of nine properties.  `GivenSettings` are the nine, each with a
value or without one, and `GivenSettings.IsDocument` says of the fields of a strict document that
they give them: in any order, with null for a missing value, and among fields of other names.

A field gives a height by a number or by a text (`Tree.SetsHeight`): the height nearest to the
number, or the one that the text stands for without blanks and units (`Height.IsNumeral`).

* `Tree.SetsHeight.exists_setting` — what is read of such a field gives that height;
* `ChartSettings.read_gives` — reading the part for charts finds what it gives, name by name;
* `ConfigFile.parse_gives` — so does reading a document.
-/

namespace ReportGrid

/-! ## What a document gives -/

/-- The properties that a configuration document can set, each with its value if it does. -/
structure GivenSettings where
  theme : Option String
  fontFamily : Option String
  palette : Option (List String)
  height : Option Height
  titleAlign : Option String
  responsiveBreakpoint : Option Nat
  responsiveWidth : Option String
  legendPosition : Option String
  pageTitle : Option String

namespace Tree

/-- Whether a tree is a count of 32 bits. -/
def IsCount (tree : Tree) (n : Nat) : Prop :=
  ∃ numeral, tree = .number numeral ∧ numeral.strict? = some (.int n) ∧ n < Numeral.countLimit

/-- Whether a field gives a height: the one nearest to a number, or the one that a text stands for.
A text that stands for none gives none. -/
inductive SetsHeight : Option Tree → Option Height → Prop where
  | missing : SetsHeight none none
  | null : SetsHeight (some .null) none
  | number {numeral : Numeral} {n : Number} {height : Height} (h : numeral.strict? = some n)
      (hheight : Height.IsNearest n.isNegative n.value height) :
      SetsHeight (some (.number numeral)) (some height)
  | text {text : String} {core : List Char} {height : Height} (h : Height.IsWritten core text)
      (hheight : Height.IsNumeral core height) :
      SetsHeight (some (.text (some text))) (some height)
  | noHeight {text : String} {core : List Char} (h : Height.IsWritten core text)
      (hno : ∀ height, ¬ Height.IsNumeral core height) :
      SetsHeight (some (.text (some text))) none

/-- The fields of an object that may be left out. -/
inductive HasFields : Option Tree → List (Option String × Tree) → Prop where
  | missing : HasFields none []
  | null : HasFields (some .null) []
  | object (fields : List (Option String × Tree)) : HasFields (some (.object fields .closed)) fields

end Tree

namespace GivenSettings

open ReportGrid.Tree (Sets SetsHeight IsText AreTexts IsCount IsRecord HasFields)

variable (g : GivenSettings)

/-- Whether fields give the properties of charts. -/
structure IsChart (fields : List (Option String × Tree)) : Prop where
  record : IsRecord ChartSettings.names fields
  fontFamily : Sets IsText (fields.lookup (some "fontFamily")) g.fontFamily
  palette : Sets AreTexts (fields.lookup (some "palette")) g.palette
  height : SetsHeight (fields.lookup (some "height")) g.height
  titleAlign : Sets IsText (fields.lookup (some "titleAlign")) g.titleAlign
  responsiveBreakpoint : Sets IsCount (fields.lookup (some "responsiveBreakpoint"))
    g.responsiveBreakpoint
  responsiveWidth : Sets IsText (fields.lookup (some "responsiveWidth")) g.responsiveWidth
  legendPosition : Sets IsText (fields.lookup (some "legendPosition")) g.legendPosition

/-- Whether fields give the properties of the page. -/
structure IsPage (fields : List (Option String × Tree)) : Prop where
  record : IsRecord ["title"] fields
  title : Sets IsText (fields.lookup (some "title")) g.pageTitle

/-- Whether fields are those of a document that gives the properties.  An object that is left out
gives none. -/
structure IsDocument (fields : List (Option String × Tree)) : Prop where
  record : IsRecord ConfigFile.names fields
  theme : Sets IsText (fields.lookup (some "theme")) g.theme
  chart : ∃ inner, HasFields (fields.lookup (some "chart")) inner ∧ g.IsChart inner
  page : ∃ inner, HasFields (fields.lookup (some "html")) inner ∧ g.IsPage inner

end GivenSettings

/-- Whether a text is a strict document without a fault: an object with the given fields. -/
def IsStrictObject (text : String) (fields : List (Option String × Tree)) : Prop :=
  Document.read .strict text.toList = ⟨.object fields .closed, false⟩ ∧
    (Tree.object fields .closed).pass = .ok ()

/-- A written object is a strict document without a fault. -/
theorem isStrictObject_write (fields : List (String × Json)) (layout : Option Nat) :
    IsStrictObject (String.ofList ((Json.object fields).write layout))
      (Json.fieldTrees fields) := by
  rw [IsStrictObject, String.toList_ofList, Document.read_write]
  exact ⟨rfl, Json.pass_tree (.object fields)⟩

theorem Tree.areTexts_strings (texts : List String) : AreTexts (Json.strings texts).tree texts := by
  simp [AreTexts, Json.strings, Json.tree, Function.comp_def]

/-! ## Reading a document -/

namespace Tree

/-- A list of fields is passed over where each of them is. -/
theorem passFields_eq_ok {fields : List (Option String × Tree)} :
    passFields fields = .ok () ↔ ∀ field ∈ fields, field.2.pass = .ok () := by
  induction fields with
  | nil => simp [passFields]
  | cons field rest ih =>
      rw [List.forall_mem_cons, ← ih]
      constructor
      · intro h
        obtain ⟨_, hfirst, hlater⟩ := bind_eq_ok.mp h
        exact ⟨hfirst, hlater⟩
      · rintro ⟨hfirst, hlater⟩
        exact bind_eq_ok.mpr ⟨(), hfirst, hlater⟩

/-- Where an object is passed over, each of its fields is. -/
theorem pass_object {fields : List (Option String × Tree)} {ending : Ending}
    (h : (object fields ending).pass = .ok ()) : passFields fields = .ok () := by
  obtain ⟨_, hfields, -⟩ := bind_eq_ok.mp h
  exact hfields

variable {tree : Tree}

theorem optional_count {value : Option Nat} (h : Sets IsCount (some tree) value) :
    optional (count32 .strict) tree = .ok value := by
  apply h.optional_eq
  rintro n ⟨numeral, rfl, hn, hlimit⟩
  have hrange : (0 : Int) ≤ n ∧ (n : Int) < Numeral.countLimit := by omega
  simp [optional, count32, hn, hrange, Except.map]

/-- Whether a tree is a height as a document gives it. -/
def IsHeightSetting (tree : Tree) : HeightSetting → Prop
  | .number height => ∃ numeral n, tree = .number numeral ∧ numeral.strict? = some n ∧
      height = .ofNumber n
  | .text value => tree = .text (some value)

theorem optional_heightSetting {room : Room} {value : Option HeightSetting}
    (h : Sets IsHeightSetting (some tree) value) :
    optional (height .strict room) tree = .ok value := by
  apply h.optional_eq
  rintro (height | text) hsetting
  · obtain ⟨numeral, n, rfl, hn, rfl⟩ := hsetting
    simp [optional, Tree.height, quantity_number hn, Except.map, Height.ofQuantity]
  · obtain rfl := hsetting
    rfl

/-- A height is given as a document gives it. -/
theorem SetsHeight.exists_setting {field : Option Tree} {value : Option Height}
    (h : SetsHeight field value) :
    ∃ setting, Sets IsHeightSetting field setting ∧
      setting.bind HeightSetting.height? = value := by
  cases h with
  | missing => exact ⟨none, .missing, rfl⟩
  | null => exact ⟨none, .null, rfl⟩
  | @number numeral n height hn hheight =>
      have hnearest := Height.isNearest_ofNumber (Numeral.strict?_ne_single hn)
      refine ⟨some (.number height), .value ⟨numeral, n, rfl, hn, ?_⟩, rfl⟩
      exact hheight.eq hnearest
  | @text text core height htext hheight =>
      refine ⟨some (.text text), .value rfl, ?_⟩
      rw [Option.bind_some, HeightSetting.height?, Height.ofText?_eq htext]
      exact Height.numeral?_eq_some_iff.mpr hheight
  | @noHeight text core htext hno =>
      refine ⟨some (.text text), .value rfl, ?_⟩
      rw [Option.bind_some, HeightSetting.height?, Height.ofText?_eq htext]
      refine Option.eq_none_iff_forall_ne_some.mpr fun height hheight => ?_
      exact hno height (Height.numeral?_eq_some_iff.mp hheight)

/-- Whether a tree is a value that is read so. -/
def IsReadBy {α : Type} (read : Tree → Except Fault α) (tree : Tree) (a : α) : Prop :=
  tree ≠ .null ∧ read tree = .ok a

theorem optional_isReadBy {α : Type} {read : Tree → Except Fault α} {value : Option α}
    (h : Sets (IsReadBy read) (some tree) value) : optional read tree = .ok value := by
  apply h.optional_eq
  rintro a ⟨hnull, hread⟩
  cases tree with
  | null => exact absurd rfl hnull
  | _ => simp [optional, hread, Except.map]

end Tree

namespace ChartSettings

/-- Whether settings of charts are those that are given. -/
structure Gives (s : ChartSettings) (g : GivenSettings) : Prop where
  fontFamily : s.fontFamily = g.fontFamily
  palette : s.palette = g.palette
  height : s.height.bind HeightSetting.height? = g.height
  titleAlign : s.titleAlign = g.titleAlign
  responsiveBreakpoint : s.responsiveBreakpoint = g.responsiveBreakpoint
  responsiveWidth : s.responsiveWidth = g.responsiveWidth
  legendPosition : s.legendPosition = g.legendPosition

/-- The settings that are read with some names. -/
def upTo (s : ChartSettings) (seen : List String) : ChartSettings where
  fontFamily := if "fontFamily" ∈ seen then s.fontFamily else .none
  palette := if "palette" ∈ seen then s.palette else .none
  height := if "height" ∈ seen then s.height else .none
  titleAlign := if "titleAlign" ∈ seen then s.titleAlign else .none
  responsiveBreakpoint := if "responsiveBreakpoint" ∈ seen then s.responsiveBreakpoint else .none
  responsiveWidth := if "responsiveWidth" ∈ seen then s.responsiveWidth else .none
  legendPosition := if "legendPosition" ∈ seen then s.legendPosition else .none

variable {g : GivenSettings} {fields : List (Option String × Tree)}

/-- No fields give no settings. -/
theorem gives_none (h : g.IsChart []) : none.Gives g where
  fontFamily := h.fontFamily.eq_none.symm
  palette := h.palette.eq_none.symm
  height := by
    have hheight := h.height
    generalize g.height = value at hheight ⊢
    cases hheight
    rfl
  titleAlign := h.titleAlign.eq_none.symm
  responsiveBreakpoint := h.responsiveBreakpoint.eq_none.symm
  responsiveWidth := h.responsiveWidth.eq_none.symm
  legendPosition := h.legendPosition.eq_none.symm

/-- **The part for charts** is read as what it gives. -/
theorem read_gives (h : g.IsChart fields) (hpass : Tree.passFields fields = .ok ()) (room : Nat) :
    ∃ s, read .strict (some (room + 2)) (.object fields .closed) = .ok s ∧ s.Gives g := by
  obtain ⟨setting, hsetting, hheight⟩ := h.height.exists_setting
  let s : ChartSettings := ⟨g.fontFamily, g.palette, setting, g.titleAlign, g.responsiveBreakpoint,
    g.responsiveWidth, g.legendPosition⟩
  have hstep : ∀ name ∈ names, ∀ tree seen, (some name, tree) ∈ fields →
      readField .strict (some (room + 1)) name tree (s.upTo seen) =
        .ok (s.upTo (name :: seen)) := by
    intro name hname tree seen hmem
    have hlookup := (h.record.lookup_eq_some_iff hname).mpr hmem
    simp only [names, List.mem_cons, List.not_mem_nil, or_false] at hname
    rcases hname with rfl | rfl | rfl | rfl | rfl | rfl | rfl
    · have hread := Tree.optional_string (hlookup ▸ h.fontFamily)
      simp [readField, hread, Except.map, upTo, s]
    · have hset : Tree.Sets Tree.AreTexts (some tree) g.palette := hlookup ▸ h.palette
      simp [readField, Tree.optional_strings hset, Except.map, upTo, s]
    · have hset : Tree.Sets Tree.IsHeightSetting (some tree) setting := hlookup ▸ hsetting
      simp [readField, Tree.optional_heightSetting hset, Except.map, upTo, s]
    · have hread := Tree.optional_string (hlookup ▸ h.titleAlign)
      simp [readField, hread, Except.map, upTo, s]
    · have hread := Tree.optional_count (hlookup ▸ h.responsiveBreakpoint)
      simp [readField, hread, Except.map, upTo, s]
    · have hread := Tree.optional_string (hlookup ▸ h.responsiveWidth)
      simp [readField, hread, Except.map, upTo, s]
    · have hread := Tree.optional_string (hlookup ▸ h.legendPosition)
      simp [readField, hread, Except.map, upTo, s]
  have hrecord : Tree.record .strict (some (room + 1)) names (readField .strict (some (room + 1)))
      (s.upTo []) (.object fields .closed) = .ok (s.upTo (Tree.knownNames names fields).reverse) :=
    Tree.record_held h.record hstep fun _ _ _ hmem => Tree.passFields_eq_ok.mp hpass _ hmem
  have hall : s.upTo (Tree.knownNames names fields).reverse = s := by
    simp only [upTo, s, h.fontFamily.ite_eq names (by decide), h.palette.ite_eq names (by decide),
      hsetting.ite_eq names (by decide), h.titleAlign.ite_eq names (by decide),
      h.responsiveBreakpoint.ite_eq names (by decide), h.responsiveWidth.ite_eq names (by decide),
      h.legendPosition.ite_eq names (by decide)]
  rw [hall] at hrecord
  exact ⟨s, hrecord, rfl, rfl, hheight, rfl, rfl, rfl, rfl⟩

end ChartSettings

namespace ConfigFile

/-- Whether a document that was read is one that gives the properties. -/
structure Gives (file : ConfigFile) (g : GivenSettings) : Prop where
  theme : file.theme = g.theme
  chart : (file.chart.getD .none).Gives g
  page : file.htmlTitle = g.pageTitle

open ReportGrid.Tree (Sets IsReadBy HasFields)

variable {g : GivenSettings} {fields : List (Option String × Tree)} {field : Option Tree}

/-- The part for charts, or nothing in its place, is read as what it gives. -/
theorem exists_chart (hfield : HasFields field fields) (h : g.IsChart fields)
    (hpass : ∀ tree, field = some tree → tree.pass = .ok ()) (room : Nat) :
    ∃ part, Sets (IsReadBy (ChartSettings.read .strict (some (room + 2)))) field part ∧
      (part.getD .none).Gives g := by
  cases hfield with
  | missing => exact ⟨none, .missing, ChartSettings.gives_none h⟩
  | null => exact ⟨none, .null, ChartSettings.gives_none h⟩
  | object fields =>
      obtain ⟨s, hread, hs⟩ := ChartSettings.read_gives h (Tree.pass_object (hpass _ rfl)) room
      exact ⟨some s, .value ⟨by simp, hread⟩, hs⟩

/-- The part for the page is read as the title that it gives. -/
theorem readPage_gives (h : g.IsPage fields) (hpass : Tree.passFields fields = .ok ())
    (room : Nat) :
    readPage .strict (some (room + 1)) (.object fields .closed) = .ok g.pageTitle := by
  let held (seen : List String) : Option String := if "title" ∈ seen then g.pageTitle else none
  have hstep : ∀ name ∈ ["title"], ∀ tree seen, (some name, tree) ∈ fields →
      tree.optional (Tree.string .strict) = .ok (held (name :: seen)) := by
    intro name hname tree seen hmem
    have hlookup := (h.record.lookup_eq_some_iff hname).mpr hmem
    obtain rfl := List.mem_singleton.mp hname
    have hread := Tree.optional_string (hlookup ▸ h.title)
    simp [hread, held]
  have hrecord : Tree.record .strict (some room) ["title"]
      (fun _ tree _ => tree.optional (Tree.string .strict)) (held []) (.object fields .closed) =
      .ok (held (Tree.knownNames ["title"] fields).reverse) :=
    Tree.record_held h.record hstep fun _ _ _ hmem => Tree.passFields_eq_ok.mp hpass _ hmem
  have hall : held (Tree.knownNames ["title"] fields).reverse = g.pageTitle :=
    h.title.ite_eq ["title"] (by decide)
  rw [hall] at hrecord
  exact hrecord

/-- The part for the page, or nothing in its place, is read as the title that it gives. -/
theorem exists_page (hfield : HasFields field fields) (h : g.IsPage fields)
    (hpass : ∀ tree, field = some tree → tree.pass = .ok ()) (room : Nat) :
    ∃ part, Sets (IsReadBy (readPage .strict (some (room + 1)))) field part ∧
      part.join = g.pageTitle := by
  cases hfield with
  | missing => exact ⟨none, .missing, h.title.eq_none.symm⟩
  | null => exact ⟨none, .null, h.title.eq_none.symm⟩
  | object fields =>
      have hread := readPage_gives h (Tree.pass_object (hpass _ rfl)) room
      exact ⟨some g.pageTitle, .value ⟨by simp, hread⟩, rfl⟩

/-- **Reading a document** finds what it gives. -/
theorem parse_gives {text : String} (htext : IsStrictObject text fields) (h : g.IsDocument fields) :
    ∃ file, parse text = .ok file ∧ file.Gives g := by
  have hpass := Tree.pass_object htext.2
  have hpassed : ∀ name ∈ names, ∀ tree, fields.lookup (some name) = some tree →
      tree.pass = .ok () := fun name hname tree hlookup =>
    Tree.passFields_eq_ok.mp hpass _ ((h.record.lookup_eq_some_iff hname).mp hlookup)
  obtain ⟨inner, hinner, hcharts⟩ := h.chart
  obtain ⟨chart, hchart, hgives⟩ := exists_chart hinner hcharts (hpassed "chart" (by decide)) 124
  obtain ⟨inner, hinner, htitle⟩ := h.page
  obtain ⟨page, hpage, hjoin⟩ := exists_page hinner htitle (hpassed "html" (by decide)) 125
  let held (seen : List String) : ConfigFile :=
    ⟨if "theme" ∈ seen then g.theme else none, if "chart" ∈ seen then chart else none,
      (if "html" ∈ seen then page else none).join⟩
  have hstep : ∀ name ∈ names, ∀ tree seen, (some name, tree) ∈ fields →
      readField .strict (some 126) name tree (held seen) = .ok (held (name :: seen)) := by
    intro name hname tree seen hmem
    have hlookup := (h.record.lookup_eq_some_iff hname).mpr hmem
    simp only [names, List.mem_cons, List.not_mem_nil, or_false] at hname
    rcases hname with rfl | rfl | rfl
    · have hread := Tree.optional_string (hlookup ▸ h.theme)
      simp [readField, hread, Except.map, held]
    · have hread := Tree.optional_isReadBy (hlookup ▸ hchart)
      simp [readField, hread, Except.map, held]
    · have hread := Tree.optional_isReadBy (hlookup ▸ hpage)
      simp [readField, hread, Except.map, held]
  have hrecord : Tree.record .strict (some 126) names (readField .strict (some 126)) (held [])
      (.object fields .closed) = .ok (held (Tree.knownNames names fields).reverse) :=
    Tree.record_held h.record hstep fun _ _ _ hmem => Tree.passFields_eq_ok.mp hpass _ hmem
  have hall : held (Tree.knownNames names fields).reverse = ⟨g.theme, chart, g.pageTitle⟩ := by
    simp only [held, h.theme.ite_eq names (by decide), hchart.ite_eq names (by decide),
      hpage.ite_eq names (by decide), hjoin]
  rw [hall] at hrecord
  have hdecode : Document.decode .strict (read .strict) text.toList =
      .ok ⟨g.theme, chart, g.pageTitle⟩ := Document.decode_eq htext.1 hrecord
  exact ⟨_, by rw [parse, hdecode], rfl, hgives, rfl⟩

end ConfigFile

end ReportGrid
