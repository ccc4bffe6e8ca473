import ReportGrid.Config
import ReportGrid.Proofs.HeightTexts
import ReportGrid.Proofs.ReadValues
import ReportGrid.Proofs.RecordFields
import ReportGrid.Proofs.RecordMembers

/-!
# Heights that are integers

An integer can be given as a height in several ways: as a number, or as a text with its literal,
with or without the unit and with blanks around it (`Tree.IsHeightOf`).  One way rounds an integer
and the other a decimal, and both come to the single precision value nearest to the integer:

* `Height.exists_ofNumber_int` — every integer of 64 bits has such a value;
* `Height.numeral?_ofInt` — its literal is read as the same value;
* `ConfigFile.read_height` — a document with a height is read as the one with null in its place and
  then the height;
* `Config.parse_integer_height` — so documents that differ in the way of writing only are the same
  configuration.
-/

namespace ReportGrid

namespace Height

/-- No integer of 64 bits is beyond single precision. -/
theorem abs_lt_limit {n : Int} (h : n.natAbs ≤ 2 ^ 64) : |(n : ℚ)| < Format.single.limit := by
  have hle : (n.natAbs : ℚ) ≤ 2 ^ 64 := by exact_mod_cast h
  rw [← Int.cast_abs, ← Nat.cast_natAbs]
  refine hle.trans_lt ?_
  norm_num [Format.limit, Format.single]

/-- **Integers as heights.**  An integer of 64 bits gives the single precision value nearest to
it. -/
theorem exists_ofNumber_int {n : Int} (h : n.natAbs ≤ 2 ^ 64) :
    ∃ b, ofNumber (.int n) = .finite b ∧ Format.single.IsNearest n b ∧
      b.negative = decide (n < 0) := by
  have hnearest := isNearest_ofNumber (n := .int n) nofun
  change IsNearest (n < 0) n _ at hnearest
  generalize ofNumber (.int n) = height at hnearest ⊢
  cases hnearest with
  | finite hnearest hsign _ => exact ⟨_, rfl, hnearest, hsign⟩
  | infinite hbeyond => exact absurd (abs_lt_limit h) (not_lt.mpr hbeyond)

/-- **The literal of an integer** is read as the integer is. -/
theorem numeral?_ofInt (n : Int) : numeral? (Numeral.ofInt n).text = some (ofNumber (.int n)) := by
  have hdecimal := IsDecimal.of_isDigits (isDigits_toDigits n.natAbs)
  have hvalue : decimalNumber (Nat.toDigits 10 n.natAbs) none none = n.natAbs := by
    have hdigits : Nat.ofDigitChars 10 (Nat.toDigits 10 n.natAbs) 0 = n.natAbs :=
      decimalValue_toDigits n.natAbs
    simp [decimalNumber, hdigits]
  have hnearest := isNearest_ofNumber (n := .int n) nofun
  change IsNearest (n < 0) n _ at hnearest
  have hsign : decide ((Numeral.ofInt n).sign = some .minus) = decide (n < 0) := by
    by_cases hn : n < 0 <;> simp [Numeral.ofInt, hn]
  refine numeral?_eq_some_iff.mpr ⟨(Numeral.ofInt n).sign, _, rfl, ?_⟩
  rw [hsign]
  refine .decimal hdecimal ?_
  rwa [hvalue, signFactor_mul_natAbs]

/-- The literal of an integer with blanks around it, and with the unit or without it. -/
theorem isWritten_literal (n : Int) {before suffix after : List Char}
    (hbefore : ∀ c ∈ before, Text.isBlank c = true) (hafter : ∀ c ∈ after, Text.isBlank c = true)
    (hsuffix : suffix = [] ∨ suffix = unit) :
    IsWritten (Numeral.ofInt n).text
      (String.ofList (before ++ ((Numeral.ofInt n).text ++ suffix) ++ after)) := by
  have hunits : ∃ k, suffix = (List.replicate k unit).flatten := by
    rcases hsuffix with rfl | rfl
    · exact ⟨0, rfl⟩
    · exact ⟨1, rfl⟩
  obtain ⟨k, hk⟩ := hunits
  refine ⟨?_, k, ?_⟩
  · intro hend
    exact (Numeral.plain_of_mem_text_ofInt (hend.subset (by decide))).2 rfl
  · rw [String.toList_ofList, Text.trim_pad _ hbefore hafter, ← hk]
    apply Text.trim_eq_self
    · intro c hc
      rw [head?_append_left (Numeral.text_ofInt_ne_nil n)] at hc
      exact (Numeral.plain_of_mem_text_ofInt (List.mem_of_mem_head? hc)).1
    · intro c hc
      rcases hsuffix with rfl | rfl
      · rw [List.append_nil] at hc
        exact (Numeral.plain_of_mem_text_ofInt (List.mem_of_getLast? hc)).1
      · rw [List.getLast?_append_of_ne_nil _ (by decide)] at hc
        obtain rfl : 'x' = c := by simpa [unit] using hc
        decide

end Height

/-! ## A document with another height -/

/-- The ways in which a document gives an integer as a height: the number, or a text with the
literal, and then the unit or nothing, with any blanks around. -/
inductive Tree.IsHeightOf (n : Int) : Tree → Prop where
  | number : IsHeightOf n (.number (.ofInt n))
  | text {before suffix after : List Char} (hbefore : ∀ c ∈ before, Text.isBlank c = true)
      (hafter : ∀ c ∈ after, Text.isBlank c = true)
      (hsuffix : suffix = [] ∨ suffix = Height.unit) :
      IsHeightOf n (.text (some
        (String.ofList (before ++ ((Numeral.ofInt n).text ++ suffix) ++ after))))

/-- Integers that a dialect keeps have 64 bits. -/
theorem Dialect.KeepsInt.natAbs_le {d : Dialect} {n : Int} (h : d.KeepsInt n) :
    n.natAbs ≤ 2 ^ 64 := by
  obtain ⟨hlow, hhigh⟩ := h
  cases d <;> simp only at hhigh <;> omega

/-- However an integer is given as a height, it gives the height of the integer. -/
theorem Tree.IsHeightOf.exists_setting {d : Dialect} {n : Int} (hn : d.KeepsInt n) {tree : Tree}
    (h : tree.IsHeightOf n) :
    ∃ setting, (∀ room, tree.optional (Tree.height d room) = .ok (some setting)) ∧
      setting.height? = some (.ofNumber (.int n)) := by
  cases h with
  | number =>
      refine ⟨.number (.ofNumber (.int n)), fun room => ?_, rfl⟩
      simp [optional, height, quantity, Dialect.quantity?_ofInt hn, Except.map, Height.ofQuantity]
  | @text before suffix after hbefore hafter hsuffix =>
      refine ⟨.text _, fun room => rfl, ?_⟩
      exact (Height.ofText?_eq (Height.isWritten_literal n hbefore hafter hsuffix)).trans
        (Height.numeral?_ofInt n)

/-- The settings with another height. -/
def ChartSettings.withHeight (setting : HeightSetting) (s : ChartSettings) : ChartSettings :=
  { s with height := some setting }

namespace ChartSettings

/-- Settings of other names do not see the height. -/
theorem readField_withHeight (d : Dialect) (room : Room) (setting : HeightSetting) {name : String}
    (hname : name ≠ "height") (tree : Tree) (found : ChartSettings) :
    readField d room name tree (found.withHeight setting) =
      (readField d room name tree found).map (withHeight setting) := by
  unfold readField
  split
  case h_3 => exact absurd rfl hname
  case h_8 => rfl
  all_goals
    rw [map_map]
    rfl

/-- The settings of charts with a height are those with null in its place, and then the height. -/
theorem read_height {d : Dialect} {room : Room} {slot : Tree → Tree}
    (hslot : Tree.IsSlot names "height" slot) {tree : Tree} {setting : HeightSetting}
    (htree : ∀ inside, tree.optional (Tree.height d inside) = .ok (some setting)) :
    read d room (slot tree) = (read d room (slot .null)).map (withHeight setting) := by
  unfold read
  cases hroom : room.enter with
  | error fault => rfl
  | ok inside =>
      refine Tree.record_slot hslot (by decide) (by decide) ?_ ?_ none
      · intro other hother tree found
        exact readField_withHeight d inside setting hother tree found
      · intro found
        simp only [readField, htree]
        rfl

end ChartSettings

namespace ConfigFile

/-- A document with another height of charts. -/
def withHeight (setting : HeightSetting) (file : ConfigFile) : ConfigFile :=
  { file with chart := file.chart.map (ChartSettings.withHeight setting) }

/-- Parts of other names do not see the height of charts. -/
theorem readField_withHeight (d : Dialect) (room : Room) (setting : HeightSetting) {name : String}
    (hname : name ≠ "chart") (tree : Tree) (found : ConfigFile) :
    readField d room name tree (found.withHeight setting) =
      (readField d room name tree found).map (withHeight setting) := by
  unfold readField
  split
  case h_2 => exact absurd rfl hname
  case h_4 => rfl
  all_goals
    rw [map_map]
    rfl

/-- **A document with a height** is read as the one with null in its place, and then the height. -/
theorem read_height {d : Dialect} {outer inner : Tree → Tree}
    (houter : Tree.IsSlot names "chart" outer)
    (hinner : Tree.IsSlot ChartSettings.names "height" inner) {tree : Tree}
    {setting : HeightSetting}
    (htree : ∀ inside, tree.optional (Tree.height d inside) = .ok (some setting)) :
    read d (outer (inner tree)) = (read d (outer (inner .null))).map (withHeight setting) := by
  have hpart : ∀ value room, (inner value).optional (ChartSettings.read d room) =
      (ChartSettings.read d room (inner value)).map some := by
    intro value room
    cases hinner <;> rfl
  unfold read
  cases hroom : d.room.enter with
  | error fault => rfl
  | ok inside =>
      refine Tree.record_slot houter (by decide) (by decide) ?_ ?_ empty
      · intro other hother tree found
        exact readField_withHeight d inside setting hother tree found
      · intro found
        simp only [readField, hpart, ChartSettings.read_height hinner htree, map_map]
        rfl

/-- Parts of other names do not change the part for charts. -/
theorem chart_of_readField {d : Dialect} {room : Room} {name : String} (hname : name ≠ "chart")
    (tree : Tree) (found next : ConfigFile) (h : readField d room name tree found = .ok next) :
    next.chart = found.chart := by
  unfold readField at h
  split at h
  case h_2 => exact absurd rfl hname
  case h_4 => rw [Except.ok.inj h]
  all_goals
    obtain ⟨_, -, rfl⟩ := map_eq_ok.mp h
    rfl

/-- A document with a record as its part for charts sets something there. -/
theorem chart_ne_none {d : Dialect} {outer inner : Tree → Tree}
    (houter : Tree.IsSlot names "chart" outer)
    (hinner : Tree.IsSlot ChartSettings.names "height" inner) {tree : Tree} {file : ConfigFile}
    (h : read d (outer (inner tree)) = .ok file) : file.chart ≠ none := by
  obtain ⟨inside, -, hrecord⟩ := bind_eq_ok.mp h
  have hmember : Tree.IsMember names "chart" (outer (inner tree)) (inner tree) := by
    cases houter with
    | field before after ending => exact .field (by simp)
    | item before after ending hplace => exact .item hplace (by simp)
  obtain ⟨before, after, hread, hchart⟩ :=
    Tree.record_of_isMember ConfigFile.chart
      (fun _ hother tree found next => chart_of_readField hother tree found next)
      (by decide) (by decide) hrecord hmember
  obtain ⟨part, hpart, rfl⟩ := map_eq_ok.mp hread
  rw [hchart]
  cases hinner with
  | field =>
      obtain ⟨settings, -, rfl⟩ := map_eq_ok.mp hpart
      simp
  | item =>
      obtain ⟨settings, -, rfl⟩ := map_eq_ok.mp hpart
      simp

/-- Whether a text is read as a document in a dialect: as a strict one, or as a relaxed one when it
gives nothing as a strict one. -/
structure IsReadAs (d : Dialect) (text : String) (root : Tree) : Prop where
  document : Document.read d text.toList = ⟨root, false⟩
  refused : d = .relaxed → ∃ fault, Document.decode .strict (read .strict) text.toList =
    .error fault

/-- A text sets what the document sets that it is read as. -/
theorem IsReadAs.parse_eq {d : Dialect} {text : String} {root : Tree} (h : IsReadAs d text root)
    {file : ConfigFile} (hroot : read d root = .ok file) : parse text = .ok file := by
  have hdecode := Document.decode_eq h.document hroot
  cases d with
  | strict => rw [parse, hdecode]
  | relaxed =>
      obtain ⟨fault, hfault⟩ := h.refused rfl
      rw [parse, hfault, hdecode]

end ConfigFile

namespace Config

/-- The theme that a document sets its properties over. -/
def themeOf (file : ConfigFile) : Except ConfigError ChartTheme :=
  file.theme.elim (.ok .default) fun name =>
    (ChartTheme.ofName? name).elim (.error (.unknownTheme name)) .ok

theorem ofFile_eq (file : ConfigFile) :
    ofFile file = themeOf file >>= fun base =>
      if (file.chart.getD .none).palette = some [] then .error .emptyPalette
      else .ok ⟨(file.chart.getD .none).apply base, file.htmlTitle.getD default.htmlTitle⟩ := by
  obtain ⟨theme, chart, title⟩ := file
  cases theme <;> rfl

/-- A configuration with another height of charts. -/
def withHeight (height : Height) (config : Config) : Config :=
  { config with chart := { config.chart with height := height } }

/-- A height that a document gives replaces the one of the configuration. -/
theorem ofFile_withHeight {file : ConfigFile} {config : Config} {setting : HeightSetting}
    {height : Height} (hchart : file.chart ≠ none) (hheight : setting.height? = some height)
    (h : ofFile file = .ok config) :
    ofFile (file.withHeight setting) = .ok (config.withHeight height) := by
  obtain ⟨settings, hsettings⟩ := Option.ne_none_iff_exists'.mp hchart
  have hother : (file.withHeight setting).chart.getD .none = settings.withHeight setting := by
    simp [ConfigFile.withHeight, hsettings]
  rw [ofFile_eq, hsettings] at h
  rw [ofFile_eq, hother]
  obtain ⟨base, htheme, hrest⟩ := bind_eq_ok.mp h
  refine bind_eq_ok.mpr ⟨base, htheme, ?_⟩
  split at hrest
  · exact absurd hrest (by simp)
  · rename_i hpalette
    have hpalette : ¬ (settings.withHeight setting).palette = some [] := hpalette
    rw [if_neg hpalette, ← Except.ok.inj hrest]
    simp only [withHeight, ConfigFile.withHeight, ChartSettings.withHeight, ChartSettings.apply,
      Option.bind_some, Option.getD_some, hheight]

/-- **A height means the same in every way of writing it.**  Take a document that is a configuration
with null as its height.  For every integer of 64 bits, whichever way the integer is given as the
height instead, the document is the same configuration with the single precision value nearest to
the integer as its height. -/
theorem parse_integer_height {d : Dialect} {n : Int} (hn : d.KeepsInt n) {outer inner : Tree → Tree}
    (houter : Tree.IsSlot ConfigFile.names "chart" outer)
    (hinner : Tree.IsSlot ChartSettings.names "height" inner) {file : ConfigFile} {base : Config}
    (hfile : ConfigFile.read d (outer (inner .null)) = .ok file) (hbase : ofFile file = .ok base) :
    ∃ b, Format.single.IsNearest n b ∧ b.negative = decide (n < 0) ∧
      ∀ tree : Tree, tree.IsHeightOf n → ∀ text, ConfigFile.IsReadAs d text (outer (inner tree)) →
        parse text = .ok (base.withHeight (.finite b)) := by
  obtain ⟨b, hb, hnearest, hsign⟩ := Height.exists_ofNumber_int hn.natAbs_le
  refine ⟨b, hnearest, hsign, ?_⟩
  intro tree htree text htext
  obtain ⟨setting, hsetting, hheight⟩ := htree.exists_setting hn
  rw [hb] at hheight
  have hread : ConfigFile.read d (outer (inner tree)) = .ok (file.withHeight setting) := by
    rw [ConfigFile.read_height houter hinner hsetting, hfile]
    rfl
  have hchart := ConfigFile.chart_ne_none houter hinner hfile
  refine bind_eq_ok.mpr ⟨_, htext.parse_eq hread, ?_⟩
  exact ofFile_withHeight hchart hheight hbase

/-- Half way between two values, beyond the integers with a sign: as a number and as a text with
blanks and the unit, among other properties. -/
theorem parse_integer_height_tie :
    let written (height : Json) : String := String.ofList ((Json.object [
      ("theme", .string "modern"),
      ("chart", .object [("palette", .strings ["#111111"]), ("height", height)]),
      ("html", .object [("title", .string "Tie")])]).write none)
    let base : Config := ⟨{ ChartTheme.modern with palette := ["#111111"] }, "Tie"⟩
    Dialect.strict.KeepsInt 9223372586610589696 ∧
      ∃ b, Format.single.IsNearest (9223372586610589696 : Int) b ∧ b.negative = false ∧
        parse (written (.int 9223372586610589696)) = .ok (base.withHeight (.finite b)) ∧
        parse (written (.string "\u00a09223372586610589696px\n")) =
          .ok (base.withHeight (.finite b)) := by
  intro written base
  have hn : Dialect.strict.KeepsInt 9223372586610589696 := by
    constructor <;> decide
  let outer (chart : Tree) : Tree := .object ([(some "theme", .text (some "modern"))] ++
    (some "chart", chart) :: [(some "html", .object [(some "title", .text (some "Tie"))] .closed)])
    .closed
  let inner (height : Tree) : Tree := .object
    ([(some "palette", .array [.text (some "#111111")] .closed)] ++ (some "height", height) :: [])
    .closed
  have houter : Tree.IsSlot ConfigFile.names "chart" outer := .field _ _ _
  have hinner : Tree.IsSlot ChartSettings.names "height" inner := .field _ _ _
  have hfile : ConfigFile.read .strict (outer (inner .null)) = .ok ⟨some "modern",
      some ⟨none, some ["#111111"], none, none, none, none, none⟩, some "Tie"⟩ := rfl
  have hbase : ofFile ⟨some "modern", some ⟨none, some ["#111111"], none, none, none, none, none⟩,
      some "Tie"⟩ = .ok base := rfl
  have hread : ∀ height : Json,
      ConfigFile.IsReadAs .strict (written height) (outer (inner height.tree)) := by
    intro height
    refine ⟨?_, by simp⟩
    rw [String.toList_ofList]
    exact Document.read_write _ none
  obtain ⟨b, hnearest, hsign, hparse⟩ := parse_integer_height hn houter hinner hfile hbase
  refine ⟨hn, b, hnearest, hsign, ?_, ?_⟩
  · exact hparse _ .number _ (hread (.int 9223372586610589696))
  · have htext : "\u00a09223372586610589696px\n" = String.ofList (['\u00a0'] ++
        ((Numeral.ofInt 9223372586610589696).text ++ Height.unit) ++ ['\n']) := by
      rfl
    rw [htext]
    have hblank : ∀ c ∈ ['\u00a0'], Text.isBlank c = true := by simp [Text.isBlank]
    have hfeed : ∀ c ∈ ['\n'], Text.isBlank c = true := by simp [Text.isBlank]
    exact hparse _ (.text hblank hfeed (.inr rfl)) _ (hread (.string _))

end Config

end ReportGrid
