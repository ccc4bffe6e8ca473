import ReportGrid.Proofs.ReadDocuments

/-!
# Values that come back

`Json.Fits d` says that documents of a dialect can hold a value: the fields of every object are
sorted by name, each name once, and the dialect keeps every number and every text as it is.  The
value of such a tree is the value that was written (`Json.json_tree`), as long as it is not nested
too deeply for the reader.
-/

namespace ReportGrid

/-! ## Values that documents can hold -/

/-- The integers that a dialect keeps exact: those of 64 bits with a sign, and in strict documents
also those without one. -/
def Dialect.KeepsInt (d : Dialect) (n : Int) : Prop :=
  -0x8000000000000000 ≤ n ∧ n < match d with
    | .strict => 0x10000000000000000
    | .relaxed => 0x8000000000000000

/-- The texts that a dialect reads back from how they are printed.  Two characters that are not
escaped end a line in relaxed documents, where no text may go on. -/
def Dialect.KeepsText : Dialect → String → Prop
  | .strict, _ => True
  | .relaxed, s => '\u2028' ∉ s.toList ∧ '\u2029' ∉ s.toList

/-- Whether a value is one that a document of a dialect can hold.  Its numbers are integers. -/
inductive Json.Fits (d : Dialect) : Json → Prop where
  | null : Fits d .null
  | bool (value : Bool) : Fits d (.bool value)
  | int {n : Int} (h : d.KeepsInt n) : Fits d (.number (.int n))
  | string {s : String} (h : d.KeepsText s) : Fits d (.string s)
  | array {items : List Json} (h : ∀ item ∈ items, Fits d item) : Fits d (.array items)
  | object {fields : List (String × Json)} (sorted : (fields.map Prod.fst).Pairwise (· < ·))
      (names : ∀ field ∈ fields, d.KeepsText field.1)
      (values : ∀ field ∈ fields, Fits d field.2) : Fits d (.object fields)

namespace Json

/-- A field whose name comes after all others is put behind them. -/
theorem setField_last {name : String} {fields : List (String × Json)} (value : Json)
    (h : ∀ field ∈ fields, field.1 < name) :
    setField name value fields = fields ++ [(name, value)] := by
  induction fields with
  | nil => rfl
  | cons field rest ih =>
      obtain ⟨k, v⟩ := field
      have hless : k < name := h (k, v) List.mem_cons_self
      have hrest : ∀ field ∈ rest, field.1 < name :=
        fun field hfield => h field (List.mem_cons_of_mem _ hfield)
      rw [setField, if_neg (String.lt_asymm hless), if_neg (String.ne_of_lt hless).symm, ih hrest,
        List.cons_append]

/-- Fields that are sorted already stay as they are. -/
theorem sorted_eq_self {fields : List (String × Json)}
    (h : (fields.map Prod.fst).Pairwise (· < ·)) : sorted fields = fields := by
  induction fields using List.reverseRecOn with
  | nil => rfl
  | append_singleton fields field ih =>
      rw [List.map_append, List.map_singleton, List.pairwise_append] at h
      obtain ⟨hfields, -, hlast⟩ := h
      have hless : ∀ other ∈ fields, other.1 < field.1 := by
        intro other hother
        exact hlast _ (List.mem_map_of_mem hother) _ (List.mem_singleton_self _)
      have hstep : sorted (fields ++ [field]) = setField field.1 field.2 (sorted fields) := by
        rw [sorted, List.foldl_append]
        rfl
      rw [hstep, ih hfields, setField_last field.2 hless]

end Json

/-- The digits of an integer stand for it. -/
theorem decimalValue_toDigits (n : Nat) : decimalValue (Nat.toDigits 10 n) = n := by
  simp [decimalValue]

/-- **Integers come back.**  The numeral of an integer that a dialect keeps stands for it. -/
theorem Dialect.quantity?_ofInt {d : Dialect} {n : Int} (h : d.KeepsInt n) :
    d.quantity? (Numeral.ofInt n) = some (.number (.int n)) := by
  obtain ⟨hlow, hhigh⟩ := h
  cases d with
  | strict =>
      by_cases hn : n < 0
      · have hrange : 0 < n.natAbs ∧ n.natAbs ≤ Numeral.signedLimit := by
          simp only [Numeral.signedLimit]
          omega
        have habs : -(n.natAbs : Int) = n := by omega
        simp only [quantity?, Numeral.strict?, Numeral.ofInt, Numeral.isNegative, if_pos hn,
          decide_true, if_true, decimalValue_toDigits, if_pos hrange, habs, Option.map_some]
      · have hrange : n.natAbs < Numeral.unsignedLimit := by
          simp only [Numeral.unsignedLimit] at hhigh ⊢
          omega
        have habs : (n.natAbs : Int) = n := by omega
        simp only [quantity?, Numeral.strict?, Numeral.ofInt, Numeral.isNegative, if_neg hn,
          reduceCtorEq, decide_false, Bool.false_eq_true, if_false, decimalValue_toDigits,
          if_pos hrange, habs, Option.map_some]
  | relaxed =>
      have hrange : -(Numeral.signedLimit : Int) ≤ n ∧ n < Numeral.signedLimit := by
        simp only [Numeral.signedLimit] at hhigh ⊢
        omega
      by_cases hn : n < 0
      · have habs : -(n.natAbs : Int) = n := by omega
        simp only [quantity?, Numeral.relaxed?, Numeral.ofInt, Numeral.isNegative, if_pos hn,
          decide_true, if_true, decimalValue_toDigits, habs, if_pos hrange]
      · have habs : (n.natAbs : Int) = n := by omega
        simp only [quantity?, Numeral.relaxed?, Numeral.ofInt, Numeral.isNegative, if_neg hn,
          reduceCtorEq, decide_false, Bool.false_eq_true, if_false, decimalValue_toDigits, habs,
          if_pos hrange]

/-! ## Reading them -/

/-- Whether so many containers may be opened one inside the other. -/
def Room.Holds (room : Room) (depth : Nat) : Prop :=
  ∀ most, room = some most → depth ≤ most

/-- Opening a container takes one from the room. -/
theorem Room.Holds.enter {room : Room} {depth : Nat} (h : room.Holds (depth + 1)) :
    ∃ inside, room.enter = .ok inside ∧ inside.Holds depth := by
  cases room with
  | none => exact ⟨none, rfl, fun _ hmost => by simp at hmost⟩
  | some most =>
      have hmost := h most rfl
      cases most with
      | zero => omega
      | succ most =>
          refine ⟨some most, rfl, ?_⟩
          rintro _ ⟨⟩
          omega

theorem Room.Holds.mono {room : Room} {depth less : Nat} (h : room.Holds depth)
    (hless : less ≤ depth) : room.Holds less :=
  fun most hmost => hless.trans (h most hmost)

namespace Json

variable {d : Dialect}

mutual

/-- **Values come back.**  The value of a tree is the value that was written. -/
theorem json_tree (v : Json) {room : Room} (h : v.Fits d) (hroom : room.Holds v.depth) :
    v.tree.json d room = .ok v := by
  match v, h with
  | .null, _ => rfl
  | .bool _, _ => rfl
  | .string _, _ => rfl
  | .number _, .int hn =>
      change (Tree.quantity d (Numeral.ofInt _)).map Quantity.json = _
      rw [Tree.quantity, Dialect.quantity?_ofInt hn]
      rfl
  | .array items, .array hitems =>
      obtain ⟨inside, henter, hinside⟩ := hroom.enter
      rw [tree, trees_eq_map, Tree.json, henter]
      simp only [bind, Except.bind, jsonItems_map_tree items hitems hinside, Ending.demanded]
      rfl
  | .object fields, .object hsorted _ hvalues =>
      obtain ⟨inside, henter, hinside⟩ := hroom.enter
      rw [tree, fieldTrees_eq_map, Tree.json, henter]
      simp only [bind, Except.bind, jsonFields_map_tree fields hvalues hinside, Ending.demanded,
        sorted_eq_self hsorted]
      rfl

theorem jsonItems_map_tree (items : List Json) {room : Room} (h : ∀ item ∈ items, item.Fits d)
    (hroom : room.Holds (depthOfItems items)) :
    Tree.jsonItems d room (items.map tree) = .ok items := by
  match items with
  | [] => rfl
  | item :: rest =>
      have hfirst := json_tree item (h item List.mem_cons_self)
        (hroom.mono (Nat.le_max_left _ _))
      have hrest := jsonItems_map_tree rest (fun i hi => h i (List.mem_cons_of_mem _ hi))
        (hroom.mono (Nat.le_max_right _ _))
      rw [List.map_cons, Tree.jsonItems, hfirst]
      simp only [bind, Except.bind, hrest]
      rfl

theorem jsonFields_map_tree (fields : List (String × Json)) {room : Room}
    (h : ∀ field ∈ fields, field.2.Fits d) (hroom : room.Holds (depthOfFields fields)) :
    Tree.jsonFields d room (fields.map fun field => (some field.1, field.2.tree)) =
      .ok fields := by
  match fields with
  | [] => rfl
  | (name, value) :: rest =>
      have hfirst := json_tree value (h (name, value) List.mem_cons_self)
        (hroom.mono (Nat.le_max_left _ _))
      have hrest := jsonFields_map_tree rest (fun f hf => h f (List.mem_cons_of_mem _ hf))
        (hroom.mono (Nat.le_max_right _ _))
      rw [List.map_cons, Tree.jsonFields]
      simp only [Tree.content, Option.elim_some, bind, Except.bind, hfirst, hrest]
      rfl

end

/-- A text in which a value is read, and nothing after it, has the value of its tree. -/
theorem parse_of_read {s : List Char} {t : Tree} (h : Document.read d s = ⟨t, false⟩) :
    parse d s = t.json d d.room := by
  simp only [parse, Document.decode, h, bind, Except.bind]
  cases t.json d d.room <;> rfl

/-- **Reading undoes printing**, in every layout, up to the depth that strict documents may have. -/
theorem parse_write {v : Json} (h : v.Fits .strict) (hdepth : v.depth ≤ 127)
    (layout : Option Nat) : parse .strict (v.write layout) = .ok v := by
  rw [parse_of_read (Document.read_write v layout)]
  apply json_tree v h
  rintro _ ⟨⟩
  exact hdepth

end Json

end ReportGrid
