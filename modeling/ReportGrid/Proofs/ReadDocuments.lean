import ReportGrid.Proofs.RelaxedTokens

/-!
# Reading what the printer writes

Reading undoes writing, in both dialects, and in relaxed documents also where last commas have been
written (`Json.writeWith`).

The two steps of a reader are taken one after the other:

* `Json.IsCut.tokens_writeWith` — the text of a value is cut into the tokens of the value, as long
  as the dialect cuts its numbers and texts off as they are printed (`Json.IsCut`);
* `State.run_tokens` — over the tokens of a value, the machine delivers the tree of the value.

`Document.read_write` is the result for strict documents, where every value is cut so.
-/

namespace ReportGrid

/-! ## The tokens of a value -/

namespace Json

/-- The token of a last comma, or none. -/
def lastToken : Bool → List Token
  | true => [.comma]
  | false => []

mutual

/-- The tokens of a value, with or without last commas. -/
def tokens (last : Bool) : Json → List Token
  | .null => [.keyword .null]
  | .bool true => [.keyword .true]
  | .bool false => [.keyword .false]
  | .number n => [.number n.numeral]
  | .string s => [.text (some s)]
  | .array [] => [.openArray, .closeArray]
  | .array (item :: rest) =>
    .openArray :: tokens last item ++ itemTokens last rest ++ (lastToken last ++ [.closeArray])
  | .object [] => [.openObject, .closeObject]
  | .object ((name, value) :: rest) =>
    .openObject :: .text (some name) :: .colon :: tokens last value ++ fieldTokens last rest ++
      (lastToken last ++ [.closeObject])

/-- The tokens of the items after the first one. -/
def itemTokens (last : Bool) : List Json → List Token
  | [] => []
  | item :: rest => .comma :: tokens last item ++ itemTokens last rest

/-- The tokens of the fields after the first one. -/
def fieldTokens (last : Bool) : List (String × Json) → List Token
  | [] => []
  | (name, value) :: rest =>
    .comma :: .text (some name) :: .colon :: tokens last value ++ fieldTokens last rest

end

end Json

/-! ## Cutting a text into the tokens of its value -/

namespace Dialect

open Json (EndsItem)

variable (d : Dialect)

/-- Blanks between tokens are passed over. -/
theorem tokens_blank {c : Char} (h : c ∈ ['\n', ' ']) (rest : List Char) :
    d.tokens (c :: rest) = d.tokens rest := by
  cases d with
  | strict =>
      have hall : ∀ e ∈ ['\n', ' '], Strict.isSpace e = true :=
        List.all_iff_forall_prop.mp (by decide)
      exact Strict.tokens_space (hall c h) rest
  | relaxed =>
      have hall : ∀ e ∈ ['\n', ' '], Relaxed.isSpace e = true ∧ e ≠ '/' :=
        List.all_iff_forall_prop.mp (by decide)
      exact Relaxed.tokens_space (hall c h).1 (hall c h).2 rest

/-- A mark is a token. -/
theorem tokens_mark {c : Char} {t : Token} (h : Token.mark? c = some t) (rest : List Char) :
    d.tokens (c :: rest) = t :: d.tokens rest := by
  cases d with
  | strict => exact Strict.tokens_mark h rest
  | relaxed => exact Relaxed.tokens_mark h rest

theorem tokens_null {rest : List Char} (hrest : EndsItem rest) :
    d.tokens ("null".toList ++ rest) = .keyword .null :: d.tokens rest := by
  cases d with
  | strict => exact Strict.tokens_word 'n' "ull".toList .null (by decide) (fun _ => rfl) rest
  | relaxed =>
      exact Relaxed.tokens_word 'n' "ull".toList .null (by decide)
        (List.all_iff_forall_prop.mp (by decide)) (by decide) hrest

theorem tokens_true {rest : List Char} (hrest : EndsItem rest) :
    d.tokens ("true".toList ++ rest) = .keyword .true :: d.tokens rest := by
  cases d with
  | strict => exact Strict.tokens_word 't' "rue".toList .true (by decide) (fun _ => rfl) rest
  | relaxed =>
      exact Relaxed.tokens_word 't' "rue".toList .true (by decide)
        (List.all_iff_forall_prop.mp (by decide)) (by decide) hrest

theorem tokens_false {rest : List Char} (hrest : EndsItem rest) :
    d.tokens ("false".toList ++ rest) = .keyword .false :: d.tokens rest := by
  cases d with
  | strict => exact Strict.tokens_word 'f' "alse".toList .false (by decide) (fun _ => rfl) rest
  | relaxed =>
      exact Relaxed.tokens_word 'f' "alse".toList .false (by decide)
        (List.all_iff_forall_prop.mp (by decide)) (by decide) hrest

/-- What stands before an item is blank. -/
theorem tokens_gap (layout : Option Nat) (rest : List Char) :
    d.tokens (Json.gap layout ++ rest) = d.tokens rest := by
  cases layout with
  | none => rfl
  | some depth =>
      have hblanks : ∀ n, d.tokens (List.replicate n ' ' ++ rest) = d.tokens rest := by
        intro n
        induction n with
        | zero => rfl
        | succ n ih =>
            rw [List.replicate_succ, List.cons_append, d.tokens_blank (by decide), ih]
      rw [Json.gap, List.cons_append, d.tokens_blank (by decide), hblanks]

/-- What stands between a name and its value is a colon. -/
theorem tokens_fieldMark (layout : Option Nat) (rest : List Char) :
    d.tokens (Json.fieldMark layout ++ rest) = .colon :: d.tokens rest := by
  cases layout with
  | none => exact d.tokens_mark rfl rest
  | some depth =>
      change d.tokens (':' :: ' ' :: rest) = _
      rw [d.tokens_mark rfl, d.tokens_blank (by decide)]

/-- A last comma is a token. -/
theorem tokens_lastComma (last : Bool) (rest : List Char) :
    d.tokens (Json.lastComma last ++ rest) = Json.lastToken last ++ d.tokens rest := by
  cases last with
  | true => exact d.tokens_mark rfl rest
  | false => rfl

/-- Whether a dialect cuts off a text as it is printed. -/
def CutsText (s : String) : Prop :=
  ∀ rest, d.tokens (Json.quote s.toList ++ rest) = .text (some s) :: d.tokens rest

/-- Whether a dialect cuts off a number as it is printed. -/
def CutsNumber (n : Number) : Prop :=
  ∀ rest, EndsItem rest → d.tokens (n.text ++ rest) = .number n.numeral :: d.tokens rest

/-- A name and the mark behind it. -/
theorem CutsText.tokens_name {d : Dialect} {name : String} (h : d.CutsText name)
    (layout : Option Nat) (rest : List Char) :
    d.tokens (Json.quote name.toList ++ (Json.fieldMark layout ++ rest)) =
      .text (some name) :: .colon :: d.tokens rest := by
  rw [h, d.tokens_fieldMark]

end Dialect

namespace Json

/-- Whether a dialect cuts off all numbers and texts of a value as they are printed. -/
inductive IsCut (d : Dialect) : Json → Prop where
  | null : IsCut d .null
  | bool (value : Bool) : IsCut d (.bool value)
  | number {n : Number} (h : d.CutsNumber n) : IsCut d (.number n)
  | string {s : String} (h : d.CutsText s) : IsCut d (.string s)
  | array {items : List Json} (h : ∀ item ∈ items, IsCut d item) : IsCut d (.array items)
  | object {fields : List (String × Json)} (names : ∀ field ∈ fields, d.CutsText field.1)
      (values : ∀ field ∈ fields, IsCut d field.2) : IsCut d (.object fields)

/-! ### What follows an item -/

theorem endsItem_gap (layout : Option Nat) {c : Char} (h : c ∈ [',', ']', '\x7d', '\n'])
    (rest : List Char) : EndsItem (gap layout ++ c :: rest) := by
  cases layout with
  | none => exact endsItem_cons h rest
  | some depth => exact endsItem_cons (by decide) _

theorem endsItem_lastComma (last : Bool) {rest : List Char} (h : EndsItem rest) :
    EndsItem (lastComma last ++ rest) := by
  cases last with
  | true => exact endsItem_cons (by decide) rest
  | false => exact h

theorem endsItem_items (last : Bool) (layout : Option Nat) (items : List Json)
    {rest : List Char} (h : EndsItem rest) :
    EndsItem (writeItemsWith last layout items ++ rest) := by
  cases items with
  | nil => exact h
  | cons item items => exact endsItem_cons (by decide) _

theorem endsItem_fields (last : Bool) (layout : Option Nat) (fields : List (String × Json))
    {rest : List Char} (h : EndsItem rest) :
    EndsItem (writeFieldsWith last layout fields ++ rest) := by
  cases fields with
  | nil => exact h
  | cons field fields => exact endsItem_cons (by decide) _

/-! ### The text of a value -/

variable {d : Dialect}

mutual

/-- **One value.**  Its text is cut into its tokens. -/
theorem IsCut.tokens_writeWith (last : Bool) (v : Json) (h : v.IsCut d) (layout : Option Nat)
    {rest : List Char} (hrest : EndsItem rest) :
    d.tokens (v.writeWith last layout ++ rest) = v.tokens last ++ d.tokens rest := by
  match v, h with
  | .null, _ => exact d.tokens_null hrest
  | .bool true, _ => exact d.tokens_true hrest
  | .bool false, _ => exact d.tokens_false hrest
  | .number _, .number hn => exact hn rest hrest
  | .string _, .string hs => exact hs rest
  | .array [], _ =>
      change d.tokens ('[' :: ']' :: rest) = _
      rw [d.tokens_mark rfl, d.tokens_mark rfl]
      rfl
  | .array (item :: items), .array hitems =>
      have hclose := endsItem_lastComma last (endsItem_gap layout (c := ']') (by decide) rest)
      simp only [writeWith, tokens, List.cons_append, List.append_assoc, List.nil_append]
      rw [d.tokens_mark rfl, d.tokens_gap,
        tokens_writeWith last item (hitems item List.mem_cons_self) _
          (endsItem_items last _ items hclose),
        tokens_writeItemsWith last items (fun i hi => hitems i (List.mem_cons_of_mem _ hi)) _
          hclose,
        d.tokens_lastComma, d.tokens_gap, d.tokens_mark rfl]
  | .object [], _ =>
      change d.tokens ('\x7b' :: '\x7d' :: rest) = _
      rw [d.tokens_mark rfl, d.tokens_mark rfl]
      rfl
  | .object ((name, value) :: fields), .object hnames hvalues =>
      have hclose := endsItem_lastComma last (endsItem_gap layout (c := '\x7d') (by decide) rest)
      simp only [writeWith, tokens, List.cons_append, List.append_assoc, List.nil_append]
      rw [d.tokens_mark rfl, d.tokens_gap, (hnames (name, value) List.mem_cons_self).tokens_name,
        tokens_writeWith last value (hvalues (name, value) List.mem_cons_self) _
          (endsItem_fields last _ fields hclose),
        tokens_writeFieldsWith last fields (fun f hf => hnames f (List.mem_cons_of_mem _ hf))
          (fun f hf => hvalues f (List.mem_cons_of_mem _ hf)) _ hclose,
        d.tokens_lastComma, d.tokens_gap, d.tokens_mark rfl]

theorem IsCut.tokens_writeItemsWith (last : Bool) (items : List Json)
    (h : ∀ item ∈ items, item.IsCut d) (layout : Option Nat) {rest : List Char}
    (hrest : EndsItem rest) :
    d.tokens (writeItemsWith last layout items ++ rest) =
      itemTokens last items ++ d.tokens rest := by
  match items with
  | [] => rfl
  | item :: items =>
      simp only [writeItemsWith, itemTokens, List.cons_append, List.append_assoc]
      rw [d.tokens_mark rfl, d.tokens_gap,
        tokens_writeWith last item (h item List.mem_cons_self) _
          (endsItem_items last _ items hrest),
        tokens_writeItemsWith last items (fun i hi => h i (List.mem_cons_of_mem _ hi)) _ hrest]

theorem IsCut.tokens_writeFieldsWith (last : Bool) (fields : List (String × Json))
    (hnames : ∀ field ∈ fields, d.CutsText field.1) (h : ∀ field ∈ fields, field.2.IsCut d)
    (layout : Option Nat) {rest : List Char} (hrest : EndsItem rest) :
    d.tokens (writeFieldsWith last layout fields ++ rest) =
      fieldTokens last fields ++ d.tokens rest := by
  match fields with
  | [] => rfl
  | (name, value) :: fields =>
      simp only [writeFieldsWith, fieldTokens, List.cons_append, List.append_assoc]
      rw [d.tokens_mark rfl, d.tokens_gap, (hnames (name, value) List.mem_cons_self).tokens_name,
        tokens_writeWith last value (h (name, value) List.mem_cons_self) _
          (endsItem_fields last _ fields hrest),
        tokens_writeFieldsWith last fields (fun f hf => hnames f (List.mem_cons_of_mem _ hf))
          (fun f hf => h f (List.mem_cons_of_mem _ hf)) _ hrest]

end

end Json

namespace Strict

theorem cutsText (s : String) : Dialect.strict.CutsText s := by
  intro rest
  have hquote := tokens_quote s.toList rest
  rwa [String.ofList_toList] at hquote

theorem cutsNumber (n : Number) : Dialect.strict.CutsNumber n :=
  fun _ hrest => tokens_numeral n.isStrict_numeral hrest.endsNumeral

mutual

/-- Strict documents cut off every number and every text as they are printed. -/
theorem isCut (v : Json) : v.IsCut .strict := by
  match v with
  | .null => exact .null
  | .bool value => exact .bool value
  | .number n => exact .number (cutsNumber n)
  | .string s => exact .string (cutsText s)
  | .array items => exact .array (isCut_of_mem_items items)
  | .object fields => exact .object (fun field _ => cutsText field.1) (isCut_of_mem_fields fields)

theorem isCut_of_mem_items (items : List Json) : ∀ item ∈ items, item.IsCut .strict := by
  match items with
  | [] => simp
  | item :: rest => exact List.forall_mem_cons.mpr ⟨isCut item, isCut_of_mem_items rest⟩

theorem isCut_of_mem_fields (fields : List (String × Json)) :
    ∀ field ∈ fields, field.2.IsCut .strict := by
  match fields with
  | [] => simp
  | (_, value) :: rest => exact List.forall_mem_cons.mpr ⟨isCut value, isCut_of_mem_fields rest⟩

end

end Strict

/-! ## Putting the tokens of a value together -/

namespace State

variable {d : Dialect} {last : Bool}

/-- An array is closed behind its last item, in relaxed documents also behind a last comma. -/
theorem run_closeArray (hlast : last = true → d = .relaxed) (found : List Tree)
    (stack : List Open) :
    (Json.lastToken last ++ [Token.closeArray]).foldl (step d)
        (.reading .mark (.array found :: stack)) =
      deliver (.array found.reverse .closed) stack := by
  cases last with
  | false => simp [Json.lastToken, step, stepMark]
  | true => simp [Json.lastToken, step, stepMark, stepValue, hlast rfl]

/-- An object is closed behind its last field, in relaxed documents also behind a last comma. -/
theorem run_closeObject (hlast : last = true → d = .relaxed)
    (found : List (Option String × Tree)) (stack : List Open) :
    (Json.lastToken last ++ [Token.closeObject]).foldl (step d)
        (.reading .mark (.object found :: stack)) =
      deliver (.object found.reverse .closed) stack := by
  cases last with
  | false => simp [Json.lastToken, step, stepMark]
  | true => simp [Json.lastToken, step, stepMark, stepName, fieldName?, hlast rfl]

mutual

/-- **One value.**  Over the tokens of a value the machine delivers its tree. -/
theorem run_tokens (hlast : last = true → d = .relaxed) (v : Json) (closable : Bool)
    (stack : List Open) :
    (v.tokens last).foldl (step d) (.reading (.value closable) stack) = deliver v.tree stack := by
  match v with
  | .null | .bool true | .bool false | .number _ | .string _ | .array [] | .object [] => rfl
  | .array (item :: items) =>
      rw [Json.tokens, List.cons_append, List.cons_append, List.append_assoc, List.foldl_cons,
        List.foldl_append, List.foldl_append]
      change (Json.lastToken last ++ [Token.closeArray]).foldl (step d)
        ((Json.itemTokens last items).foldl (step d)
          ((item.tokens last).foldl (step d)
            (.reading (.value true) (.array [] :: stack)))) = _
      rw [run_tokens hlast item]
      change (Json.lastToken last ++ [Token.closeArray]).foldl (step d)
        ((Json.itemTokens last items).foldl (step d)
          (.reading .mark (.array [item.tree] :: stack))) = _
      rw [run_itemTokens hlast items, run_closeArray hlast]
      simp [Json.tree]
  | .object ((name, value) :: fields) =>
      rw [Json.tokens, List.cons_append, List.cons_append, List.cons_append, List.cons_append,
        List.cons_append, List.cons_append, List.append_assoc, List.foldl_cons, List.foldl_cons,
        List.foldl_cons, List.foldl_append, List.foldl_append]
      change (Json.lastToken last ++ [Token.closeObject]).foldl (step d)
        ((Json.fieldTokens last fields).foldl (step d)
          ((value.tokens last).foldl (step d)
            (.reading (.value false) (.field [] (some name) :: stack)))) = _
      rw [run_tokens hlast value]
      change (Json.lastToken last ++ [Token.closeObject]).foldl (step d)
        ((Json.fieldTokens last fields).foldl (step d)
          (.reading .mark (.object [(some name, value.tree)] :: stack))) = _
      rw [run_fieldTokens hlast fields, run_closeObject hlast]
      simp [Json.tree]

/-- The items after the first one. -/
theorem run_itemTokens (hlast : last = true → d = .relaxed) (items : List Json)
    (found : List Tree) (stack : List Open) :
    (Json.itemTokens last items).foldl (step d) (.reading .mark (.array found :: stack)) =
      .reading .mark (.array ((items.map Json.tree).reverse ++ found) :: stack) := by
  match items with
  | [] => rfl
  | item :: items =>
      rw [Json.itemTokens, List.cons_append, List.foldl_cons, List.foldl_append]
      change (Json.itemTokens last items).foldl (step d)
        ((item.tokens last).foldl (step d)
          (.reading (.value (d = .relaxed)) (.array found :: stack))) = _
      rw [run_tokens hlast item]
      change (Json.itemTokens last items).foldl (step d)
        (.reading .mark (.array (item.tree :: found) :: stack)) = _
      rw [run_itemTokens hlast items]
      simp

/-- The fields after the first one. -/
theorem run_fieldTokens (hlast : last = true → d = .relaxed) (fields : List (String × Json))
    (found : List (Option String × Tree)) (stack : List Open) :
    (Json.fieldTokens last fields).foldl (step d) (.reading .mark (.object found :: stack)) =
      .reading .mark (.object
        ((fields.map fun field => (some field.1, field.2.tree)).reverse ++ found) :: stack) := by
  match fields with
  | [] => rfl
  | (name, value) :: fields =>
      rw [Json.fieldTokens, List.cons_append, List.cons_append, List.cons_append, List.foldl_cons,
        List.foldl_cons, List.foldl_cons, List.foldl_append]
      change (Json.fieldTokens last fields).foldl (step d)
        ((value.tokens last).foldl (step d)
          (.reading (.value false) (.field found (some name) :: stack))) = _
      rw [run_tokens hlast value]
      change (Json.fieldTokens last fields).foldl (step d)
        (.reading .mark (.object ((some name, value.tree) :: found) :: stack)) = _
      rw [run_fieldTokens hlast fields]
      simp

end

end State

/-! ## Whole documents -/

/-- The text of a value is cut into its tokens and nothing else. -/
theorem Json.IsCut.tokens_eq {d : Dialect} {v : Json} (h : v.IsCut d) (last : Bool)
    (layout : Option Nat) : d.tokens (v.writeWith last layout) = v.tokens last := by
  have hnil : d.tokens [] = [] := by
    cases d with
    | strict =>
        change Strict.tokens [] = []
        rw [Strict.tokens]
        rfl
    | relaxed =>
        change Relaxed.tokens [] = []
        rw [Relaxed.tokens]
        rfl
  have htokens := h.tokens_writeWith last v layout Json.endsItem_nil
  rwa [List.append_nil, hnil, List.append_nil] at htokens

/-- **Reading undoes writing.**  Reading the text of a value, laid out in any way, gives the value
as it is written.  Relaxed documents may have last commas. -/
theorem Document.read_writeWith {d : Dialect} {last : Bool} (hlast : last = true → d = .relaxed)
    {v : Json} (h : v.IsCut d) (layout : Option Nat) :
    Document.read d (v.writeWith last layout) = ⟨v.tree, false⟩ := by
  rw [Document.read, h.tokens_eq, Document.ofTokens, State.run_tokens hlast]
  rfl

/-- Strict documents can be read whatever they hold. -/
theorem Document.read_write (v : Json) (layout : Option Nat) :
    Document.read .strict (v.write layout) = ⟨v.tree, false⟩ := by
  have hlast : false = true → Dialect.strict = .relaxed := fun h => absurd h (by decide)
  rw [← Json.writeWith_false, Document.read_writeWith hlast (Strict.isCut v)]

end ReportGrid
