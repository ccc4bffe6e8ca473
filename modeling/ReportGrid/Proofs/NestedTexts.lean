import ReportGrid.Proofs.AppendedTokens
import ReportGrid.Proofs.ReadValues
import ReportGrid.Proofs.RefusedDocuments

/-!
# Documents inside documents

A strict document may stand in the place of a value in another one, as it is written.  There it is
read as by itself: what follows it does not change how it is cut into tokens, and what the machine
does with them does not depend on the containers that are open around it.

* `State.run_under` — a run that leaves a value is the same run above a deeper stack;
* `Strict.reads_of_parse` — where a value may stand, a document is read to its tree;
* `Strict.Gives.array`, `Strict.Gives.object` — the texts of items and of fields make up the text of
  an array and of an object, as long as the whole is not nested too deeply.
-/

namespace ReportGrid

/-! ## Runs above a deeper stack -/

namespace State

variable {d : Dialect}

/-- A state with more open containers around those that it has. -/
def under (stack : List Open) : State → State
  | .reading expected inner => .reading expected (inner ++ stack)
  | .finished document => deliver document.root stack

theorem deliver_append (v : Tree) (inner stack : List Open) :
    deliver v (inner ++ stack) = (deliver v inner).under stack := by
  cases inner with
  | nil => rfl
  | cons top inner => cases top <;> rfl

theorem stepValue_under (closable : Bool) (inner stack : List Open) (t : Token) :
    (stepValue closable inner t).NoValue d ∨
      stepValue closable (inner ++ stack) t = (stepValue closable inner t).under stack := by
  cases t with
  | openArray => exact .inr rfl
  | openObject => exact .inr rfl
  | text content => exact .inr (deliver_append _ _ _)
  | number numeral => exact .inr (deliver_append _ _ _)
  | keyword word => exact .inr (deliver_append _ _ _)
  | closeArray =>
      match closable, inner with
      | true, .array items :: inner => exact .inr (deliver_append _ inner stack)
      | true, [] => exact .inl (noValue_cutValue _ _ _)
      | true, .object fields :: inner => exact .inl (noValue_cutValue _ _ _)
      | true, .field fields name :: inner => exact .inl (noValue_cutValue _ _ _)
      | false, inner => exact .inl (noValue_cutValue _ _ _)
  | _ => exact .inl (noValue_cutValue _ _ _)

theorem stepName_under (closable : Bool) (inner stack : List Open) (t : Token) :
    (stepName d closable inner t).NoValue d ∨
      stepName d closable (inner ++ stack) t = (stepName d closable inner t).under stack := by
  unfold stepName
  split
  · rename_i name fields inner hname
    exact .inr (by simp [hname, under])
  · split
    · exact .inr (deliver_append _ _ _)
    · exact .inl (noValue_cutInside _ _ _)
    · exact .inl (noValue_cutInside _ _ _)

theorem stepMark_under (inner stack : List Open) (t : Token) :
    (stepMark d inner t).NoValue d ∨
      stepMark d (inner ++ stack) t = (stepMark d inner t).under stack := by
  unfold stepMark
  split
  · exact .inr rfl
  · exact .inr rfl
  · exact .inr (deliver_append _ _ _)
  · exact .inr (deliver_append _ _ _)
  · exact .inl (noValue_cutInside _ _ _)

/-- **One step.**  Unless it leaves no value, it does not depend on what is around the open
containers. -/
theorem step_under (expected : Expected) (inner stack : List Open) (t : Token) :
    (step d (.reading expected inner) t).NoValue d ∨
      step d (.reading expected (inner ++ stack)) t =
        (step d (.reading expected inner) t).under stack := by
  cases expected with
  | value closable => exact stepValue_under closable inner stack t
  | name closable => exact stepName_under closable inner stack t
  | mark => exact stepMark_under inner stack t
  | colon fields name =>
      cases t with
      | colon => exact .inr rfl
      | _ => exact .inl (noValue_cutValue _ _ _)

/-- **Every run.**  Unless it leaves no value, it does not depend on that either. -/
theorem run_under (s : State) (stack : List Open) (tokens : List Token) :
    (tokens.foldl (step d) s).NoValue d ∨
      tokens.foldl (step d) (s.under stack) = (tokens.foldl (step d) s).under stack := by
  induction tokens generalizing s with
  | nil => exact .inr rfl
  | cons t tokens ih =>
      have hrun : (step d s t).NoValue d → ((t :: tokens).foldl (step d) s).NoValue d :=
        fun h => h.run tokens
      cases s with
      | finished document => exact .inl (hrun (.inl rfl))
      | reading expected inner =>
          rcases step_under expected inner stack t with hnone | hstep
          · exact .inl (hrun hnone)
          · rw [List.foldl_cons, List.foldl_cons, under, hstep]
            exact ih _

/-- In the place of a first item, only the mark that closes the container starts no value. -/
theorem stepValue_closable (t : Token) :
    (step d (.reading (.value false) []) t).NoValue d ∨
      ∀ closable stack, stepValue closable stack t = stepValue false stack t := by
  cases t with
  | closeArray => exact .inl (noValue_cutValue _ _ _)
  | _ => exact .inr fun _ _ => rfl

/-- A token that is broken off leaves no value. -/
theorem noValue_broken (s : State) {t : Token} (h : ¬ t.IsWhole) : (step d s t).NoValue d := by
  cases t with
  | broken isText skipped demanded =>
      cases s with
      | finished document => exact .inl rfl
      | reading expected stack =>
          cases expected with
          | value closable => exact noValue_cutValue _ _ _
          | name closable => cases isText <;> exact noValue_cutInside _ _ _
          | mark =>
              cases stack with
              | nil => exact noValue_cutInside _ _ _
              | cons top stack => cases top <;> exact noValue_cutInside _ _ _
          | colon fields name => exact noValue_cutValue _ _ _
  | _ => exact absurd trivial h

/-- A document whose tokens end early has no value. -/
theorem noValue_reading (expected : Expected) (stack : List Open) :
    (document (.reading expected stack)).NoValue d := by
  cases expected with
  | value closable => exact noValue_cutValue _ _ _
  | colon fields name => exact noValue_cutValue _ _ _
  | name closable => exact noValue_cutInside _ _ _
  | mark => exact noValue_cutInside _ _ _

end State

/-! ## Reading a document where a value may stand -/

/-- Whether a text is read to a tree wherever a value may stand, in front of what does not go on
with a numeral. -/
def Strict.Reads (s : List Char) (tree : Tree) : Prop :=
  ∀ closable stack rest, EndsNumeral rest →
    (tokens (s ++ rest)).foldl (State.step .strict) (.reading (.value closable) stack) =
      (tokens rest).foldl (State.step .strict) (State.deliver tree stack)

namespace Strict

section

variable {s : List Char} {v : Json} (h : Json.parse .strict s = .ok v)

include h

/-- Over the tokens of a document, the machine comes to its tree. -/
theorem run_of_parse : (tokens s).foldl (State.step .strict) (.reading (.value false) []) =
    .finished (Document.read .strict s) := by
  cases hrun : (tokens s).foldl (State.step .strict) (.reading (.value false) []) with
  | finished document => rw [Document.read, Document.ofTokens, Dialect.tokens, hrun]; rfl
  | reading expected stack =>
      have hnone : (Document.read .strict s).NoValue .strict := by
        rw [Document.read, Document.ofTokens, Dialect.tokens, hrun]
        exact State.noValue_reading expected stack
      exact absurd h (Json.parse_ne_ok hnone v)

/-- The first tokens of a document leave it a value. -/
theorem not_noValue_of_parse {before after : List Token} (htokens : tokens s = before ++ after) :
    ¬ (before.foldl (State.step .strict) (.reading (.value false) [])).NoValue .strict := by
  intro hnone
  have hrun := hnone.run after
  rw [← List.foldl_append, ← htokens, run_of_parse h] at hrun
  exact Json.parse_ne_ok hrun v h

/-- No token of a document is broken off. -/
theorem isWhole_of_parse : ∀ t ∈ tokens s, t.IsWhole := by
  intro t ht
  by_contra hbroken
  obtain ⟨before, after, htokens⟩ := List.append_of_mem ht
  rw [List.append_cons] at htokens
  have hvalue := not_noValue_of_parse h htokens
  rw [List.foldl_append] at hvalue
  exact hvalue (State.noValue_broken _ hbroken)

/-- **A document is read to its tree** wherever a value may stand. -/
theorem reads_of_parse : Reads s (Document.read .strict s).root := by
  intro closable stack rest hrest
  rw [tokens_append (isWhole_of_parse h) hrest, List.foldl_append]
  congr 1
  have hrun : (tokens s).foldl (State.step .strict) (.reading (.value false) stack) =
      State.deliver (Document.read .strict s).root stack := by
    have hunder := State.run_under (d := .strict) (.reading (.value false) []) stack (tokens s)
    rw [run_of_parse h] at hunder
    refine hunder.resolve_left ?_
    rw [← run_of_parse h]
    exact not_noValue_of_parse h (List.append_nil _).symm
  rw [← hrun]
  cases htokens : tokens s with
  | nil =>
      have hstart := run_of_parse h
      simp [htokens] at hstart
  | cons t ts =>
      have hfirst : ¬ (State.step .strict (.reading (.value false) []) t).NoValue .strict :=
        not_noValue_of_parse h (htokens.trans List.singleton_append.symm)
      have hstep := (State.stepValue_closable t).resolve_left hfirst closable stack
      rw [List.foldl_cons, List.foldl_cons]
      congr 1

end

/-! ### Texts of arrays and objects -/

/-- The text of an array with items as they are written. -/
def arrayText (texts : List (List Char)) : List Char :=
  '[' :: ([','].intercalate texts ++ [']'])

/-- The text of a field with a value as it is written. -/
def fieldText (field : String × List Char) : List Char :=
  Json.quote field.1.toList ++ ':' :: field.2

/-- The text of an object with fields whose values are as they are written. -/
def objectText (fields : List (String × List Char)) : List Char :=
  '\x7b' :: ([','].intercalate (fields.map fieldText) ++ ['\x7d'])

/-- Whether the text of a value is read as the value of a field. -/
def ReadsField (field : String × List Char) (read : Option String × Tree) : Prop :=
  read.1 = some field.1 ∧ Reads field.2 read.2

/-- A mark stands where a numeral ends. -/
theorem endsNumeral_mark {c : Char} (h : c ∈ [',', ']', '\x7d']) (rest : List Char) :
    EndsNumeral (c :: rest) := by
  have hall : ∀ d ∈ [',', ']', '\x7d'], d ∈ [',', ']', '\x7d', '\n'] :=
    List.all_iff_forall_prop.mp (by decide)
  exact (Json.endsItem_cons (hall c h) rest).endsNumeral

/-- Items are read one after the other, up to the closing mark. -/
theorem run_items {text : List Char} {texts : List (List Char)} {tree : Tree} {trees : List Tree}
    (hfirst : Reads text tree) (h : List.Forall₂ Reads texts trees) (closable : Bool)
    (done : List Tree) (stack : List Open) (rest : List Char) :
    (tokens ([','].intercalate (text :: texts) ++ ']' :: rest)).foldl (State.step .strict)
        (.reading (.value closable) (.array done :: stack)) =
      (tokens rest).foldl (State.step .strict)
        (State.deliver (.array (done.reverse ++ tree :: trees) .closed) stack) := by
  induction h generalizing text tree closable done with
  | nil =>
      rw [List.intercalate_singleton, hfirst closable _ _ (endsNumeral_mark (by decide) rest),
        tokens_mark rfl]
      simp [State.deliver, State.step, State.stepMark]
  | @cons next tree' texts trees hnext _ ih =>
      rw [List.intercalate_cons_cons, List.append_assoc, List.append_assoc, List.singleton_append,
        hfirst closable _ _ (endsNumeral_mark (by decide) _), tokens_mark rfl, List.foldl_cons]
      have hlater := ih hnext false (tree :: done)
      rw [List.reverse_cons, List.append_assoc] at hlater
      exact hlater

theorem Reads.array {texts : List (List Char)} {trees : List Tree}
    (h : List.Forall₂ Reads texts trees) : Reads (arrayText texts) (.array trees .closed) := by
  intro closable stack rest _
  rw [arrayText, List.cons_append, List.append_assoc, List.singleton_append, tokens_mark rfl,
    List.foldl_cons]
  cases h with
  | nil =>
      rw [List.intercalate_nil, List.nil_append, tokens_mark rfl]
      rfl
  | cons hfirst hrest => exact run_items hfirst hrest true [] stack rest

/-- The name of a field, the colon and the value are read one after the other. -/
theorem run_field {field : String × List Char} {read : Option String × Tree}
    (h : ReadsField field read) (closable : Bool) (done : List (Option String × Tree))
    (stack : List Open) {rest : List Char} (hrest : EndsNumeral rest) :
    (tokens (fieldText field ++ rest)).foldl (State.step .strict)
        (.reading (.name closable) (.object done :: stack)) =
      (tokens rest).foldl (State.step .strict)
        (.reading .mark (.object (read :: done) :: stack)) := by
  obtain ⟨name, text⟩ := field
  obtain ⟨written, tree⟩ := read
  obtain ⟨rfl, htext⟩ := h
  rw [fieldText, List.append_assoc, List.cons_append, tokens_quote, tokens_mark rfl,
    String.ofList_toList, List.foldl_cons, List.foldl_cons]
  exact htext false (.field done (some name) :: stack) rest hrest

/-- Fields are read one after the other, up to the closing mark. -/
theorem run_fields {field : String × List Char} {fields : List (String × List Char)}
    {read : Option String × Tree} {reads : List (Option String × Tree)}
    (hfirst : ReadsField field read) (h : List.Forall₂ ReadsField fields reads) (closable : Bool)
    (done : List (Option String × Tree)) (stack : List Open) (rest : List Char) :
    (tokens ([','].intercalate ((field :: fields).map fieldText) ++ '\x7d' :: rest)).foldl
        (State.step .strict) (.reading (.name closable) (.object done :: stack)) =
      (tokens rest).foldl (State.step .strict)
        (State.deliver (.object (done.reverse ++ read :: reads) .closed) stack) := by
  induction h generalizing field read closable done with
  | nil =>
      rw [List.map_singleton, List.intercalate_singleton,
        run_field hfirst closable _ _ (endsNumeral_mark (by decide) rest), tokens_mark rfl]
      simp [State.step, State.stepMark]
  | @cons next read' fields reads hnext _ ih =>
      rw [List.map_cons, List.map_cons, List.intercalate_cons_cons, List.append_assoc,
        List.append_assoc, List.singleton_append,
        run_field hfirst closable _ _ (endsNumeral_mark (by decide) _), tokens_mark rfl,
        List.foldl_cons]
      have hlater := ih hnext false (read :: done)
      rw [List.reverse_cons, List.append_assoc, List.map_cons] at hlater
      exact hlater

theorem Reads.object {fields : List (String × List Char)} {reads : List (Option String × Tree)}
    (h : List.Forall₂ ReadsField fields reads) :
    Reads (objectText fields) (.object reads .closed) := by
  intro closable stack rest _
  rw [objectText, List.cons_append, List.append_assoc, List.singleton_append, tokens_mark rfl,
    List.foldl_cons]
  cases h with
  | nil =>
      rw [List.map_nil, List.intercalate_nil, List.nil_append, tokens_mark rfl]
      rfl
  | cons hfirst hrest => exact run_fields hfirst hrest true [] stack rest

end Strict

/-! ## Values of nested documents -/

namespace Tree

mutual

/-- How deeply arrays and objects are nested as they are written. -/
def depth : Tree → Nat
  | .array items _ => depthOfItems items + 1
  | .object fields _ => depthOfFields fields + 1
  | _ => 0

/-- The greatest depth of some items. -/
def depthOfItems : List Tree → Nat
  | [] => 0
  | item :: rest => max item.depth (depthOfItems rest)

/-- The greatest depth of the values of some fields. -/
def depthOfFields : List (Option String × Tree) → Nat
  | [] => 0
  | (_, value) :: rest => max value.depth (depthOfFields rest)

end

variable {d : Dialect}

mutual

/-- **Room enough.**  A value that is read in some room is read in any room that holds it. -/
theorem json_of_holds (tree : Tree) {room other : Room} {v : Json}
    (h : tree.json d room = .ok v) (hother : other.Holds tree.depth) :
    tree.json d other = .ok v := by
  match tree with
  | .null | .bool _ | .number _ | .text _ | .cut _ _ => exact h
  | .array items ending =>
      obtain ⟨inside, henter, hinside⟩ := hother.enter
      simp only [json, bind_eq_ok] at h ⊢
      obtain ⟨_, -, values, hitems, hvalue⟩ := h
      exact ⟨inside, henter, values, jsonItems_of_holds items hitems hinside, hvalue⟩
  | .object fields ending =>
      obtain ⟨inside, henter, hinside⟩ := hother.enter
      simp only [json, bind_eq_ok] at h ⊢
      obtain ⟨_, -, values, hfields, hvalue⟩ := h
      exact ⟨inside, henter, values, jsonFields_of_holds fields hfields hinside, hvalue⟩

theorem jsonItems_of_holds (items : List Tree) {room other : Room} {values : List Json}
    (h : jsonItems d room items = .ok values) (hother : other.Holds (depthOfItems items)) :
    jsonItems d other items = .ok values := by
  match items with
  | [] => exact h
  | item :: rest =>
      simp only [jsonItems, bind_eq_ok] at h ⊢
      obtain ⟨value, hitem, more, hrest, hvalues⟩ := h
      exact ⟨value, json_of_holds item hitem (hother.mono (Nat.le_max_left _ _)), more,
        jsonItems_of_holds rest hrest (hother.mono (Nat.le_max_right _ _)), hvalues⟩

theorem jsonFields_of_holds (fields : List (Option String × Tree)) {room other : Room}
    {values : List (String × Json)} (h : jsonFields d room fields = .ok values)
    (hother : other.Holds (depthOfFields fields)) :
    jsonFields d other fields = .ok values := by
  match fields with
  | [] => exact h
  | (written, tree) :: rest =>
      simp only [jsonFields, bind_eq_ok] at h ⊢
      obtain ⟨name, hname, value, htree, more, hrest, hvalues⟩ := h
      exact ⟨name, hname, value, json_of_holds tree htree (hother.mono (Nat.le_max_left _ _)), more,
        jsonFields_of_holds rest hrest (hother.mono (Nat.le_max_right _ _)), hvalues⟩

end

end Tree

namespace Strict

/-- Whether a text is a strict document of a value, with no more than so many containers one inside
the other. -/
def Gives (s : List Char) (depth : Nat) (v : Json) : Prop :=
  Json.parse .strict s = .ok v ∧ (Document.read .strict s).root.depth ≤ depth

/-- Whether a tree has a value in any room for so many containers one inside the other. -/
def HasValue (depth : Nat) (tree : Tree) (v : Json) : Prop :=
  tree.depth ≤ depth ∧ ∀ room : Room, room.Holds depth → tree.json .strict room = .ok v

theorem Gives.exists_reads {s : List Char} {depth : Nat} {v : Json} (h : Gives s depth v) :
    ∃ tree, Reads s tree ∧ HasValue depth tree v := by
  refine ⟨_, reads_of_parse h.1, h.2, fun room hroom => ?_⟩
  exact Tree.json_of_holds _ (Json.value_of_parse h.1).1 (hroom.mono h.2)

theorem Reads.gives {s : List Char} {tree : Tree} {depth : Nat} {v : Json} (h : Reads s tree)
    (htree : HasValue depth tree v) (hdepth : depth ≤ 127) : Gives s depth v := by
  have hrun := h false [] [] (by simp [EndsNumeral])
  have hread : Document.read .strict s = ⟨tree, false⟩ := by
    rw [List.append_nil] at hrun
    rw [Document.read, Document.ofTokens, Dialect.tokens, hrun]
    simp [tokens, State.deliver, State.document]
  refine ⟨?_, by rw [hread]; exact htree.1⟩
  rw [Json.parse_of_read hread]
  refine htree.2 _ ?_
  rintro _ ⟨⟩
  exact hdepth

theorem Gives.mono {s : List Char} {less depth : Nat} {v : Json} (h : Gives s less v)
    (hless : less ≤ depth) : Gives s depth v :=
  ⟨h.1, h.2.trans hless⟩

/-- A quoted text is a document. -/
theorem gives_quote (s : String) : Gives (Json.quote s.toList) 0 (.string s) := by
  have hread : Document.read .strict (Json.quote s.toList) = ⟨.text (some s), false⟩ :=
    Document.read_write (.string s) none
  refine ⟨?_, by rw [hread]; exact Nat.le_refl 0⟩
  rw [Json.parse_of_read hread]
  rfl

theorem exists_reads_items {texts : List (List Char)} {values : List Json} {depth : Nat}
    (h : List.Forall₂ (Gives · depth ·) texts values) :
    ∃ trees, List.Forall₂ Reads texts trees ∧ Tree.depthOfItems trees ≤ depth ∧
      ∀ room : Room, room.Holds depth → Tree.jsonItems .strict room trees = .ok values := by
  induction h with
  | nil => exact ⟨[], .nil, Nat.zero_le _, fun _ _ => rfl⟩
  | cons hfirst _ ih =>
      obtain ⟨tree, hreads, hdepth, hvalue⟩ := hfirst.exists_reads
      obtain ⟨trees, hrest, hmost, hvalues⟩ := ih
      refine ⟨tree :: trees, .cons hreads hrest, max_le hdepth hmost, fun room hroom => ?_⟩
      simp only [Tree.jsonItems, bind_eq_ok]
      exact ⟨_, hvalue room hroom, _, hvalues room hroom, rfl⟩

/-- **Arrays.**  The texts of items make up the text of an array. -/
theorem Gives.array {texts : List (List Char)} {values : List Json} {depth : Nat}
    (h : List.Forall₂ (Gives · depth ·) texts values) (hdepth : depth + 1 ≤ 127) :
    Gives (arrayText texts) (depth + 1) (.array values) := by
  obtain ⟨trees, hreads, hmost, hvalues⟩ := exists_reads_items h
  refine (Reads.array hreads).gives ⟨Nat.succ_le_succ hmost, fun room hroom => ?_⟩ hdepth
  obtain ⟨inside, henter, hinside⟩ := hroom.enter
  simp only [Tree.json, bind_eq_ok]
  exact ⟨inside, henter, values, hvalues inside hinside, (), rfl, rfl⟩

/-- Whether the text of a field is that of its name and of its value. -/
def GivesField (depth : Nat) (field : String × List Char) (value : String × Json) : Prop :=
  field.1 = value.1 ∧ Gives field.2 depth value.2

theorem exists_reads_fields {fields : List (String × List Char)} {values : List (String × Json)}
    {depth : Nat} (h : List.Forall₂ (GivesField depth) fields values) :
    ∃ reads, List.Forall₂ ReadsField fields reads ∧ Tree.depthOfFields reads ≤ depth ∧
      ∀ room : Room, room.Holds depth → Tree.jsonFields .strict room reads = .ok values := by
  induction h with
  | nil => exact ⟨[], .nil, Nat.zero_le _, fun _ _ => rfl⟩
  | @cons field value fields values hfirst _ ih =>
      obtain ⟨hname, htext⟩ := hfirst
      obtain ⟨tree, hreads, hdepth, hvalue⟩ := htext.exists_reads
      obtain ⟨trees, hrest, hmost, hvalues⟩ := ih
      refine ⟨(some field.1, tree) :: trees, .cons ⟨rfl, hreads⟩ hrest, max_le hdepth hmost,
        fun room hroom => ?_⟩
      simp only [Tree.jsonFields, bind_eq_ok]
      exact ⟨field.1, rfl, _, hvalue room hroom, _, hvalues room hroom, by rw [hname]; rfl⟩

/-- **Objects.**  The names of fields and the texts of their values make up the text of an
object. -/
theorem Gives.object {fields : List (String × List Char)} {values : List (String × Json)}
    {depth : Nat} (h : List.Forall₂ (GivesField depth) fields values) (hdepth : depth + 1 ≤ 127) :
    Gives (objectText fields) (depth + 1) (.object (Json.sorted values)) := by
  obtain ⟨reads, hreads, hmost, hvalues⟩ := exists_reads_fields h
  refine (Reads.object hreads).gives ⟨Nat.succ_le_succ hmost, fun room hroom => ?_⟩ hdepth
  obtain ⟨inside, henter, hinside⟩ := hroom.enter
  simp only [Tree.json, bind_eq_ok]
  exact ⟨inside, henter, values, hvalues inside hinside, (), rfl, rfl⟩

end Strict

end ReportGrid
