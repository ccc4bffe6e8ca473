import ReportGrid.Json.Reader

/-!
# Documents that are refused

What a reader can no longer find.  Each is an invariant of the machine that puts tokens together:
one token preserves it, so every run does.

* `State.NoObject` — the value of the document cannot be an object any more.  It holds of all
  documents that do not start with the opening mark of an object (`Document.root_ne_object`).
* `State.NoValue` — the document has no value.  Once the text stops being a document, every open
  container ends where it was broken off, and a reader that wants its items asks for that ending.
  Strict documents get there by a comma in front of a closing mark
  (`Document.noValue_of_comma_close`).
-/

namespace ReportGrid

/-! ## Documents that hold no object -/

/-- Whether the outermost of the open containers is an array. -/
def Open.IsInArray (stack : List Open) : Prop :=
  ∃ items, stack.getLast? = some (.array items)

theorem Open.isInArray_cons {top : Open} {stack : List Open} :
    IsInArray (top :: stack) ↔ (stack = [] ∧ ∃ items, top = .array items) ∨ IsInArray stack := by
  cases stack with
  | nil => simp [IsInArray]
  | cons next stack => simp [IsInArray]

/-- Whether the value of a document can be no object any more: it has been read and is none, or its
outermost container is an array. -/
def State.NoObject : State → Prop
  | .finished document => ∀ fields ending, document.root ≠ .object fields ending
  | .reading _ stack => Open.IsInArray stack

namespace State

/-- The outermost container is ended as what it is. -/
theorem abandon_ne_object {stack : List Open} (h : Open.IsInArray stack) (ending : Ending)
    (inner : Tree) (fields : List (Option String × Tree)) (last : Ending) :
    abandon ending inner stack ≠ .object fields last := by
  induction stack generalizing inner with
  | nil =>
      obtain ⟨items, hitems⟩ := h
      simp at hitems
  | cons top stack ih =>
      rcases Open.isInArray_cons.mp h with ⟨rfl, items, rfl⟩ | hstack
      · simp [abandon, enclose]
      · exact ih hstack (enclose ending inner top)

theorem noObject_cutValue {stack : List Open} (h : Open.IsInArray stack)
    (skipped demanded : Fault) :
    NoObject (.finished (cutValue skipped demanded stack)) :=
  abandon_ne_object h _ _

theorem noObject_cutInside {stack : List Open} (h : Open.IsInArray stack)
    (skipped demanded : Fault) : NoObject (.finished (cutInside skipped demanded stack)) := by
  intro fields ending
  cases stack with
  | nil => simp [cutInside]
  | cons top stack =>
      rcases Open.isInArray_cons.mp h with ⟨rfl, items, rfl⟩ | hstack
      · simp [cutInside, abandon]
      · cases top with
        | field found name => exact abandon_ne_object h _ _ fields ending
        | _ => exact abandon_ne_object hstack _ _ fields ending

/-- A finished value is an item, or the value of the document. -/
theorem noObject_deliver {v : Tree} {stack : List Open}
    (h : Open.IsInArray stack ∨ stack = [] ∧ ∀ fields ending, v ≠ .object fields ending) :
    NoObject (deliver v stack) := by
  rcases h with h | ⟨rfl, hv⟩
  · cases stack with
    | nil =>
        obtain ⟨items, hitems⟩ := h
        simp at hitems
    | cons top stack =>
        have hcases := Open.isInArray_cons.mp h
        cases top <;> simp_all [deliver, NoObject, Open.isInArray_cons]
  · exact hv

theorem noObject_stepValue {stack : List Open} (h : Open.IsInArray stack) (closable : Bool)
    (t : Token) : NoObject (stepValue closable stack t) := by
  unfold stepValue
  split
  · exact Open.isInArray_cons.mpr (Or.inr h)
  · exact Open.isInArray_cons.mpr (Or.inr h)
  · exact noObject_deliver (Or.inl h)
  · exact noObject_deliver (Or.inl h)
  · exact noObject_deliver (Or.inl h)
  · split
    · rcases Open.isInArray_cons.mp h with ⟨rfl, -⟩ | hstack
      · exact noObject_deliver (Or.inr ⟨rfl, by simp⟩)
      · exact noObject_deliver (Or.inl hstack)
    · exact noObject_cutValue h _ _
  · exact noObject_cutValue h _ _
  · exact noObject_cutValue h _ _

theorem noObject_stepName (d : Dialect) {stack : List Open} (h : Open.IsInArray stack)
    (closable : Bool) (t : Token) : NoObject (stepName d closable stack t) := by
  -- An open object is not the outermost container.
  have hrest : ∀ fields rest, stack = .object fields :: rest → Open.IsInArray rest := by
    rintro fields rest rfl
    simpa [Open.isInArray_cons] using Open.isInArray_cons.mp h
  unfold stepName
  split
  · exact hrest _ _ rfl
  · split
    · exact noObject_deliver (Or.inl (hrest _ _ rfl))
    · exact noObject_cutInside h _ _
    · exact noObject_cutInside h _ _

theorem noObject_stepMark (d : Dialect) {stack : List Open} (h : Open.IsInArray stack)
    (t : Token) : NoObject (stepMark d stack t) := by
  unfold stepMark
  split
  · simpa [NoObject, Open.isInArray_cons] using h
  · simpa [NoObject, Open.isInArray_cons] using h
  · rcases Open.isInArray_cons.mp h with ⟨rfl, -⟩ | hstack
    · exact noObject_deliver (Or.inr ⟨rfl, by simp⟩)
    · exact noObject_deliver (Or.inl hstack)
  · rcases Open.isInArray_cons.mp h with ⟨-, items, hitems⟩ | hstack
    · simp at hitems
    · exact noObject_deliver (Or.inl hstack)
  · exact noObject_cutInside h _ _

/-- **One step.**  No token makes an object of a value that cannot be one any more. -/
theorem NoObject.step (d : Dialect) {s : State} (h : s.NoObject) (t : Token) :
    (State.step d s t).NoObject := by
  cases s with
  | finished document => exact h
  | reading expected stack =>
      cases expected with
      | value closable => exact noObject_stepValue h closable t
      | name closable => exact noObject_stepName d h closable t
      | mark => exact noObject_stepMark d h t
      | colon fields name =>
          have hfield : Open.IsInArray (.field fields name :: stack) :=
            Open.isInArray_cons.mpr (Or.inr h)
          cases t with
          | colon => exact hfield
          | _ => exact noObject_cutValue hfield _ _

/-- **Every run.**  No tokens do. -/
theorem NoObject.run (d : Dialect) {s : State} (h : s.NoObject) (tokens : List Token) :
    (tokens.foldl (State.step d) s).NoObject := by
  induction tokens generalizing s with
  | nil => exact h
  | cons t tokens ih => exact ih (h.step d t)

/-- Where the tokens are used up, the value is none either. -/
theorem NoObject.document {s : State} (h : s.NoObject) (fields : List (Option String × Tree))
    (ending : Ending) : s.document.root ≠ .object fields ending := by
  cases s with
  | finished document => exact h fields ending
  | reading expected stack =>
      cases expected with
      | value closable => exact noObject_cutValue h _ _ fields ending
      | colon found name =>
          exact noObject_cutValue (Open.isInArray_cons.mpr (Or.inr h)) _ _ fields ending
      | name closable => exact noObject_cutInside h _ _ fields ending
      | mark => exact noObject_cutInside h _ _ fields ending

/-- The first token decides: only the opening mark of an object starts one. -/
theorem noObject_first (d : Dialect) {t : Token} (h : t ≠ .openObject) :
    (State.step d (.reading (.value false) []) t).NoObject := by
  change (stepValue false [] t).NoObject
  cases t with
  | openObject => exact absurd rfl h
  | openArray => exact ⟨[], rfl⟩
  | keyword word => cases word <;> simp [stepValue, deliver, NoObject, ofKeyword]
  | _ => simp [stepValue, deliver, NoObject, cutValue, abandon]

end State

/-- **A document that does not start with the opening mark of an object holds no object.** -/
theorem Document.root_ne_object {d : Dialect} {t : Token} (h : t ≠ .openObject)
    (tokens : List Token) (fields : List (Option String × Tree)) (ending : Ending) :
    (Document.ofTokens d (t :: tokens)).root ≠ .object fields ending :=
  ((State.noObject_first d h).run d tokens).document fields ending

/-! ## Documents without a value -/

/-- Two steps give a value when both do. -/
theorem bind_eq_ok {ε α β : Type} {first : Except ε α} {next : α → Except ε β} {b : β} :
    first >>= next = .ok b ↔ ∃ a, first = .ok a ∧ next a = .ok b := by
  cases first <;> simp [bind, Except.bind]

/-- Whether a tree has no value for readers of a dialect, whatever room they have. -/
def Tree.NoValue (d : Dialect) (t : Tree) : Prop :=
  ∀ room v, t.json d room ≠ .ok v

namespace Tree

variable (d : Dialect) (skipped demanded : Fault)

theorem noValue_cut : (cut skipped demanded).NoValue d := by
  intro room v
  simp [json]

theorem noValue_array (items : List Tree) :
    (array items (.broken skipped demanded)).NoValue d := by
  intro room v hjson
  simp only [json, bind_eq_ok] at hjson
  obtain ⟨_, _, _, _, _, hending, _⟩ := hjson
  cases hending

theorem noValue_object (fields : List (Option String × Tree)) :
    (object fields (.broken skipped demanded)).NoValue d := by
  intro room v hjson
  simp only [json, bind_eq_ok] at hjson
  obtain ⟨_, _, _, _, _, hending, _⟩ := hjson
  cases hending

end Tree

/-- Whether a document has no value: its tree has none, or something follows the tree. -/
def Document.NoValue (d : Dialect) (document : Document) : Prop :=
  document.trailing = true ∨ document.root.NoValue d

/-- Whether a document has no value whatever the tokens are that are still to come. -/
def State.NoValue (d : Dialect) : State → Prop
  | .finished document => document.NoValue d
  | .reading _ _ => False

namespace State

variable {d : Dialect}

/-- A container that is broken off has no value, whatever is in it. -/
theorem noValue_enclose (skipped demanded : Fault) (inner : Tree) (top : Open) :
    (enclose (.broken skipped demanded) inner top).NoValue d := by
  cases top with
  | array items => exact Tree.noValue_array d skipped demanded _
  | object fields => exact Tree.noValue_object d skipped demanded _
  | field fields name => exact Tree.noValue_object d skipped demanded _

theorem noValue_abandon {inner : Tree} (h : inner.NoValue d) (skipped demanded : Fault)
    (stack : List Open) : (abandon (.broken skipped demanded) inner stack).NoValue d := by
  induction stack generalizing inner with
  | nil => exact h
  | cons top stack ih => exact ih (noValue_enclose skipped demanded inner top)

theorem noValue_cutValue (skipped demanded : Fault) (stack : List Open) :
    (cutValue skipped demanded stack).NoValue d :=
  Or.inr (noValue_abandon (Tree.noValue_cut d skipped demanded) skipped demanded stack)

theorem noValue_cutInside (skipped demanded : Fault) (stack : List Open) :
    (cutInside skipped demanded stack).NoValue d := by
  cases stack with
  | nil => exact Or.inr (Tree.noValue_cut d skipped demanded)
  | cons top stack =>
      cases top with
      | array items =>
          exact Or.inr (noValue_abandon (Tree.noValue_array d skipped demanded _) _ _ stack)
      | object fields =>
          exact Or.inr (noValue_abandon (Tree.noValue_object d skipped demanded _) _ _ stack)
      | field fields name => exact noValue_cutValue skipped demanded _

/-- **One step.**  A document without a value never has one. -/
theorem NoValue.step {s : State} (h : s.NoValue d) (t : Token) : (s.step d t).NoValue d := by
  cases s with
  | finished document => exact Or.inl rfl
  | reading expected stack => exact h.elim

/-- **Every run.**  No tokens give it one. -/
theorem NoValue.run {s : State} (h : s.NoValue d) (tokens : List Token) :
    (tokens.foldl (State.step d) s).NoValue d := by
  induction tokens generalizing s with
  | nil => exact h
  | cons t tokens ih => exact ih (h.step t)

theorem NoValue.document {s : State} (h : s.NoValue d) : s.document.NoValue d := by
  cases s with
  | finished document => exact h
  | reading expected stack => exact h.elim

/-- Nothing but an item may follow a comma in strict documents. -/
theorem noValue_comma_close (s : State) {close : Token}
    (h : close = .closeArray ∨ close = .closeObject) :
    ((s.step .strict .comma).step .strict close).NoValue .strict := by
  cases s with
  | finished document => exact Or.inl rfl
  | reading expected stack =>
      cases expected with
      | value closable => exact Or.inl rfl
      | name closable => exact Or.inl rfl
      | colon fields name => exact Or.inl rfl
      | mark =>
          -- Only here the comma is in its place, so that the closing mark is the fault.
          cases stack with
          | nil => exact Or.inl rfl
          | cons top stack =>
              cases top with
              | array items => rcases h with rfl | rfl <;> exact noValue_cutValue _ _ _
              | object fields => rcases h with rfl | rfl <;> exact noValue_cutInside _ _ _
              | field fields name => exact Or.inl rfl

end State

/-- **Strict documents have no last commas.**  There is no value in a document in which the closing
mark of an array or an object follows a comma. -/
theorem Document.noValue_of_comma_close (before after : List Token) {close : Token}
    (h : close = .closeArray ∨ close = .closeObject) :
    (Document.ofTokens .strict (before ++ .comma :: close :: after)).NoValue .strict := by
  rw [Document.ofTokens, List.foldl_append]
  exact ((State.noValue_comma_close _ h).run after).document

namespace Json

variable {d : Dialect}

/-- A text has no value when its tree has none or something follows its value. -/
theorem value_of_parse {s : List Char} {v : Json} (h : parse d s = .ok v) :
    (Document.read d s).root.json d d.room = .ok v ∧ (Document.read d s).trailing = false := by
  obtain ⟨value, hroot, hvalue⟩ := bind_eq_ok.mp h
  cases htrailing : (Document.read d s).trailing with
  | true => simp [htrailing] at hvalue
  | false =>
      rw [htrailing] at hvalue
      obtain rfl := Except.ok.inj hvalue
      exact ⟨hroot, rfl⟩

/-- A text whose document has no value is refused. -/
theorem parse_ne_ok {s : List Char} (h : (Document.read d s).NoValue d) (v : Json) :
    parse d s ≠ .ok v := by
  intro hparse
  obtain ⟨hroot, htrailing⟩ := value_of_parse hparse
  rcases h with h | h
  · simp [h] at htrailing
  · exact h _ v hroot

end Json

end ReportGrid
