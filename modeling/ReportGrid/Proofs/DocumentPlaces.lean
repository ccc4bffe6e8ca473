import ReportGrid.Proofs.RecordMembers
import ReportGrid.Proofs.SectionReread
import ReportGrid.Proofs.WrittenDocuments

/-!
# Places in a document

A place in a document is found by steps from its root: to a field of an object or to an item of an
array.  `Tree.at?` finds what is written there, and `Json.at?` the value.  Of several fields with
one name the last counts, so that the value of a document has at a place the value of what is
written there (`Tree.json_at?`).
-/

namespace ReportGrid

/-- A step in a document: to the field with a name, or to an item. -/
inductive Step where
  | field (name : String)
  | item (i : Nat)
deriving DecidableEq, Repr

/-- What is written right inside a container; of several fields with one name, the last. -/
def Tree.step? : Step → Tree → Option Tree
  | .field name, .object fields _ => fields.reverse.lookup (some name)
  | .item i, .array items _ => items[i]?
  | _, _ => none

/-- What is written at a place. -/
def Tree.at? : List Step → Tree → Option Tree
  | [], tree => some tree
  | s :: steps, tree => (tree.step? s).bind (at? steps)

/-- The value right inside a container. -/
def Json.step? : Step → Json → Option Json
  | .field name, .object fields => lookup name fields
  | .item i, .array items => items[i]?
  | _, _ => none

/-- The value at a place. -/
def Json.at? : List Step → Json → Option Json
  | [], value => some value
  | s :: steps, value => (value.step? s).bind (at? steps)

namespace Tree

theorem at?_cons {s : Step} {tree inner : Tree} (h : tree.step? s = some inner)
    (steps : List Step) : tree.at? (s :: steps) = inner.at? steps := by
  rw [at?, h, Option.bind_some]

end Tree

namespace Json

theorem at?_append (first second : List Step) (value : Json) :
    value.at? (first ++ second) = (value.at? first).bind (at? second) := by
  induction first generalizing value with
  | nil => rfl
  | cons s first ih =>
      rw [List.cons_append, at?, at?]
      cases value.step? s with
      | none => rfl
      | some inner => exact ih inner

/-- A lookup in sorted fields finds the last one of a name. -/
theorem lookup_sorted (name : String) (fields : List (String × Json)) :
    lookup name (sorted fields) = lookup name fields.reverse := by
  induction fields using List.reverseRecOn with
  | nil => rfl
  | append_singleton fields field ih =>
      have hstep : sorted (fields ++ [field]) = setField field.1 field.2 (sorted fields) := by
        rw [sorted, List.foldl_append]
        rfl
      rw [hstep, lookup_setField, ih, List.reverse_append, List.reverse_singleton,
        List.singleton_append]
      by_cases hname : name = field.1
      · subst hname
        simp [lookup]
      · simp [lookup, hname, Ne.symm hname]

end Json

/-! ## Values at places -/

namespace Tree

/-- The items of an array have values one by one. -/
theorem jsonItems_eq_ok {d : Dialect} {room : Room} {items : List Tree} {values : List Json}
    (h : jsonItems d room items = .ok values) :
    List.Forall₂ (fun tree value => tree.json d room = .ok value) items values := by
  induction items generalizing values with
  | nil =>
      obtain rfl := Except.ok.inj h
      exact .nil
  | cons item rest ih =>
      obtain ⟨value, hvalue, hlater⟩ := bind_eq_ok.mp h
      obtain ⟨more, hmore, hresult⟩ := bind_eq_ok.mp hlater
      obtain rfl := Except.ok.inj hresult
      exact .cons hvalue (ih hmore)

/-- The fields of an object have names and values one by one. -/
theorem jsonFields_eq_ok {d : Dialect} {room : Room} {fields : List (Option String × Tree)}
    {values : List (String × Json)} (h : jsonFields d room fields = .ok values) :
    List.Forall₂ (fun field value => field.1 = some value.1 ∧ field.2.json d room = .ok value.2)
      fields values := by
  induction fields generalizing values with
  | nil =>
      obtain rfl := Except.ok.inj h
      exact .nil
  | cons field rest ih =>
      obtain ⟨written, tree⟩ := field
      obtain ⟨name, hname, hlater⟩ := bind_eq_ok.mp h
      obtain ⟨value, hvalue, hlater⟩ := bind_eq_ok.mp hlater
      obtain ⟨more, hmore, hresult⟩ := bind_eq_ok.mp hlater
      obtain rfl := Except.ok.inj hresult
      have hwritten : written = some name := by
        cases written with
        | none => exact absurd hname (by simp [content])
        | some other => exact congrArg some (Except.ok.inj hname)
      exact .cons ⟨hwritten, hvalue⟩ (ih hmore)

/-- A field that is looked up has the value that is looked up. -/
theorem lookup_of_forall₂ {d : Dialect} {room : Room} {fields : List (Option String × Tree)}
    {values : List (String × Json)}
    (h : List.Forall₂ (fun field value => field.1 = some value.1 ∧
      field.2.json d room = .ok value.2) fields values)
    {name : String} {tree : Tree} (hlookup : fields.lookup (some name) = some tree) :
    ∃ value, tree.json d room = .ok value ∧ Json.lookup name values = some value := by
  induction h with
  | nil => exact absurd hlookup (by simp)
  | @cons field value fields values hfield _ ih =>
      obtain ⟨written, inner⟩ := field
      obtain ⟨hwritten, hvalue⟩ := hfield
      obtain rfl : written = some value.1 := hwritten
      by_cases hname : name = value.1
      · subst hname
        rw [List.lookup_cons_self] at hlookup
        obtain rfl := Option.some.inj hlookup
        exact ⟨value.2, hvalue, by simp [Json.lookup]⟩
      · have hne : (some name == some value.1) = false :=
          beq_false_of_ne fun heq => hname (Option.some.inj heq)
        rw [List.lookup_cons, hne] at hlookup
        obtain ⟨found, htree, hfound⟩ := ih hlookup
        refine ⟨found, htree, ?_⟩
        have hkey : (value.1 == name) = false := beq_false_of_ne (Ne.symm hname)
        rw [Json.lookup, List.find?_cons, hkey]
        exact hfound

/-- **One step.**  What is written inside a container has the value that stands there. -/
theorem json_step? {d : Dialect} {room : Room} {tree inner : Tree} {value : Json} {s : Step}
    (hvalue : tree.json d room = .ok value) (h : tree.step? s = some inner) :
    ∃ inside found, inner.json d inside = .ok found ∧ value.step? s = some found := by
  cases s with
  | field name =>
      cases tree with
      | object fields ending =>
          obtain ⟨inside, -, hlater⟩ := bind_eq_ok.mp hvalue
          obtain ⟨values, hfields, hlater⟩ := bind_eq_ok.mp hlater
          obtain ⟨_, -, hresult⟩ := bind_eq_ok.mp hlater
          obtain rfl := Except.ok.inj hresult
          obtain ⟨found, hinner, hfound⟩ :=
            lookup_of_forall₂ (List.rel_reverse (jsonFields_eq_ok hfields)) h
          exact ⟨inside, found, hinner, (Json.lookup_sorted name values).trans hfound⟩
      | _ => exact absurd h (by simp [step?])
  | item i =>
      cases tree with
      | array items ending =>
          obtain ⟨inside, -, hlater⟩ := bind_eq_ok.mp hvalue
          obtain ⟨values, hitems, hlater⟩ := bind_eq_ok.mp hlater
          obtain ⟨_, -, hresult⟩ := bind_eq_ok.mp hlater
          obtain rfl := Except.ok.inj hresult
          obtain ⟨hi, rfl⟩ := List.getElem?_eq_some_iff.mp h
          have hforall := jsonItems_eq_ok hitems
          have hlength : i < values.length := hforall.length_eq ▸ hi
          exact ⟨inside, values[i], hforall.get hi hlength, List.getElem?_eq_getElem hlength⟩
      | _ => exact absurd h (by simp [step?])

/-- **Every place.**  What is written at a place has the value that the document has there. -/
theorem json_at? {d : Dialect} {steps : List Step} {room : Room} {tree inner : Tree} {value : Json}
    (hvalue : tree.json d room = .ok value) (h : tree.at? steps = some inner) :
    ∃ inside found, inner.json d inside = .ok found ∧ value.at? steps = some found := by
  induction steps generalizing room tree value with
  | nil =>
      obtain rfl := Option.some.inj h
      exact ⟨room, value, hvalue, rfl⟩
  | cons s steps ih =>
      obtain ⟨middle, hstep, hrest⟩ := Option.bind_eq_some_iff.mp h
      obtain ⟨inside, between, hmiddle, hbetween⟩ := json_step? hvalue hstep
      obtain ⟨innermost, found, hinner, hfound⟩ := ih hmiddle hrest
      refine ⟨innermost, found, hinner, ?_⟩
      rw [Json.at?, hbetween, Option.bind_some, hfound]

end Tree

end ReportGrid
