import ReportGrid.Json.Reader
import Mathlib.Data.List.Nodup

/-!
# Reading a record field by field

A record is read from an object whose fields come in any order.  Fields of known names stand there
once; fields of other names may stand there too, any number of times, and are passed over.

* `Tree.record_held` takes the reading apart: if each field that is known takes what is held after
  some names to what is held after one name more, the record is read to what is held after all the
  known names in it;
* `Tree.Rearranged.isRecord` and `Tree.Rearranged.sameValue` — the order of the fields, null in the
  place of a missing field, and fields of other names are not seen by a reader that looks fields up;
* `Tree.Sets` — what a field that may be left out gives, and how such fields are read.
-/

namespace ReportGrid

/-- A text that is nothing but one value is read as what its tree is read as. -/
theorem Document.decode_eq {α : Type} {d : Dialect} {read : Tree → Except Fault α} {s : List Char}
    {tree : Tree} {a : α} (hread : Document.read d s = ⟨tree, false⟩) (htree : read tree = .ok a) :
    Document.decode d read s = .ok a := by
  simp [Document.decode, hread, htree, bind, Except.bind]

namespace Tree

/-- The known names of some fields, in their order. -/
def knownNames (names : List String) (fields : List (Option String × Tree)) : List String :=
  (fields.filterMap Prod.fst).filter (· ∈ names)

/-- Whether fields are those of a record: each has a name, and no known name stands there twice. -/
structure IsRecord (names : List String) (fields : List (Option String × Tree)) : Prop where
  named : ∀ field ∈ fields, field.1 ≠ none
  distinct : (knownNames names fields).Nodup

variable {names : List String} {fields : List (Option String × Tree)}

theorem mem_knownNames {name : String} (h : name ∈ names) :
    name ∈ knownNames names fields ↔ some name ∈ fields.map Prod.fst := by
  simp [knownNames, h, List.mem_filterMap]

theorem knownNames_cons_of_mem {name : String} (h : name ∈ names) (tree : Tree) :
    knownNames names ((some name, tree) :: fields) = name :: knownNames names fields := by
  simp [knownNames, h]

theorem knownNames_cons_of_not_mem {name : String} (h : name ∉ names) (tree : Tree) :
    knownNames names ((some name, tree) :: fields) = knownNames names fields := by
  simp [knownNames, h]

namespace IsRecord

theorem tail {field : Option String × Tree} (h : IsRecord names (field :: fields)) :
    IsRecord names fields where
  named := fun other hother => h.named other (List.mem_cons_of_mem _ hother)
  distinct := by
    have hsub : (knownNames names fields).Sublist (knownNames names (field :: fields)) :=
      ((List.sublist_cons_self field fields).filterMap Prod.fst).filter _
    exact hsub.nodup h.distinct

/-- A known name that stands in front does not stand in the rest. -/
theorem not_mem_tail {name : String} {tree : Tree}
    (h : IsRecord names ((some name, tree) :: fields)) (hknown : name ∈ names) :
    some name ∉ fields.map Prod.fst := by
  have hdistinct := h.distinct
  rw [knownNames_cons_of_mem hknown, List.nodup_cons] at hdistinct
  rw [← mem_knownNames hknown]
  exact hdistinct.1

/-- **Lookups.**  A known field is looked up by its name. -/
theorem lookup_eq_some_iff (h : IsRecord names fields) {name : String} (hknown : name ∈ names)
    {tree : Tree} : fields.lookup (some name) = some tree ↔ (some name, tree) ∈ fields := by
  induction fields with
  | nil => simp
  | cons field rest ih =>
      obtain ⟨first, value⟩ := field
      by_cases hfirst : first = some name
      · subst hfirst
        have hrest := h.not_mem_tail hknown
        have hnot : (some name, tree) ∉ rest := fun hmem => hrest (List.mem_map_of_mem hmem)
        simp [hnot, eq_comm]
      · have hne : (some name == first) = false := beq_false_of_ne (Ne.symm hfirst)
        rw [List.lookup_cons, hne]
        simp [ih h.tail, Ne.symm hfirst]

end IsRecord

/-- What is given under a known name is not lost by asking whether the name is there. -/
theorem ite_mem_knownNames {α : Type} {value : Option α} {name : String} (hknown : name ∈ names)
    (h : fields.lookup (some name) = none → value = none) :
    (if name ∈ (knownNames names fields).reverse then value else none) = value := by
  split
  · rfl
  · rename_i hnot
    rw [List.mem_reverse, mem_knownNames hknown] at hnot
    refine (h ?_).symm
    rw [List.lookup_eq_none_iff]
    intro field hfield
    rw [bne_iff_ne]
    exact fun hsame => hnot (hsame ▸ List.mem_map_of_mem hfield)

section

variable {σ : Type} {d : Dialect} {room : Room} {read : String → Tree → σ → Except Fault σ}
  {held : List String → σ}

theorem recordFields_held (hrecord : IsRecord names fields)
    (hstep : ∀ name ∈ names, ∀ tree seen, (some name, tree) ∈ fields →
      read name tree (held seen) = .ok (held (name :: seen)))
    (hpass : ∀ name tree, name ∉ names → (some name, tree) ∈ fields →
      ignore d room tree = .ok ())
    (seen : List String) (hfresh : ∀ name ∈ seen, some name ∉ fields.map Prod.fst) :
    recordFields d room names read seen (held seen) fields =
      .ok (held ((knownNames names fields).reverse ++ seen)) := by
  induction fields generalizing seen with
  | nil => rfl
  | cons field rest ih =>
      obtain ⟨first, tree⟩ := field
      obtain ⟨name, rfl⟩ := Option.ne_none_iff_exists'.mp (hrecord.named _ List.mem_cons_self)
      have hrest : ∀ other ∈ seen, some other ∉ rest.map Prod.fst :=
        fun other hother hmem => hfresh other hother (List.mem_cons_of_mem _ hmem)
      have hlater := ih hrecord.tail
        (fun other hknown tree seen hmem =>
          hstep other hknown tree seen (List.mem_cons_of_mem _ hmem))
        (fun other tree hknown hmem => hpass other tree hknown (List.mem_cons_of_mem _ hmem))
      by_cases hknown : name ∈ names
      · have hnew : name ∉ seen := fun hmem => hfresh name hmem List.mem_cons_self
        have hfirst : ∀ other ∈ name :: seen, some other ∉ rest.map Prod.fst := by
          intro other hother
          rcases List.mem_cons.mp hother with rfl | hseen
          · exact hrecord.not_mem_tail hknown
          · exact hrest other hseen
        rw [knownNames_cons_of_mem hknown, List.reverse_cons, List.append_assoc,
          List.singleton_append, ← hlater (name :: seen) hfirst]
        simp [recordFields, content, bind, Except.bind, hknown, hnew,
          hstep name hknown tree seen List.mem_cons_self]
      · rw [knownNames_cons_of_not_mem hknown, ← hlater seen hrest]
        simp [recordFields, content, bind, Except.bind, hknown,
          hpass name tree hknown List.mem_cons_self]

/-- **Every record.**  Where each known field takes what is held after some names to what is held
after one name more, and every other field is passed over, a record is read to what is held after
all its known names. -/
theorem record_held (hrecord : IsRecord names fields)
    (hstep : ∀ name ∈ names, ∀ tree seen, (some name, tree) ∈ fields →
      read name tree (held seen) = .ok (held (name :: seen)))
    (hpass : ∀ name tree, name ∉ names → (some name, tree) ∈ fields →
      ignore d room tree = .ok ()) :
    record d room names read (held []) (.object fields .closed) =
      .ok (held (knownNames names fields).reverse) := by
  have hfields : recordFields d room names read [] (held []) fields =
      .ok (held ((knownNames names fields).reverse ++ [])) :=
    recordFields_held hrecord hstep hpass [] (by simp)
  rw [List.append_nil] at hfields
  simp [record, bind, Except.bind, pure, Except.pure, hfields, Ending.demanded]

end

/-! ## Records that say the same -/

/-- Whether a field has the value of another one: null stands for no value. -/
inductive SameValue : Option Tree → Option Tree → Prop where
  | same (value : Option Tree) : SameValue value value
  | null : SameValue none (some .null)

theorem SameValue.trans {first second third : Option Tree} (h : SameValue first second)
    (hnext : SameValue second third) : SameValue first third := by
  cases h with
  | same => exact hnext
  | null =>
      cases hnext with
      | same => exact .null

/-- Fields that come from others by changing their order, by writing null for a name that is
missing, and by adding fields of unknown names, any number of times. -/
inductive Rearranged (names : List String) :
    List (Option String × Tree) → List (Option String × Tree) → Prop where
  | order {fields others : List (Option String × Tree)} (h : fields.Perm others) :
      Rearranged names fields others
  | null {fields : List (Option String × Tree)} {name : String}
      (h : some name ∉ fields.map Prod.fst) : Rearranged names fields ((some name, .null) :: fields)
  | unknown {fields : List (Option String × Tree)} {name : String} (h : name ∉ names)
      (tree : Tree) : Rearranged names fields ((some name, tree) :: fields)
  | trans {fields others more : List (Option String × Tree)} (h : Rearranged names fields others)
      (hmore : Rearranged names others more) : Rearranged names fields more

namespace Rearranged

variable {others : List (Option String × Tree)}

/-- **What comes from a record is a record.** -/
theorem isRecord (h : Rearranged names fields others) (hrecord : IsRecord names fields) :
    IsRecord names others := by
  induction h with
  | order h =>
      have hknown := (h.filterMap Prod.fst).filter (· ∈ names)
      exact ⟨fun field hfield => hrecord.named field (h.mem_iff.mpr hfield),
        hknown.nodup_iff.mp hrecord.distinct⟩
  | @null fields name h =>
      refine ⟨by simpa using hrecord.named, ?_⟩
      by_cases hknown : name ∈ names
      · rw [knownNames_cons_of_mem hknown, List.nodup_cons, mem_knownNames hknown]
        exact ⟨h, hrecord.distinct⟩
      · rw [knownNames_cons_of_not_mem hknown]
        exact hrecord.distinct
  | unknown h tree =>
      refine ⟨by simpa using hrecord.named, ?_⟩
      rw [knownNames_cons_of_not_mem h]
      exact hrecord.distinct
  | trans _ _ ih ihmore => exact ihmore (ih hrecord)

/-- **Lookups of known names** find the same values. -/
theorem sameValue (h : Rearranged names fields others) (hrecord : IsRecord names fields)
    {name : String} (hname : name ∈ names) :
    SameValue (fields.lookup (some name)) (others.lookup (some name)) := by
  induction h with
  | @order fields others h =>
      have hothers := (Rearranged.order h).isRecord hrecord
      have heq : fields.lookup (some name) = others.lookup (some name) := by
        ext tree
        rw [hrecord.lookup_eq_some_iff hname, hothers.lookup_eq_some_iff hname, h.mem_iff]
      rw [heq]
      exact .same _
  | @null fields added h =>
      by_cases hadded : added = name
      · subst hadded
        have hnone : fields.lookup (some added) = none := by
          cases hfound : fields.lookup (some added) with
          | none => rfl
          | some tree =>
              have hmem := (hrecord.lookup_eq_some_iff hname).mp hfound
              exact absurd (List.mem_map_of_mem hmem) h
        rw [hnone, List.lookup_cons_self]
        exact .null
      · have hne : (some name == some added) = false :=
          beq_false_of_ne fun heq => hadded (Option.some.inj heq).symm
        rw [List.lookup_cons, hne]
        exact .same _
  | @unknown fields added h tree =>
      have hne : (some name == some added) = false :=
        beq_false_of_ne fun heq => h (Option.some.inj heq ▸ hname)
      rw [List.lookup_cons, hne]
      exact .same _
  | trans h _ ih ihmore => exact (ih hrecord).trans (ihmore (h.isRecord hrecord))

end Rearranged

/-! ## One field in another's place -/

section

variable {before after : List (Option String × Tree)} {key : String} {old : Tree}

/-- A record stays one when the value of a field is another one. -/
theorem IsRecord.replace (h : IsRecord names (before ++ (some key, old) :: after)) (new : Tree) :
    IsRecord names (before ++ (some key, new) :: after) where
  named := by
    intro field hfield
    rcases List.mem_append.mp hfield with hmem | hmem
    · exact h.named field (List.mem_append_left _ hmem)
    · rcases List.mem_cons.mp hmem with rfl | hmem
      · simp
      · exact h.named field (List.mem_append_right _ (List.mem_cons_of_mem _ hmem))
  distinct := by
    have heq : knownNames names (before ++ (some key, new) :: after) =
        knownNames names (before ++ (some key, old) :: after) := by
      simp [knownNames]
    rw [heq]
    exact h.distinct

/-- Only lookups of its name see the value of a field. -/
theorem lookup_replace {name : String} (h : name ≠ key) (new : Tree) :
    (before ++ (some key, new) :: after).lookup (some name) =
      (before ++ (some key, old) :: after).lookup (some name) := by
  have hne : (some name == some key) = false := beq_false_of_ne fun heq => h (Option.some.inj heq)
  simp [List.lookup_append, List.lookup_cons, hne]

end

/-! ## Records without other names -/

/-- Fields with different names, all of them among some names. -/
structure AreNamed (names : List String) (fields : List (Option String × Tree)) : Prop where
  known : ∀ field ∈ fields, ∃ name ∈ names, field.1 = some name
  distinct : (fields.map Prod.fst).Nodup

/-- Such fields are those of a record that knows the names. -/
theorem AreNamed.isRecord {names written : List String} {fields : List (Option String × Tree)}
    (h : AreNamed written fields) : IsRecord names fields where
  named := by
    intro field hfield
    obtain ⟨name, -, hname⟩ := h.known field hfield
    simp [hname]
  distinct := by
    have hsome : (fields.filterMap Prod.fst).map some = fields.map Prod.fst := by
      rw [List.map_filterMap]
      refine List.filterMap_eq_map_iff_forall_eq_some.mpr fun field hfield => ?_
      obtain ⟨name, -, hname⟩ := h.known field hfield
      simp [hname]
    exact (List.Nodup.of_map some (hsome ▸ h.distinct)).filter _

/-- The name of a field is one of the names. -/
theorem AreNamed.mem_names {names : List String} {fields : List (Option String × Tree)}
    {name : String} {tree : Tree} (h : AreNamed names fields) (hmem : (some name, tree) ∈ fields) :
    name ∈ names := by
  obtain ⟨known, hknown, hsame⟩ := h.known _ hmem
  rwa [Option.some.inj hsame]

/-- Where names differ, a field is looked up by its name. -/
theorem AreNamed.lookup_eq {names : List String} {fields : List (Option String × Tree)}
    {name : String} {tree : Tree} (h : AreNamed names fields) (hmem : (some name, tree) ∈ fields) :
    fields.lookup (some name) = some tree :=
  (h.isRecord.lookup_eq_some_iff (h.mem_names hmem)).mpr hmem

/-- A name that is not one of the names is not looked up. -/
theorem AreNamed.lookup_eq_none {names : List String} {fields : List (Option String × Tree)}
    {name : String} (h : AreNamed names fields) (hname : name ∉ names) :
    fields.lookup (some name) = none := by
  rw [List.lookup_eq_none_iff]
  intro field hfield
  obtain ⟨known, hknown, hsame⟩ := h.known field hfield
  rw [bne_iff_ne, hsame]
  exact fun heq => hname (Option.some.inj heq ▸ hknown)

/-- A record from an object whose names are all known. -/
theorem record_eq {σ : Type} {d : Dialect} {room : Room} {names written : List String}
    {read : String → Tree → σ → Except Fault σ} {held : List String → σ}
    {fields : List (Option String × Tree)} (hnamed : AreNamed written fields)
    (hknown : written ⊆ names)
    (hstep : ∀ name tree seen, (some name, tree) ∈ fields →
      read name tree (held seen) = .ok (held (name :: seen))) :
    record d room names read (held []) (.object fields .closed) =
      .ok (held (knownNames names fields).reverse) := by
  refine record_held hnamed.isRecord (fun name _ => hstep name) ?_
  intro name tree hunknown hmem
  exact absurd (hknown (hnamed.mem_names hmem)) hunknown

/-! ## Fields that may be left out -/

section

variable {α : Type} {standsFor : Tree → α → Prop}

/-- Whether a field that may be left out gives a value: no value when it is missing or null. -/
inductive Sets (standsFor : Tree → α → Prop) : Option Tree → Option α → Prop where
  | missing : Sets standsFor none none
  | null : Sets standsFor (some .null) none
  | value {tree : Tree} {a : α} (h : standsFor tree a) : Sets standsFor (some tree) (some a)

/-- A field of an object gives what a lookup of its name gives. -/
theorem AreNamed.sets_field {names : List String} {fields : List (Option String × Tree)}
    {name : String} {tree : Tree} {value : Option α} (h : AreNamed names fields)
    (hmem : (some name, tree) ∈ fields)
    (hset : Sets standsFor (fields.lookup (some name)) value) :
    Sets standsFor (some tree) value :=
  h.lookup_eq hmem ▸ hset

/-- What a field sets is not lost by asking whether the field is there. -/
theorem Sets.ite_eq {fields : List (Option String × Tree)} {name : String} {value : Option α}
    (h : Sets standsFor (fields.lookup (some name)) value) (names : List String)
    (hknown : name ∈ names) :
    (if name ∈ (knownNames names fields).reverse then value else none) = value := by
  apply ite_mem_knownNames hknown
  intro habsent
  rw [habsent] at h
  cases h
  rfl

/-- A missing field sets nothing. -/
theorem Sets.eq_none {value : Option α} (h : Sets standsFor none value) : value = none := by
  cases h
  rfl

/-- Reading a field that may be left out. -/
theorem Sets.optional_eq {read : Tree → Except Fault α} {tree : Tree} {value : Option α}
    (h : Sets standsFor (some tree) value)
    (hread : ∀ a, standsFor tree a → optional read tree = .ok (some a)) :
    optional read tree = .ok value := by
  cases h with
  | null => rfl
  | value hstands => exact hread _ hstands

end

/-- Whether a tree is a text. -/
def IsText (tree : Tree) (text : String) : Prop :=
  tree = .text (some text)

/-- Whether a tree is a list of texts. -/
def AreTexts (tree : Tree) (texts : List String) : Prop :=
  tree = .array (texts.map fun text => .text (some text)) .closed

/-- Whether a tree is a number. -/
def IsNumber (tree : Tree) (n : Number) : Prop :=
  ∃ numeral, tree = .number numeral ∧ numeral.strict? = some n

variable {tree : Tree}

theorem optional_string {value : Option String} (h : Sets IsText (some tree) value) :
    optional (string .strict) tree = .ok value := by
  apply h.optional_eq
  rintro text rfl
  rfl

theorem optional_strings {room : Nat} {value : Option (List String)}
    (h : Sets AreTexts (some tree) value) :
    optional (strings .strict (some (room + 1))) tree = .ok value := by
  have hitems : ∀ texts : List String,
      (texts.map fun text => Tree.text (some text)).mapM (string .strict) = .ok texts := by
    intro texts
    induction texts with
    | nil => rfl
    | cons text texts ih =>
        rw [List.map_cons, List.mapM_cons, ih]
        rfl
  apply h.optional_eq
  rintro texts rfl
  simp [optional, strings, Room.enter, hitems, Ending.demanded, bind, Except.bind, pure,
    Except.pure, Except.map]

theorem quantity_number {numeral : Numeral} {n : Number} (h : numeral.strict? = some n) :
    quantity .strict numeral = .ok (.number n) := by
  simp [quantity, Dialect.quantity?, h]

end Tree

end ReportGrid
