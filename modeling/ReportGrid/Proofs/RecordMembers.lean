import ReportGrid.Json.Reader
import ReportGrid.Proofs.RefusedDocuments
import Mathlib.Data.List.Nodup

/-!
# One member of a record

A record is read from an object or from an array, and what stands under one of its names is either
the value of a field or the item at the place of the name.  A reader that treats its names apart
from each other lets one member be followed alone:

* `Tree.record_slot` — another value in the place of a member changes what is read just as reading
  that value changes it;
* `Tree.record_of_isMember`, `Tree.record_of_not_isMember` — what is read for a name was read from
  the member under it, and without a member it is what reading started from;
* `Tree.record_iff_exists_isMember` — so its properties are those of the member.

Fields are read one after another by `Tree.readMember`, which keeps the names that were read.  The
invariant is that a name that was read is not read again.
-/

namespace ReportGrid

/-- A changed result is one when there is a result. -/
theorem map_eq_ok {ε α β : Type} {f : α → β} {first : Except ε α} {b : β} :
    first.map f = .ok b ↔ ∃ a, first = .ok a ∧ f a = b := by
  cases first <;> simp [Except.map]

theorem map_map {ε α β γ : Type} (f : α → β) (g : β → γ) (first : Except ε α) :
    (first.map f).map g = first.map (g ∘ f) := by
  cases first <;> rfl

namespace Tree

/-- A record with a place left open for the value under a name. -/
inductive IsSlot (names : List String) (name : String) : (Tree → Tree) → Prop where
  | field (before after : List (Option String × Tree)) (ending : Ending) :
      IsSlot names name fun tree => .object (before ++ (some name, tree) :: after) ending
  | item (before after : List Tree) (ending : Ending) (h : names[before.length]? = some name) :
      IsSlot names name fun tree => .array (before ++ tree :: after) ending

/-- Whether a value stands in a record under a name. -/
inductive IsMember (names : List String) (name : String) : Tree → Tree → Prop where
  | field {fields : List (Option String × Tree)} {ending : Ending} {tree : Tree}
      (h : (some name, tree) ∈ fields) : IsMember names name (.object fields ending) tree
  | item {items : List Tree} {ending : Ending} {tree : Tree} {i : Nat}
      (hname : names[i]? = some name) (h : items[i]? = some tree) :
      IsMember names name (.array items ending) tree

section

variable {σ : Type} (d : Dialect) (room : Room) (names : List String)
  (read : String → Tree → σ → Except Fault σ)

/-! ## One field after another -/

/-- Reads one field of a record: the names read so far, and what they gave. -/
def readMember (reached : List String × σ) (field : Option String × Tree) :
    Except Fault (List String × σ) := do
  let name ← content field.1
  if names.contains name then
    if reached.1.contains name then .error .mismatch
    else
      let found ← read name field.2 reached.2
      return (name :: reached.1, found)
  else
    ignore d room field.2
    return reached

/-- The fields of a record are read one after another. -/
theorem recordFields_eq_foldlM (seen : List String) (found : σ)
    (fields : List (Option String × Tree)) :
    recordFields d room names read seen found fields =
      (fields.foldlM (readMember d room names read) (seen, found)).map Prod.snd := by
  induction fields generalizing seen found with
  | nil => rfl
  | cons field rest ih =>
      obtain ⟨written, tree⟩ := field
      cases written with
      | none => rfl
      | some name =>
          simp only [recordFields, List.foldlM_cons, readMember, content, Option.elim_some, bind,
            Except.bind, pure, Except.pure]
          by_cases hknown : names.contains name = true
          · rw [if_pos hknown, if_pos hknown]
            by_cases hrepeated : seen.contains name = true
            · rw [if_pos hrepeated, if_pos hrepeated]
              rfl
            · rw [if_neg hrepeated, if_neg hrepeated]
              cases read name tree found with
              | error fault => rfl
              | ok found => exact ih (name :: seen) found
          · rw [if_neg hknown, if_neg hknown]
            cases ignore d room tree with
            | error fault => rfl
            | ok _ => exact ih seen found

variable {d room names read} {name : String}

/-- What one field can do: a known name that was not read before is read, and any other name is
passed over. -/
theorem readMember_cases {reached next : List String × σ} {field : Option String × Tree}
    (h : readMember d room names read reached field = .ok next) :
    (∃ other found, field.1 = some other ∧ other ∈ names ∧ other ∉ reached.1 ∧
      read other field.2 reached.2 = .ok found ∧ next = (other :: reached.1, found)) ∨
    (∃ other, field.1 = some other ∧ other ∉ names ∧ next = reached) := by
  obtain ⟨written, tree⟩ := field
  cases written with
  | none => exact absurd h (by simp [readMember, content, bind, Except.bind])
  | some other =>
      simp only [readMember, content, Option.elim_some, bind, Except.bind, pure,
        Except.pure] at h
      by_cases hknown : other ∈ names
      · rw [if_pos (List.contains_iff_mem.mpr hknown)] at h
        by_cases hrepeated : other ∈ reached.1
        · rw [if_pos (List.contains_iff_mem.mpr hrepeated)] at h
          exact absurd h (by simp)
        · rw [if_neg (fun hmem => hrepeated (List.contains_iff_mem.mp hmem))] at h
          left
          cases hread : read other tree reached.2 with
          | error fault => simp [hread] at h
          | ok found =>
              rw [hread] at h
              exact ⟨other, found, rfl, hknown, hrepeated, hread, (Except.ok.inj h).symm⟩
      · rw [if_neg (fun hmem => hknown (List.contains_iff_mem.mp hmem))] at h
        right
        cases hpass : ignore d room tree with
        | error fault => simp [hpass] at h
        | ok _ =>
            rw [hpass] at h
            exact ⟨other, rfl, hknown, (Except.ok.inj h).symm⟩

/-! ## Another value in a place -/

variable {update : σ → σ} {old new : Tree}

/-- One field, where an update is carried on that other names do not see. -/
theorem readMember_update
    (hother : ∀ other ≠ name, ∀ tree found,
      read other tree (update found) = (read other tree found).map update)
    {seen : List String} (hseen : name ∈ seen) (found : σ) (field : Option String × Tree) :
    readMember d room names read (seen, update found) field =
      (readMember d room names read (seen, found) field).map (Prod.map id update) := by
  obtain ⟨written, tree⟩ := field
  cases written with
  | none => rfl
  | some other =>
      simp only [readMember, content, Option.elim_some, bind, Except.bind, pure, Except.pure]
      by_cases hknown : names.contains other = true
      · rw [if_pos hknown, if_pos hknown]
        by_cases hrepeated : seen.contains other = true
        · rw [if_pos hrepeated, if_pos hrepeated]
          rfl
        · rw [if_neg hrepeated, if_neg hrepeated]
          have hne : other ≠ name := by
            intro heq
            exact hrepeated (List.contains_iff_mem.mpr (heq ▸ hseen))
          rw [hother other hne tree found]
          cases read other tree found <;> rfl
      · rw [if_neg hknown, if_neg hknown]
        cases ignore d room tree <;> rfl

/-- All fields after the one of the name, where an update is carried on. -/
theorem foldlM_readMember_update
    (hother : ∀ other ≠ name, ∀ tree found,
      read other tree (update found) = (read other tree found).map update)
    (fields : List (Option String × Tree)) {seen : List String} (hseen : name ∈ seen) (found : σ) :
    fields.foldlM (readMember d room names read) (seen, update found) =
      (fields.foldlM (readMember d room names read) (seen, found)).map (Prod.map id update) := by
  induction fields generalizing seen found with
  | nil => rfl
  | cons field rest ih =>
      rw [List.foldlM_cons, List.foldlM_cons, readMember_update hother hseen]
      cases hstep : readMember d room names read (seen, found) field with
      | error fault => rfl
      | ok next =>
          have hnext : name ∈ next.1 := by
            rcases readMember_cases hstep with ⟨other, found, -, -, -, -, rfl⟩ | ⟨other, -, -, rfl⟩
            · exact List.mem_cons_of_mem _ hseen
            · exact hseen
          exact ih hnext next.2

/-- The fields of a record with another value in one place. -/
theorem recordFields_slot (hname : name ∈ names)
    (hother : ∀ other ≠ name, ∀ tree found,
      read other tree (update found) = (read other tree found).map update)
    (hslot : ∀ found, read name new found = (read name old found).map update)
    (before after : List (Option String × Tree)) (start : σ) :
    recordFields d room names read [] start (before ++ (some name, new) :: after) =
      (recordFields d room names read [] start (before ++ (some name, old) :: after)).map
        update := by
  rw [recordFields_eq_foldlM, recordFields_eq_foldlM, List.foldlM_append, List.foldlM_append]
  cases before.foldlM (readMember d room names read) ([], start) with
  | error fault => rfl
  | ok reached =>
      have hstep : readMember d room names read reached (some name, new) =
          (readMember d room names read reached (some name, old)).map (Prod.map id update) := by
        simp only [readMember, content, Option.elim_some, bind, Except.bind, pure, Except.pure,
          hslot reached.2]
        rw [if_pos (List.contains_iff_mem.mpr hname), if_pos (List.contains_iff_mem.mpr hname)]
        by_cases hrepeated : reached.1.contains name = true
        · rw [if_pos hrepeated, if_pos hrepeated]
          rfl
        · rw [if_neg hrepeated, if_neg hrepeated]
          cases read name old reached.2 <;> rfl
      simp only [List.foldlM_cons, bind, Except.bind, hstep]
      cases hold : readMember d room names read reached (some name, old) with
      | error fault => rfl
      | ok next =>
          have hnext : name ∈ next.1 := by
            rcases readMember_cases hold with ⟨other, found, hwritten, -, -, -, rfl⟩ |
              ⟨other, hwritten, hunknown, -⟩
            · obtain rfl := Option.some.inj hwritten
              exact List.mem_cons_self
            · obtain rfl := Option.some.inj hwritten
              exact absurd hname hunknown
          have hrest : after.foldlM (readMember d room names read) (next.1, update next.2) =
              (after.foldlM (readMember d room names read) next).map (Prod.map id update) :=
            foldlM_readMember_update hother after hnext next.2
          simp only [Except.map, Prod.map, id] at hrest ⊢
          rw [hrest]
          cases after.foldlM (readMember d room names read) next <;> rfl

/-- After the item of the name, what was changed there is carried on. -/
theorem recordItems_update {ending : Ending}
    (hother : ∀ other ≠ name, ∀ tree found,
      read other tree (update found) = (read other tree found).map update)
    (names : List String) (hnames : name ∉ names) (items : List Tree) (found : σ) :
    recordItems read ending (update found) names items =
      (recordItems read ending found names items).map (Prod.map update id) := by
  induction names generalizing items found with
  | nil => rfl
  | cons first names ih =>
      obtain ⟨hfirst, hrest⟩ := not_or.mp (fun h => hnames (List.mem_cons.mpr h))
      cases items with
      | nil =>
          simp only [recordItems]
          cases ending.demanded <;> rfl
      | cons item items =>
          simp only [recordItems, bind, Except.bind]
          rw [hother first (Ne.symm hfirst) item found]
          cases read first item found with
          | error fault => rfl
          | ok found => exact ih hrest items found

/-- The items of a record with another value in one place. -/
theorem recordItems_slot {ending : Ending}
    (hother : ∀ other ≠ name, ∀ tree found,
      read other tree (update found) = (read other tree found).map update)
    (hslot : ∀ found, read name new found = (read name old found).map update)
    (after before : List Tree) (names : List String) (hnames : names.Nodup)
    (hname : names[before.length]? = some name) (found : σ) :
    recordItems read ending found names (before ++ new :: after) =
      (recordItems read ending found names (before ++ old :: after)).map (Prod.map update id) := by
  induction names generalizing before found with
  | nil => simp at hname
  | cons first names ih =>
      obtain ⟨hfirst, hrest⟩ := List.nodup_cons.mp hnames
      cases before with
      | nil =>
          obtain rfl : first = name := by simpa using hname
          simp only [List.nil_append, recordItems, bind, Except.bind]
          rw [hslot found]
          cases read first old found with
          | error fault => rfl
          | ok found => exact recordItems_update hother names hfirst after found
      | cons item before =>
          simp only [List.cons_append, recordItems, bind, Except.bind]
          cases read first item found with
          | error fault => rfl
          | ok found => exact ih before hrest (by simpa using hname) found

/-- **Another value in a place.**  Where an update is not seen by the other names, and the new value
is read as the old one and then the update, so is the whole record. -/
theorem record_slot {slot : Tree → Tree} (h : IsSlot names name slot) (hnames : names.Nodup)
    (hname : name ∈ names)
    (hother : ∀ other ≠ name, ∀ tree found,
      read other tree (update found) = (read other tree found).map update)
    (hslot : ∀ found, read name new found = (read name old found).map update) (start : σ) :
    record d room names read start (slot new) =
      (record d room names read start (slot old)).map update := by
  cases h with
  | field before after ending =>
      simp only [record, bind, Except.bind, pure, Except.pure]
      rw [recordFields_slot hname hother hslot before after start]
      cases recordFields d room names read [] start (before ++ (some name, old) :: after) with
      | error fault => rfl
      | ok found =>
          simp only [Except.map]
          cases ending.demanded <;> rfl
  | item before after ending h =>
      simp only [record, bind, Except.bind, pure, Except.pure]
      rw [recordItems_slot hother hslot after before names hnames h start]
      cases recordItems read ending start names (before ++ old :: after) with
      | error fault => rfl
      | ok reached =>
          simp only [Except.map, Prod.map, id]
          cases recordEnd d ending reached.2 <;> rfl

/-! ## What was read for a name -/

variable {α : Type} {get : σ → α}

/-- Fields of other names do not change what was read for a name. -/
theorem foldlM_readMember_get
    (hkeep : ∀ other ≠ name, ∀ tree found next, read other tree found = .ok next →
      get next = get found)
    {fields : List (Option String × Tree)} (hnot : ∀ tree, (some name, tree) ∉ fields)
    {reached next : List String × σ}
    (h : fields.foldlM (readMember d room names read) reached = .ok next) :
    get next.2 = get reached.2 := by
  induction fields generalizing reached with
  | nil => rw [Except.ok.inj h]
  | cons field rest ih =>
      rw [List.foldlM_cons] at h
      obtain ⟨middle, hstep, hrest⟩ := bind_eq_ok.mp h
      rw [ih (fun tree hmem => hnot tree (List.mem_cons_of_mem _ hmem)) hrest]
      rcases readMember_cases hstep with ⟨other, found, hwritten, -, -, hread, rfl⟩ | ⟨-, -, -, rfl⟩
      · refine hkeep other ?_ field.2 _ _ hread
        intro heq
        exact hnot field.2 (List.mem_cons.mpr (Or.inl (Prod.ext (heq ▸ hwritten.symm) rfl)))
      · rfl

/-- A name that was read is not among the fields that follow. -/
theorem not_mem_of_foldlM_readMember (hname : name ∈ names)
    {fields : List (Option String × Tree)} {reached next : List String × σ}
    (hseen : name ∈ reached.1)
    (h : fields.foldlM (readMember d room names read) reached = .ok next) (tree : Tree) :
    (some name, tree) ∉ fields := by
  induction fields generalizing reached with
  | nil => simp
  | cons field rest ih =>
      rw [List.foldlM_cons] at h
      obtain ⟨middle, hstep, hrest⟩ := bind_eq_ok.mp h
      intro hmem
      rcases readMember_cases hstep with ⟨other, found, hwritten, -, hfresh, -, rfl⟩ |
        ⟨other, hwritten, hunknown, rfl⟩
      · rcases List.mem_cons.mp hmem with rfl | hmem
        · obtain rfl := Option.some.inj hwritten
          exact hfresh hseen
        · exact ih (List.mem_cons_of_mem _ hseen) hrest hmem
      · rcases List.mem_cons.mp hmem with rfl | hmem
        · obtain rfl := Option.some.inj hwritten
          exact hunknown hname
        · exact ih hseen hrest hmem

/-- What was read for a name is kept by the items after its own. -/
theorem recordItems_get {ending : Ending}
    (hkeep : ∀ other ≠ name, ∀ tree found next, read other tree found = .ok next →
      get next = get found)
    {names : List String} (hnot : name ∉ names) {items : List Tree} {found : σ}
    {reached : σ × List Tree} (h : recordItems read ending found names items = .ok reached) :
    get reached.1 = get found := by
  induction names generalizing items found with
  | nil => rw [← Except.ok.inj h]
  | cons first names ih =>
      obtain ⟨hfirst, hrest⟩ := not_or.mp (fun h => hnot (List.mem_cons.mpr h))
      cases items with
      | nil =>
          obtain ⟨_, -, hfault⟩ := bind_eq_ok.mp h
          exact absurd hfault (by simp)
      | cons item items =>
          obtain ⟨next, hread, hlater⟩ := bind_eq_ok.mp h
          rw [ih hrest hlater]
          exact hkeep first (Ne.symm hfirst) item found next hread

/-- What was read for a name was read from the item at its place. -/
theorem recordItems_of_getElem? {ending : Ending}
    (hkeep : ∀ other ≠ name, ∀ tree found next, read other tree found = .ok next →
      get next = get found)
    {names : List String} (hnames : names.Nodup) {items : List Tree} {i : Nat} {tree : Tree}
    (hname : names[i]? = some name) (hitem : items[i]? = some tree) {found : σ}
    {reached : σ × List Tree} (h : recordItems read ending found names items = .ok reached) :
    ∃ before after, read name tree before = .ok after ∧ get reached.1 = get after := by
  induction names generalizing items found i with
  | nil => simp at hname
  | cons first names ih =>
      obtain ⟨hfirst, hrest⟩ := List.nodup_cons.mp hnames
      cases items with
      | nil => simp at hitem
      | cons item items =>
          obtain ⟨next, hread, hlater⟩ := bind_eq_ok.mp h
          cases i with
          | zero =>
              obtain rfl : first = name := by simpa using hname
              obtain rfl : item = tree := by simpa using hitem
              exact ⟨found, next, hread, recordItems_get hkeep hfirst hlater⟩
          | succ i => exact ih hrest (by simpa using hname) (by simpa using hitem) hlater

/-- An array that is read as a record has an item for every name. -/
theorem length_le_of_recordItems {ending : Ending} {names : List String} {items : List Tree}
    {found : σ} {reached : σ × List Tree}
    (h : recordItems read ending found names items = .ok reached) :
    names.length ≤ items.length := by
  induction names generalizing items found with
  | nil => simp
  | cons first names ih =>
      cases items with
      | nil =>
          obtain ⟨_, -, hfault⟩ := bind_eq_ok.mp h
          exact absurd hfault (by simp)
      | cons item items =>
          obtain ⟨next, -, hlater⟩ := bind_eq_ok.mp h
          simpa using ih hlater

variable {start result : σ} {root : Tree}

/-- **A member counts.**  What a record gives for a name was read from any member under it. -/
theorem record_of_isMember (get : σ → α)
    (hkeep : ∀ other ≠ name, ∀ tree found next, read other tree found = .ok next →
      get next = get found)
    (hnames : names.Nodup) (hname : name ∈ names)
    (h : record d room names read start root = .ok result) {tree : Tree}
    (hmember : IsMember names name root tree) :
    ∃ before after, read name tree before = .ok after ∧ get result = get after := by
  cases hmember with
  | @field fields ending tree hmem =>
      obtain ⟨found, hfields, hend⟩ := bind_eq_ok.mp h
      obtain ⟨_, -, hresult⟩ := bind_eq_ok.mp hend
      obtain rfl := Except.ok.inj hresult
      obtain ⟨before, after, rfl⟩ := List.append_of_mem hmem
      rw [recordFields_eq_foldlM, List.foldlM_append] at hfields
      obtain ⟨last, hrun, hlast⟩ := map_eq_ok.mp hfields
      obtain ⟨reached, -, hrun⟩ := bind_eq_ok.mp hrun
      rw [List.foldlM_cons] at hrun
      obtain ⟨next, hstep, hrest⟩ := bind_eq_ok.mp hrun
      rcases readMember_cases hstep with ⟨other, found, hwritten, -, -, hread, rfl⟩ |
        ⟨other, hwritten, hunknown, -⟩
      · obtain rfl := Option.some.inj hwritten
        have hnot := not_mem_of_foldlM_readMember hname List.mem_cons_self hrest
        refine ⟨reached.2, found, hread, ?_⟩
        rw [← hlast]
        exact foldlM_readMember_get hkeep hnot hrest
      · obtain rfl := Option.some.inj hwritten
        exact absurd hname hunknown
  | item hplace hitem =>
      obtain ⟨reached, hitems, hend⟩ := bind_eq_ok.mp h
      obtain ⟨_, -, hresult⟩ := bind_eq_ok.mp hend
      obtain rfl := Except.ok.inj hresult
      exact recordItems_of_getElem? hkeep hnames hplace hitem hitems

/-- **Without a member** a record gives for a name what reading started from. -/
theorem record_of_not_isMember (get : σ → α)
    (hkeep : ∀ other ≠ name, ∀ tree found next, read other tree found = .ok next →
      get next = get found)
    (hname : name ∈ names) (h : record d room names read start root = .ok result)
    (hnot : ∀ tree, ¬ IsMember names name root tree) : get result = get start := by
  cases root with
  | object fields ending =>
      obtain ⟨found, hfields, hend⟩ := bind_eq_ok.mp h
      obtain ⟨_, -, hresult⟩ := bind_eq_ok.mp hend
      obtain rfl := Except.ok.inj hresult
      rw [recordFields_eq_foldlM] at hfields
      obtain ⟨last, hrun, hlast⟩ := map_eq_ok.mp hfields
      rw [← hlast]
      exact foldlM_readMember_get hkeep (fun tree hmem => hnot tree (.field hmem)) hrun
  | array items ending =>
      obtain ⟨reached, hitems, -⟩ := bind_eq_ok.mp h
      obtain ⟨i, hi, hplace⟩ := List.getElem_of_mem hname
      have hitem : i < items.length := Nat.lt_of_lt_of_le hi (length_le_of_recordItems hitems)
      have hmember : IsMember names name (.array items ending) items[i] :=
        .item (List.getElem?_eq_some_iff.mpr ⟨hi, hplace⟩) (List.getElem?_eq_getElem hitem)
      exact absurd hmember (hnot _)
  | _ => exact absurd h (by simp [record])

/-- **A property of what is read for a name** is one of the member under the name, when reading
starts without it. -/
theorem record_iff_exists_isMember (get : σ → α)
    (hkeep : ∀ other ≠ name, ∀ tree found next, read other tree found = .ok next →
      get next = get found)
    (hnames : names.Nodup) (hname : name ∈ names) {P : α → Prop} {Q : Tree → Prop}
    (hstart : ¬ P (get start))
    (hread : ∀ tree before after, read name tree before = .ok after → (P (get after) ↔ Q tree))
    (h : record d room names read start root = .ok result) :
    P (get result) ↔ ∃ tree, IsMember names name root tree ∧ Q tree := by
  constructor
  · intro hresult
    by_cases hsome : ∃ tree, IsMember names name root tree
    · obtain ⟨tree, hmember⟩ := hsome
      obtain ⟨before, after, hafter, hget⟩ :=
        record_of_isMember get hkeep hnames hname h hmember
      rw [hget] at hresult
      exact ⟨tree, hmember, (hread tree before after hafter).mp hresult⟩
    · rw [record_of_not_isMember get hkeep hname h (not_exists.mp hsome)] at hresult
      exact absurd hresult hstart
  · rintro ⟨tree, hmember, htree⟩
    obtain ⟨before, after, hafter, hget⟩ := record_of_isMember get hkeep hnames hname h hmember
    rw [hget]
    exact (hread tree before after hafter).mpr htree

end

/-- A value that may be left out is null, or it is read. -/
theorem optional_cases {α : Type} {read : Tree → Except Fault α} {tree : Tree} {value : Option α}
    (h : tree.optional read = .ok value) :
    (tree = .null ∧ value = none) ∨ ∃ given, read tree = .ok given ∧ value = some given := by
  by_cases hnull : tree = .null
  · subst hnull
    exact .inl ⟨rfl, (Except.ok.inj h).symm⟩
  · have hread : (read tree).map some = .ok value := by
      cases tree <;> first | exact h | exact absurd rfl hnull
    obtain ⟨given, hgiven, hvalue⟩ := map_eq_ok.mp hread
    exact .inr ⟨given, hgiven, hvalue.symm⟩

end Tree

end ReportGrid
