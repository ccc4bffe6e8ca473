import ReportGrid.Section.Collection
import ReportGrid.Text
import Mathlib.Data.List.Find
import Mathlib.Data.List.Induction
import Mathlib.Data.List.Nodup

/-!
# What pushing sections does to a collection

A collection is read through `toList`, `shortcodes` and `get?`.  The fields `nodup` and `keyed` of a
collection make the three agree:

* `Sections.shortcodes_eq_map` — the shortcodes in order are the sections' own;
* `Sections.get?_eq_some_iff`, `Sections.get?_eq_none_iff` — a lookup finds the one section with a
  shortcode, and nothing exactly when there is none;
* `Sections.ext_toList` — the sections in order determine a collection.

One push (`toList_push`, `get?_push`) adds a section at the end or changes nothing.  Hence a run of
pushes looks every shortcode up at the section that came first (`get?_ofList`), its shortcodes are
those that came without repeats (`shortcodes_ofList`), and it keeps the whole list when no shortcode
is repeated (`toList_ofList_of_nodup`).

`pushAll` also keeps the answer of each push.  `FirstKept` says what sections, answers and lookups
have to do with each other after a run, and `firstKept_pushAll` that every run from no sections has
it.  The invariant of a run is told from any start: a push is answered by what the start has taken
and what was pushed before (`getElem?_pushAll`), and each kept section makes the collection longer
by one (`length_pushAll`).
-/

namespace ReportGrid.Sections

/-- The shortcodes that sections are kept under are their own. -/
theorem shortcodes_eq_map (s : Sections) :
    s.shortcodes = s.toList.map Section.shortcode := by
  simp only [shortcodes, toList, List.map_map]
  exact List.map_congr_left s.keyed

/-- The sections in order determine a collection. -/
theorem ext_toList {s t : Sections} (h : s.toList = t.toList) : s = t := by
  have rebuilt : ∀ u : Sections, u.entries = u.toList.map fun m => (m.shortcode, m) := by
    intro u
    simp only [toList, List.map_map]
    refine (List.map_id u.entries).symm.trans (List.map_congr_left ?_)
    intro entry hentry
    exact Prod.ext (u.keyed entry hentry) rfl
  have hentries : s.entries = t.entries := by rw [rebuilt s, rebuilt t, h]
  cases s
  cases t
  simpa using hentries

/-- Looking a shortcode up reads the sections in order. -/
theorem get?_eq_find? (s : Sections) (code : String) :
    s.get? code = s.toList.find? fun m => m.shortcode == code := by
  simp only [get?, toList, List.find?_map]
  congr 1
  apply List.find?_congr
  intro entry hentry
  simp [s.keyed entry hentry]

/-- A lookup finds nothing exactly when no section has the shortcode. -/
theorem get?_eq_none_iff {s : Sections} {code : String} :
    s.get? code = none ↔ ∀ m ∈ s.toList, m.shortcode ≠ code := by
  simp [get?_eq_find?]

/-- **Lookup.**  A lookup finds a section exactly when the section is in the collection and has the
shortcode: no other section has the same one. -/
theorem get?_eq_some_iff {s : Sections} {code : String} {m : Section} :
    s.get? code = some m ↔ m ∈ s.toList ∧ m.shortcode = code := by
  constructor
  · intro h
    rw [get?_eq_find?] at h
    exact ⟨List.mem_of_find?_eq_some h, by simpa using List.find?_some h⟩
  · rintro ⟨hm, rfl⟩
    have hnodup : (s.toList.map Section.shortcode).Nodup := s.shortcodes_eq_map ▸ s.nodup
    cases hfound : s.get? m.shortcode with
    | none => exact (get?_eq_none_iff.mp hfound m hm rfl).elim
    | some other =>
        rw [get?_eq_find?] at hfound
        have hcode : other.shortcode = m.shortcode := by simpa using List.find?_some hfound
        exact congrArg some
          (List.inj_on_of_nodup_map hnodup (List.mem_of_find?_eq_some hfound) hm hcode)

/-- Whether a shortcode is taken, read off the sections in order. -/
theorem contains_iff {s : Sections} {code : String} :
    s.contains code = true ↔ ∃ m ∈ s.toList, m.shortcode = code := by
  simp [contains, shortcodes_eq_map]

@[simp] theorem toList_empty : empty.toList = [] := rfl

/-- **One push.**  A section goes to the end unless its shortcode is taken. -/
theorem toList_push (s : Sections) (m : Section) :
    (s.push m).toList = if s.contains m.shortcode then s.toList else s.toList ++ [m] := by
  unfold push
  split <;> simp [toList]

/-- After a push every lookup that found a section still finds it, and the shortcode of the pushed
section is found in any case. -/
theorem get?_push (s : Sections) (m : Section) (code : String) :
    (s.push m).get? code = (s.get? code).or (if m.shortcode = code then some m else none) := by
  rw [get?_eq_find?, get?_eq_find?, toList_push]
  split
  · rename_i htaken
    by_cases hcode : m.shortcode = code
    · subst hcode
      obtain ⟨n, hn, hcode⟩ := contains_iff.mp htaken
      have hsome : (s.toList.find? fun n => n.shortcode == m.shortcode).isSome := by
        rw [List.find?_isSome]
        exact ⟨n, hn, by simpa using hcode⟩
      rw [Option.or_of_isSome hsome]
    · simp [hcode]
  · rw [List.find?_append]
    by_cases hcode : m.shortcode = code <;> simp [hcode]

theorem ofList_concat (members : List Section) (m : Section) :
    ofList (members ++ [m]) = (ofList members).push m := by
  simp [ofList]

/-- **Runs of pushes.**  After any run of pushes a shortcode is looked up at the section that came
first with it. -/
theorem get?_ofList (members : List Section) (code : String) :
    (ofList members).get? code = members.find? fun m => m.shortcode == code := by
  induction members using List.reverseRecOn with
  | nil => rfl
  | append_singleton members m ih =>
      rw [ofList_concat, get?_push, ih, List.find?_append]
      by_cases hcode : m.shortcode = code <;> simp [hcode]

/-- After any run of pushes the shortcodes are those that came, each where it came first. -/
theorem shortcodes_ofList (members : List Section) :
    (ofList members).shortcodes = Text.distinct (members.map Section.shortcode) := by
  induction members using List.reverseRecOn with
  | nil => rfl
  | append_singleton members m ih =>
      have hcontains : (ofList members).contains m.shortcode =
          (members.map Section.shortcode).contains m.shortcode := by
        rw [contains, ih, Text.contains_distinct]
      rw [List.map_append, List.map_singleton, Text.distinct_concat, ← hcontains, ofList_concat,
        shortcodes_eq_map, toList_push, ← ih, shortcodes_eq_map]
      split
      · rfl
      · rw [List.map_append, List.map_singleton]

/-- A run of pushes without a repeated shortcode keeps everything. -/
theorem toList_ofList_of_nodup {members : List Section}
    (h : (members.map Section.shortcode).Nodup) : (ofList members).toList = members := by
  induction members using List.reverseRecOn with
  | nil => rfl
  | append_singleton members m ih =>
      rw [List.map_append, List.nodup_append] at h
      obtain ⟨hbefore, -, hdisjoint⟩ := h
      have hfree : ¬ (ofList members).contains m.shortcode = true := by
        intro htaken
        obtain ⟨n, hn, hcode⟩ := contains_iff.mp htaken
        rw [ih hbefore] at hn
        exact hdisjoint n.shortcode (List.mem_map_of_mem hn) m.shortcode (by simp) hcode
      rw [ofList_concat, toList_push, if_neg hfree, ih hbefore]

/-- Nothing changes when the shortcode of the pushed section is taken. -/
theorem push_of_not_keeps {s : Sections} {m : Section} (h : s.keeps m = false) : s.push m = s := by
  have htaken : s.contains m.shortcode = true := by simpa [keeps] using h
  rw [push, dif_pos htaken]

/-- After a push the shortcodes taken are those taken before and the one pushed. -/
theorem contains_push (s : Sections) (m : Section) (code : String) :
    (s.push m).contains code = (s.contains code || m.shortcode == code) := by
  rw [Bool.eq_iff_iff, Bool.or_eq_true, contains_iff, contains_iff, toList_push]
  split
  · rename_i htaken
    obtain ⟨n, hn, hcode⟩ := contains_iff.mp htaken
    constructor
    · intro h
      exact Or.inl h
    · intro h
      rcases h with h | h
      · exact h
      · exact ⟨n, hn, hcode.trans (by simpa using h)⟩
  · constructor
    · intro h
      obtain ⟨n, hn, hcode⟩ := h
      rcases List.mem_append.mp hn with hold | hnew
      · exact Or.inl ⟨n, hold, hcode⟩
      · right
        rw [← hcode, List.mem_singleton.mp hnew]
        simp
    · intro h
      rcases h with ⟨n, hn, hcode⟩ | h
      · exact ⟨n, List.mem_append_left _ hn, hcode⟩
      · exact ⟨m, by simp, by simpa using h⟩

theorem length_eq_length_toList (s : Sections) : s.length = s.toList.length := by
  simp [length, toList]

/-- A push makes the collection longer by one when it keeps its section. -/
theorem length_push (s : Sections) (m : Section) :
    (s.push m).length = s.length + (if s.keeps m then 1 else 0) := by
  rw [length_eq_length_toList, length_eq_length_toList, toList_push, keeps]
  cases s.contains m.shortcode <;> simp

/-- Pushes sections one after another: the collection that is reached, and for each push whether
its section was kept. -/
def pushAll (s : Sections) : List Section → Sections × List Bool
  | [] => (s, [])
  | m :: rest => (((s.push m).pushAll rest).1, s.keeps m :: ((s.push m).pushAll rest).2)

/-- The collection that a run reaches does not depend on the answers. -/
theorem pushAll_fst (s : Sections) (members : List Section) :
    (s.pushAll members).1 = members.foldl push s := by
  induction members generalizing s with
  | nil => rfl
  | cons m rest ih => exact ih (s.push m)

theorem length_pushAll_snd (s : Sections) (members : List Section) :
    (s.pushAll members).2.length = members.length := by
  induction members generalizing s with
  | nil => rfl
  | cons m rest ih => exact congrArg Nat.succ (ih (s.push m))

/-- **Answers of a run.**  A section is kept exactly when the start has not taken its shortcode and
no section pushed before it has the same one. -/
theorem getElem?_pushAll (s : Sections) (members : List Section) (i : Nat)
    (hi : i < members.length) :
    (s.pushAll members).2[i]? =
      some (!(s.contains members[i].shortcode ||
        (members.take i).any fun m => m.shortcode == members[i].shortcode)) := by
  induction members generalizing s i with
  | nil => exact absurd hi (by simp)
  | cons m rest ih =>
      cases i with
      | zero => simp [pushAll, keeps]
      | succ i =>
          have hrest : i < rest.length := by simpa using hi
          -- the pushed section moves from what is pushed before to what the start has taken
          have hstep := ih (s.push m) i hrest
          rw [contains_push] at hstep
          simpa [pushAll, Bool.or_assoc] using hstep

/-- **Length after a run.**  The kept sections are counted by the answers. -/
theorem length_pushAll (s : Sections) (members : List Section) :
    (s.pushAll members).1.length = s.length + (s.pushAll members).2.count true := by
  induction members generalizing s with
  | nil => rfl
  | cons m rest ih =>
      have hstep := ih (s.push m)
      rw [length_push] at hstep
      simp only [pushAll, hstep, List.count_cons]
      cases s.keeps m with
      | false => simp
      | true =>
          simp only [if_true, beq_self_eq_true]
          omega

/-- What pushing `members` one after another has reached and answered when the first section with
each shortcode is kept and every later one is refused. -/
structure FirstKept (members : List Section) (reached : Sections) (answers : List Bool) : Prop where
  answered : answers.length = members.length
  /-- A push answers that its section is kept exactly when no earlier one has the shortcode. -/
  kept_iff : ∀ (i : Nat) (hi : i < members.length),
    answers[i]? = some true ↔
      ∀ (j : Nat) (hj : j < i), members[j].shortcode ≠ members[i].shortcode
  /-- A push that answers otherwise leaves what the pushes before it have reached. -/
  unchanged : ∀ (i : Nat), answers[i]? = some false →
    (empty.pushAll (members.take (i + 1))).1 = (empty.pushAll (members.take i)).1
  nodup : reached.shortcodes.Nodup
  mem_iff : ∀ code : String, code ∈ reached.shortcodes ↔ ∃ m ∈ members, m.shortcode = code
  /-- Shortcodes stand in the order of their first pushes. -/
  ordered : reached.shortcodes.Pairwise fun a b =>
    (members.map Section.shortcode).idxOf a < (members.map Section.shortcode).idxOf b
  /-- A lookup finds the section that was pushed first with the shortcode. -/
  found_iff : ∀ (code : String) (m : Section),
    reached.get? code = some m ↔
      ∃ before after, members = before ++ m :: after ∧ m.shortcode = code ∧
        ∀ n ∈ before, n.shortcode ≠ code
  missing_iff : ∀ code : String, reached.get? code = none ↔ ∀ m ∈ members, m.shortcode ≠ code
  counted : reached.length = answers.count true
  empty_iff : reached.isEmpty = true ↔ reached.length = 0
  length_toList : reached.toList.length = reached.length
  length_shortcodes : reached.shortcodes.length = reached.length
  /-- Each section stands at the place of its own shortcode, and the shortcode finds it. -/
  agree : ∀ (i : Nat) (m : Section), reached.toList[i]? = some m →
    reached.shortcodes[i]? = some m.shortcode ∧ reached.get? m.shortcode = some m

/-- A refused push of a run leaves what was reached before it. -/
theorem pushAll_take_succ {members : List Section} {i : Nat}
    (h : (empty.pushAll members).2[i]? = some false) :
    (empty.pushAll (members.take (i + 1))).1 = (empty.pushAll (members.take i)).1 := by
  have hi : i < members.length := by
    obtain ⟨hlt, -⟩ := List.getElem?_eq_some_iff.mp h
    rwa [length_pushAll_snd] at hlt
  have hconcat : members.take (i + 1) = members.take i ++ [members[i]] :=
    List.take_succ_eq_append_getElem hi
  rw [pushAll_fst, pushAll_fst, hconcat, List.foldl_append]
  refine push_of_not_keeps ?_
  have hanswer := getElem?_pushAll empty members i hi
  rw [h] at hanswer
  have htaken : ((members.take i).any fun m => m.shortcode == members[i].shortcode) = true := by
    simpa [empty, contains, shortcodes] using hanswer.symm
  obtain ⟨n, hn, hcode⟩ := List.any_eq_true.mp htaken
  have hmem : members[i].shortcode ∈ (ofList (members.take i)).shortcodes := by
    rw [shortcodes_ofList, Text.mem_distinct, List.mem_map]
    exact ⟨n, hn, by simpa using hcode⟩
  have hcontains : (ofList (members.take i)).contains members[i].shortcode = true :=
    List.contains_iff_mem.mpr hmem
  simpa [keeps, ofList] using hcontains

/-- **The first section with a shortcode wins.**  Whatever sections are pushed one after another
onto no sections, the first one with each shortcode is kept, later ones are refused and change
nothing, and the sections, the shortcodes and the lookups of the collection tell the same. -/
theorem firstKept_pushAll (members : List Section) :
    FirstKept members (empty.pushAll members).1 (empty.pushAll members).2 := by
  have hreached : (empty.pushAll members).1 = ofList members := pushAll_fst empty members
  exact {
    answered := length_pushAll_snd empty members
    kept_iff := by
      intro i hi
      rw [getElem?_pushAll empty members i hi]
      simp only [empty, contains, shortcodes, List.map_nil, List.contains_nil, Bool.false_or,
        Option.some.injEq, Bool.not_eq_true', List.any_eq_false]
      constructor
      · intro h j hj hcode
        exact h members[j] (List.mem_take_iff_getElem.mpr ⟨j, by omega, rfl⟩) (by simpa using hcode)
      · intro h n hn hcode
        obtain ⟨j, hj, rfl⟩ := List.mem_take_iff_getElem.mp hn
        exact h j (by omega) (by simpa using hcode)
    unchanged := by
      intro i h
      exact pushAll_take_succ h
    nodup := Sections.nodup _
    mem_iff := by
      intro code
      rw [hreached, shortcodes_ofList, Text.mem_distinct, List.mem_map]
    ordered := by
      rw [hreached, shortcodes_ofList]
      exact Text.pairwise_idxOf_distinct _
    found_iff := by
      intro code m
      rw [hreached, get?_ofList, List.find?_eq_some_iff_append]
      constructor
      · intro h
        obtain ⟨hcode, before, after, rfl, hbefore⟩ := h
        refine ⟨before, after, rfl, by simpa using hcode, ?_⟩
        intro n hn
        simpa using hbefore n hn
      · intro h
        obtain ⟨before, after, rfl, hcode, hbefore⟩ := h
        refine ⟨by simpa using hcode, before, after, rfl, ?_⟩
        intro n hn
        simpa using hbefore n hn
    missing_iff := by
      intro code
      rw [hreached, get?_ofList]
      simp
    counted := by
      rw [length_pushAll]
      simp [empty, length]
    empty_iff := by simp [isEmpty, length]
    length_toList := (length_eq_length_toList _).symm
    length_shortcodes := by simp [shortcodes, length]
    agree := by
      intro i m h
      refine ⟨?_, get?_eq_some_iff.mpr ⟨List.mem_of_getElem? h, rfl⟩⟩
      rw [shortcodes_eq_map, List.getElem?_map, h]
      rfl }

end ReportGrid.Sections
