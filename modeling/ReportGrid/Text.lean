/-!
# Plain text

Texts are treated as lists of characters.  This module holds the few operations that the layout
format, the payload and the page share: what counts as blank, trimming, lines, cutting at a
separator, and lower case for tags.

* `trim` removes blanks at both ends.
* `lines` ends a line at a line feed and takes one carriage return before it as part of the end.
* `splitOn` cuts at a separator from left to right; occurrences that are cut at never overlap, and
  `splitOn_ne_nil` says that there is always at least one piece.
-/

namespace ReportGrid.Text

/-- The characters with the Unicode property White_Space. -/
def isBlank (c : Char) : Bool :=
  let n := c.toNat
  (0x09 ≤ n && n ≤ 0x0D) || n == 0x20 || n == 0x85 || n == 0xA0 || n == 0x1680 ||
    (0x2000 ≤ n && n ≤ 0x200A) || n == 0x2028 || n == 0x2029 || n == 0x202F || n == 0x205F ||
    n == 0x3000

/-- The text without the blanks at its start. -/
def trimStart (s : List Char) : List Char :=
  s.dropWhile isBlank

/-- The text without the blanks at its end. -/
def trimEnd (s : List Char) : List Char :=
  (s.reverse.dropWhile isBlank).reverse

/-- The text without the blanks at its ends. -/
def trim (s : List Char) : List Char :=
  trimEnd (trimStart s)

/-- Puts a character in front of the first piece; no pieces at all count as one empty piece. -/
def consFirst (c : Char) : List (List Char) → List (List Char)
  | [] => [[c]]
  | piece :: more => (c :: piece) :: more

/-- The lines of a text.  A line feed ends a line, together with a carriage return right before
it; the end of the text ends a last line that is not empty. -/
def lines : List Char → List (List Char)
  | [] => []
  | '\n' :: rest => [] :: lines rest
  | '\r' :: '\n' :: rest => [] :: lines rest
  | c :: rest => consFirst c (lines rest)

/-- The pieces between separators, after the next `skip` characters, which belong to a separator
that has been found already. -/
def splitAfter (separator : List Char) : Nat → List Char → List (List Char)
  | _, [] => [[]]
  | skip + 1, _ :: rest => splitAfter separator skip rest
  | 0, c :: rest =>
    if separator.isPrefixOf (c :: rest) then
      [] :: splitAfter separator (separator.length - 1) rest
    else
      consFirst c (splitAfter separator 0 rest)

/-- The pieces of a text between the occurrences of a separator, found from left to right. -/
def splitOn (separator s : List Char) : List (List Char) :=
  splitAfter separator 0 s

/-- What follows a given opening, when the text starts with it. -/
def afterOpening? : List Char → List Char → Option (List Char)
  | [], s => some s
  | o :: opening, c :: rest => if o = c then afterOpening? opening rest else none
  | _ :: _, [] => none

/-- What stands before a given ending, when the text ends with it. -/
def beforeEnding? (ending s : List Char) : Option (List Char) :=
  (afterOpening? ending.reverse s.reverse).map List.reverse

/-- The text with every ASCII capital made small; all other characters stay as they are. -/
def lower (s : List Char) : List Char :=
  s.map Char.toLower

/-- The text with every occurrence of one character replaced by other text. -/
def replaceChar (c : Char) (replacement s : List Char) : List Char :=
  s.flatMap fun d => if d = c then replacement else [d]

/-- The values of a list without repeats, each where it first occurs. -/
def distinct {α : Type} [BEq α] : List α → List α
  | [] => []
  | a :: rest => a :: (distinct rest).filter fun b => !(a == b)

theorem splitAfter_ne_nil (separator : List Char) (skip : Nat) (s : List Char) :
    splitAfter separator skip s ≠ [] := by
  induction s generalizing skip with
  | nil => simp [splitAfter]
  | cons c rest ih =>
    cases skip with
    | succ skip => simpa [splitAfter] using ih skip
    | zero =>
      simp only [splitAfter]
      split
      · simp
      · cases splitAfter separator 0 rest <;> simp [consFirst]

/-- Cutting a text yields at least one piece. -/
theorem splitOn_ne_nil (separator s : List Char) : splitOn separator s ≠ [] :=
  splitAfter_ne_nil separator 0 s

theorem distinct_eq_nil_iff {α : Type} [BEq α] {values : List α} :
    distinct values = [] ↔ values = [] := by
  cases values <;> simp [distinct]

section Distinct

variable {α : Type} [BEq α] [LawfulBEq α]

@[simp] theorem mem_distinct {a : α} {values : List α} : a ∈ distinct values ↔ a ∈ values := by
  induction values with
  | nil => simp [distinct]
  | cons b rest ih =>
    by_cases h : a = b
    · simp [distinct, h]
    · simp [distinct, h, ih, Ne.symm h]

theorem contains_distinct (values : List α) (a : α) :
    (distinct values).contains a = values.contains a := by
  rw [Bool.eq_iff_iff, List.contains_iff_mem, List.contains_iff_mem, mem_distinct]

/-- One more value at the end is new, or nothing changes. -/
theorem distinct_concat (values : List α) (a : α) :
    distinct (values ++ [a]) =
      if values.contains a then distinct values else distinct values ++ [a] := by
  induction values with
  | nil => rfl
  | cons b rest ih =>
    rw [List.cons_append, distinct, ih, List.contains_cons]
    by_cases h : a = b
    · subst h
      cases rest.contains a <;> simp [distinct]
    · have hne : (a == b) = false := beq_false_of_ne h
      cases rest.contains a <;> simp [distinct, hne, Ne.symm h]

/-- Leaving out repeats and leaving out what fails a test may be done in either order. -/
theorem distinct_filter (p : α → Bool) (values : List α) :
    distinct (values.filter p) = (distinct values).filter p := by
  induction values with
  | nil => rfl
  | cons a rest ih =>
    cases hp : p a with
    | true =>
      rw [List.filter_cons_of_pos hp, distinct, distinct, List.filter_cons_of_pos hp, ih,
        List.filter_filter, List.filter_filter]
      simp only [Bool.and_comm]
    | false =>
      -- the repeats of `a` fail the test with it
      have hsame : ∀ b ∈ distinct rest, p b = (p b && !(a == b)) := by
        intro b _
        by_cases hab : a = b
        · simp [← hab, hp]
        · simp [hab]
      rw [List.filter_cons_of_neg (by simp [hp]), distinct, List.filter_cons_of_neg (by simp [hp]),
        ih, List.filter_filter]
      exact List.filter_congr hsame

/-- Values without repeats stand in the order in which they first occur. -/
theorem pairwise_idxOf_distinct (values : List α) :
    (distinct values).Pairwise fun a b => values.idxOf a < values.idxOf b := by
  induction values with
  | nil => simp [distinct]
  | cons a rest ih =>
    rw [distinct, List.pairwise_cons]
    constructor
    · intro b hb
      have hne : (a == b) = false := by simpa using (List.mem_filter.mp hb).2
      simp [List.idxOf_cons, hne]
    · refine (ih.filter _).imp_of_mem ?_
      intro b c hb hc hlt
      have hneb : (a == b) = false := by simpa using (List.mem_filter.mp hb).2
      have hnec : (a == c) = false := by simpa using (List.mem_filter.mp hc).2
      simpa [List.idxOf_cons, hneb, hnec] using hlt

theorem nodup_distinct (values : List α) : (distinct values).Nodup := by
  refine (pairwise_idxOf_distinct values).imp ?_
  intro a b hlt hab
  rw [hab] at hlt
  exact Nat.lt_irrefl _ hlt

end Distinct

end ReportGrid.Text
