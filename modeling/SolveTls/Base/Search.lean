import Mathlib.Data.List.Infix
import Mathlib.Data.List.TakeWhile
import Mathlib.Data.List.Flatten

/-! Searching a list for a pattern, and cutting it where the pattern occurs. -/

namespace Search

open List

variable {α : Type}
variable {pattern items part front rest before : List α} {position : Nat}
  {parts others : List (List α)} {separator item first : α} {blank : α → Bool}

/-- Whether a pattern begins at a position is decided by the items it would cover. -/
theorem isPrefix_drop_append (covered : position + pattern.length ≤ items.length) (more : List α) :
    pattern <+: (items ++ more).drop position ↔ pattern <+: items.drop position := by
  rw [drop_append_of_le_length (by omega)]
  constructor
  · intro occurs
    exact prefix_of_prefix_length_le occurs (prefix_append _ _)
      (by rw [length_drop]; omega)
  · exact fun occurs => occurs.trans (prefix_append _ _)

/-- Put separators between parts. -/
def join (separator : List α) : List (List α) → List α
  | [] => []
  | [part] => part
  | part :: rest => part ++ separator ++ join separator rest

theorem join_cons_cons (separator part next : List α) (rest : List (List α)) :
    join separator (part :: next :: rest) = part ++ separator ++ join separator (next :: rest) := rfl

/-- The separator behind the last part of a joined list. -/
theorem join_append_separator (separator : List α) (some : parts ≠ []) :
    join separator parts ++ separator = parts.flatMap (· ++ separator) := by
  induction parts with
  | nil => exact absurd rfl some
  | cons part rest ih =>
    cases rest with
    | nil => simp [join]
    | cons next rest =>
      rw [join_cons_cons, append_assoc, ih (cons_ne_nil _ _)]
      simp

/-- Joined lists are joined by the separator between them. -/
theorem join_append (separator : List α) (some : parts ≠ []) (some' : others ≠ []) :
    join separator (parts ++ others) = join separator parts ++ separator ++ join separator others := by
  induction parts with
  | nil => exact absurd rfl some
  | cons part rest ih =>
    cases rest with
    | nil =>
      obtain ⟨next, others, rfl⟩ := exists_cons_of_ne_nil some'
      rfl
    | cons next rest =>
      have later := ih (cons_ne_nil _ _)
      rw [cons_append] at later
      rw [cons_append, cons_append, join_cons_cons, join_cons_cons, later]
      simp only [append_assoc]

/-- Parts that are not empty make a joined list that is not empty. -/
theorem join_eq_nil {separator : List α} (filled : ∀ part ∈ parts, part ≠ []) :
    join separator parts = [] ↔ parts = [] := by
  constructor
  · intro empty
    rcases parts with _ | ⟨part, _ | ⟨next, rest⟩⟩
    · rfl
    · exact absurd empty (filled part (mem_cons_self ..))
    · rw [join_cons_cons, append_eq_nil_iff, append_eq_nil_iff] at empty
      exact absurd empty.1.1 (filled part (mem_cons_self ..))
  · rintro rfl
    rfl

/-- What holds of the items of the separator and of all parts holds of all joined items. -/
theorem forall_mem_join {P : α → Prop} {separator : List α} (between : ∀ item ∈ separator, P item)
    (held : ∀ part ∈ parts, ∀ item ∈ part, P item) : ∀ item ∈ join separator parts, P item := by
  induction parts with
  | nil => exact forall_mem_nil P
  | cons part rest ih =>
    obtain ⟨first, others⟩ := forall_mem_cons.mp held
    cases rest with
    | nil => exact first
    | cons next rest =>
      rw [join_cons_cons, forall_mem_append, forall_mem_append]
      exact ⟨⟨first, between⟩, ih others⟩

/-- What is joined from parts without an item, and a separator without it, is without it. -/
theorem not_mem_join {separator : List α} (between : item ∉ separator)
    (absent : ∀ part ∈ parts, item ∉ part) : item ∉ join separator parts := by
  intro among
  have other := forall_mem_join (P := (· ≠ item)) (fun _ here same => between (same ▸ here))
    (fun part listed _ here same => absent part listed (same ▸ here))
  exact other item among rfl

/-- The items of every part are among the joined ones. -/
theorem mem_join {separator : List α} (listed : part ∈ parts) (among : item ∈ part) :
    item ∈ join separator parts := by
  induction parts with
  | nil => cases listed
  | cons next rest ih =>
    cases rest with
    | nil =>
      rw [mem_singleton.mp listed] at among
      exact among
    | cons other rest =>
      rw [join_cons_cons, mem_append, mem_append]
      rcases mem_cons.mp listed with rfl | later
      · exact .inl (.inl among)
      · exact .inr (ih later)

/-- Items of a class end where the first one of another class comes. -/
theorem span_append {keep : α → Bool} (kept : front.all keep = true)
    (stops : rest.head?.any keep = false) :
    (front ++ rest).takeWhile keep = front ∧ (front ++ rest).dropWhile keep = rest := by
  rw [all_eq_true] at kept
  rw [takeWhile_append_of_pos kept, dropWhile_append_of_pos kept]
  cases rest with
  | nil => simp
  | cons item rest =>
    have other : ¬ keep item = true := by simpa using stops
    simp [other]

/-- Remove items of a class on both sides. -/
def trim (blank : α → Bool) (items : List α) : List α :=
  ((items.dropWhile blank).reverse.dropWhile blank).reverse

private theorem dropWhile_blank (blanks : front.all blank = true) (items : List α) :
    (front ++ items).dropWhile blank = items.dropWhile blank := by
  rw [all_eq_true] at blanks
  exact dropWhile_append_of_pos blanks

private theorem dropWhile_begins (begins : items.head?.any blank = false) (more : List α)
    (nonempty : items ≠ []) :
    (items ++ more).dropWhile blank = items ++ more := by
  cases items with
  | nil => exact absurd rfl nonempty
  | cons item rest =>
    have kept : blank item = false := begins
    rw [cons_append, dropWhile_cons_of_neg (by simp [kept])]

/-- Blanks around items that neither begin nor end with one are removed, and nothing else is. -/
theorem trim_append {back : List α} (before : front.all blank = true)
    (after : back.all blank = true) (begins : items.head?.any blank = false)
    (ends : items.getLast?.any blank = false) :
    trim blank (front ++ items ++ back) = items := by
  have after' : back.reverse.all blank = true := by rw [all_reverse]; exact after
  rw [trim, append_assoc, dropWhile_blank before]
  by_cases empty : items = []
  · -- Nothing but blanks is left.
    subst empty
    have gone := dropWhile_blank after []
    rw [append_nil, dropWhile_nil] at gone
    rw [nil_append, gone]
    rfl
  · have ends' : items.reverse.head?.any blank = false := by rw [List.head?_reverse]; exact ends
    have last := dropWhile_begins ends' [] (by simpa using empty)
    rw [append_nil] at last
    rw [dropWhile_begins begins back empty, reverse_append, dropWhile_blank after', last,
      reverse_reverse]

private theorem head?_dropWhile (items : List α) :
    (items.dropWhile blank).head?.any blank = false := by
  induction items with
  | nil => rfl
  | cons item rest ih =>
    by_cases kept : blank item = true
    · rw [dropWhile_cons_of_pos kept]
      exact ih
    · rw [dropWhile_cons_of_neg kept]
      simpa using kept

/-- What is removed on both sides are blanks, and none is left at the ends. -/
theorem trim_spec (blank : α → Bool) (items : List α) :
    ∃ front back, items = front ++ trim blank items ++ back ∧ front.all blank = true ∧
      back.all blank = true ∧ (trim blank items).head?.any blank = false ∧
      (trim blank items).getLast?.any blank = false := by
  let middle := items.dropWhile blank
  have cutFront : items = items.takeWhile blank ++ middle :=
    takeWhile_append_dropWhile.symm
  have cutBack : middle = trim blank items ++ (middle.reverse.takeWhile blank).reverse := by
    have parts := (takeWhile_append_dropWhile (p := blank) (l := middle.reverse)).symm
    have reversed := congrArg List.reverse parts
    rw [reverse_reverse, reverse_append] at reversed
    exact reversed
  refine ⟨items.takeWhile blank, (middle.reverse.takeWhile blank).reverse, ?_, ?_, ?_, ?_, ?_⟩
  · rw [append_assoc, ← cutBack]
    exact cutFront
  · exact all_takeWhile
  · rw [all_reverse]
    exact all_takeWhile
  · -- The front of what is left is the front of what the first pass left.
    by_cases empty : trim blank items = []
    · rw [empty]
      rfl
    · have begins : middle.head?.any blank = false := head?_dropWhile items
      rw [cutBack,
        List.head?_append_of_ne_nil _ empty] at begins
      exact begins
  · rw [trim, List.getLast?_reverse]
    exact head?_dropWhile _

/-! ### The first occurrence -/

variable [DecidableEq α]

/-- The first position at which a pattern begins. -/
def find? (pattern : List α) : List α → Option Nat
  | [] => if pattern = [] then some 0 else none
  | item :: rest =>
    if pattern <+: item :: rest then some 0 else (find? pattern rest).map (· + 1)

/-- The items before a separator, and those behind it if it occurs. -/
def cut (separator : α) (items : List α) : List α × Option (List α) :=
  match items.dropWhile (· ≠ separator) with
  | [] => (items, none)
  | _ :: rest => (items.takeWhile (· ≠ separator), some rest)

theorem cut_cons (separator item : α) (rest : List α) :
    cut separator (item :: rest) =
      if item = separator then ([], some rest)
      else (item :: (cut separator rest).1, (cut separator rest).2) := by
  by_cases here : item = separator
  · simp [cut, here]
  · simp only [cut, dropWhile_cons, ne_eq, here, not_false_eq_true, decide_true, if_true,
      if_false]
    cases rest.dropWhile (· ≠ separator) with
    | nil => rfl
    | cons found behind => simp [here]

/-- A separator is found behind items that differ from it. -/
theorem cut_eq_some {after : List α} :
    cut separator items = (before, some after) ↔
      items = before ++ separator :: after ∧ separator ∉ before := by
  -- The induction is on the items; the first one is the separator or goes to the front.
  induction items generalizing before with
  | nil => simp [cut]
  | cons item rest ih =>
    rw [cut_cons]
    by_cases here : item = separator
    · subst here
      rw [if_pos rfl]
      cases before with
      | nil => simp [eq_comm]
      | cons first others =>
        refine ⟨fun same => by simp at same, fun both => ?_⟩
        exact absurd (List.cons.inj both.1).1 fun same => both.2 (same ▸ mem_cons_self ..)
    · rw [if_neg here]
      cases before with
      | nil => simp [here]
      | cons first others =>
        simp only [Prod.mk.injEq, List.cons.injEq, cons_append, mem_cons, not_or]
        have split := @ih others
        rw [Prod.ext_iff] at split
        constructor
        · rintro ⟨⟨rfl, front⟩, back⟩
          obtain ⟨rfl, absent⟩ := split.mp ⟨front, back⟩
          exact ⟨⟨rfl, rfl⟩, Ne.symm here, absent⟩
        · rintro ⟨⟨rfl, rest⟩, -, absent⟩
          obtain ⟨front, back⟩ := split.mpr ⟨rest, absent⟩
          exact ⟨⟨rfl, front⟩, back⟩

theorem cut_eq_none :
    cut separator items = (before, none) ↔ before = items ∧ separator ∉ items := by
  induction items generalizing before with
  | nil => simp [cut, eq_comm]
  | cons item rest ih =>
    rw [cut_cons]
    by_cases here : item = separator
    · simp [here]
    · rw [if_neg here]
      have split := @ih rest
      rw [Prod.ext_iff] at split
      -- Without a separator in the rest, nothing is cut off it.
      constructor
      · intro same
        obtain ⟨front, back⟩ := Prod.mk.inj same
        have whole := (@ih (cut separator rest).1).mp (Prod.ext rfl back)
        refine ⟨by rw [← front, whole.1], ?_⟩
        rw [mem_cons, not_or]
        exact ⟨Ne.symm here, whole.2⟩
      · rintro ⟨rfl, absent⟩
        rw [mem_cons, not_or] at absent
        obtain ⟨front, back⟩ := split.mpr ⟨rfl, absent.2⟩
        rw [front, back]

/-- The first position from some start on at which a pattern begins. -/
def findFrom? (pattern : List α) (items : List α) (start : Nat) : Option Nat :=
  (find? pattern (items.drop start)).map (· + start)

/-- A pattern is found at the first position where it begins. -/
theorem find?_eq_some :
    find? pattern items = some position ↔ position ≤ items.length ∧
      pattern <+: items.drop position ∧ ∀ earlier < position, ¬ pattern <+: items.drop earlier := by
  -- The induction is on the list, whose head is position zero.
  induction items generalizing position with
  | nil =>
    rw [find?]
    by_cases empty : pattern = []
    · subst empty
      rw [if_pos rfl, Option.some.injEq]
      exact ⟨by rintro rfl; exact ⟨le_rfl, nil_prefix, by intros; contradiction⟩,
        fun holds => (Nat.le_zero.mp holds.1).symm⟩
    · simp [empty]
  | cons item rest ih =>
    rw [find?]
    by_cases here : pattern <+: item :: rest
    · rw [if_pos here, Option.some.injEq]
      constructor
      · rintro rfl
        exact ⟨Nat.zero_le _, here, by intros; contradiction⟩
      · rintro ⟨-, -, first⟩
        by_contra later
        exact first 0 (Nat.pos_of_ne_zero (Ne.symm later)) here
    · rw [if_neg here, Option.map_eq_some_iff]
      constructor
      · rintro ⟨position, found, rfl⟩
        obtain ⟨within, occurs, first⟩ := ih.mp found
        refine ⟨Nat.succ_le_succ within, occurs, fun earlier before => ?_⟩
        -- The head itself is no occurrence, and the rest is covered by the hypothesis.
        cases earlier with
        | zero => exact here
        | succ earlier => exact first earlier (Nat.lt_of_succ_lt_succ before)
      · rintro ⟨within, occurs, first⟩
        cases position with
        | zero => exact absurd occurs here
        | succ position =>
          refine ⟨position, ih.mpr ⟨Nat.le_of_succ_le_succ within, occurs, ?_⟩, rfl⟩
          exact fun earlier before => first (earlier + 1) (Nat.succ_lt_succ before)

/-- A pattern that is not found begins nowhere. -/
theorem find?_eq_none :
    find? pattern items = none ↔ ∀ position ≤ items.length, ¬ pattern <+: items.drop position := by
  induction items with
  | nil => by_cases empty : pattern = [] <;> simp [find?, empty]
  | cons item rest ih =>
    rw [find?]
    by_cases here : pattern <+: item :: rest
    · rw [if_pos here]
      exact ⟨(by intros; contradiction), fun nowhere => absurd here (nowhere 0 (Nat.zero_le _))⟩
    · rw [if_neg here, Option.map_eq_none_iff, ih]
      constructor
      · intro nowhere position within
        cases position with
        | zero => exact here
        | succ position => exact nowhere position (Nat.le_of_succ_le_succ within)
      · exact fun nowhere position within => nowhere (position + 1) (Nat.succ_le_succ within)

/-- An occurrence ends within the list. -/
theorem find?_within (found : find? pattern items = some position) :
    position + pattern.length ≤ items.length := by
  obtain ⟨within, occurs, -⟩ := find?_eq_some.mp found
  have short := occurs.length_le
  rw [length_drop] at short
  omega

/-- What follows the first occurrence does not matter. -/
theorem find?_append (found : find? pattern items = some position) (more : List α) :
    find? pattern (items ++ more) = some position := by
  have within := find?_within found
  obtain ⟨bounded, occurs, first⟩ := find?_eq_some.mp found
  refine find?_eq_some.mpr ⟨by rw [length_append]; omega,
    (isPrefix_drop_append within more).mpr occurs, fun earlier before => ?_⟩
  rw [isPrefix_drop_append (by omega)]
  exact first earlier before

/-- A first occurrence that ends within the front part is found there. -/
theorem find?_of_append {more : List α} (found : find? pattern (items ++ more) = some position)
    (within : position + pattern.length ≤ items.length) : find? pattern items = some position := by
  obtain ⟨-, occurs, first⟩ := find?_eq_some.mp found
  refine find?_eq_some.mpr ⟨by omega, (isPrefix_drop_append within more).mp occurs, ?_⟩
  intro earlier before
  rw [← isPrefix_drop_append (by omega) more]
  exact first earlier before

/-- Items in front that begin no occurrence only shift the first one. -/
theorem find?_skip (passed : ∀ earlier < front.length, ¬ pattern <+: (front ++ items).drop earlier)
    (found : find? pattern items = some position) :
    find? pattern (front ++ items) = some (front.length + position) := by
  obtain ⟨within, occurs, first⟩ := find?_eq_some.mp found
  refine find?_eq_some.mpr ⟨by rw [length_append]; omega, ?_, fun earlier before => ?_⟩
  · rw [drop_length_add_append]
    exact occurs
  · -- Either the position is in front, or it is one of the items behind.
    by_cases near : earlier < front.length
    · exact passed earlier near
    · obtain ⟨offset, rfl⟩ := Nat.exists_eq_add_of_le (Nat.le_of_not_lt near)
      rw [drop_length_add_append]
      exact first offset (by omega)

/-- The list up to the end of the first occurrence is found to end with it. -/
theorem find?_take (found : find? pattern items = some position) :
    find? pattern (items.take (position + pattern.length)) = some position := by
  have within := find?_within found
  rw [← take_append_drop (position + pattern.length) items] at found
  exact find?_of_append found (by rw [length_take]; omega)

/-! ### Cutting at every occurrence -/

/--
Cut a list at every occurrence of a pattern, from left to right.

Every cut shortens the list, so its length bounds the number of cuts.
-/
def splitAux (pattern : List α) : Nat → List α → List (List α)
  | 0, items => [items]
  | cuts + 1, items =>
    match find? pattern items with
    | none => [items]
    | some position =>
      items.take position :: splitAux pattern cuts (items.drop (position + pattern.length))

def split (pattern items : List α) : List (List α) := splitAux pattern items.length items

theorem splitAux_ne_nil (pattern : List α) (cuts : Nat) (items : List α) :
    splitAux pattern cuts items ≠ [] := by
  cases cuts with
  | zero => simp [splitAux]
  | succ cuts =>
    rw [splitAux]
    split <;> simp

/-- The parts joined again are the whole. -/
theorem join_splitAux (pattern : List α) (cuts : Nat) (items : List α) :
    join pattern (splitAux pattern cuts items) = items := by
  -- The induction is on the cuts; one cut takes a part and the pattern off the front.
  induction cuts generalizing items with
  | zero => rfl
  | succ cuts ih =>
    rw [splitAux]
    split
    · rfl
    · rename_i position found
      have rest := ih (items.drop (position + pattern.length))
      obtain ⟨next, others, shape⟩ := exists_cons_of_ne_nil
        (splitAux_ne_nil pattern cuts (items.drop (position + pattern.length)))
      rw [shape] at rest ⊢
      rw [join_cons_cons, rest]
      obtain ⟨-, ⟨more, occurs⟩, -⟩ := find?_eq_some.mp found
      rw [← drop_drop, ← occurs, drop_left, append_assoc, occurs,
        take_append_drop]

/-- Joining the parts gives the list back. -/
theorem join_split (pattern items : List α) : join pattern (split pattern items) = items :=
  join_splitAux pattern items.length items

/-- Parts that do not begin a pattern anywhere, also not one that the separator completes. -/
def Separated (pattern : List α) (part : List α) : Prop :=
  find? pattern (part ++ pattern) = some part.length

/-- Separated parts are found again. -/
theorem splitAux_join (nonempty : pattern ≠ []) (some : parts ≠ [])
    (separated : ∀ part ∈ parts, Separated pattern part)
    (whole : ∀ part ∈ parts, find? pattern part = none) {cuts : Nat}
    (enough : (join pattern parts).length ≤ cuts) :
    splitAux pattern cuts (join pattern parts) = parts := by
  have width : 0 < pattern.length := length_pos_iff.mpr nonempty
  -- The induction is on the parts, and each of them uses up one cut.
  induction parts generalizing cuts with
  | nil => exact absurd rfl some
  | cons part rest ih =>
    have last : find? pattern part = none := whole part (mem_cons_self ..)
    cases rest with
    | nil =>
      rw [join]
      cases cuts with
      | zero => rfl
      | succ cuts => rw [splitAux, last]
    | cons next rest =>
      rw [join_cons_cons] at enough ⊢
      have found : find? pattern (part ++ pattern ++ join pattern (next :: rest)) =
          .some part.length := find?_append (separated part (mem_cons_self ..)) _
      cases cuts with
      | zero =>
        simp only [length_append] at enough
        omega
      | succ cuts =>
        simp only [length_append] at enough
        rw [splitAux, found]
        simp only
        rw [← length_append, drop_left, append_assoc, take_left]
        congr 1
        exact ih (cons_ne_nil _ _)
          (fun part among => separated part (mem_cons_of_mem _ among))
          (fun part among => whole part (mem_cons_of_mem _ among)) (by omega)

/-- Joined parts that hold no occurrence are found again. -/
theorem split_join (nonempty : pattern ≠ []) (some : parts ≠ [])
    (separated : ∀ part ∈ parts, Separated pattern part)
    (whole : ∀ part ∈ parts, find? pattern part = none) :
    split pattern (join pattern parts) = parts :=
  splitAux_join nonempty some separated whole le_rfl

/-- A part without the first item of the pattern is separated by it. -/
theorem separated_of_not_mem (absent : first ∉ part) :
    Separated (first :: rest) part := by
  refine find?_eq_some.mpr ⟨by simp, by rw [drop_left], fun earlier before => ?_⟩
  rw [drop_append_of_le_length before.le]
  rintro ⟨more, occurs⟩
  -- The pattern would have to begin with an item of the part.
  rw [drop_eq_getElem_cons before, cons_append, cons_append] at occurs
  exact absent ((List.cons.inj occurs).1 ▸ getElem_mem before)

theorem find?_eq_none_of_not_mem (absent : first ∉ part) :
    find? (first :: rest) part = none := by
  refine find?_eq_none.mpr fun position within occurs => absent ?_
  exact mem_of_mem_drop (occurs.subset (mem_cons_self ..))

/-- Parts without the first item of the separator are found again. -/
theorem split_join_of_not_mem (some : parts ≠ []) (absent : ∀ part ∈ parts, first ∉ part) :
    split (first :: rest) (join (first :: rest) parts) = parts :=
  split_join (cons_ne_nil _ _) some
    (fun part listed => separated_of_not_mem (absent part listed))
    fun part listed => find?_eq_none_of_not_mem (absent part listed)

/-- Behind parts that are not empty, two separators in a row stand at the end alone. -/
theorem find?_join (alone : first ∉ rest) (some : parts ≠ []) (filled : ∀ part ∈ parts, part ≠ [])
    (absent : ∀ part ∈ parts, first ∉ part) :
    find? (first :: rest ++ first :: rest)
      (join (first :: rest) parts ++ (first :: rest ++ first :: rest)) =
        .some (join (first :: rest) parts).length := by
  -- The induction is on the parts; the separator behind one of them is followed by the next.
  induction parts with
  | nil => exact absurd rfl some
  | cons part others ih =>
    obtain ⟨free, later⟩ := forall_mem_cons.mp absent
    cases others with
    | nil => exact separated_of_not_mem free
    | cons next others =>
      have found := ih (cons_ne_nil _ _) (forall_mem_cons.mp filled).2 later
      -- What follows begins with the first item of the next part, which begins no separator.
      obtain ⟨item, tail, rfl⟩ := exists_cons_of_ne_nil (filled next (by simp))
      obtain ⟨more, begins⟩ : ∃ more, join (first :: rest) ((item :: tail) :: others) ++
          (first :: rest ++ first :: rest) = item :: more := by
        cases others <;> exact ⟨_, rfl⟩
      rw [join_cons_cons, append_assoc, length_append]
      refine find?_skip (fun earlier before => ?_) found
      rw [begins, append_assoc]
      rintro ⟨_, occurs⟩
      by_cases inside : earlier < part.length
      · rw [drop_append_of_le_length inside.le, drop_eq_getElem_cons inside] at occurs
        exact free ((List.cons.inj occurs).1 ▸ getElem_mem inside)
      obtain ⟨offset, rfl⟩ := Nat.exists_eq_add_of_le (Nat.le_of_not_lt inside)
      rw [drop_length_add_append] at occurs
      cases offset with
      | zero =>
        rw [drop_zero, append_assoc] at occurs
        have same := (List.cons.inj (append_cancel_left occurs)).1
        exact later _ (mem_cons_self ..) (same ▸ mem_cons_self ..)
      | succ offset =>
        rw [length_append, length_cons] at before
        have within : offset < rest.length := by omega
        change _ = (rest ++ item :: more).drop offset at occurs
        rw [drop_append_of_le_length within.le, drop_eq_getElem_cons within] at occurs
        exact alone ((List.cons.inj occurs).1 ▸ getElem_mem within)

/-- A joined list has only one way to be cut into parts without the separator. -/
theorem join_inj (some : parts ≠ []) (some' : others ≠ [])
    (absent : ∀ part ∈ parts, separator ∉ part) (absent' : ∀ part ∈ others, separator ∉ part) :
    join [separator] parts = join [separator] others ↔ parts = others := by
  constructor
  · intro same
    rw [← split_join_of_not_mem some absent, same, split_join_of_not_mem some' absent']
  · rintro rfl
    rfl

/-- Parts that are not empty can be told from the joined list, also when there are none. -/
theorem join_inj_of_filled (absent : ∀ part ∈ parts ++ others, part ≠ [] ∧ separator ∉ part) :
    join [separator] parts = join [separator] others ↔ parts = others := by
  have filled : ∀ part ∈ parts, part ≠ [] := by
    intro part member
    exact (absent part (mem_append_left _ member)).1
  have filled' : ∀ part ∈ others, part ≠ [] := by
    intro part member
    exact (absent part (mem_append_right _ member)).1
  by_cases none : parts = []
  · rw [none, eq_comm, show join [separator] [] = [] from rfl, join_eq_nil filled', eq_comm]
  by_cases none' : others = []
  · rw [none', show join [separator] [] = [] from rfl, join_eq_nil filled]
  apply join_inj none none'
  · intro part member
    exact (absent part (mem_append_left _ member)).2
  · intro part member
    exact (absent part (mem_append_right _ member)).2

end Search
