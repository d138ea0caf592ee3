import Mathlib.Data.List.Basic
import Mathlib.Data.List.TakeWhile
import SigilLookup.Text.Split

/-!
# Where a list is split

The parts of a list are known by what they do not have: what precedes the first separator has none
(`splitFirst?_eq_some_iff`), nor has what follows the last one (`splitLast?_eq_some_iff`), and a list
without a separator is a single part (`splitOn_of_notMem`). With a separator between them, two lists
have the parts of both (`splitOn_append_cons`).
-/

namespace SigilLookup

variable {α : Type} [DecidableEq α] {separator : α}

theorem splitOn_ne_nil (separator : α) (list : List α) : splitOn separator list ≠ [] := by
  cases list with
  | nil => simp [splitOn]
  | cons x rest =>
      rw [splitOn]
      split
      · simp
      · split <;> simp

theorem splitOn_of_notMem {list : List α} (hnot : separator ∉ list) :
    splitOn separator list = [list] := by
  induction list with
  | nil => rfl
  | cons x rest ih =>
      simp only [List.mem_cons, not_or] at hnot
      rw [splitOn, if_neg (Ne.symm hnot.1), ih hnot.2]

theorem splitOn_append_cons (separator : α) (front back : List α) :
    splitOn separator (front ++ separator :: back) =
      splitOn separator front ++ splitOn separator back := by
  induction front with
  | nil => simp [splitOn]
  | cons x rest ih =>
      rw [List.cons_append, splitOn, splitOn, ih]
      split
      · rfl
      · cases hparts : splitOn separator rest with
        | nil => exact absurd hparts (splitOn_ne_nil separator rest)
        | cons part parts => rfl

/-- A list is cut at its first separator, or has none. -/
theorem span_cases (separator : α) (list : List α) :
    (separator ∉ list ∧ list.dropWhile (· != separator) = [] ∧
      list.takeWhile (· != separator) = list) ∨
    ∃ rest, separator ∉ list.takeWhile (· != separator) ∧
      list.dropWhile (· != separator) = separator :: rest ∧
      list = list.takeWhile (· != separator) ++ separator :: rest := by
  have hspan : list.takeWhile (· != separator) ++ list.dropWhile (· != separator) = list :=
    List.takeWhile_append_dropWhile
  have hfront : separator ∉ list.takeWhile (· != separator) := by
    intro hmem
    simpa using List.mem_takeWhile_imp hmem
  cases hrest : list.dropWhile (· != separator) with
  | nil =>
      rw [hrest, List.append_nil] at hspan
      rw [hspan] at hfront
      exact .inl ⟨hfront, rfl, hspan⟩
  | cons x rest =>
      have hx : x = separator := by
        have hstop := List.head?_dropWhile_not (· != separator) list
        rw [hrest] at hstop
        simpa using hstop
      subst hx
      rw [hrest] at hspan
      exact .inr ⟨rest, hfront, rfl, hspan.symm⟩

theorem splitFirst?_eq_some_iff {list before after : List α} :
    splitFirst? separator list = some (before, after) ↔
      list = before ++ separator :: after ∧ separator ∉ before := by
  constructor
  · intro hsplit
    rcases span_cases separator list with
      ⟨-, hrest, -⟩ | ⟨rest, hfront, hrest, hlist⟩
    · simp [splitFirst?, hrest] at hsplit
    · simp only [splitFirst?, hrest, Option.some.injEq, Prod.mk.injEq] at hsplit
      obtain ⟨rfl, rfl⟩ := hsplit
      exact ⟨hlist, hfront⟩
  · rintro ⟨rfl, hbefore⟩
    have hinside : ∀ x ∈ before, (x != separator) = true := by
      intro x hx
      simpa using ne_of_mem_of_not_mem hx hbefore
    rw [splitFirst?, List.dropWhile_append_of_pos hinside, List.takeWhile_append_of_pos hinside]
    simp

theorem splitFirst?_eq_none_iff {list : List α} :
    splitFirst? separator list = none ↔ separator ∉ list := by
  rcases span_cases separator list with ⟨hnot, hrest, -⟩ | ⟨rest, -, hrest, hlist⟩
  · simp [splitFirst?, hrest, hnot]
  · have hmem : separator ∈ list := by
      rw [hlist]
      simp
    simp [splitFirst?, hrest, hmem]

theorem splitLast?_eq_some_iff {list before after : List α} :
    splitLast? separator list = some (before, after) ↔
      list = before ++ separator :: after ∧ separator ∉ after := by
  simp only [splitLast?, Option.map_eq_some_iff, Prod.exists, Prod.mk.injEq,
    splitFirst?_eq_some_iff]
  constructor
  · rintro ⟨back, front, ⟨hreverse, hback⟩, rfl, rfl⟩
    refine ⟨?_, by simpa using hback⟩
    rw [← List.reverse_reverse list, hreverse]
    simp
  · rintro ⟨rfl, hafter⟩
    exact ⟨after.reverse, before.reverse, ⟨by simp, by simpa using hafter⟩, by simp, by simp⟩

theorem exists_splitOn_eq (separator : α) (list : List α) :
    ∃ parts, splitOn separator list =
      parts ++ [(list.reverse.takeWhile (· != separator)).reverse] := by
  rcases span_cases separator list.reverse with
    ⟨hnot, -, hall⟩ | ⟨rest, hlast, -, hlist⟩
  · refine ⟨[], ?_⟩
    rw [hall, splitOn_of_notMem (by simpa using hnot), List.reverse_reverse, List.nil_append]
  · refine ⟨splitOn separator rest.reverse, ?_⟩
    have hfront : list = rest.reverse ++
        separator :: (list.reverse.takeWhile (· != separator)).reverse := by
      have hreverse := congrArg List.reverse hlist
      simpa using hreverse
    rw [← List.mem_reverse] at hlast
    generalize (list.reverse.takeWhile (· != separator)).reverse = last at hfront hlast
    rw [hfront, splitOn_append_cons, splitOn_of_notMem hlast]

end SigilLookup
