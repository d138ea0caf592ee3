import Mathlib.Data.Finset.Card
import Mathlib.Data.Finset.Dedup
import SigilLookup.Proofs.Key.Classification
import SigilLookup.Proofs.Session.Separation
import SigilLookup.Proofs.Session.Written

/-!
# Reading the runtime table

The table holds for every key what was last set, and it counts the keys that were ever set
(`RuntimeTable.stores_set`). There is no map before the first write, but no answer tells: everything
that can be read is read off `RuntimeTable.map`.

A resolver reads the table in two ways, by the key itself and by the key after a `$`. Both agree
(`Resolver.answer_runtime_iff`), except that the strict grammar refuses the second way for a key
that begins with a sigil character.
-/

namespace SigilLookup

namespace RuntimeTable

/-! ### Writes -/

def setAll (table : RuntimeTable) (writes : List (String × Value)) : RuntimeTable :=
  writes.foldl (fun table write => (table.set write.1 write.2).1) table

theorem map_setAll (table : RuntimeTable) (writes : List (String × Value)) :
    (table.setAll writes).map = table.map.insertAll writes := table.map_foldl_set writes

theorem size_eq (table : RuntimeTable) : table.size = table.keys.length := by
  obtain ⟨entries⟩ := table
  cases entries with
  | none => rfl
  | some map => exact (List.length_map Prod.fst).symm

theorem get?_setAll_fresh (writes : List (String × Value)) (key : String) :
    (fresh.setAll writes).get? key = Entries.find? key writes.reverse := by
  rw [get?_eq, map_setAll, OrderedMap.get?_insertAll_reverse]
  exact Option.or_none

theorem keys_setAll_fresh (writes : List (String × Value)) :
    (fresh.setAll writes).keys = (Entries.names writes).eraseDups := by
  rw [keys, map_setAll, OrderedMap.names_insertAll]
  rfl

/-- The number of keys is that of the distinct keys set. -/
theorem size_setAll_fresh (writes : List (String × Value)) :
    (fresh.setAll writes).size = (Entries.names writes).toFinset.card := by
  have hkeys : (Entries.names writes).toFinset = (Entries.names writes).eraseDups.toFinset := by
    ext key
    rw [List.mem_toFinset, List.mem_toFinset, List.mem_eraseDups]
  rw [size_eq, keys_setAll_fresh, hkeys, List.toFinset_card_of_nodup (nodup_eraseDups _)]

theorem isEmpty_setAll_fresh (writes : List (String × Value)) :
    (fresh.setAll writes).isEmpty = true ↔ writes = [] := by
  rw [isEmpty, size_setAll_fresh, beq_iff_eq, Finset.card_eq_zero, List.toFinset_eq_empty_iff]
  exact List.map_eq_nil_iff

/-- What one write does to a table: it gives back the value that the key had, it changes the value
of this key only, and there is a key more exactly if the key had no value. -/
structure Stores (table : RuntimeTable) (key : String) (value : Value) (next : RuntimeTable)
    (old : Option Value) : Prop where
  old_eq : old = table.get? key
  get_self : next.get? key = some value
  get_other : ∀ other, other ≠ key → next.get? other = table.get? other
  size_eq : next.size = if old = none then table.size + 1 else table.size

theorem stores_set (table : RuntimeTable) (key : String) (value : Value) :
    table.Stores key value (table.set key value).1 (table.set key value).2 := by
  constructor
  case old_eq => rfl
  case get_self => rw [get?_eq, map_set, OrderedMap.get?_insert_self]
  case get_other =>
    intro other hother
    rw [get?_eq, get?_eq, map_set, OrderedMap.get?_insert_of_ne _ hother]
  case size_eq =>
    have hnew : (table.set key value).2 = none ↔ key ∉ table.map.names := by
      change table.get? key = none ↔ _
      rw [get?_eq]
      exact Entries.find?_eq_none_iff
    rw [size_eq, size_eq, keys, keys, map_set, OrderedMap.names_insert, eraseDups_concat,
      eraseDups_of_nodup table.map.nodup_names]
    by_cases hkey : key ∈ table.map.names
    · rw [if_pos hkey, if_neg fun hnone => hnew.mp hnone hkey]
    · rw [if_neg hkey, if_pos (hnew.mpr hkey), List.length_append, List.length_singleton]

end RuntimeTable

/-! ### The two ways to read -/

theorem Key.classifies_runtime (key : String) :
    (Key.mk .runtime key).Classifies ("$" ++ key) :=
  Key.parse_eq_iff.mp (Key.parse_runtime key)

theorem Grammar.refuses_runtime_iff {grammar : Grammar} {key : String} :
    grammar.Refuses ("$" ++ key) ↔ grammar = .strict ∧ Key.BeginsWithSigilChar key := by
  rw [Grammar.refuses_iff, Key.parse_runtime, startsWithSigil_iff]
  simp [Key.isSigil]

namespace Resolver

theorem answer_of_refused {resolver : Resolver} {asked : Calls} {text : String}
    (hrefuses : resolver.grammar.Refuses text) :
    (resolver.resolve asked text).answer = .error (.malformedKey text) := by
  have hparse : resolver.grammar.parse text = .error ⟨text⟩ :=
    Grammar.parse_eq_error_iff.mpr ⟨rfl, hrefuses⟩
  simp only [resolve, hparse]

/-- A key after a `$` that the grammar takes is read as the key itself is. -/
theorem answer_runtime {resolver : Resolver} {asked : Calls} {key : String}
    (haccepts : ¬ resolver.grammar.Refuses ("$" ++ key)) :
    (resolver.resolve asked ("$" ++ key)).answer =
      (resolver.value? key).elim (.error (.notFound key)) .ok := by
  have hparse : resolver.grammar.parse ("$" ++ key) = .ok ⟨.runtime, key⟩ :=
    Grammar.parse_eq_ok_iff.mpr ⟨Key.classifies_runtime key, haccepts⟩
  simp only [resolve, hparse, lookup, value?]
  cases resolver.runtime.get? key <;> rfl

end Resolver

/-- A fresh table has for every key the last value set, and each write stores one value and gives
back the one before. So the table counts the distinct keys set. After any run of a resolver, a key
reads as the last value written, whatever the grammar; the key after a `$` reads the same, or is not
found if the key has no value, unless the grammar is strict and the key begins with a sigil
character. -/
theorem runtime_table_read_both_ways :
    (∀ (writes : List (String × Value)) (key : String),
      (∀ value, (RuntimeTable.fresh.setAll writes).get? key = some value ↔
        ∃ before after, writes = before ++ (key, value) :: after ∧ key ∉ Entries.names after) ∧
      ((RuntimeTable.fresh.setAll writes).get? key = none ↔ key ∉ Entries.names writes)) ∧
    (∀ writes : List (String × Value),
      (RuntimeTable.fresh.setAll writes).size = (Entries.names writes).toFinset.card ∧
      ((RuntimeTable.fresh.setAll writes).isEmpty = true ↔ writes = [])) ∧
    (∀ (table : RuntimeTable) (key : String) (value : Value),
      table.Stores key value (table.set key value).1 (table.set key value).2) ∧
    ∀ (grammar : Grammar) (calls asked : Calls) (operations : List Operation) (key : String),
      let resolver := ((Session.start grammar calls).run operations).resolver
      let answer := (resolver.resolve asked ("$" ++ key)).answer
      resolver.value? key = Operation.lastWritten? key operations ∧
      (grammar = .strict ∧ Key.BeginsWithSigilChar key →
        answer = .error (.malformedKey ("$" ++ key))) ∧
      (¬(grammar = .strict ∧ Key.BeginsWithSigilChar key) →
        (∀ value, resolver.value? key = some value ↔ answer = .ok value) ∧
        (resolver.value? key = none ↔ answer = .error (.notFound key))) := by
  refine ⟨?_, ?_, RuntimeTable.stores_set, ?_⟩
  · intro writes key
    rw [RuntimeTable.get?_setAll_fresh]
    refine ⟨fun value => Entries.find?_reverse_eq_some_iff, ?_⟩
    rw [Entries.find?_eq_none_iff]
    simp [Entries.names]
  · intro writes
    exact ⟨RuntimeTable.size_setAll_fresh writes, RuntimeTable.isEmpty_setAll_fresh writes⟩
  · intro grammar calls asked operations key resolver answer
    have hgrammar : resolver.grammar = grammar := Session.grammar_run _ operations
    refine ⟨Session.value?_run_start grammar calls operations key, ?_, ?_⟩
    · intro hrefused
      rw [← hgrammar, ← Grammar.refuses_runtime_iff] at hrefused
      exact Resolver.answer_of_refused hrefused
    · intro haccepted
      rw [← hgrammar, ← Grammar.refuses_runtime_iff] at haccepted
      have hanswer : answer = (resolver.value? key).elim (.error (.notFound key)) .ok :=
        Resolver.answer_runtime haccepted
      rw [hanswer]
      cases resolver.value? key <;> simp

/-- Three writes to two keys, one of which begins with a sigil character. -/
def Operation.threeWrites : List (String × Value) :=
  [("env", .string "dev"), ("!x", .null), ("env", .string "prod")]

/-- A session in which a key was written that begins with a sigil character. -/
def Session.bangWritten (grammar : Grammar) : Session :=
  (start grammar .none).run [.setValue "!x" .null]

theorem runtime_table_read_both_ways_threeWrites :
    (RuntimeTable.fresh.setAll Operation.threeWrites).get? "env" = some (.string "prod") ∧
    (RuntimeTable.fresh.setAll Operation.threeWrites).size = 2 ∧
    ((RuntimeTable.fresh.setAll Operation.threeWrites).set "env" .null).2 =
      some (.string "prod") ∧
    (Session.bangWritten .strict).resolver.value? "!x" = some .null ∧
    ((Session.bangWritten .strict).resolver.resolve .none "$!x").answer =
      .error (.malformedKey "$!x") ∧
    ((Session.bangWritten .strict).resolver.resolve .none "$y").answer = .error (.notFound "y") ∧
    ((Session.bangWritten .lenient).resolver.resolve .none "$!x").answer = .ok .null := by
  obtain ⟨hvalues, hsizes, hstores, hruns⟩ := runtime_table_read_both_ways
  have hlast : (RuntimeTable.fresh.setAll Operation.threeWrites).get? "env" =
      some (.string "prod") := by
    rw [(hvalues _ _).1]
    exact ⟨[("env", .string "dev"), ("!x", .null)], [], rfl, by simp [Entries.names]⟩
  have hbang : Key.BeginsWithSigilChar "!x" := ⟨'!', rfl, .inr (.inr rfl)⟩
  refine ⟨hlast, ?_, ?_, ?_, ?_, ?_, ?_⟩
  · rw [(hsizes _).1]
    decide
  · rw [(hstores _ "env" .null).old_eq, hlast]
  · obtain ⟨hvalue, -⟩ := hruns .strict .none .none [.setValue "!x" .null] "!x"
    exact hvalue
  · obtain ⟨-, hrefused, -⟩ := hruns .strict .none .none [.setValue "!x" .null] "!x"
    exact hrefused ⟨rfl, hbang⟩
  · obtain ⟨hvalue, -, haccepted⟩ := hruns .strict .none .none [.setValue "!x" .null] "y"
    have hplain : ¬ Key.BeginsWithSigilChar "y" := by simp [Key.BeginsWithSigilChar]
    apply (haccepted fun hboth => hplain hboth.2).2.mp
    rw [hvalue]
    rfl
  · obtain ⟨hvalue, -, haccepted⟩ := hruns .lenient .none .none [.setValue "!x" .null] "!x"
    apply ((haccepted fun hboth => nomatch hboth.1).1 .null).mp
    rw [hvalue]
    rfl

end SigilLookup
