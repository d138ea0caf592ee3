import SigilLookup.Proofs.OrderedMap.Sameness
import SigilLookup.Proofs.Registration.Slot
import SigilLookup.Proofs.Value.Sameness

/-!
# Tables of constants

A table is a provider of constants that answers from what it holds. Equality of tables compares what
they hold, and so it is equality of their answers. Nothing that is done to tables, or with them in a
slot, tells equal ones apart, although they may list their names in different orders: every
operation on maps says what is looked up afterwards by what was looked up before.
-/

namespace SigilLookup

/-! ### Equal maps -/

namespace ConstantMap

variable {first second : ConstantMap}

theorem sameContents_iff :
    first.sameContents second = true ↔
      ∀ name, first.formOf? Value.unsignedZeros name = second.formOf? Value.unsignedZeros name :=
  OrderedMap.same_iff fun _ _ => Value.same_iff

theorem sameContents_refl (map : ConstantMap) : map.sameContents map = true := by
  rw [sameContents_iff]
  intro name
  rfl

theorem sameContents_of_perm (hperm : first.entries.Perm second.entries) :
    first.sameContents second = true := by
  rw [sameContents_iff]
  exact OrderedMap.formOf?_eq_of_perm Value.unsignedZeros hperm

theorem sameContents_insert (hsame : first.sameContents second = true) (name : String)
    (value : Value) :
    ConstantMap.sameContents (first.insert name value) (second.insert name value) = true := by
  rw [sameContents_iff] at hsame ⊢
  intro key
  rw [OrderedMap.formOf?_insert, OrderedMap.formOf?_insert, hsame]

theorem sameContents_merge (hsame : first.sameContents second = true)
    (additions : List ConstantMap) :
    ConstantMap.sameContents (first.merge additions) (second.merge additions) = true := by
  rw [sameContents_iff] at hsame ⊢
  intro name
  rw [OrderedMap.formOf?_merge, OrderedMap.formOf?_merge, hsame]

/-- Equal maps at one place of a merge come to the same. -/
theorem sameContents_merge_member (hsame : first.sameContents second = true) (base : ConstantMap)
    (before after : List ConstantMap) :
    ConstantMap.sameContents (base.merge (before ++ first :: after))
      (base.merge (before ++ second :: after)) = true := by
  have hmember : ConstantMap.sameContents ((base.merge before).merge [first])
      ((base.merge before).merge [second]) = true := by
    rw [sameContents_iff] at hsame ⊢
    intro name
    have hname := hsame name
    simp only [OrderedMap.formOf?] at hname
    simp only [OrderedMap.formOf?_merge, OrderedMap.lastValue?_cons, OrderedMap.lastValue?_nil,
      Option.none_or, hname]
  rw [OrderedMap.merge_append_cons, OrderedMap.merge_append_cons]
  exact sameContents_merge hmember after

end ConstantMap

/-! ### Tables -/

inductive TableEdit where
  | insertConstant (name : String) (value : Value)
  | insertFileConstant (name : String) (value : Value)
  | replaceConstants (constants : ConstantMap)
  | replaceFileConstants (fileConstants : ConstantMap)

def TableEdit.apply (table : ConstantsProvider) : TableEdit → ConstantsProvider
  | .insertConstant name value => (table.insertConstant name value).1
  | .insertFileConstant name value => (table.insertFileConstant name value).1
  | .replaceConstants constants => table.replaceConstants constants
  | .replaceFileConstants fileConstants => table.replaceFileConstants fileConstants

namespace ConstantsProvider

/-- The provider is a table: it began empty or with the members of an object, and was then
edited. -/
inductive IsTable : ConstantsProvider → Prop where
  | empty : IsTable {}
  | ofJson {document : Json} {table : ConstantsProvider} :
      ConstantsProvider.ofJson? document = some table → IsTable table
  | edited {table : ConstantsProvider} (edit : TableEdit) :
      IsTable table → IsTable (edit.apply table)

theorem IsTable.defaultLookups {table : ConstantsProvider} (htable : table.IsTable) :
    table.DefaultLookups := by
  induction htable with
  | empty => exact ⟨rfl, rfl⟩
  | @ofJson document table hjson =>
      rw [ofJson?, Option.map_eq_some_iff] at hjson
      obtain ⟨constants, -, rfl⟩ := hjson
      exact ⟨rfl, rfl⟩
  | @edited table edit htable ih =>
      cases edit <;> exact ⟨ih.constants, ih.fileConstants⟩

theorem IsTable.edits {table : ConstantsProvider} (htable : table.IsTable)
    (edits : List TableEdit) : (edits.foldl TableEdit.apply table).IsTable := by
  induction edits generalizing table with
  | nil => exact htable
  | cons edit rest ih => exact ih (htable.edited edit)

theorem IsTable.replaceMaps {table : ConstantsProvider} (htable : table.IsTable)
    (constants fileConstants : ConstantMap) :
    (table.replaceMaps constants fileConstants).IsTable :=
  (htable.edited (.replaceConstants constants)).edited (.replaceFileConstants fileConstants)

theorem sameContents_iff {first second : ConstantsProvider} :
    first.sameContents second = true ↔
      first.constants.sameContents second.constants = true ∧
        first.fileConstants.sameContents second.fileConstants = true := by
  rw [sameContents, Bool.and_eq_true]

end ConstantsProvider

/-! ### Equality is equality of answers -/

/-- Both answers are values, and these are equal, or both are failures. -/
def Answer.Alike : Answer → Answer → Prop
  | .ok value, .ok other => value.same other = true
  | .error _, .error _ => True
  | _, _ => False

theorem Answer.alike_ofFound_iff {failure : ProviderError} {found other : Option Value} :
    (Answer.ofFound failure found).Alike (Answer.ofFound failure other) ↔
      found.map Value.unsignedZeros = other.map Value.unsignedZeros := by
  cases found <;> cases other <;> simp [ofFound, Alike, Value.same_iff]

namespace ConstantsProvider

variable {first second : ConstantsProvider}

theorem alike_getConstant_iff (hfirst : first.DefaultLookups) (hsecond : second.DefaultLookups)
    (name : String) :
    (first.getConstant name).Alike (second.getConstant name) ↔
      first.constants.formOf? Value.unsignedZeros name =
        second.constants.formOf? Value.unsignedZeros name := by
  rw [getConstant, getConstant, askConstant_of_default hfirst.constants,
    askConstant_of_default hsecond.constants]
  exact Answer.alike_ofFound_iff

theorem alike_getFileConstant_iff (hfirst : first.DefaultLookups)
    (hsecond : second.DefaultLookups) (name : String) :
    (first.getFileConstant name).Alike (second.getFileConstant name) ↔
      first.fileConstants.formOf? Value.unsignedZeros name =
        second.fileConstants.formOf? Value.unsignedZeros name := by
  rw [getFileConstant, getFileConstant, askFileConstant_of_default hfirst.fileConstants,
    askFileConstant_of_default hsecond.fileConstants]
  exact Answer.alike_ofFound_iff

theorem sameContents_iff_alike (hfirst : first.DefaultLookups) (hsecond : second.DefaultLookups) :
    first.sameContents second = true ↔
      ∀ name, (first.getConstant name).Alike (second.getConstant name) ∧
        (first.getFileConstant name).Alike (second.getFileConstant name) := by
  simp only [alike_getConstant_iff hfirst hsecond, alike_getFileConstant_iff hfirst hsecond]
  rw [sameContents_iff, ConstantMap.sameContents_iff, ConstantMap.sameContents_iff, forall_and]

/-! ### Operations on equal tables -/

structure EqualTables (first second : ConstantsProvider) : Prop where
  left : first.IsTable
  right : second.IsTable
  same : first.sameContents second = true

theorem EqualTables.edit (hequal : EqualTables first second) (edit : TableEdit) :
    EqualTables (edit.apply first) (edit.apply second) where
  left := hequal.left.edited edit
  right := hequal.right.edited edit
  same := by
    obtain ⟨hconstants, hfileConstants⟩ := sameContents_iff.mp hequal.same
    rw [sameContents_iff]
    cases edit with
    | insertConstant name value =>
        exact ⟨ConstantMap.sameContents_insert hconstants name value, hfileConstants⟩
    | insertFileConstant name value =>
        exact ⟨hconstants, ConstantMap.sameContents_insert hfileConstants name value⟩
    | replaceConstants constants => exact ⟨ConstantMap.sameContents_refl constants, hfileConstants⟩
    | replaceFileConstants fileConstants =>
        exact ⟨hconstants, ConstantMap.sameContents_refl fileConstants⟩

theorem EqualTables.edits (hequal : EqualTables first second) (edits : List TableEdit) :
    EqualTables (edits.foldl TableEdit.apply first) (edits.foldl TableEdit.apply second) := by
  induction edits generalizing first second with
  | nil => exact hequal
  | cons edit rest ih => exact ih (hequal.edit edit)

theorem EqualTables.absorb (hequal : EqualTables first second)
    (providers : List ConstantsProvider) :
    EqualTables (first.absorb providers) (second.absorb providers) where
  left := hequal.left.replaceMaps _ _
  right := hequal.right.replaceMaps _ _
  same := by
    obtain ⟨hconstants, hfileConstants⟩ := sameContents_iff.mp hequal.same
    rw [sameContents_iff]
    exact ⟨ConstantMap.sameContents_merge hconstants _,
      ConstantMap.sameContents_merge hfileConstants _⟩

end ConstantsProvider

namespace ConstantsSlot

theorem exists_registerBatch (slot : ConstantsSlot) {providers : List ConstantsProvider}
    (hne : providers ≠ []) :
    ∃ result, slot.registerBatch providers = .ok result ∧
      result.1.constants = ((slot.map ConstantsProvider.constants).getD .empty).merge
        (providers.map ConstantsProvider.constants) ∧
      result.1.fileConstants = ((slot.map ConstantsProvider.fileConstants).getD .empty).merge
        (providers.map ConstantsProvider.fileConstants) := by
  cases slot with
  | some kept => exact ⟨_, rfl, rfl, rfl⟩
  | none =>
      have hlast := List.getLast?_eq_some_getLast hne
      simp only [registerBatch, hlast]
      exact ⟨_, rfl, rfl, rfl⟩

theorem exists_registerBatch_member {first second : ConstantsProvider}
    (hsame : first.sameContents second = true) (slot : ConstantsSlot)
    (before after : List ConstantsProvider) :
    ∃ result other, slot.registerBatch (before ++ first :: after) = .ok result ∧
      slot.registerBatch (before ++ second :: after) = .ok other ∧
      result.1.sameContents other.1 = true := by
  have hne (provider : ConstantsProvider) : before ++ provider :: after ≠ [] :=
    List.append_ne_nil_of_right_ne_nil before (List.cons_ne_nil provider after)
  obtain ⟨result, hresult, hmap, hfileMap⟩ := slot.exists_registerBatch (hne first)
  obtain ⟨other, hother, hotherMap, hotherFileMap⟩ := slot.exists_registerBatch (hne second)
  refine ⟨result, other, hresult, hother, ?_⟩
  obtain ⟨hconstants, hfileConstants⟩ := ConstantsProvider.sameContents_iff.mp hsame
  rw [ConstantsProvider.sameContents_iff, hmap, hfileMap, hotherMap, hotherFileMap]
  simp only [List.map_append, List.map_cons]
  exact ⟨ConstantMap.sameContents_merge_member hconstants _ _ _,
    ConstantMap.sameContents_merge_member hfileConstants _ _ _⟩

end ConstantsSlot

/-! ### The law -/

/-- Tables are equal exactly if they answer alike for every name, whatever the order of their
entries. Equal tables stay equal under the same edits and when the same providers are merged into
them, and merged into any slot, alone or in a batch, they leave it with equal contents. -/
theorem equal_tables_interchangeable {first second : ConstantsProvider} (hfirst : first.IsTable)
    (hsecond : second.IsTable) :
    (first.sameContents second = true ↔
      ∀ name, (first.getConstant name).Alike (second.getConstant name) ∧
        (first.getFileConstant name).Alike (second.getFileConstant name)) ∧
    (first.constants.entries.Perm second.constants.entries →
      first.fileConstants.entries.Perm second.fileConstants.entries →
        first.sameContents second = true) ∧
    (first.sameContents second = true →
      (∀ edits : List TableEdit, ConstantsProvider.EqualTables
        (edits.foldl TableEdit.apply first) (edits.foldl TableEdit.apply second)) ∧
      (∀ provider, ConstantsProvider.EqualTables (ConstantsSlot.register (some first) provider).1
        (ConstantsSlot.register (some second) provider).1) ∧
      (∀ providers, ∃ result other,
        ConstantsSlot.registerBatch (some first) providers = .ok result ∧
        ConstantsSlot.registerBatch (some second) providers = .ok other ∧
        ConstantsProvider.EqualTables result.1 other.1) ∧
      (∀ slot : ConstantsSlot,
        (slot.register first).1.sameContents (slot.register second).1 = true) ∧
      ∀ (slot : ConstantsSlot) (before after : List ConstantsProvider), ∃ result other,
        slot.registerBatch (before ++ first :: after) = .ok result ∧
        slot.registerBatch (before ++ second :: after) = .ok other ∧
        result.1.sameContents other.1 = true) := by
  refine ⟨?_, ?_, ?_⟩
  · exact ConstantsProvider.sameContents_iff_alike hfirst.defaultLookups hsecond.defaultLookups
  · intro hconstants hfileConstants
    rw [ConstantsProvider.sameContents_iff]
    exact ⟨ConstantMap.sameContents_of_perm hconstants,
      ConstantMap.sameContents_of_perm hfileConstants⟩
  · intro hsame
    have hequal : ConstantsProvider.EqualTables first second := ⟨hfirst, hsecond, hsame⟩
    refine ⟨hequal.edits, ?_, ?_, ?_, ?_⟩
    · intro provider
      exact hequal.absorb [provider]
    · intro providers
      exact ⟨_, _, rfl, rfl, hequal.absorb providers⟩
    · intro slot
      cases slot with
      | none => exact hsame
      | some kept =>
          obtain ⟨result, other, hresult, hother, hcontents⟩ :=
            ConstantsSlot.exists_registerBatch_member hsame (some kept) [] []
          cases hresult
          cases hother
          exact hcontents
    · exact ConstantsSlot.exists_registerBatch_member hsame

/-- A table with a zero, and a text after it. -/
def ConstantsProvider.zeroFirst : ConstantsProvider :=
  [TableEdit.insertConstant "zero" (.json (.num (.float (.zero false)))),
    TableEdit.insertConstant "text" (.string "x")].foldl TableEdit.apply {}

/-- A table with the same text, and a negative zero after it. -/
def ConstantsProvider.zeroLast : ConstantsProvider :=
  [TableEdit.insertConstant "text" (.string "x"),
    TableEdit.insertConstant "zero" (.json (.num (.float (.zero true))))].foldl TableEdit.apply {}

theorem equal_tables_interchangeable_zeros :
    ConstantsProvider.zeroFirst.IsTable ∧ ConstantsProvider.zeroLast.IsTable ∧
    ConstantsProvider.zeroFirst.constants.names ≠ ConstantsProvider.zeroLast.constants.names ∧
    (∀ name, (ConstantsProvider.zeroFirst.getConstant name).Alike
      (ConstantsProvider.zeroLast.getConstant name)) ∧
    ∀ slot : ConstantsSlot, (slot.register ConstantsProvider.zeroFirst).1.sameContents
      (slot.register ConstantsProvider.zeroLast).1 = true := by
  have hfirst : ConstantsProvider.zeroFirst.IsTable := ConstantsProvider.IsTable.empty.edits _
  have hlast : ConstantsProvider.zeroLast.IsTable := ConstantsProvider.IsTable.empty.edits _
  have hsame : ConstantsProvider.zeroFirst.sameContents ConstantsProvider.zeroLast = true := by
    decide
  obtain ⟨hanswers, -, hequal⟩ := equal_tables_interchangeable hfirst hlast
  refine ⟨hfirst, hlast, by decide, ?_, (hequal hsame).2.2.2.1⟩
  intro name
  exact (hanswers.mp hsame name).1

end SigilLookup
