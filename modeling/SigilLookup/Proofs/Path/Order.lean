import SigilLookup.Path
import SigilLookup.Proofs.Text.Splitting

/-!
# The order of paths

Paths are ordered by their components, one after another, and not by their bytes: what is in `a` comes
before what is in `a-b`, although a slash is a greater byte than a hyphen. The root comes before all
other components, then the directory that a relative path may start with, then the directory above,
then names by their bytes. Slashes in a row, slashes at the end and parts `.` further on are no
components, so paths that differ in them only are equal in this order.

The paths of what is in one directory are ordered as the names are (`Path.join_lt_join`).
-/

namespace SigilLookup

namespace Path

/-! ### Components -/

/-- One step on the way that a path describes. -/
inductive Component where
  | root
  | here
  | up
  | name (bytes : List UInt8)
deriving DecidableEq

/-- The step of a part; what is empty or names the directory itself is none. -/
def Component.ofPart? (part : List UInt8) : Option Component :=
  if part = [] ∨ part = Path.here then none
  else if part = Path.up then some .up
  else some (.name part)

/-- Bytes for each component that are ordered as the components are. -/
def Component.key : Component → List UInt8
  | .root => [0]
  | .here => [1]
  | .up => [2]
  | .name bytes => 3 :: bytes

def start? (path : Path) : Option Component :=
  if path.isAbsolute then some .root
  else if (splitOn slash path.bytes).head? = some Path.here then some .here
  else none

def components (path : Path) : List Component :=
  path.start?.toList ++ (splitOn slash path.bytes).filterMap Component.ofPart?

def orderKey (path : Path) : List (List UInt8) := path.components.map Component.key

instance : LT Path := ⟨fun first second => first.orderKey < second.orderKey⟩

instance : LE Path := ⟨fun first second => first.orderKey ≤ second.orderKey⟩

instance (first second : Path) : Decidable (first < second) :=
  inferInstanceAs (Decidable (first.orderKey < second.orderKey))

instance (first second : Path) : Decidable (first ≤ second) :=
  inferInstanceAs (Decidable (first.orderKey ≤ second.orderKey))

protected theorem le_refl (path : Path) : path ≤ path := List.le_refl path.orderKey

protected theorem le_of_lt {first second : Path} (hlt : first < second) : first ≤ second :=
  List.le_of_lt hlt

protected theorem le_trans {first second third : Path} (hfirst : first ≤ second)
    (hsecond : second ≤ third) : first ≤ third := by
  change first.orderKey ≤ third.orderKey
  exact List.le_trans hfirst hsecond

protected theorem le_total (first second : Path) : first ≤ second ∨ second ≤ first :=
  List.le_total first.orderKey second.orderKey

theorem not_le_of_lt {first second : Path} (hlt : first < second) : ¬second ≤ first :=
  fun hge => List.not_le.mpr hlt hge

example : ofString "a/x" < ofString "a-b/x" := by decide

/-! ### What is in a directory -/

/-- A name that a directory can hold. -/
structure ProperName (name : List UInt8) : Prop where
  not_empty : name ≠ []
  not_here : name ≠ here
  not_up : name ≠ up
  no_slash : slash ∉ name

instance (name : List UInt8) : Decidable (ProperName name) :=
  decidable_of_iff (name ≠ [] ∧ name ≠ here ∧ name ≠ up ∧ slash ∉ name)
    ⟨fun ⟨not_empty, not_here, not_up, no_slash⟩ => ⟨not_empty, not_here, not_up, no_slash⟩,
      fun hname => ⟨hname.not_empty, hname.not_here, hname.not_up, hname.no_slash⟩⟩

theorem ProperName.join_plain {dir : Path} (hdir : dir.bytes ≠ []) {name : List UInt8}
    (hname : ProperName name) : ¬(name.head? = some slash ∨ dir.bytes = []) := by
  rintro (hslash | hempty)
  · exact hname.no_slash (List.mem_of_head? hslash)
  · exact hdir hempty

theorem ProperName.ofPart?_eq {name : List UInt8} (hname : ProperName name) :
    Component.ofPart? name = some (.name name) := by
  rw [Component.ofPart?, if_neg (not_or.mpr ⟨hname.not_empty, hname.not_here⟩),
    if_neg hname.not_up]

/-- Splitting the path of an entry: the parts of the directory, up to an empty one at the end, and then
the name. -/
theorem splitOn_join {dir : Path} (hdir : dir.bytes ≠ []) {name : List UInt8}
    (hname : ProperName name) :
    ∃ parts, parts ≠ [] ∧ splitOn slash (dir.join name).bytes = parts ++ [name] ∧
      (splitOn slash dir.bytes = parts ∨ splitOn slash dir.bytes = parts ++ [[]]) := by
  have hsplit := splitOn_of_notMem hname.no_slash
  by_cases hlast : dir.bytes.getLast? = some slash
  · -- the slash between the two is there already
    obtain ⟨front, hfront⟩ := List.getLast?_eq_some_iff.mp hlast
    refine ⟨splitOn slash front, splitOn_ne_nil slash front, ?_, .inr ?_⟩
    · rw [join, if_neg (hname.join_plain hdir), if_pos hlast, hfront, List.append_assoc, List.singleton_append,
        splitOn_append_cons, hsplit]
    · rw [hfront, splitOn_append_cons, splitOn]
  · refine ⟨splitOn slash dir.bytes, splitOn_ne_nil slash dir.bytes, ?_, .inl rfl⟩
    rw [join, if_neg (hname.join_plain hdir), if_neg hlast, splitOn_append_cons, hsplit]

theorem isAbsolute_join {dir : Path} (hdir : dir.bytes ≠ []) {name : List UInt8}
    (hname : ProperName name) : (dir.join name).isAbsolute = dir.isAbsolute := by
  rw [join, if_neg (hname.join_plain hdir), isAbsolute, isAbsolute]
  split
  · rw [List.head?_append_of_ne_nil _ hdir]
  · rw [List.head?_append_of_ne_nil _ hdir]

/-- An entry has one component more than its directory. -/
theorem components_join {dir : Path} (hdir : dir.bytes ≠ []) {name : List UInt8}
    (hname : ProperName name) : (dir.join name).components = dir.components ++ [.name name] := by
  obtain ⟨parts, hparts, hjoin, hsplit⟩ := splitOn_join hdir hname
  have hhead : (splitOn slash (dir.join name).bytes).head? = (splitOn slash dir.bytes).head? := by
    rcases hsplit with hsplit | hsplit
    · rw [hjoin, hsplit, List.head?_append_of_ne_nil _ hparts]
    · rw [hjoin, hsplit, List.head?_append_of_ne_nil _ hparts,
        List.head?_append_of_ne_nil _ hparts]
  have hsteps : (splitOn slash dir.bytes).filterMap Component.ofPart? =
      parts.filterMap Component.ofPart? := by
    rcases hsplit with hsplit | hsplit
    · rw [hsplit]
    · rw [hsplit, List.filterMap_append]
      exact List.append_nil _
  rw [components, components, start?, start?, isAbsolute_join hdir hname, hhead, hsteps, hjoin,
    List.filterMap_append, List.filterMap_cons_some hname.ofPart?_eq, List.filterMap_nil,
    List.append_assoc]

/-- Entries of one directory are ordered as their names are. -/
theorem join_lt_join {dir : Path} (hdir : dir.bytes ≠ []) {first second : List UInt8}
    (hfirst : ProperName first) (hsecond : ProperName second) (hlt : first < second) :
    dir.join first < dir.join second := by
  have hkeys : Component.key (.name first) < Component.key (.name second) :=
    List.cons_lt_cons_iff.mpr (.inr ⟨rfl, hlt⟩)
  change (dir.join first).orderKey < (dir.join second).orderKey
  rw [orderKey, orderKey, components_join hdir hfirst, components_join hdir hsecond,
    List.map_append, List.map_append]
  exact List.append_left_lt (List.cons_lt_cons_iff.mpr (.inl hkeys))

end Path

end SigilLookup
