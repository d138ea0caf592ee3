import SigilLookup.Proofs.Path.Order

/-!
# File names and extensions

`Path.fileName?` trims the bytes of a path from their end. What it finds is the last component of
the path, if that is a name (`Path.fileName?_eq_some_iff`): parts that are no component, slashes and
parts `.`, do not count, and neither the root nor a part `..` names a file.

So a file name does not change if `/` or `/.` is put after the path, or a directory in front of it,
and an extension is what follows the last dot of the file name, of which a part must precede this
dot (`Path.extension?_eq_some_iff`).
-/

namespace SigilLookup

namespace Path

/-! ### Steps -/

/-- The components of a path, apart from what it starts with. -/
def steps (bytes : List UInt8) : List Component :=
  (splitOn slash bytes).filterMap Component.ofPart?

theorem steps_append_cons (front back : List UInt8) :
    steps (front ++ slash :: back) = steps front ++ steps back := by
  rw [steps, splitOn_append_cons, List.filterMap_append]
  rfl

@[simp] theorem steps_append_slash (bytes : List UInt8) :
    steps (bytes ++ [slash]) = steps bytes := by
  rw [steps_append_cons]
  exact List.append_nil _

@[simp] theorem steps_append_here (bytes : List UInt8) :
    steps (bytes ++ [slash, dot]) = steps bytes := by
  rw [steps_append_cons]
  exact List.append_nil _

/-- Nothing that a path can start with is a name. -/
theorem start?_ne_name (path : Path) (name : List UInt8) : path.start? ≠ some (.name name) := by
  intro hstart
  rw [start?] at hstart
  split at hstart
  · cases hstart
  · split at hstart <;> cases hstart

theorem getLast?_components_eq_iff {path : Path} {name : List UInt8} :
    path.components.getLast? = some (.name name) ↔
      (steps path.bytes).getLast? = some (.name name) := by
  have hcomponents : path.components = path.start?.toList ++ steps path.bytes := rfl
  rw [hcomponents, List.getLast?_append]
  cases hlast : (steps path.bytes).getLast? with
  | some last => simp
  | none =>
      have hstart := start?_ne_name path name
      cases hfirst : path.start? with
      | none => simp
      | some first =>
          rw [hfirst] at hstart
          simpa using hstart

/-! ### The file name -/

theorem steps_dropTrailing (backwards : List UInt8) :
    steps (dropTrailing backwards).reverse = steps backwards.reverse := by
  fun_induction dropTrailing backwards with
  | case1 => rfl
  | case2 => rfl
  | case3 => rfl
  | case4 before rest ih => rw [ih, List.reverse_cons (a := slash), steps_append_slash]
  | case5 byte before rest hslash hhere ih =>
      obtain ⟨rfl, rfl⟩ := hhere
      have hsplit : (dot :: slash :: rest).reverse = rest.reverse ++ [slash, dot] := by simp
      rw [ih, hsplit, steps_append_here, List.reverse_cons, steps_append_slash]
  | case6 => rfl

/-- What trimming leaves ends in no slash, and in a part `.` only if that is all. -/
theorem dropTrailing_ends (backwards : List UInt8) :
    (dropTrailing backwards).head? ≠ some slash ∧
      ∀ rest, dropTrailing backwards ≠ dot :: slash :: rest := by
  fun_induction dropTrailing backwards with
  | case1 => simp
  | case2 => simp
  | case3 byte hbyte => simpa using hbyte
  | case4 before rest ih => exact ih
  | case5 byte before rest hslash hhere ih => exact ih
  | case6 byte before rest hslash hhere =>
      refine ⟨by simpa using hslash, ?_⟩
      intro other heq
      cases heq
      exact hhere ⟨rfl, rfl⟩

/-- A trimmed path whose last part is no component has no component. -/
theorem steps_eq_nil_of_trimmed {backwards : List UInt8} (hslash : backwards.head? ≠ some slash)
    (hhere : ∀ rest, backwards ≠ dot :: slash :: rest)
    (hlast : backwards.takeWhile (· != slash) = [] ∨ backwards.takeWhile (· != slash) = here) :
    steps backwards.reverse = [] := by
  rcases backwards with _ | ⟨byte, rest⟩
  · rfl
  · have hbyte : byte ≠ slash := by simpa using hslash
    rw [List.takeWhile_cons_of_pos (by simpa using hbyte)] at hlast
    rcases hlast with hnil | hdot
    · cases hnil
    · obtain ⟨rfl, hrest⟩ := List.cons.inj hdot
      rcases rest with _ | ⟨before, rest⟩
      · rfl
      · -- the byte before would belong to the part or be a slash
        by_cases hbefore : before = slash
        · subst hbefore
          exact absurd rfl (hhere rest)
        · rw [List.takeWhile_cons_of_pos (by simpa using hbefore)] at hrest
          cases hrest

/-- The file name is the last component, which must be a name. -/
theorem fileName?_eq_some_iff {path : Path} {name : List UInt8} :
    path.fileName? = some name ↔ path.components.getLast? = some (.name name) := by
  rw [getLast?_components_eq_iff, ← List.reverse_reverse path.bytes, ← steps_dropTrailing]
  obtain ⟨hslash, hhere⟩ := dropTrailing_ends path.bytes.reverse
  have hname : path.splitName.2 =
      ((dropTrailing path.bytes.reverse).takeWhile (· != slash)).reverse := rfl
  rw [fileName?, hname]
  generalize dropTrailing path.bytes.reverse = backwards at hslash hhere
  obtain ⟨parts, hsplit⟩ := exists_splitOn_eq slash backwards.reverse
  rw [List.reverse_reverse] at hsplit
  by_cases hnone : (backwards.takeWhile (· != slash)).reverse = [] ∨
      (backwards.takeWhile (· != slash)).reverse = here
  · have hlast : backwards.takeWhile (· != slash) = [] ∨
        backwards.takeWhile (· != slash) = here := by
      rcases hnone with hnil | hdot
      · exact .inl (List.reverse_eq_nil_iff.mp hnil)
      · exact .inr (List.reverse_inj.mp hdot)
    rw [if_pos (or_assoc.mp (.inl hnone)), steps_eq_nil_of_trimmed hslash hhere hlast]
    simp
  · generalize (backwards.takeWhile (· != slash)).reverse = last at hsplit hnone
    rw [steps, hsplit, List.filterMap_append]
    by_cases hup : last = up
    · have hstep : Component.ofPart? last = some .up := by
        rw [Component.ofPart?, if_neg hnone, if_pos hup]
      rw [if_pos (.inr (.inr hup)), List.filterMap_cons_some hstep]
      simp
    · have hstep : Component.ofPart? last = some (.name last) := by
        rw [Component.ofPart?, if_neg hnone, if_neg hup]
      have hnamed : ¬(last = [] ∨ last = here ∨ last = up) := by
        rw [← or_assoc]
        exact not_or.mpr ⟨hnone, hup⟩
      rw [if_neg hnamed, List.filterMap_cons_some hstep]
      simp

/-! ### The extension -/

/-- The extension is what follows the last dot of the file name, which is not its first character.
-/
theorem extension?_eq_some_iff {path : Path} {extension : List UInt8} :
    path.extension? = some extension ↔
      ∃ name stem, path.components.getLast? = some (.name name) ∧
        name = stem ++ dot :: extension ∧ stem ≠ [] ∧ dot ∉ extension := by
  simp only [extension?, Option.bind_eq_some_iff, fileName?_eq_some_iff]
  refine exists_congr fun name => ?_
  constructor
  · rintro ⟨hname, hextension⟩
    rw [splitExtension] at hextension
    cases hsplit : splitLast? dot name with
    | none => simp [hsplit] at hextension
    | some halves =>
        obtain ⟨stem, rest⟩ := halves
        obtain ⟨hcut, hdot⟩ := splitLast?_eq_some_iff.mp hsplit
        by_cases hstem : stem = []
        · simp [hsplit, hstem] at hextension
        · simp only [hsplit, hstem, if_false, Option.some.injEq] at hextension
          subst hextension
          exact ⟨stem, hname, hcut, hstem, hdot⟩
  · rintro ⟨stem, hname, hcut, hstem, hdot⟩
    refine ⟨hname, ?_⟩
    rw [splitExtension, splitLast?_eq_some_iff.mpr ⟨hcut, hdot⟩]
    simp [hstem]

/-! ### Paths with one file name -/

theorem fileName?_congr {first second : Path} (hsteps : steps first.bytes = steps second.bytes) :
    first.fileName? = second.fileName? := by
  apply Option.ext
  intro name
  rw [fileName?_eq_some_iff, fileName?_eq_some_iff, getLast?_components_eq_iff,
    getLast?_components_eq_iff, hsteps]

/-- What is put in front of a path that names a file leaves the name. -/
theorem fileName?_append {path : Path} {name : List UInt8} (hname : path.fileName? = some name)
    (front : List UInt8) : fileName? ⟨front ++ slash :: path.bytes⟩ = some name := by
  rw [fileName?_eq_some_iff, getLast?_components_eq_iff] at hname ⊢
  rw [steps_append_cons, List.getLast?_append, hname]
  rfl

theorem fileName?_join {path : Path} {name : List UInt8} (hname : path.fileName? = some name)
    (dir : Path) : (dir.join path.bytes).fileName? = some name := by
  rw [join]
  split
  · exact hname
  · split
    case isTrue hlast =>
      -- the slash between the two is the last byte of the directory
      obtain ⟨front, hfront⟩ := List.getLast?_eq_some_iff.mp hlast
      rw [hfront, List.append_assoc]
      exact fileName?_append hname front
    case isFalse => exact fileName?_append hname dir.bytes

end Path

end SigilLookup
