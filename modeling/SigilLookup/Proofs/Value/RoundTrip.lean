import SigilLookup.Proofs.Document.Members
import SigilLookup.Proofs.Json.Text

/-!
# Values read back

A value is read back from its compact text as it was, provided that it holds no double, that its
objects list their members in ascending order of names, and that its arrays and objects nest no
deeper than the reader goes (`Json.Exact`).

The texts of an array's items and of an object's members are read by loops, so there is one lemma for
each loop, which takes for granted that a single value is read back. The induction over the value
then supplies that. Readers take bounds that the length of the text meets, since no value has an empty
text.
-/

namespace SigilLookup.Json

/-- Data without doubles, each object listing its members in ascending order of names, with arrays
and objects nested at most so deep. -/
inductive Exact : Nat → Json → Prop
  | null {depth : Nat} : Exact depth .null
  | bool {depth : Nat} (value : Bool) : Exact depth (.bool value)
  | int {depth : Nat} (value : Int)
      (fits : -0x8000000000000000 ≤ value ∧ value < 0x10000000000000000) :
      Exact depth (.num (.int value fits))
  | str {depth : Nat} (text : String) : Exact depth (.str text)
  | arr {depth : Nat} {items : List Json} (hitems : ∀ item ∈ items, Exact depth item) :
      Exact (depth + 1) (.arr items)
  | obj {depth : Nat} {members : List (String × Json)} (hascending : Members.Ascending members)
      (hmembers : ∀ member ∈ members, Exact depth member.2) : Exact (depth + 1) (.obj members)

/-! ### Blanks and first characters -/

theorem skipBlanks_cons {c : Char} (hblank : isBlank c = false) (cs : List Char) :
    skipBlanks (c :: cs) = c :: cs := by
  simp [skipBlanks, hblank]

theorem StartsNumber.not_blank {c : Char} (hstarts : StartsNumber c) : isBlank c = false := by
  by_contra hblank
  simp only [isBlank, Bool.not_eq_false, Bool.or_eq_true, beq_iff_eq] at hblank
  rcases hblank with ((rfl | rfl) | rfl) | rfl <;> exact absurd hstarts (by decide)

/-- The text of a value begins with a character that is neither a blank nor the end of an array. -/
theorem exists_compactChars_eq_cons {depth : Nat} {value : Json} (hexact : Exact depth value) :
    ∃ c tail, compactChars value = c :: tail ∧ isBlank c = false ∧ c ≠ ']' := by
  cases hexact with
  | null => exact ⟨'n', _, rfl, by decide, by decide⟩
  | bool value =>
      cases value with
      | true => exact ⟨'t', _, rfl, by decide, by decide⟩
      | false => exact ⟨'f', _, rfl, by decide, by decide⟩
  | int value fits =>
      obtain ⟨c, tail, htext, hstarts⟩ := exists_text_int_eq_cons value fits
      refine ⟨c, tail, htext, hstarts.not_blank, ?_⟩
      rintro rfl
      exact absurd hstarts (by decide)
  | str text => exact ⟨'"', _, rfl, by decide, by decide⟩
  | arr hitems => exact ⟨'[', _, rfl, by decide, by decide⟩
  | obj hascending hmembers => exact ⟨'\x7b', _, rfl, by decide, by decide⟩

theorem length_compactChars_pos {depth : Nat} {value : Json} (hexact : Exact depth value) :
    0 < (compactChars value).length := by
  obtain ⟨c, tail, htext, -, -⟩ := exists_compactChars_eq_cons hexact
  rw [htext]
  exact Nat.succ_pos _

/-! ### Bounds -/

theorem compactItems_cons_cons (first second : Json) (rest : List Json) :
    compactItems (first :: second :: rest) =
      compactChars first ++ ',' :: compactItems (second :: rest) := by
  rw [compactItems]
  exact List.cons_ne_nil _ _

theorem compactMembers_cons_cons (name : String) (value : Json) (second : String × Json)
    (rest : List (String × Json)) :
    compactMembers ((name, value) :: second :: rest) =
      quotedChars name.toList ++ ':' :: (compactChars value ++ ',' ::
        compactMembers (second :: rest)) := by
  rw [compactMembers]
  exact List.cons_ne_nil _ _

theorem length_compactChars_le_items {items : List Json} {item : Json} (hitem : item ∈ items) :
    (compactChars item).length ≤ (compactItems items).length := by
  induction items with
  | nil => cases hitem
  | cons first rest ih =>
      cases rest with
      | nil =>
          cases List.mem_singleton.mp hitem
          exact Nat.le_refl (compactChars item).length
      | cons second rest =>
          rw [compactItems_cons_cons, List.length_append, List.length_cons]
          rcases List.mem_cons.mp hitem with rfl | hrest
          · omega
          · have hlater := ih hrest
            omega

theorem length_le_compactItems {items : List Json}
    (htexts : ∀ item ∈ items, 0 < (compactChars item).length) :
    items.length ≤ (compactItems items).length := by
  induction items with
  | nil => exact Nat.zero_le _
  | cons first rest ih =>
      obtain ⟨hfirst, hrest⟩ := List.forall_mem_cons.mp htexts
      have hlater := ih hrest
      cases rest with
      | nil =>
          rw [compactItems]
          exact hfirst
      | cons second rest =>
          rw [compactItems_cons_cons]
          simp only [List.length_append, List.length_cons] at hlater ⊢
          omega

theorem length_compactChars_le_members {members : List (String × Json)} {member : String × Json}
    (hmember : member ∈ members) :
    (compactChars member.2).length ≤ (compactMembers members).length := by
  induction members with
  | nil => cases hmember
  | cons first rest ih =>
      obtain ⟨name, value⟩ := first
      cases rest with
      | nil =>
          cases List.mem_singleton.mp hmember
          simp only [compactMembers, List.length_append, List.length_cons]
          omega
      | cons second rest =>
          rw [compactMembers_cons_cons]
          simp only [List.length_append, List.length_cons]
          rcases List.mem_cons.mp hmember with rfl | hrest
          · dsimp only
            omega
          · have hlater := ih hrest
            omega

theorem length_le_compactMembers (members : List (String × Json)) :
    members.length ≤ (compactMembers members).length := by
  induction members with
  | nil => exact Nat.zero_le _
  | cons first rest ih =>
      obtain ⟨name, value⟩ := first
      cases rest with
      | nil =>
          simp only [compactMembers, List.length_append, List.length_cons, List.length_nil]
          omega
      | cons second rest =>
          rw [compactMembers_cons_cons]
          simp only [List.length_append, List.length_cons] at ih ⊢
          omega

/-! ### The loops -/

theorem endsNumber_nil : EndsNumber [] := by
  intro c hc
  cases hc

/-- What follows a value within an array or an object ends a number. -/
theorem endsNumber_cons {c : Char} (hc : c = ',' ∨ c = ']' ∨ c = '\x7d') (rest : List Char) :
    EndsNumber (c :: rest) := by
  intro first hfirst
  obtain rfl : c = first := Option.some_inj.mp hfirst
  rcases hc with rfl | rfl | rfl <;> decide

section

variable {item : List Char → Option (Json × List Char)}

/-- The items of an array are read back if each of them is. -/
theorem items_compactItems {list : List Json} (hsome : list ≠ [])
    (hitem : ∀ value ∈ list, ∀ rest, EndsNumber rest →
      item (compactChars value ++ rest) = some (value, rest))
    {bound : Nat} (hbound : list.length ≤ bound) (read : List Json) (rest : List Char) :
    items item bound read (compactItems list ++ ']' :: rest) =
      some (read.reverse ++ list, rest) := by
  induction list generalizing bound read with
  | nil => exact absurd rfl hsome
  | cons value list ih =>
      obtain ⟨hvalue, hlist⟩ := List.forall_mem_cons.mp hitem
      obtain ⟨bound, rfl⟩ : ∃ smaller, bound = smaller + 1 := ⟨bound - 1, by
        rw [List.length_cons] at hbound
        omega⟩
      -- the bracket follows the last item, a comma every other one
      cases list with
      | nil =>
          have hread := hvalue (']' :: rest) (endsNumber_cons (.inr (.inl rfl)) rest)
          rw [compactItems, items, hread]
          simp only [Option.bind_eq_bind, Option.bind_some,
            skipBlanks_cons (show isBlank ']' = false by decide), List.reverse_cons]
      | cons second list =>
          have hread := hvalue (',' :: (compactItems (second :: list) ++ ']' :: rest))
            (endsNumber_cons (.inl rfl) _)
          rw [compactItems_cons_cons, List.append_assoc, List.cons_append, items, hread]
          simp only [Option.bind_eq_bind, Option.bind_some,
            skipBlanks_cons (show isBlank ',' = false by decide)]
          rw [ih (List.cons_ne_nil _ _) hlist (Nat.le_of_succ_le_succ hbound), List.reverse_cons,
            List.append_assoc, List.singleton_append]

/-- The members of an object are read back if the value of each of them is. -/
theorem members_compactMembers {list : List (String × Json)} (hsome : list ≠ [])
    (hitem : ∀ member ∈ list, ∀ rest, EndsNumber rest →
      item (compactChars member.2 ++ rest) = some (member.2, rest))
    {bound : Nat} (hbound : list.length ≤ bound) (read : List (String × Json))
    (rest : List Char) :
    members item bound read (compactMembers list ++ '\x7d' :: rest) =
      some (read.reverse ++ list, rest) := by
  induction list generalizing bound read with
  | nil => exact absurd rfl hsome
  | cons member list ih =>
      obtain ⟨hvalue, hlist⟩ := List.forall_mem_cons.mp hitem
      obtain ⟨name, value⟩ := member
      obtain ⟨bound, rfl⟩ : ∃ smaller, bound = smaller + 1 := ⟨bound - 1, by
        rw [List.length_cons] at hbound
        omega⟩
      cases list with
      | nil =>
          have hread := hvalue ('\x7d' :: rest) (endsNumber_cons (.inr (.inr rfl)) rest)
          obtain ⟨tail, htext, hname⟩ := stringRest_quotedChars name
            (':' :: (compactChars value ++ '\x7d' :: rest))
          have hsplit : compactMembers [(name, value)] ++ '\x7d' :: rest = '"' :: tail := by
            rw [compactMembers, List.append_assoc, List.cons_append, htext]
          rw [hsplit, members]
          simp only [Option.bind_eq_bind, Option.bind_some, hname, hread, List.reverse_cons,
            skipBlanks_cons (show isBlank '"' = false by decide),
            skipBlanks_cons (show isBlank ':' = false by decide),
            skipBlanks_cons (show isBlank '\x7d' = false by decide)]
      | cons second list =>
          have hread := hvalue (',' :: (compactMembers (second :: list) ++ '\x7d' :: rest))
            (endsNumber_cons (.inl rfl) _)
          obtain ⟨tail, htext, hname⟩ := stringRest_quotedChars name
            (':' :: (compactChars value ++ ',' ::
              (compactMembers (second :: list) ++ '\x7d' :: rest)))
          have hsplit : compactMembers ((name, value) :: second :: list) ++ '\x7d' :: rest =
              '"' :: tail := by
            rw [compactMembers_cons_cons, List.append_assoc, List.cons_append, List.append_assoc,
              List.cons_append, htext]
          rw [hsplit, members]
          simp only [Option.bind_eq_bind, Option.bind_some, hname, hread,
            skipBlanks_cons (show isBlank '"' = false by decide),
            skipBlanks_cons (show isBlank ':' = false by decide),
            skipBlanks_cons (show isBlank ',' = false by decide)]
          rw [ih (List.cons_ne_nil _ _) hlist (Nat.le_of_succ_le_succ hbound), List.reverse_cons,
            List.append_assoc, List.singleton_append]

end

/-! ### Values -/

theorem value_of_startsNumber {c : Char} (hstarts : StartsNumber c) (bound depth : Nat)
    (cs : List Char) :
    value bound depth (c :: cs) =
      (number (c :: cs)).map fun (read, rest) => (.num read, rest) := by
  have hother {other : Char} {tail cs' : List Char} (hne : ¬ StartsNumber other)
      (heq : c :: tail = other :: cs') : False := by
    obtain ⟨rfl, -⟩ := List.cons.inj heq
    exact hne hstarts
  unfold value
  rw [skipBlanks_cons hstarts.not_blank]
  split
  case h_7 => cases number (c :: cs) <;> rfl
  case h_1 heq => exact (hother (by decide) heq).elim
  case h_2 heq => exact (hother (by decide) heq).elim
  case h_3 heq => exact (hother (by decide) heq).elim
  case h_4 heq => exact (hother (by decide) heq).elim
  case h_5 heq => exact (hother (by decide) heq).elim
  case h_6 heq => exact (hother (by decide) heq).elim

theorem value_of_bracket {c : Char} (hblank : isBlank c = false) (hclose : c ≠ ']')
    (bound depth : Nat) (cs : List Char) :
    value bound (depth + 1) ('[' :: c :: cs) =
      (items (value bound depth) bound [] (c :: cs)).map fun (read, rest) => (.arr read, rest) := by
  rw [value]
  simp only [skipBlanks_cons (show isBlank '[' = false by decide), skipBlanks_cons hblank]
  split
  case h_1 heq => exact absurd (List.cons.inj heq).1 hclose
  case h_2 => cases items (value bound depth) bound [] (c :: cs) <;> rfl

theorem value_of_brace (bound depth : Nat) (cs : List Char) :
    value bound (depth + 1) ('\x7b' :: '"' :: cs) =
      (members (value bound depth) bound [] ('"' :: cs)).map
        fun (read, rest) => (.obj read, rest) := by
  rw [value]
  simp only [skipBlanks_cons (show isBlank '\x7b' = false by decide),
    skipBlanks_cons (show isBlank '"' = false by decide)]
  split
  case h_1 heq => exact absurd (List.cons.inj heq).1 (by decide)
  case h_2 => cases members (value bound depth) bound [] ('"' :: cs) <;> rfl

theorem exists_compactItems_eq_cons {depth : Nat} {first : Json} (hexact : Exact depth first)
    (list : List Json) :
    ∃ c tail, compactItems (first :: list) = c :: tail ∧ isBlank c = false ∧ c ≠ ']' := by
  obtain ⟨c, tail, htext, hblank, hclose⟩ := exists_compactChars_eq_cons hexact
  cases list with
  | nil => exact ⟨c, tail, htext, hblank, hclose⟩
  | cons second list =>
      refine ⟨c, tail ++ ',' :: compactItems (second :: list), ?_, hblank, hclose⟩
      rw [compactItems_cons_cons, htext, List.cons_append]

theorem exists_compactMembers_eq_cons (first : String × Json) (list : List (String × Json)) :
    ∃ tail, compactMembers (first :: list) = '"' :: tail := by
  obtain ⟨name, value⟩ := first
  cases list with
  | nil => exact ⟨_, rfl⟩
  | cons second list =>
      rw [compactMembers_cons_cons]
      exact ⟨_, rfl⟩

/-- The step lemma for arrays: with its items, an array is read back. -/
theorem value_arr {bound depth : Nat} {list : List Json} (hexact : ∀ item ∈ list, Exact depth item)
    (hitem : ∀ item ∈ list, ∀ rest, EndsNumber rest →
      value bound depth (compactChars item ++ rest) = some (item, rest))
    (hbound : (compactItems list).length ≤ bound) (rest : List Char) :
    value bound (depth + 1) (compactChars (.arr list) ++ rest) = some (.arr list, rest) := by
  cases list with
  | nil =>
      simp only [compactChars, compactItems, List.nil_append, List.cons_append, value,
        skipBlanks_cons (show isBlank '[' = false by decide),
        skipBlanks_cons (show isBlank ']' = false by decide)]
  | cons first list =>
      have htext : compactChars (.arr (first :: list)) ++ rest =
          '[' :: (compactItems (first :: list) ++ ']' :: rest) := by
        simp [compactChars]
      have hcount : (first :: list).length ≤ bound :=
        Nat.le_trans (length_le_compactItems fun item hmem =>
          length_compactChars_pos (hexact item hmem)) hbound
      have hread := items_compactItems (List.cons_ne_nil first list) hitem hcount [] rest
      obtain ⟨c, tail, hfirst, hblank, hclose⟩ := exists_compactItems_eq_cons
        (hexact first List.mem_cons_self) list
      rw [htext]
      rw [hfirst, List.cons_append] at hread ⊢
      rw [value_of_bracket hblank hclose, hread]
      rfl

/-- The step lemma for objects: with the values of its members, an object is read back. -/
theorem value_obj {bound depth : Nat} {list : List (String × Json)}
    (hitem : ∀ member ∈ list, ∀ rest, EndsNumber rest →
      value bound depth (compactChars member.2 ++ rest) = some (member.2, rest))
    (hbound : (compactMembers list).length ≤ bound) (rest : List Char) :
    value bound (depth + 1) (compactChars (.obj list) ++ rest) = some (.obj list, rest) := by
  cases list with
  | nil =>
      simp only [compactChars, compactMembers, List.nil_append, List.cons_append, value,
        skipBlanks_cons (show isBlank '\x7b' = false by decide),
        skipBlanks_cons (show isBlank '\x7d' = false by decide)]
  | cons first list =>
      have htext : compactChars (.obj (first :: list)) ++ rest =
          '\x7b' :: (compactMembers (first :: list) ++ '\x7d' :: rest) := by
        simp [compactChars]
      have hcount : (first :: list).length ≤ bound :=
        Nat.le_trans (length_le_compactMembers _) hbound
      have hread := members_compactMembers (List.cons_ne_nil first list) hitem hcount [] rest
      obtain ⟨tail, hfirst⟩ := exists_compactMembers_eq_cons first list
      rw [htext]
      rw [hfirst, List.cons_append] at hread ⊢
      rw [value_of_brace, hread]
      rfl

/-- The induction over the value: its text is read back, and what follows is left. -/
theorem value_compactChars {depth : Nat} {payload : Json} (hexact : Exact depth payload)
    {bound : Nat} (hbound : (compactChars payload).length ≤ bound) {rest : List Char}
    (hends : EndsNumber rest) :
    value bound depth (compactChars payload ++ rest) = some (payload, rest) := by
  induction hexact generalizing rest with
  | null => simp only [compactChars, List.cons_append, List.nil_append, value,
      skipBlanks_cons (show isBlank 'n' = false by decide)]
  | bool payload =>
      cases payload with
      | true => simp only [compactChars, List.cons_append, List.nil_append, value,
          skipBlanks_cons (show isBlank 't' = false by decide)]
      | false => simp only [compactChars, List.cons_append, List.nil_append, value,
          skipBlanks_cons (show isBlank 'f' = false by decide)]
  | int payload fits =>
      obtain ⟨c, tail, htext, hstarts⟩ := exists_text_int_eq_cons payload fits
      have hread := number_text_int payload fits hends
      rw [htext, List.cons_append] at hread
      rw [compactChars, htext, List.cons_append, value_of_startsNumber hstarts, hread]
      rfl
  | str text =>
      obtain ⟨tail, htext, hread⟩ := stringRest_quotedChars text rest
      rw [compactChars, htext]
      simp only [value, skipBlanks_cons (show isBlank '"' = false by decide), hread]
      rfl
  | arr hitems ih =>
      -- the text of an item is part of that of the array, so the bound is met by it, too
      simp only [compactChars, List.length_cons, List.length_append] at hbound
      apply value_arr hitems
      · intro item hitem rest hends
        have hlength := length_compactChars_le_items hitem
        exact ih item hitem (by omega) hends
      · omega
  | obj hascending hmembers ih =>
      simp only [compactChars, List.length_cons, List.length_append] at hbound
      apply value_obj
      · intro member hmember rest hends
        have hlength := length_compactChars_le_members hmember
        exact ih member hmember (by omega) hends
      · omega

/-! ### Canonical form -/

theorem canonicalItems_of_forall {items : List Json}
    (hitems : ∀ item ∈ items, item.canonical = item) : canonicalItems items = items := by
  induction items with
  | nil => rfl
  | cons item rest ih =>
      obtain ⟨hitem, hrest⟩ := List.forall_mem_cons.mp hitems
      rw [canonicalItems, hitem, ih hrest]

theorem canonicalMembers_of_forall {members : List (String × Json)}
    (hmembers : ∀ member ∈ members, member.2.canonical = member.2) :
    canonicalMembers members = members := by
  induction members with
  | nil => rfl
  | cons member rest ih =>
      obtain ⟨hmember, hrest⟩ := List.forall_mem_cons.mp hmembers
      obtain ⟨name, value⟩ := member
      rw [canonicalMembers, hmember, ih hrest]

theorem canonical_of_exact {depth : Nat} {payload : Json} (hexact : Exact depth payload) :
    payload.canonical = payload := by
  induction hexact with
  | null | bool | int | str => rw [canonical]
  | arr hitems ih => rw [canonical, canonicalItems_of_forall ih]
  | obj hascending hmembers ih =>
      rw [canonical, canonicalMembers_of_forall ih, Members.ofList_of_ascending hascending]

/-! ### Texts -/

theorem toList_compact (payload : Json) : payload.compact.toList = compactChars payload := by
  rw [compact, String.toList_ofList]

/-- The text of a value is read as the value. -/
theorem read?_compact {payload : Json} (hexact : Exact maxDepth payload) :
    read? payload.compact = some payload := by
  have hread := value_compactChars hexact (Nat.le_refl _) endsNumber_nil
  rw [List.append_nil] at hread
  have hraw : readRaw? payload.compact = some payload := by
    simp only [readRaw?, toList_compact, hread, Option.bind_eq_bind, Option.bind_some]
    rfl
  rw [read?, hraw, Option.map_some, canonical_of_exact hexact]

end SigilLookup.Json
