import SigilLookup.Key

/-!
# Classification of keys

The longest sigil that begins a text decides its kind, and what follows is the name. This module
says so without the order in which the sigils are tried: a key classifies a text if the text is its
sigil and its name and no longer sigil begins the text (`Key.Classifies`). Every text has exactly one
such key, the one that is parsed, and no text is lost, since a key shows its text again.

The other way round is not free of loss. A text made of a sigil and a name may begin with a longer
sigil than intended, and then no text is classified as this key (`Key.Shadowed`). The strict grammar
refuses all names that could do so.
-/

namespace SigilLookup

def Key.BeginsWithSigilChar (name : String) : Prop :=
  ∃ c ∈ name.toList.head?, c = '$' ∨ c = '#' ∨ c = '!'

theorem startsWithSigil_iff {name : String} :
    startsWithSigil name = true ↔ Key.BeginsWithSigilChar name := by
  unfold startsWithSigil Key.BeginsWithSigilChar
  cases name.toList with
  | nil => simp
  | cons c rest => simp [isSigilChar, or_assoc]

namespace Kind

theorem sigil_injective {first second : Kind} (hsigil : first.sigil = second.sigil) :
    first = second := by
  cases first <;> cases second <;> simp_all [sigil]

theorem length_sigil_le (kind : Kind) : kind.sigil.length ≤ Kind.fileConstant.sigil.length := by
  cases kind <;> decide

theorem length_sigil_eq_zero_iff {kind : Kind} : kind.sigil.length = 0 ↔ kind = .literal := by
  cases kind <;> decide

end Kind

namespace Key

theorem beginsWithSigilChar_iff {name : String} :
    BeginsWithSigilChar name ↔ ∃ kind : Kind, kind ≠ .literal ∧ kind.sigil <+: name.toList := by
  constructor
  · rintro ⟨c, hc, hsigil⟩
    obtain ⟨rest, hrest⟩ := List.head?_eq_some_iff.mp hc
    rcases hsigil with rfl | rfl | rfl
    · exact ⟨.runtime, by decide, rest, hrest.symm⟩
    · exact ⟨.computed, by decide, rest, hrest.symm⟩
    · exact ⟨.constant, by decide, rest, hrest.symm⟩
  · rintro ⟨kind, hkind, rest, hrest⟩
    unfold BeginsWithSigilChar
    rw [← hrest]
    cases kind with
    | literal => exact absurd rfl hkind
    | _ => simp [Kind.sigil]

/-! ### The longest sigil -/

/-- The text is the sigil and the name of the key, and no longer sigil begins it. -/
structure Classifies (key : Key) (text : String) : Prop where
  text_eq : text.toList = key.kind.sigil ++ key.name.toList
  longest : ∀ kind : Kind, kind.sigil <+: text.toList →
    kind.sigil.length ≤ key.kind.sigil.length

/-- Its sigil and its name make a text that begins with a longer sigil. -/
def Shadowed (key : Key) : Prop :=
  key.kind = .constant ∧ '!' ∈ key.name.toList.head? ∨
    key.kind = .literal ∧ BeginsWithSigilChar key.name

/-- Only a single exclamation mark and the empty sigil begin a longer one. -/
theorem longest_iff {key : Key} :
    (∀ kind : Kind, kind.sigil <+: key.kind.sigil ++ key.name.toList →
      kind.sigil.length ≤ key.kind.sigil.length) ↔ ¬ key.Shadowed := by
  obtain ⟨kind, name⟩ := key
  cases kind with
  | fileConstant =>
      exact iff_of_true (fun kind _ => kind.length_sigil_le) (by simp [Shadowed])
  | runtime | computed =>
      refine iff_of_true ?_ (by simp [Shadowed])
      intro kind hbegins
      cases kind <;> simp_all [Kind.sigil]
  | constant =>
      simp only [Shadowed, true_and, reduceCtorEq, false_and, or_false]
      constructor
      · intro hlongest hbang
        obtain ⟨rest, hrest⟩ := List.head?_eq_some_iff.mp hbang
        have hbegins : Kind.fileConstant.sigil <+: Kind.constant.sigil ++ name.toList :=
          ⟨rest, by rw [hrest]; rfl⟩
        exact absurd (hlongest .fileConstant hbegins) (by decide)
      · intro hbang kind hbegins
        cases kind with
        | fileConstant =>
            obtain ⟨rest, hrest⟩ := hbegins
            have hname : '!' :: rest = name.toList := (List.cons.inj hrest).2
            exact absurd (by rw [← hname]; rfl) hbang
        | _ => decide
  | literal =>
      simp only [Shadowed, true_and, reduceCtorEq, false_and, false_or, beginsWithSigilChar_iff]
      constructor
      · rintro hlongest ⟨kind, hkind, hbegins⟩
        have hshort := hlongest kind hbegins
        exact hkind (Kind.length_sigil_eq_zero_iff.mp (Nat.le_zero.mp hshort))
      · intro hplain kind hbegins
        by_cases hkind : kind = .literal
        · subst hkind
          exact Nat.le_refl _
        · exact absurd ⟨kind, hkind, hbegins⟩ hplain

theorem classifies_iff {key : Key} {text : String} :
    key.Classifies text ↔ text.toList = key.kind.sigil ++ key.name.toList ∧ ¬ key.Shadowed := by
  constructor
  · rintro ⟨htext, hlongest⟩
    rw [htext] at hlongest
    exact ⟨htext, longest_iff.mp hlongest⟩
  · rintro ⟨htext, hplain⟩
    refine ⟨htext, ?_⟩
    rw [htext]
    exact longest_iff.mpr hplain

theorem classifies_parse (text : String) : (parse text).Classifies text := by
  rw [classifies_iff]
  unfold parse ofChars
  split
  case h_1 name hchars => simp [hchars, Kind.sigil, Shadowed]
  case h_2 name hsecond hchars =>
    have hbang : '!' ∉ name.head? := by
      intro hhead
      obtain ⟨rest, hrest⟩ := List.head?_eq_some_iff.mp hhead
      exact hsecond rest hrest
    simpa [hchars, Kind.sigil, Shadowed] using hbang
  case h_3 name hchars => simp [hchars, Kind.sigil, Shadowed]
  case h_4 name hchars => simp [hchars, Kind.sigil, Shadowed]
  case h_5 _ hfile hconstant hruntime hcomputed =>
    have hplain : ¬ BeginsWithSigilChar text := by
      rintro ⟨c, hc, hsigil⟩
      obtain ⟨rest, hrest⟩ := List.head?_eq_some_iff.mp hc
      rcases hsigil with rfl | rfl | rfl
      · exact hruntime rest hrest
      · exact hcomputed rest hrest
      · exact hconstant rest hrest
    simpa [Kind.sigil, Shadowed] using hplain

/-- The sigils of two keys of one text are equally long, so they are the same. -/
theorem Classifies.unique {first second : Key} {text : String} (hfirst : first.Classifies text)
    (hsecond : second.Classifies text) : first = second := by
  obtain ⟨firstKind, firstName⟩ := first
  obtain ⟨secondKind, secondName⟩ := second
  have hlength : firstKind.sigil.length = secondKind.sigil.length :=
    Nat.le_antisymm (hsecond.longest _ ⟨_, hfirst.text_eq.symm⟩)
      (hfirst.longest _ ⟨_, hsecond.text_eq.symm⟩)
  have hboth := hfirst.text_eq.symm.trans hsecond.text_eq
  obtain ⟨hsigil, hname⟩ := List.append_inj hboth hlength
  cases Kind.sigil_injective hsigil
  cases String.toList_inj.mp hname
  rfl

theorem parse_eq_iff {text : String} {key : Key} : parse text = key ↔ key.Classifies text := by
  constructor
  · rintro rfl
    exact classifies_parse text
  · intro hclassifies
    exact (classifies_parse text).unique hclassifies

/-! ### Back to texts -/

theorem toList_display (key : Key) : key.display.toList = key.kind.sigil ++ key.name.toList := by
  rw [display, String.toList_ofList]

theorem Classifies.display_eq {key : Key} {text : String} (hclassifies : key.Classifies text) :
    key.display = text := by
  rw [display, ← hclassifies.text_eq, String.ofList_toList]

/-- If some text is classified as a key, then the text that the key shows is. -/
theorem classifies_display_iff {key : Key} : key.Classifies key.display ↔ ¬ key.Shadowed := by
  rw [classifies_iff, toList_display]
  exact and_iff_right rfl

end Key

/-! ### Grammars -/

namespace Grammar

/-- The strict grammar refuses a text if a sigil character follows its sigil. -/
def Refuses (grammar : Grammar) (text : String) : Prop :=
  grammar = .strict ∧ ∃ key : Key, key.Classifies text ∧ key.kind ≠ .literal ∧
    Key.BeginsWithSigilChar key.name

theorem refuses_iff {grammar : Grammar} {text : String} :
    grammar.Refuses text ↔ grammar = .strict ∧ (Key.parse text).isSigil ∧
      startsWithSigil (Key.parse text).name := by
  simp only [Refuses, ← Key.parse_eq_iff, exists_eq_left', Key.isSigil, bne_iff_ne, ne_eq,
    startsWithSigil_iff]

theorem parse_eq_error_iff {grammar : Grammar} {text : String} {error : MalformedKey} :
    grammar.parse text = .error error ↔ error = ⟨text⟩ ∧ grammar.Refuses text := by
  rw [refuses_iff, parse]
  split
  case isTrue hrefuses => simp [hrefuses, eq_comm]
  case isFalse haccepts => simp [haccepts]

theorem parse_eq_ok_iff {grammar : Grammar} {text : String} {key : Key} :
    grammar.parse text = .ok key ↔ key.Classifies text ∧ ¬ grammar.Refuses text := by
  rw [refuses_iff, parse, ← Key.parse_eq_iff]
  split
  case isTrue hrefuses => simp [hrefuses]
  case isFalse haccepts => simp [haccepts]

end Grammar

end SigilLookup
