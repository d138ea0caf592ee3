import SigilLookup.Proofs.Key.Classification
import SigilLookup.Resolver.Basic

/-!
# The strict grammar

The grammars classify first and the strict one then looks at the name, whereas its language is easily
said from the left: a key may begin with one of the sigils, and then no sigil character follows
(`Grammar.StrictKey`). Both come to the same, since a name without a sigil character at its front
leaves only one way to split a text (`Grammar.parse_strict_eq_ok_iff`). So on its language the strict
grammar is as good as the lenient one, for a resolver too: it refuses a key, or the resolution is the
same.
-/

namespace SigilLookup

namespace Key

/-- No sigil runs on into a name that begins with no sigil character. -/
theorem not_shadowed_of_plain {key : Key} (hplain : ¬ BeginsWithSigilChar key.name) :
    ¬ key.Shadowed := by
  rintro (⟨-, hbang⟩ | ⟨-, hbegins⟩)
  · exact hplain ⟨'!', hbang, .inr (.inr rfl)⟩
  · exact hplain hbegins

theorem display_eq_iff {key : Key} {text : String} :
    key.display = text ↔ text.toList = key.kind.sigil ++ key.name.toList := by
  rw [← String.toList_inj, toList_display]
  exact eq_comm

end Key

namespace Grammar

theorem parse_lenient (text : String) : Grammar.lenient.parse text = .ok (Key.parse text) :=
  parse_eq_ok_iff.mpr ⟨Key.classifies_parse text, fun hrefuses => nomatch hrefuses.1⟩

/-- Under the strict grammar, a key and its text determine each other. -/
theorem parse_strict_eq_ok_iff {text : String} {key : Key} :
    Grammar.strict.parse text = .ok key ↔
      key.display = text ∧ ¬ Key.BeginsWithSigilChar key.name := by
  rw [parse_eq_ok_iff]
  constructor
  · rintro ⟨hclassifies, haccepted⟩
    refine ⟨hclassifies.display_eq, ?_⟩
    intro hbegins
    by_cases hkind : key.kind = .literal
    · exact (Key.classifies_iff.mp hclassifies).2 (.inr ⟨hkind, hbegins⟩)
    · exact haccepted ⟨rfl, key, hclassifies, hkind, hbegins⟩
  · rintro ⟨rfl, hplain⟩
    have hclassifies : key.Classifies key.display :=
      Key.classifies_display_iff.mpr (Key.not_shadowed_of_plain hplain)
    refine ⟨hclassifies, ?_⟩
    rintro ⟨-, other, hother, -, hbegins⟩
    -- a text has one key only
    rw [hclassifies.unique hother] at hplain
    exact hplain hbegins

/-- The language of the strict grammar, read from the left: nothing, a text that begins with no sigil
character, or a sigil with nothing or no sigil character after it. -/
def StrictKey (text : String) : Prop :=
  text = "" ∨
  (∃ c ∈ text.toList.head?, c ≠ '$' ∧ c ≠ '#' ∧ c ≠ '!') ∨
  ∃ sigil ∈ [['$'], ['#'], ['!'], ['!', '!']], ∃ rest, text.toList = sigil ++ rest ∧
    ∀ c ∈ rest.head?, c ≠ '$' ∧ c ≠ '#' ∧ c ≠ '!'

theorem not_beginsWithSigilChar_iff {name : String} :
    ¬ Key.BeginsWithSigilChar name ↔ ∀ c ∈ name.toList.head?, c ≠ '$' ∧ c ≠ '#' ∧ c ≠ '!' := by
  simp [Key.BeginsWithSigilChar, not_or]

/-- The four sigils of the language are those of the kinds. -/
theorem exists_sigil_iff {p : List Char → Prop} :
    (∃ sigil ∈ [['$'], ['#'], ['!'], ['!', '!']], p sigil) ↔
      ∃ kind : Kind, kind ≠ .literal ∧ p kind.sigil := by
  constructor
  · rintro ⟨sigil, hsigil, hp⟩
    simp only [List.mem_cons, List.not_mem_nil, or_false] at hsigil
    rcases hsigil with rfl | rfl | rfl | rfl
    · exact ⟨.runtime, by decide, hp⟩
    · exact ⟨.computed, by decide, hp⟩
    · exact ⟨.constant, by decide, hp⟩
    · exact ⟨.fileConstant, by decide, hp⟩
  · rintro ⟨kind, hkind, hp⟩
    cases kind with
    | literal => exact absurd rfl hkind
    | _ => exact ⟨_, by decide, hp⟩

theorem strictKey_iff {text : String} :
    StrictKey text ↔ ∃ key : Key, key.display = text ∧ ¬ Key.BeginsWithSigilChar key.name := by
  simp only [StrictKey, exists_sigil_iff, not_beginsWithSigilChar_iff, Key.display_eq_iff]
  constructor
  · rintro (rfl | ⟨c, hc, hplain⟩ | ⟨kind, -, rest, htext, hplain⟩)
    · exact ⟨⟨.literal, ""⟩, rfl, by simp⟩
    · refine ⟨⟨.literal, text⟩, rfl, ?_⟩
      intro first hfirst
      cases Option.mem_unique hc hfirst
      exact hplain
    · refine ⟨⟨kind, String.ofList rest⟩, ?_, ?_⟩
      · rw [htext, String.toList_ofList]
      · rwa [String.toList_ofList]
  · rintro ⟨⟨kind, name⟩, htext, hplain⟩
    by_cases hkind : kind = .literal
    · subst hkind
      have hname : text = name := String.toList_inj.mp htext
      subst hname
      cases hhead : text.toList.head? with
      | none => exact .inl (String.toList_inj.mp (List.head?_eq_none_iff.mp hhead))
      | some c => exact .inr (.inl ⟨c, rfl, hplain c hhead⟩)
    · exact .inr (.inr ⟨kind, hkind, name.toList, htext, hplain⟩)

/-- The strict grammar accepts exactly its language, where it agrees with the lenient one, and it
refuses every other text with all of it. A key and its text determine each other if the name begins
with no sigil character, and these are the keys of the strict grammar. So of two resolvers with the
same stores the strict one refuses a key, or both resolve it alike. -/
theorem strict_restricts_lenient :
    (∀ text, (∃ key, Grammar.strict.parse text = .ok key) ↔ StrictKey text) ∧
    (∀ text, ¬ StrictKey text → Grammar.strict.parse text = .error ⟨text⟩) ∧
    (∀ text key, Grammar.strict.parse text = .ok key → Grammar.lenient.parse text = .ok key) ∧
    (∀ text key, Grammar.strict.parse text = .ok key ↔
      key.display = text ∧ ¬ Key.BeginsWithSigilChar key.name) ∧
    ∀ strict lenient : Resolver, strict.grammar = .strict → lenient.grammar = .lenient →
      strict.runtime = lenient.runtime → strict.computed = lenient.computed →
      strict.constants = lenient.constants → ∀ calls text,
        (¬ StrictKey text ∧
          (strict.resolve calls text).answer = .error (.malformedKey text)) ∨
        (StrictKey text ∧ strict.resolve calls text = lenient.resolve calls text) := by
  have haccepts (text : String) :
      (∃ key, Grammar.strict.parse text = .ok key) ↔ StrictKey text := by
    simp only [parse_strict_eq_ok_iff, strictKey_iff]
  have hrefuses (text : String) (hnot : ¬ StrictKey text) :
      Grammar.strict.parse text = .error ⟨text⟩ := by
    cases hparse : Grammar.strict.parse text with
    | ok key => exact absurd ((haccepts text).mp ⟨key, hparse⟩) hnot
    | error error => rw [(parse_eq_error_iff.mp hparse).1]
  have hagrees (text : String) (key : Key) (hstrict : Grammar.strict.parse text = .ok key) :
      Grammar.lenient.parse text = .ok key := by
    rw [parse_lenient, Key.parse_eq_iff.mpr (parse_eq_ok_iff.mp hstrict).1]
  refine ⟨haccepts, hrefuses, hagrees, fun _ _ => parse_strict_eq_ok_iff, ?_⟩
  rintro ⟨_, runtime, computed, constants⟩ ⟨_, _, _, _⟩ rfl rfl rfl rfl rfl calls text
  by_cases hkey : StrictKey text
  · obtain ⟨key, hstrict⟩ := (haccepts text).mpr hkey
    refine .inr ⟨hkey, ?_⟩
    simp only [Resolver.resolve, hstrict, hagrees text key hstrict]
    rfl
  · refine .inl ⟨hkey, ?_⟩
    simp only [Resolver.resolve, hrefuses text hkey]

/-- The key `!!a` is one key for both grammars; `!!!a` is one for the lenient grammar only. -/
theorem strict_restricts_lenient_bangs :
    StrictKey "!!a" ∧ ¬ StrictKey "!!!a" ∧
    Grammar.strict.parse "!!!a" = .error ⟨"!!!a"⟩ ∧
    Grammar.lenient.parse "!!a" = .ok ⟨.fileConstant, "a"⟩ ∧
    (Resolver.withGrammar .strict).resolve .none "!!a" =
      (Resolver.withGrammar .lenient).resolve .none "!!a" ∧
    ((Resolver.withGrammar .strict).resolve .none "!!!a").answer =
      .error (.malformedKey "!!!a") := by
  obtain ⟨haccepts, hrefuses, hagrees, -, hresolvers⟩ := strict_restricts_lenient
  have hkey : StrictKey "!!a" := (haccepts "!!a").mp ⟨_, rfl⟩
  have hnot : ¬ StrictKey "!!!a" := by
    intro hkey
    obtain ⟨key, hparse⟩ := (haccepts "!!!a").mpr hkey
    cases hparse
  refine ⟨hkey, hnot, hrefuses _ hnot, hagrees _ _ rfl, ?_, ?_⟩
  · rcases hresolvers (.withGrammar .strict) (.withGrammar .lenient) rfl rfl rfl rfl rfl .none
      "!!a" with ⟨hrefused, -⟩ | ⟨-, hsame⟩
    · exact absurd hkey hrefused
    · exact hsame
  · rcases hresolvers (.withGrammar .strict) (.withGrammar .lenient) rfl rfl rfl rfl rfl .none
      "!!!a" with ⟨-, hanswer⟩ | ⟨haccepted, -⟩
    · exact hanswer
    · exact absurd haccepted hnot

end Grammar

end SigilLookup
