import SigilLookup.Proofs.Key.Classification
import SigilLookup.Proofs.Registration.ComputedHistory
import SigilLookup.Proofs.Session.Separation
import SigilLookup.Proofs.Session.Written

/-!
# Entries and the keys that reach them

What a resolver holds can be listed, store by store. An entry of a listing is a store and a name, so
it has the form of a classified key; it is reached by a key if resolving the key asks this store for
this name. This module tells which entries are reached at all and by which key, and what resolving
the key then leaves.

Two things keep an entry out of reach: the strict grammar refuses its key, or the key begins with a
longer sigil than the one meant. The latter happens to constants whose name begins with an
exclamation mark, and to nothing else that is stored.
-/

namespace SigilLookup

/-! ### Keys that some text has -/

namespace Grammar

variable {key : Key}

theorem exists_lenient_parse_iff :
    (∃ text, Grammar.lenient.parse text = .ok key) ↔ ¬ key.Shadowed := by
  constructor
  · rintro ⟨text, hparse⟩
    have hclassifies := (parse_eq_ok_iff.mp hparse).1
    exact (Key.classifies_iff.mp hclassifies).2
  · intro hplain
    refine ⟨key.display, parse_eq_ok_iff.mpr ⟨Key.classifies_display_iff.mpr hplain, ?_⟩⟩
    rintro ⟨hstrict, -⟩
    cases hstrict

/-- A name that begins with a longer sigil begins with a sigil character, so the strict grammar
refuses it anyway. -/
theorem exists_strict_parse_iff (hkind : key.kind ≠ .literal) :
    (∃ text, Grammar.strict.parse text = .ok key) ↔ ¬ Key.BeginsWithSigilChar key.name := by
  constructor
  · rintro ⟨text, hparse⟩ hbegins
    obtain ⟨hclassifies, haccepted⟩ := parse_eq_ok_iff.mp hparse
    exact haccepted ⟨rfl, key, hclassifies, hkind, hbegins⟩
  · intro hbegins
    have hplain : ¬ key.Shadowed := by
      rintro (⟨-, hbang⟩ | ⟨hliteral, -⟩)
      · exact hbegins ⟨'!', hbang, .inr (.inr rfl)⟩
      · exact hkind hliteral
    have hclassifies := Key.classifies_display_iff.mpr hplain
    refine ⟨key.display, parse_eq_ok_iff.mpr ⟨hclassifies, ?_⟩⟩
    rintro ⟨-, other, hother, -, hotherBegins⟩
    cases hother.unique hclassifies
    exact hbegins hotherBegins

end Grammar

/-! ### Entries -/

/-- The failures with which a lookup itself tells that there is no such entry. -/
inductive Key.Missing (key : Key) : ResolveError → Prop
  | notFound : key.kind = .runtime → Missing key (.notFound key.name)
  | providerMissing {family : ProviderKind} :
      key.kind.provider? = some family → Missing key (.providerMissing family)
  | unknownComputed : key.kind = .computed → Missing key (.provider (.unknownComputed key.name))
  | unknownConstant : key.kind = .constant → Missing key (.provider (.unknownConstant key.name))
  | unknownFileConstant :
      key.kind = .fileConstant → Missing key (.provider (.unknownFileConstant key.name))

namespace Resolver

/-- The names that are listed for a kind of key; a literal is not stored anywhere. -/
def listing (resolver : Resolver) : Kind → List String
  | .runtime => resolver.runtime.keys
  | .computed => resolver.computedNames
  | .constant => resolver.constantNames
  | .fileConstant => resolver.fileConstantNames
  | .literal => []

def Lists (resolver : Resolver) (entry : Key) : Prop := entry.name ∈ resolver.listing entry.kind

/-- Resolving the text asks the store of the entry for its name and leaves what this answers. -/
def LooksUp (resolver : Resolver) (text : String) (entry : Key) : Prop :=
  ∀ asked, resolver.resolve asked text =
    { answer := (resolver.lookup asked entry).1
      calls := (resolver.lookup asked entry).2
      events := [.resolvingKey entry.kind entry.name] }

/-- The event tells the store and the name apart from all others. -/
theorem looksUp_iff {resolver : Resolver} {text : String} {entry : Key} :
    resolver.LooksUp text entry ↔ resolver.grammar.parse text = .ok entry := by
  constructor
  · intro hlooksUp
    have hevents := congrArg Resolution.events (hlooksUp .none)
    cases hparse : resolver.grammar.parse text with
    | error error =>
        simp only [resolve, hparse] at hevents
        cases hevents
    | ok key =>
        simp only [resolve, hparse, List.cons.injEq, Event.resolvingKey.injEq, and_true] at hevents
        obtain ⟨kind, name⟩ := key
        obtain ⟨rfl, rfl⟩ := hevents
        rfl
  · intro hparse asked
    simp only [resolve, hparse]

theorem computedNames_eq (resolver : Resolver) :
    resolver.computedNames = resolver.computed.computations.map Computation.name := by
  unfold computedNames
  cases resolver.computed <;> rfl

theorem ne_literal_of_lists {resolver : Resolver} {entry : Key} (hlists : resolver.Lists entry) :
    entry.kind ≠ .literal := by
  intro hkind
  unfold Lists at hlists
  rw [hkind] at hlists
  exact List.not_mem_nil hlists

/-! ### What the stores answer -/

/-- What the map of a kind that the slot holds gives for a name, if there is such a map. -/
def heldValue? (resolver : Resolver) (part : HeldMap) (name : String) : Option Value :=
  (resolver.constants.map part.content).bind fun map => map.get? name

/-- What the store of an entry has under its name, as the reply to a question. -/
def stored? (resolver : Resolver) (entry : Key) : Option (Calls → Answer × Calls) :=
  match entry.kind with
  | .runtime => (resolver.runtime.get? entry.name).map fun value asked => (.ok value, asked)
  | .computed =>
    (Computation.find? entry.name resolver.computed.computations).map Computation.evaluate
  | .constant =>
    (resolver.heldValue? .constants entry.name).map fun value asked => (.ok value, asked)
  | .fileConstant =>
    (resolver.heldValue? .fileConstants entry.name).map fun value asked => (.ok value, asked)
  | .literal => none

/-- The listings list what the stores have, and nothing else. -/
theorem lists_iff {resolver : Resolver} {entry : Key} :
    resolver.Lists entry ↔ (resolver.stored? entry).isSome = true := by
  obtain ⟨kind, name⟩ := entry
  cases kind with
  | runtime =>
      simp only [Lists, listing, stored?, Option.isSome_map, RuntimeTable.mem_keys_iff,
        Option.isSome_iff_exists]
  | computed =>
      simp [Lists, listing, stored?, computedNames_eq, Computation.find?]
  | constant =>
      simp only [Lists, listing, stored?, constantNames, Option.isSome_map, heldValue?]
      cases resolver.constants with
      | none => simp
      | some provider => exact OrderedMap.isSome_get?_iff.symm
  | fileConstant =>
      simp only [Lists, listing, stored?, fileConstantNames, Option.isSome_map, heldValue?]
      cases resolver.constants with
      | none => simp
      | some provider => exact OrderedMap.isSome_get?_iff.symm
  | literal => simp [Lists, listing, stored?]

section

variable {resolver : Resolver} {entry : Key} {name : String}

theorem lookup_of_heldValue? (part : HeldMap) (hasks : part.kind ≠ .computed)
    (hdefault : resolver.DefaultLookups) {value : Value}
    (hvalue : resolver.heldValue? part name = some value) (asked : Calls) :
    resolver.lookup asked ⟨part.kind, name⟩ = (.ok value, asked) := by
  apply Prod.ext
  · obtain ⟨map, hmap, hget⟩ := Option.bind_eq_some_iff.mp hvalue
    rw [part.lookup hdefault, hmap]
    simp only [Session.answerOf, hget]
    rfl
  · exact calls_lookup_of_not_computed hdefault hasks asked

theorem lookup_of_heldValue?_eq_none (part : HeldMap) (hasks : part.kind ≠ .computed)
    (hdefault : resolver.DefaultLookups) (hvalue : resolver.heldValue? part name = none) :
    (∀ asked, resolver.lookup asked ⟨part.kind, name⟩ =
        (.error (.providerMissing .constants), asked)) ∨
      ∀ asked, resolver.lookup asked ⟨part.kind, name⟩ =
        (.error (.provider (part.failure name)), asked) := by
  have hcalls (asked : Calls) : (resolver.lookup asked ⟨part.kind, name⟩).2 = asked :=
    calls_lookup_of_not_computed hdefault hasks asked
  cases hheld : resolver.constants.map part.content with
  | none =>
      left
      intro asked
      refine Prod.ext ?_ (hcalls asked)
      rw [part.lookup hdefault, hheld]
      rfl
  | some map =>
      right
      intro asked
      have hget : map.get? name = none := by
        rw [heldValue?, hheld] at hvalue
        exact hvalue
      refine Prod.ext ?_ (hcalls asked)
      rw [part.lookup hdefault, hheld]
      simp only [Session.answerOf, hget]
      rfl

theorem lookup_of_stored (hdefault : resolver.DefaultLookups)
    {reply : Calls → Answer × Calls} (hstored : resolver.stored? entry = some reply)
    (asked : Calls) :
    resolver.lookup asked entry = ((reply asked).1.mapError .provider, (reply asked).2) := by
  obtain ⟨kind, name⟩ := entry
  cases kind with
  | runtime =>
      obtain ⟨value, hvalue, rfl⟩ := Option.map_eq_some_iff.mp hstored
      simp only [lookup, hvalue]
      rfl
  | computed =>
      obtain ⟨computation, hfirst, rfl⟩ := Option.map_eq_some_iff.mp hstored
      cases hslot : resolver.computed with
      | none =>
          rw [hslot] at hfirst
          cases hfirst
      | some provider =>
          have hheld : Computation.find? name provider.computed = some computation := by
            rw [hslot] at hfirst
            exact hfirst
          simp only [lookup, hslot, Computation.askFirst_of_some hheld,
            ComputedProvider.get_of_default (hdefault.computed provider hslot)]
  | constant =>
      obtain ⟨value, hvalue, rfl⟩ := Option.map_eq_some_iff.mp hstored
      exact lookup_of_heldValue? .constants (by decide) hdefault hvalue asked
  | fileConstant =>
      obtain ⟨value, hvalue, rfl⟩ := Option.map_eq_some_iff.mp hstored
      exact lookup_of_heldValue? .fileConstants (by decide) hdefault hvalue asked
  | literal => cases hstored

theorem lookup_of_not_stored (hdefault : resolver.DefaultLookups)
    (hkind : entry.kind ≠ .literal) (hstored : resolver.stored? entry = none) :
    ∃ error, entry.Missing error ∧ ∀ asked, resolver.lookup asked entry = (.error error, asked) := by
  obtain ⟨kind, name⟩ := entry
  cases kind with
  | runtime =>
      have hvalue := Option.map_eq_none_iff.mp hstored
      refine ⟨_, .notFound rfl, ?_⟩
      intro asked
      simp only [lookup, hvalue]
  | computed =>
      have hfirst := Option.map_eq_none_iff.mp hstored
      cases hslot : resolver.computed with
      | none =>
          refine ⟨_, .providerMissing rfl, ?_⟩
          intro asked
          simp only [lookup, hslot]
      | some provider =>
          have hheld : Computation.find? name provider.computed = none := by
            rw [hslot] at hfirst
            exact hfirst
          refine ⟨_, .unknownComputed rfl, ?_⟩
          intro asked
          simp only [lookup, hslot, Computation.askFirst_of_none hheld,
            ComputedProvider.get_of_default (hdefault.computed provider hslot)]
          rfl
  | constant =>
      have hvalue := Option.map_eq_none_iff.mp hstored
      rcases lookup_of_heldValue?_eq_none .constants (by decide) hdefault hvalue with
        hmissing | hunknown
      · exact ⟨_, .providerMissing rfl, hmissing⟩
      · exact ⟨_, .unknownConstant rfl, hunknown⟩
  | fileConstant =>
      have hvalue := Option.map_eq_none_iff.mp hstored
      rcases lookup_of_heldValue?_eq_none .fileConstants (by decide) hdefault hvalue with
        hmissing | hunknown
      · exact ⟨_, .providerMissing rfl, hmissing⟩
      · exact ⟨_, .unknownFileConstant rfl, hunknown⟩
  | literal => exact absurd rfl hkind

end

theorem eq_evaluate_of_stored {resolver : Resolver} {entry : Key} {asked : Calls}
    {reply : Calls → Answer × Calls} (hstored : resolver.stored? entry = some reply)
    {error : ProviderError} (hfails : (reply asked).1 = .error error) :
    entry.kind = .computed ∧ ∃ computation,
      Computation.find? entry.name resolver.computed.computations = some computation ∧
        computation.answer (asked.count computation.cell) = .error error := by
  obtain ⟨kind, name⟩ := entry
  cases kind with
  | computed =>
      obtain ⟨computation, hfirst, rfl⟩ := Option.map_eq_some_iff.mp hstored
      exact ⟨rfl, computation, hfirst, hfails⟩
  | runtime | constant | fileConstant =>
      obtain ⟨value, -, rfl⟩ := Option.map_eq_some_iff.mp hstored
      cases hfails
  | literal => cases hstored

/-! ### Reach -/

/-- What reaches the entries of a resolver, and what is reached. -/
structure Reaches (resolver : Resolver) : Prop where
  /-- The lenient grammar leaves out the constants whose key begins with the sigil of file
  constants. -/
  reached_lenient : resolver.grammar = .lenient → ∀ entry, resolver.Lists entry →
    ((∃ text, resolver.LooksUp text entry) ↔
      ¬ (entry.kind = .constant ∧ '!' ∈ entry.name.toList.head?))
  /-- The strict grammar leaves out all names that begin with a sigil character. -/
  reached_strict : resolver.grammar = .strict → ∀ entry, resolver.Lists entry →
    ((∃ text, resolver.LooksUp text entry) ↔ ¬ Key.BeginsWithSigilChar entry.name)
  /-- There is at most one key for an entry: its sigil, followed by its name. -/
  text_eq : ∀ entry text, resolver.Lists entry → resolver.LooksUp text entry →
    text.toList = entry.kind.sigil ++ entry.name.toList
  /-- Where an entry is reached, it is found: only its own computation can fail, and the failure is
  the computation's own. -/
  answered : ∀ entry text asked error, resolver.Lists entry → resolver.LooksUp text entry →
    (resolver.resolve asked text).answer = .error error →
    entry.kind = .computed ∧ ∃ computation own,
      Computation.find? entry.name resolver.computed.computations = some computation ∧
        computation.answer (asked.count computation.cell) = .error own ∧ error = .provider own
  /-- A key with a sigil looks up a listed entry exactly if its name is listed. -/
  reaches_iff : ∀ text key, resolver.grammar.parse text = .ok key → key.kind ≠ .literal →
    ((∃ entry, resolver.Lists entry ∧ resolver.LooksUp text entry) ↔
      key.name ∈ resolver.listing key.kind)
  /-- Otherwise the lookup itself says that there is none. -/
  missing : ∀ text key, resolver.grammar.parse text = .ok key → key.kind ≠ .literal →
    key.name ∉ resolver.listing key.kind →
    ∃ error, key.Missing error ∧ ∀ asked, resolver.resolve asked text =
      { answer := .error error, calls := asked, events := [.resolvingKey key.kind key.name] }

theorem reaches_of_default {resolver : Resolver} (hdefault : resolver.DefaultLookups) :
    resolver.Reaches := by
  constructor
  case reached_lenient =>
    intro hgrammar entry hlists
    have hliteral := ne_literal_of_lists hlists
    simp only [looksUp_iff, hgrammar, Grammar.exists_lenient_parse_iff]
    simp [Key.Shadowed, hliteral]
  case reached_strict =>
    intro hgrammar entry hlists
    simp only [looksUp_iff, hgrammar]
    exact Grammar.exists_strict_parse_iff (ne_literal_of_lists hlists)
  case text_eq =>
    intro entry text hlists hlooksUp
    obtain ⟨hclassifies, -⟩ := Grammar.parse_eq_ok_iff.mp (looksUp_iff.mp hlooksUp)
    exact hclassifies.text_eq
  case answered =>
    intro entry text asked error hlists hlooksUp hanswer
    obtain ⟨reply, hstored⟩ := Option.isSome_iff_exists.mp (lists_iff.mp hlists)
    rw [hlooksUp, lookup_of_stored hdefault hstored] at hanswer
    cases hreply : (reply asked).1 with
    | ok value =>
        rw [hreply] at hanswer
        cases hanswer
    | error own =>
        rw [hreply] at hanswer
        cases hanswer
        obtain ⟨hkind, computation, hfirst, hfails⟩ := eq_evaluate_of_stored hstored hreply
        exact ⟨hkind, computation, own, hfirst, hfails, rfl⟩
  case reaches_iff =>
    intro text key hparse hkind
    simp only [looksUp_iff, hparse, Except.ok.injEq]
    constructor
    · rintro ⟨entry, hlists, rfl⟩
      exact hlists
    · intro hlists
      exact ⟨key, hlists, rfl⟩
  case missing =>
    intro text key hparse hkind hunlisted
    have hstored : resolver.stored? key = none := by
      rw [← Option.not_isSome_iff_eq_none, ← lists_iff]
      exact hunlisted
    obtain ⟨error, hmissing, hlookup⟩ := lookup_of_not_stored hdefault hkind hstored
    refine ⟨error, hmissing, ?_⟩
    intro asked
    rw [looksUp_iff.mpr hparse, hlookup]

end Resolver

/-! ### The law -/

/-- What reaches the entries of a resolver after any run on a fresh one, if no provider has a rule of
its own. -/
theorem entries_reached (grammar : Grammar) (calls : Calls) (operations : List Operation)
    (hdefault : ∀ operation ∈ operations, operation.DefaultLookups) :
    ((Session.start grammar calls).run operations).resolver.Reaches :=
  Resolver.reaches_of_default
    (Session.defaultLookups_run (Session.defaultLookups_start grammar calls) hdefault)

/-- A constant whose key reads as that of a file constant, and one that is called like the file
constant. -/
def Operation.hiddenConstant : List Operation :=
  [.registerConstants
    { constants := (OrderedMap.empty.insert "!x" (.string "hidden")).insert "x" (.string "plain") }]

theorem Operation.defaultLookups_hiddenConstant :
    ∀ operation ∈ hiddenConstant, operation.DefaultLookups := by
  intro operation hoperation
  cases List.mem_singleton.mp hoperation
  refine ⟨by simp [computedProviders], ?_⟩
  intro provider hprovider
  cases List.mem_singleton.mp hprovider
  exact ⟨rfl, rfl⟩

/-- One of the two constants is reached, by one key only; the key that the other one would have finds
no file constant. -/
theorem entries_reached_hidden :
    (∀ operation ∈ Operation.hiddenConstant, operation.DefaultLookups) ∧
    ((Session.start .lenient .none).run Operation.hiddenConstant).resolver.constantNames =
      ["!x", "x"] ∧
    (¬ ∃ text, ((Session.start .lenient .none).run
      Operation.hiddenConstant).resolver.LooksUp text ⟨.constant, "!x"⟩) ∧
    (∃ text, ((Session.start .lenient .none).run
      Operation.hiddenConstant).resolver.LooksUp text ⟨.constant, "x"⟩ ∧
        text.toList = ['!', 'x']) ∧
    ∃ error, Key.Missing ⟨.fileConstant, "x"⟩ error ∧
      (((Session.start .lenient .none).run
        Operation.hiddenConstant).resolver.resolve .none "!!x").answer = .error error := by
  have hreaches := entries_reached .lenient .none Operation.hiddenConstant
    Operation.defaultLookups_hiddenConstant
  have hnames : ((Session.start .lenient .none).run
      Operation.hiddenConstant).resolver.constantNames = ["!x", "x"] := by decide
  have hlists (name : String) (hname : name ∈ ["!x", "x"]) : ((Session.start .lenient .none).run
      Operation.hiddenConstant).resolver.Lists ⟨.constant, name⟩ := by
    rw [← hnames] at hname
    exact hname
  refine ⟨Operation.defaultLookups_hiddenConstant, hnames, ?_, ?_, ?_⟩
  · intro hreached
    exact (hreaches.reached_lenient rfl _ (hlists "!x" (by simp))).mp hreached ⟨rfl, by decide⟩
  · obtain ⟨text, hlooksUp⟩ := (hreaches.reached_lenient rfl _ (hlists "x" (by simp))).mpr (by decide)
    exact ⟨text, hlooksUp, hreaches.text_eq _ text (hlists "x" (by simp)) hlooksUp⟩
  · obtain ⟨error, hmissing, hresolve⟩ := hreaches.missing "!!x" ⟨.fileConstant, "x"⟩ rfl
      (by decide) (by decide)
    exact ⟨error, hmissing, by rw [hresolve]⟩

end SigilLookup
