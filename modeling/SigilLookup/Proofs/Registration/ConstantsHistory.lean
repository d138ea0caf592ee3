import SigilLookup.Proofs.Session.History

/-!
# The history of the constants slot

Everything the constants slot holds is decided by the providers that were registered, in order, and
by two opposite rules: the *last* provider with a name decides its value, and the *first* one its
place. Neither how the providers were split into batches nor which of them the slot keeps plays a
role. Constants and file constants follow the rules side by side and never meet.
-/

namespace SigilLookup

namespace Session

variable (grammar : Grammar) (calls : Calls) (operations : List Operation)

/-- Of either kind, a name is listed at its first occurrence. -/
theorem names_run_start :
    ((start grammar calls).run operations).resolver.constantNames =
        (((start grammar calls).constantMaps operations).flatMap OrderedMap.names).eraseDups ∧
      ((start grammar calls).run operations).resolver.fileConstantNames =
        (((start grammar calls).fileConstantMaps operations).flatMap
          OrderedMap.names).eraseDups := by
  have hslot := constants_run_start grammar calls operations
  cases hkeeper : (start grammar calls).keeperIn? ConstantsProvider operations with
  | none =>
      -- nothing was registered, so nothing is listed
      have hnil := ProviderFamily.registeredIn_eq_nil rfl hkeeper
      rw [hkeeper, Option.map_none] at hslot
      constructor
      · simp [Resolver.constantNames, hslot, constantMaps, hnil]
      · simp [Resolver.fileConstantNames, hslot, fileConstantMaps, hnil]
  | some keeper =>
      rw [hkeeper, Option.map_some] at hslot
      simp only [Resolver.constantNames, Resolver.fileConstantNames, hslot]
      constructor
      · exact OrderedMap.names_merge OrderedMap.empty _
      · exact OrderedMap.names_merge OrderedMap.empty _

/-- Where some registration succeeded, a provider is kept and holds the merge of all maps. -/
theorem exists_constants_of_registered
    (hregistered : ∃ operation ∈ (start grammar calls).accepted operations,
      operation.registersConstants = true) :
    ∃ provider, ((start grammar calls).run operations).resolver.constants = some provider ∧
      provider.constants = OrderedMap.empty.merge ((start grammar calls).constantMaps operations) ∧
      provider.fileConstants =
        OrderedMap.empty.merge ((start grammar calls).fileConstantMaps operations) := by
  obtain ⟨keeper, hkeeper⟩ := ProviderFamily.exists_keeper (P := ConstantsProvider) rfl hregistered
  have hslot := constants_run_start grammar calls operations
  rw [hkeeper, Option.map_some] at hslot
  exact ⟨_, hslot, rfl, rfl⟩

/-- No operation removes a name of either map or moves it; new names go to the end. -/
theorem names_prefix_step (session : Session) (operation : Operation) :
    session.resolver.constantNames <+: (session.step operation).1.resolver.constantNames ∧
      session.resolver.fileConstantNames <+:
        (session.step operation).1.resolver.fileConstantNames := by
  simp only [Resolver.constantNames, Resolver.fileConstantNames]
  cases hslot : session.resolver.constants with
  | none => exact ⟨List.nil_prefix, List.nil_prefix⟩
  | some kept =>
      have hnext : (session.step operation).1.resolver.constants =
          some (kept.absorb operation.constantsProviders) :=
        ProviderFamily.slot_step_of_some (P := ConstantsProvider) hslot operation
      rw [hnext]
      exact ⟨OrderedMap.names_prefix_merge kept.constants _,
        OrderedMap.names_prefix_merge kept.fileConstants _⟩

end Session

/-! ### The law -/

/-- After any run on a fresh resolver in which some registration of constants succeeded, a name has
the value that the last registered map with the name gives to it, and the names are those of all
registered maps in order of first occurrence; for file constants likewise. No operation removes a
name or moves it. -/
theorem constants_history (grammar : Grammar) (calls : Calls) (operations : List Operation) :
    ((∃ operation ∈ (Session.start grammar calls).accepted operations,
        operation.registersConstants = true) →
      ∃ provider,
        ((Session.start grammar calls).run operations).resolver.constants = some provider ∧
        (provider.DefaultLookups → ∀ name asked,
          provider.askConstant asked name =
            (Answer.ofFound (.unknownConstant name)
              (OrderedMap.lastValue? name
                ((Session.start grammar calls).constantMaps operations)), asked) ∧
          provider.askFileConstant asked name =
            (Answer.ofFound (.unknownFileConstant name)
              (OrderedMap.lastValue? name
                ((Session.start grammar calls).fileConstantMaps operations)), asked))) ∧
    ((Session.start grammar calls).run operations).resolver.constantNames.Nodup ∧
    ((Session.start grammar calls).run operations).resolver.constantNames =
      (((Session.start grammar calls).constantMaps operations).flatMap
        OrderedMap.names).eraseDups ∧
    ((Session.start grammar calls).run operations).resolver.fileConstantNames.Nodup ∧
    ((Session.start grammar calls).run operations).resolver.fileConstantNames =
      (((Session.start grammar calls).fileConstantMaps operations).flatMap
        OrderedMap.names).eraseDups ∧
    ∀ operation,
      ((Session.start grammar calls).run operations).resolver.constantNames <+:
        (((Session.start grammar calls).run operations).step operation).1.resolver.constantNames ∧
      ((Session.start grammar calls).run operations).resolver.fileConstantNames <+:
        (((Session.start grammar calls).run operations).step
          operation).1.resolver.fileConstantNames := by
  obtain ⟨hnames, hfileNames⟩ := Session.names_run_start grammar calls operations
  refine ⟨?_, ?_, hnames, ?_, hfileNames, fun operation => Session.names_prefix_step _ operation⟩
  · intro hregistered
    obtain ⟨provider, hslot, hconstants, hfileConstants⟩ :=
      Session.exists_constants_of_registered grammar calls operations hregistered
    refine ⟨provider, hslot, ?_⟩
    intro hdefault name asked
    rw [ConstantsProvider.askConstant_of_default hdefault.constants,
      ConstantsProvider.askFileConstant_of_default hdefault.fileConstants, hconstants, hfileConstants,
      OrderedMap.get?_merge, OrderedMap.get?_merge, OrderedMap.get?_empty, Option.or_none,
      Option.or_none]
    exact ⟨rfl, rfl⟩
  · rw [hnames]
    exact nodup_eraseDups _
  · rw [hfileNames]
    exact nodup_eraseDups _

def Operation.overwriting : List Operation :=
  [.registerConstants { constants := OrderedMap.empty.insert "a" (.string "first") },
    .registerConstantsBatch [{ constants := OrderedMap.empty.insert "b" (.string "other") },
      { constants := OrderedMap.empty.insert "a" (.string "second") }]]

theorem constants_history_overwriting :
    (∃ operation ∈ (Session.start .lenient .none).accepted Operation.overwriting,
      operation.registersConstants = true) ∧
    (∃ provider,
      ((Session.start .lenient .none).run Operation.overwriting).resolver.constants =
        some provider ∧
      (provider.askConstant .none "a").1 = .ok (.string "second") ∧
      (provider.askConstant .none "c").1 = .error (.unknownConstant "c")) ∧
    ((Session.start .lenient .none).run Operation.overwriting).resolver.constantNames =
      ["a", "b"] := by
  have hregistered : ∃ operation ∈ (Session.start .lenient .none).accepted Operation.overwriting,
      operation.registersConstants = true := by decide
  obtain ⟨hvalues, -, hnames, -⟩ := constants_history .lenient .none Operation.overwriting
  obtain ⟨provider, hslot, hlaw⟩ := hvalues hregistered
  have hdefault : provider.DefaultLookups := by
    cases hslot
    exact ⟨rfl, rfl⟩
  refine ⟨hregistered, ⟨provider, hslot, ?_, ?_⟩, hnames⟩
  · exact congrArg Prod.fst (hlaw hdefault "a" .none).1
  · exact congrArg Prod.fst (hlaw hdefault "c" .none).1

end SigilLookup
