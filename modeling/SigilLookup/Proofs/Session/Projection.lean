import SigilLookup.Proofs.Session.Defaults

/-!
# Projections of sessions

A projection is a part of the state of sessions that evolves by itself: what an operation does to it
depends on the part alone and on what the operation uses of it. So what a run leaves in the part is
decided by the uses of the run, in order (`Projection.state_run`), whatever else the run does.

There are four of them, one for each store: the values written at run time, the computed slot with
the counts of questions, and, in the one slot for constants, the two maps.
-/

namespace SigilLookup

/-- A part of the state of sessions under a grammar, what an operation uses of it, and what a use
does to it. Where providers have rules of their own, a lookup of any store may ask computations, so
the law is about sessions without rules. -/
structure Projection (grammar : Grammar) (State Use : Type) where
  state : Session → State
  use? : Operation → Option Use
  apply : State → Use → State
  state_step : ∀ (session : Session) operation, session.resolver.grammar = grammar →
    session.resolver.DefaultLookups → operation.DefaultLookups →
    state (session.step operation).1 = (use? operation).elim (state session) (apply (state session))

namespace Projection

variable {grammar : Grammar} {State Use : Type} (projection : Projection grammar State Use)
  {session : Session} {operations : List Operation}

theorem state_run (hgrammar : session.resolver.grammar = grammar)
    (hdefault : session.resolver.DefaultLookups)
    (hoperations : ∀ operation ∈ operations, operation.DefaultLookups) :
    projection.state (session.run operations) =
      (operations.filterMap projection.use?).foldl projection.apply (projection.state session) := by
  induction operations generalizing session with
  | nil => rfl
  | cons operation rest ih =>
      obtain ⟨hoperation, hrest⟩ := List.forall_mem_cons.mp hoperations
      have hnext : (session.step operation).1.resolver.grammar = grammar := by
        rw [Session.grammar_step, hgrammar]
      rw [Session.run_cons, ih hnext (Session.defaultLookups_step hdefault hoperation) hrest,
        projection.state_step session operation hgrammar hdefault hoperation]
      cases huse : projection.use? operation with
      | none => rw [List.filterMap_cons_none huse, Option.elim_none]
      | some use => rw [List.filterMap_cons_some huse, Option.elim_some, List.foldl_cons]

theorem state_run_congr {others : List Operation} (hgrammar : session.resolver.grammar = grammar)
    (hdefault : session.resolver.DefaultLookups)
    (hoperations : ∀ operation ∈ operations, operation.DefaultLookups)
    (hothers : ∀ operation ∈ others, operation.DefaultLookups)
    (huses : operations.filterMap projection.use? = others.filterMap projection.use?) :
    projection.state (session.run operations) = projection.state (session.run others) := by
  rw [projection.state_run hgrammar hdefault hoperations,
    projection.state_run hgrammar hdefault hothers, huses]

/-- Two operations of which only one uses the part can change places. -/
theorem filterMap_swap {first second : Operation}
    (hunused : projection.use? first = none ∨ projection.use? second = none) :
    [first, second].filterMap projection.use? = [second, first].filterMap projection.use? := by
  rcases hunused with hfirst | hsecond
  · cases hsecond : projection.use? second <;> simp [hfirst, hsecond]
  · cases hfirst : projection.use? first <;> simp [hfirst, hsecond]

end Projection

/-! ### The runtime table -/

def Operation.written? : Operation → Option (String × Value)
  | .setValue key content => some (key, content)
  | _ => none

def runtimeProjection (grammar : Grammar) : Projection grammar RuntimeTable (String × Value) where
  state session := session.resolver.runtime
  use? := Operation.written?
  apply table write := (table.set write.1 write.2).1
  state_step session operation _ _ _ := by
    cases operation with
    | registerComputedBatch providers =>
        rw [Session.step_registerComputedBatch]
        rfl
    | registerConstantsBatch providers =>
        rw [Session.step_registerConstantsBatch]
        rfl
    | _ => rfl

/-! ### The computed slot and the counts of questions -/

/-- What an operation may do with the computed store: hand providers over, or ask for a name. -/
inductive ComputedUse where
  | register (providers : List ComputedProvider)
  | ask (name : String)

def Operation.computedUse? (grammar : Grammar) : Operation → Option ComputedUse
  | .registerComputed provider => some (.register [provider])
  | .registerComputedBatch providers => some (.register providers)
  | .resolve text => (grammar.computedName? text).map .ask
  | _ => none

def ComputedUse.apply : ComputedSlot × Calls → ComputedUse → ComputedSlot × Calls
  | (slot, calls), .register providers => (Slot.take slot providers, calls)
  | (slot, calls), .ask name => (slot, (Computation.askFirst name slot.computations calls).2)

/-- The computed slot and the counts evolve together, by the registrations of computed providers and
the lookups of computed names. -/
def computedProjection (grammar : Grammar) :
    Projection grammar (ComputedSlot × Calls) ComputedUse where
  state session := (session.resolver.computed, session.calls)
  use? := Operation.computedUse? grammar
  apply := ComputedUse.apply
  state_step session operation hgrammar hdefault _ := by
    cases operation with
    | registerComputed provider =>
        rw [Session.step_registerComputed]
        rfl
    | registerComputedBatch providers =>
        rw [Session.step_registerComputedBatch]
        exact congrArg (Prod.mk _) (session.calls_attempted _)
    | registerConstantsBatch providers =>
        rw [Session.step_registerConstantsBatch]
        exact congrArg (Prod.mk _) (session.calls_attempted _)
    | resolve text =>
        have hcalls := Resolver.calls_resolve hdefault session.calls text
        rw [hgrammar] at hcalls
        simp only [Session.step, hcalls, Operation.computedUse?]
        cases grammar.computedName? text <;> rfl
    | _ => rfl

/-! ### The maps of the constants slot -/

namespace ConstantMap

/-- What the slot holds of a map after more maps have come: their merge. Without a provider there
is no map, and none comes of none. -/
def gather (held : Option ConstantMap) (maps : List ConstantMap) : Option ConstantMap :=
  if held.isNone && maps.isEmpty then none else some ((held.getD .empty).merge maps)

@[simp] theorem gather_none_nil : gather none [] = none := rfl

@[simp] theorem gather_some (map : ConstantMap) (maps : List ConstantMap) :
    gather (some map) maps = some (map.merge maps) := rfl

theorem gather_none_of_ne_nil {maps : List ConstantMap} (hsome : maps ≠ []) :
    gather none maps = some (OrderedMap.empty.merge maps) := by
  simp [gather, hsome]

theorem gather_gather (held : Option ConstantMap) (maps more : List ConstantMap) :
    gather (gather held maps) more = gather held (maps ++ more) := by
  cases held with
  | some map => rw [gather_some, gather_some, gather_some, OrderedMap.merge_append]
  | none =>
      by_cases hmaps : maps = []
      · subst hmaps
        rfl
      · have hboth : maps ++ more ≠ [] := by simp [hmaps]
        rw [gather_none_of_ne_nil hmaps, gather_none_of_ne_nil hboth, gather_some,
          OrderedMap.merge_append]

theorem merge_of_forall_empty {maps : List ConstantMap} (hempty : ∀ map ∈ maps, map = .empty)
    (base : ConstantMap) : base.merge maps = base := by
  induction maps generalizing base with
  | nil => rfl
  | cons map rest ih =>
      obtain ⟨hmap, hrest⟩ := List.forall_mem_cons.mp hempty
      rw [OrderedMap.merge_cons, hmap]
      exact ih hrest base

theorem gather_append_comm {maps more : List ConstantMap}
    (hempty : (∀ map ∈ maps, map = .empty) ∨ ∀ map ∈ more, map = .empty)
    (held : Option ConstantMap) : gather held (maps ++ more) = gather held (more ++ maps) := by
  have hmerge (base : ConstantMap) : base.merge (maps ++ more) = base.merge (more ++ maps) := by
    rw [OrderedMap.merge_append, OrderedMap.merge_append]
    rcases hempty with hmaps | hmore
    · rw [merge_of_forall_empty hmaps, merge_of_forall_empty hmaps]
    · rw [merge_of_forall_empty hmore, merge_of_forall_empty hmore]
  have hnil : (maps ++ more).isEmpty = (more ++ maps).isEmpty := by
    cases maps <;> cases more <;> rfl
  rw [gather, gather, hnil, hmerge]

end ConstantMap

/-- The maps that the operation hands over if it is a registration of constants; `content` is one of
the two maps of a provider. -/
def Operation.maps? (content : ConstantsProvider → ConstantMap) (operation : Operation) :
    Option (List ConstantMap) :=
  if operation.registersConstants then some (operation.constantsProviders.map content) else none

/-- What the slot holds of a map is gathered from what the providers hold of it. -/
theorem ConstantsSlot.map_take {content : ConstantsProvider → ConstantMap}
    (hemptied : ∀ provider, content (Registrable.emptied provider) = .empty)
    (habsorb : ∀ provider others, content (Registrable.absorb provider others) =
      (content provider).merge (others.map content))
    (slot : ConstantsSlot) (batch : List ConstantsProvider) :
    (Slot.take slot batch).map content =
      ConstantMap.gather (slot.map content) (batch.map content) := by
  cases slot with
  | some kept =>
      rw [Slot.take, Option.map_some, Option.map_some, habsorb]
      rfl
  | none =>
      cases hlast : batch.getLast? with
      | none =>
          rw [List.getLast?_eq_none_iff.mp hlast]
          rfl
      | some last =>
          have hbatch : batch.map content ≠ [] := by
            intro hnil
            rw [List.map_eq_nil_iff.mp hnil] at hlast
            cases hlast
          rw [Option.map_none, ConstantMap.gather_none_of_ne_nil hbatch]
          simp only [Slot.take, hlast, Option.map_some, habsorb, hemptied]

def mapProjection (grammar : Grammar) (content : ConstantsProvider → ConstantMap)
    (hemptied : ∀ provider, content (Registrable.emptied provider) = .empty)
    (habsorb : ∀ provider others, content (Registrable.absorb provider others) =
      (content provider).merge (others.map content)) :
    Projection grammar (Option ConstantMap) (List ConstantMap) where
  state session := session.resolver.constants.map content
  use? := Operation.maps? content
  apply := ConstantMap.gather
  state_step session operation _ _ _ := by
    have hslot : (session.step operation).1.resolver.constants =
        Slot.take session.resolver.constants operation.constantsProviders :=
      ProviderFamily.slot_step (P := ConstantsProvider) session operation
    rw [hslot, ConstantsSlot.map_take hemptied habsorb]
    cases hregisters : operation.registersConstants with
    | true => simp [Operation.maps?, hregisters]
    | false =>
        have hnone : operation.constantsProviders = [] :=
          ProviderFamily.providers_of_not_registers (P := ConstantsProvider) operation hregisters
        rw [hnone, Operation.maps?, hregisters]
        cases session.resolver.constants <;> rfl

def constantsProjection (grammar : Grammar) :
    Projection grammar (Option ConstantMap) (List ConstantMap) :=
  mapProjection grammar ConstantsProvider.constants ConstantsProvider.constants_emptied
    ConstantsProvider.constants_absorb

def fileConstantsProjection (grammar : Grammar) :
    Projection grammar (Option ConstantMap) (List ConstantMap) :=
  mapProjection grammar ConstantsProvider.fileConstants ConstantsProvider.fileConstants_emptied
    ConstantsProvider.fileConstants_absorb

end SigilLookup
