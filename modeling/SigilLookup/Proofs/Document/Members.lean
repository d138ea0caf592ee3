import SigilLookup.Document
import SigilLookup.Proofs.OrderedMap.Merge
import SigilLookup.Proofs.Text.Utf8Order
import SigilLookup.Provider

/-!
# The members of a document

Whatever order the members of an object are written in and however often a name comes, a reader
lists them in ascending order of names, each name once (`DocumentFormat.ascending_of_read?`). For
JSON that is the canonical form of the whole value; for YAML it is what the schema makes of the
outermost mapping, and no scalar becomes an object. Constants keep this order, as no two members
share a name (`ConstantMap.entries_of_ofJson?`).
-/

namespace SigilLookup

/-! ### Members in order -/

namespace Members

variable {α : Type}

def Ascending (members : List (String × α)) : Prop :=
  (Entries.names members).Pairwise (· < ·)

theorem mem_names_insert {key name : String} {value : α} {members : List (String × α)}
    (hmem : key ∈ Entries.names (insert name value members)) :
    key = name ∨ key ∈ Entries.names members := by
  induction members with
  | nil => simpa [insert, Entries.names] using hmem
  | cons member rest ih =>
      obtain ⟨first, old⟩ := member
      unfold insert at hmem
      split at hmem
      · rcases List.mem_cons.mp hmem with hkey | hrest
        · exact .inl hkey
        · exact .inr (List.mem_cons_of_mem first hrest)
      · split at hmem
        · exact List.mem_cons.mp hmem
        · rcases List.mem_cons.mp hmem with hkey | hrest
          · exact .inr (hkey ▸ List.mem_cons_self)
          · exact (ih hrest).imp_right (List.mem_cons_of_mem first)

/-- The step lemma: a member goes to its place. -/
theorem ascending_insert (name : String) (value : α) {members : List (String × α)}
    (hascending : Ascending members) : Ascending (insert name value members) := by
  induction members with
  | nil => exact List.pairwise_singleton _ _
  | cons member rest ih =>
      obtain ⟨first, old⟩ := member
      obtain ⟨hfirst, hrest⟩ := List.pairwise_cons.mp hascending
      by_cases hsame : name = first
      · subst hsame
        rw [insert, if_pos rfl]
        exact hascending
      · by_cases hbefore : name < first
        · -- what comes after the first name comes after the new one, too
          have hbelow : ∀ key ∈ Entries.names ((first, old) :: rest), name < key := by
            intro key hkey
            rcases List.mem_cons.mp hkey with rfl | hlater
            · exact hbefore
            · exact String.lt_trans hbefore (hfirst key hlater)
          rw [insert, if_neg hsame, if_pos hbefore]
          exact List.pairwise_cons.mpr ⟨hbelow, hascending⟩
        · have hafter : first < name := by
            apply String.not_le.mp
            intro hle
            exact hsame (String.le_antisymm hle (String.not_lt.mp hbefore))
          have hbelow : ∀ key ∈ Entries.names (insert name value rest), first < key := by
            intro key hkey
            rcases mem_names_insert hkey with rfl | hlater
            · exact hafter
            · exact hfirst key hlater
          rw [insert, if_neg hsame, if_neg hbefore]
          exact List.pairwise_cons.mpr ⟨hbelow, ih hrest⟩

theorem ascending_ofList (members : List (String × α)) : Ascending (ofList members) := by
  -- the induction is on what is left to insert, over whatever is sorted so far
  unfold ofList
  generalize hsorted : ([] : List (String × α)) = sorted
  have hascending : Ascending sorted := by
    subst hsorted
    exact .nil
  clear hsorted
  induction members generalizing sorted with
  | nil => exact hascending
  | cons member rest ih => exact ih _ (ascending_insert member.1 member.2 hascending)

/-- A member whose name comes after all others goes to the end. -/
theorem insert_of_forall_lt {name : String} (value : α) {members : List (String × α)}
    (hafter : ∀ key ∈ Entries.names members, key < name) :
    insert name value members = members ++ [(name, value)] := by
  induction members with
  | nil => rfl
  | cons member rest ih =>
      obtain ⟨first, old⟩ := member
      have hfirst : first < name := hafter first List.mem_cons_self
      have hrest : ∀ key ∈ Entries.names rest, key < name := by
        intro key hkey
        exact hafter key (List.mem_cons_of_mem first hkey)
      have hne : name ≠ first := by
        rintro rfl
        exact String.lt_irrefl name hfirst
      have hbefore : ¬ name < first := by
        intro hlt
        exact String.lt_irrefl name (String.lt_trans hlt hfirst)
      rw [insert, if_neg hne, if_neg hbefore, ih hrest, List.cons_append]

theorem foldl_insert_of_ascending {sorted members : List (String × α)}
    (hascending : Ascending (sorted ++ members)) :
    members.foldl (fun sorted (name, value) => insert name value sorted) sorted =
      sorted ++ members := by
  induction members generalizing sorted with
  | nil => simp
  | cons member rest ih =>
      obtain ⟨name, value⟩ := member
      have hafter : ∀ key ∈ Entries.names sorted, key < name := by
        intro key hkey
        unfold Ascending Entries.names at hascending
        rw [List.map_append, List.pairwise_append] at hascending
        exact hascending.2.2 key hkey name List.mem_cons_self
      have hsplit : sorted ++ (name, value) :: rest = (sorted ++ [(name, value)]) ++ rest := by
        simp
      rw [hsplit] at hascending ⊢
      rw [List.foldl_cons]
      dsimp only
      rw [insert_of_forall_lt value hafter, ih hascending]

/-- Members in ascending order are sorted already. -/
theorem ofList_of_ascending {members : List (String × α)} (hascending : Ascending members) :
    ofList members = members :=
  foldl_insert_of_ascending hascending

theorem Ascending.nodup {members : List (String × α)} (hascending : Ascending members) :
    (Entries.names members).Nodup := by
  apply List.Pairwise.imp _ hascending
  intro first second hlt heq
  subst heq
  exact String.lt_irrefl first hlt

/-- The order is also that of the names' bytes. -/
theorem Ascending.encode {members : List (String × α)} (hascending : Ascending members) :
    ((Entries.names members).map Utf8.encode).Pairwise (· < ·) :=
  List.pairwise_map.mpr (hascending.imp Utf8.encode_lt_encode_iff.mpr)

end Members

/-- If the document is an object, its members ascend. -/
def Json.Ordered (document : Json) : Prop :=
  ∀ members, document = .obj members → Members.Ascending members

def Json.isScalar : Json → Bool
  | .arr _ => false
  | .obj _ => false
  | _ => true

theorem Json.ordered_of_isScalar {document : Json} (hscalar : document.isScalar = true) :
    document.Ordered := by
  rintro members rfl
  cases hscalar

/-! ### What readers give -/

namespace Json

theorem ordered_canonical (document : Json) : document.canonical.Ordered := by
  intro members hmembers
  cases document with
  | obj written =>
      rw [canonical] at hmembers
      cases hmembers
      exact Members.ascending_ofList _
  | _ => simp [canonical] at hmembers

theorem ordered_of_read? {text : String} {document : Json} (hread : read? text = some document) :
    document.Ordered := by
  obtain ⟨written, -, rfl⟩ := Option.map_eq_some_iff.mp hread
  exact ordered_canonical written

end Json

namespace Yaml

namespace Document

variable {α : Type} {schema : Schema α} {Fine : α → Prop}

/-- What is true of everything a schema makes of scalars, sequences and mappings is true of what
the item at a place becomes. -/
theorem nodeAt_spec
    (hscalar : ∀ tag text plain value, schema.scalar tag text plain = some value → Fine value)
    (hsequence : ∀ tag items value, schema.sequence tag items = some value → Fine value)
    (hmapping : ∀ tag entries value, schema.mapping tag entries = some value → Fine value)
    {document : Document} {inner : Option (ValueReader α)} {place followed : Nat}
    {read : α × Nat × Nat} (hread : document.nodeAt schema inner place followed = some read) :
    Fine read.1 := by
  simp only [nodeAt, Option.bind_eq_bind, Option.bind_eq_some_iff] at hread
  obtain ⟨⟨target, steps⟩, -, hitem⟩ := hread
  split at hitem
  case h_1 tag text plain _ =>
    obtain ⟨value, hvalue, hresult⟩ := Option.bind_eq_some_iff.mp hitem
    cases hresult
    exact hscalar tag text plain value hvalue
  case h_2 tag value _ =>
    obtain ⟨⟨entries, next, counted⟩, -, hentries⟩ := Option.bind_eq_some_iff.mp hitem
    obtain ⟨value, hvalue, hresult⟩ := Option.bind_eq_some_iff.mp hentries
    cases hresult
    exact hsequence tag entries value hvalue
  case h_3 tag value _ =>
    obtain ⟨⟨entries, next, counted⟩, -, hentries⟩ := Option.bind_eq_some_iff.mp hitem
    obtain ⟨value, hvalue, hresult⟩ := Option.bind_eq_some_iff.mp hentries
    cases hresult
    exact hmapping tag entries value hvalue
  case h_4 => cases hitem

theorem interpret_spec (hvoid : Fine schema.void)
    (hscalar : ∀ tag text plain value, schema.scalar tag text plain = some value → Fine value)
    (hsequence : ∀ tag items value, schema.sequence tag items = some value → Fine value)
    (hmapping : ∀ tag entries value, schema.mapping tag entries = some value → Fine value)
    {document : Document} {value : α} (hvalue : document.interpret schema = some value) :
    Fine value := by
  unfold interpret at hvalue
  split at hvalue
  · cases hvalue
    exact hvoid
  · obtain ⟨read, hread, rfl⟩ := Option.map_eq_some_iff.mp hvalue
    -- the outermost value is read by the same step as any other, only with the most depth left
    exact nodeAt_spec hscalar hsequence hmapping hread

end Document

namespace Core

theorem isScalar_ofDouble (value : Double) : (ofDouble value).isScalar = true := by
  cases value <;> rfl

theorem isScalar_of_ofInteger? {integer : Int} {value : Json}
    (hvalue : ofInteger? integer = some value) : value.isScalar = true := by
  obtain ⟨number, -, rfl⟩ := Option.map_eq_some_iff.mp hvalue
  rfl

/-- A text that spells no number is a string. -/
theorem isScalar_elim_ofDouble (text : String) (found : Option Double) :
    (found.elim (.str text) ofDouble).isScalar = true := by
  cases found with
  | none => rfl
  | some value => exact isScalar_ofDouble value

theorem isScalar_of_plain? {text : String} {value : Json} (hvalue : plain? text = some value) :
    value.isScalar = true := by
  unfold plain? at hvalue
  split at hvalue
  · cases hvalue
    rfl
  · simp only at hvalue
    split at hvalue
    · cases hvalue
      rfl
    · split at hvalue
      · exact isScalar_of_ofInteger? hvalue
      · split at hvalue
        · cases hvalue
          rfl
        · cases hvalue
          exact isScalar_elim_ofDouble text _
    · split at hvalue
      · cases hvalue
        rfl
      · cases hvalue
        exact isScalar_elim_ofDouble text _

/-- A scalar becomes no collection, whatever its tag asks for. -/
theorem isScalar_of_scalar? {tag : Option Tag} {text : String} {plain : Bool} {value : Json}
    (hvalue : scalar? tag text plain = some value) : value.isScalar = true := by
  unfold scalar? at hvalue
  split at hvalue
  · split at hvalue
    · exact isScalar_of_plain? hvalue
    · cases hvalue
      rfl
  · simp only at hvalue
    split_ifs at hvalue
    · obtain ⟨truth, -, rfl⟩ := Option.map_eq_some_iff.mp hvalue
      rfl
    · obtain ⟨integer, -, hinteger⟩ := Option.bind_eq_some_iff.mp hvalue
      split at hinteger
      · exact isScalar_of_ofInteger? hinteger
      · cases hinteger
    · obtain ⟨double, -, rfl⟩ := Option.map_eq_some_iff.mp hvalue
      exact isScalar_ofDouble double
    · cases hvalue
      rfl
    · cases hvalue
      rfl

theorem ordered_of_read? {text : String} {document : Json} (hread : read? text = some document) :
    document.Ordered := by
  obtain ⟨items, -, hvalue⟩ := Option.bind_eq_some_iff.mp hread
  refine Document.interpret_spec ?void ?scalar ?sequence ?mapping hvalue
  case void => exact Json.ordered_of_isScalar rfl
  case scalar =>
    intro tag text plain value hscalar
    exact Json.ordered_of_isScalar (isScalar_of_scalar? hscalar)
  case sequence =>
    intro tag items value hsequence members hmembers
    simp only [schema] at hsequence
    split at hsequence
    · cases hsequence
    · cases hsequence
      cases hmembers
  case mapping =>
    intro tag entries value hmapping members hmembers
    simp only [schema] at hmapping
    split at hmapping
    · cases hmapping
    · cases hmapping
      cases hmembers
      exact Members.ascending_ofList entries

end Core

end Yaml

/-- The members of a document ascend, whatever its format. -/
theorem DocumentFormat.ordered_of_read? {format : DocumentFormat} {text : String}
    {document : Json} (hread : format.read? text = some document) : document.Ordered := by
  cases format with
  | json => exact Json.ordered_of_read? hread
  | yaml => exact Yaml.Core.ordered_of_read? hread

/-! ### Constants of a document -/

/-- The names of the members of an object; none if the document is not one. -/
def Json.memberNames : Json → List String
  | .obj members => Entries.names members
  | _ => []

namespace ConstantMap

/-- The members of an object become the entries of the map, in their order. -/
theorem entries_of_ascending {members : List (String × Json)}
    (hascending : Members.Ascending members) :
    (OrderedMap.ofList (members.map fun member => (member.1, Value.json member.2))).entries =
      members.map fun member => (member.1, Value.json member.2) := by
  have hnames : Entries.names (members.map fun member => (member.1, Value.json member.2)) =
      Entries.names members := by
    simp [Entries.names]
  apply OrderedMap.entries_insertAll_of_disjoint
  rw [hnames]
  exact hascending.nodup

/-- The constants of a document are the members of its object, each as data. -/
theorem of_ofJson? {document : Json} (hordered : document.Ordered) {map : ConstantMap}
    (hmap : ofJson? document = some map) :
    map.names = document.memberNames ∧
      ∀ name, map.get? name = (document.member? name).map Value.json := by
  cases document with
  | obj members =>
      cases hmap
      have hentries := entries_of_ascending (hordered members rfl)
      constructor
      · simp only [OrderedMap.names, hentries]
        simp [Entries.names, Json.memberNames]
      · intro name
        simp only [OrderedMap.get?, hentries]
        rw [Entries.find?_map, Entries.find?_eq_lookup]
        rfl
  | _ => cases hmap

end ConstantMap

end SigilLookup
