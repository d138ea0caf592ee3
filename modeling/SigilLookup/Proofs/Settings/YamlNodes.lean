import SigilLookup.Proofs.Settings.Notations
import SigilLookup.Proofs.Text.Utf8Decoding

/-!
# The nodes of a settings file in YAML

A document is read item by item, with the collections that are open on a stack and all nodes kept by
their places for aliases. No table comes to be but from the entries of a mapping that is complete,
by insertion. So whatever is on the stack or kept has distinct names (`Yaml.Plain.Build.Distinct`),
and each item keeps it so (`Yaml.Plain.Build.Distinct.item`).
-/

namespace SigilLookup

open Reading Setting

namespace Yaml.Plain

namespace Node

/-- The value of a node, if it has one, has distinct names. -/
def Distinct (node : Node) : Prop := ∀ setting ∈ node.setting, Setting.Distinct setting

theorem distinct_of_setting {key : Key} {setting : Setting} (hsetting : setting.Distinct) :
    Distinct ⟨key, some setting⟩ := by
  intro other hother
  cases hother
  exact hsetting

theorem distinct_nothing (key : Key) : (nothing key).Distinct := distinct_of_setting .nothing

theorem distinct_ofText (text : String) : (ofText text).Distinct := distinct_of_setting (.text text)

theorem distinct_ofBool (value : Bool) : (ofBool value).Distinct :=
  distinct_of_setting (.bool value)

theorem distinct_ofInteger (value : Int) : (ofInteger value).Distinct :=
  distinct_of_setting (.integer value)

theorem distinct_of_double? {text : String} {node : Node} (hnode : double? text = some node) :
    node.Distinct := by
  unfold double? at hnode
  split at hnode
  · cases hnode
    exact fun setting hsetting => absurd hsetting (Option.not_mem_none setting)
  · obtain ⟨value, -, rfl⟩ := Option.map_eq_some_iff.mp hnode
    exact distinct_of_setting (.double value)

theorem distinct_getD {node : Option Node} {key : Key} (hnode : ∀ other ∈ node, other.Distinct) :
    (node.getD (nothing key)).Distinct := by
  cases node with
  | none => exact distinct_nothing key
  | some node => exact hnode node rfl

theorem distinct_ofPlain (text : String) : (ofPlain text).Distinct := by
  unfold ofPlain
  split
  case h_1 => exact distinct_ofBool _
  case h_2 => exact distinct_ofInteger _
  case h_3 hnode => exact distinct_of_double? hnode
  case h_4 =>
    split
    · exact distinct_nothing _
    · exact distinct_ofText text

theorem distinct_ofScalar (tag : Option Tag) (text : String) (plain : Bool) :
    (ofScalar tag text plain).Distinct := by
  unfold ofScalar
  split
  · exact distinct_ofText text
  · exact distinct_ofPlain text
  · split_ifs
    · exact distinct_ofText text
    · cases bool? text with
      | none => exact distinct_nothing _
      | some value => exact distinct_ofBool value
    · cases Numeral.int64? text.toList with
      | none => exact distinct_nothing _
      | some value => exact distinct_ofInteger value
    · exact distinct_getD fun node hnode => distinct_of_double? hnode
    · exact distinct_nothing _
    · exact distinct_nothing _
    · exact distinct_ofText text

def AllDistinct (values : List (Option Setting)) : Prop :=
  ∀ value ∈ values, ∀ setting ∈ value, Setting.Distinct setting

theorem allDistinct_cons {node : Node} {values : List (Option Setting)} (hnode : node.Distinct)
    (hvalues : AllDistinct values) : AllDistinct (node.setting :: values) := by
  intro value hvalue
  rcases List.mem_cons.mp hvalue with rfl | hvalue
  · exact hnode
  · exact hvalues value hvalue

theorem allDistinct_reverse {values : List (Option Setting)} (hvalues : AllDistinct values) :
    AllDistinct values.reverse := fun value hvalue => hvalues value (List.mem_reverse.mp hvalue)

theorem distinct_ofItems {items : List (Option Setting)} (hitems : AllDistinct items) :
    (ofItems items).Distinct := by
  intro setting hsetting
  obtain ⟨values, hvalues, rfl⟩ := Option.map_eq_some_iff.mp hsetting
  rw [Utf8.mapM_id_eq_some_iff.mp hvalues] at hitems
  apply Setting.Distinct.list
  intro value hvalue
  exact hitems _ (List.mem_map_of_mem hvalue) value rfl

theorem distinct_ofEntries {entries : List (Key × Option Setting)}
    (hentries : AllDistinct (entries.map Prod.snd)) : (ofEntries entries).Distinct := by
  intro setting hsetting
  obtain ⟨table, htable, rfl⟩ := Option.map_eq_some_iff.mp hsetting
  refine foldlM_keeps (P := fun table => Setting.Distinct (.table table)) ?_ distinct_table_nil
    htable
  intro entry hentry table next hheld hnext
  obtain ⟨name, -, hnext⟩ := Option.bind_eq_some_iff.mp hnext
  obtain ⟨value, hvalue, hnext⟩ := Option.bind_eq_some_iff.mp hnext
  cases hnext
  exact distinct_table_insert hheld (hentries _ (List.mem_map_of_mem hentry) value hvalue)

end Node

def Frame.Distinct : Frame → Prop
  | .sequence _ items => Node.AllDistinct items
  | .mapping _ _ entries => Node.AllDistinct (entries.map Prod.snd)

namespace Build

structure Distinct (build : Build) : Prop where
  frames : ∀ frame ∈ build.frames, frame.Distinct
  root : ∀ node ∈ build.root, node.Distinct
  nodes : ∀ entry ∈ build.nodes, entry.2.Distinct

/-- Another collection becomes the innermost one. -/
theorem Distinct.withFrame {build : Build} (hbuild : build.Distinct) {frame : Frame}
    {outer : List Frame} (hframe : frame.Distinct) (houter : ∀ frame ∈ outer, frame.Distinct) :
    Distinct { build with frames := frame :: outer } := by
  refine ⟨?_, hbuild.root, hbuild.nodes⟩
  intro other hother
  rcases List.mem_cons.mp hother with rfl | hother
  · exact hframe
  · exact houter other hother

theorem Distinct.add {build next : Build} {node : Node} (hbuild : build.Distinct)
    (hnode : node.Distinct) (hadd : build.add? node = some next) : next.Distinct := by
  have hframes := hbuild.frames
  unfold add? at hadd
  split at hadd
  case h_1 =>
    cases hadd
    refine ⟨hframes, ?_, hbuild.nodes⟩
    rintro root ⟨⟩
    exact hnode
  case h_2 place items outer hopen =>
    rw [hopen] at hframes
    obtain ⟨hitems, houter⟩ := List.forall_mem_cons.mp hframes
    cases hadd
    exact hbuild.withFrame (Node.allDistinct_cons hnode hitems) houter
  case h_3 place key entries outer hopen =>
    rw [hopen] at hframes
    obtain ⟨hentries, houter⟩ := List.forall_mem_cons.mp hframes
    split at hadd
    · cases hadd
      exact hbuild.withFrame hentries houter
    · split at hadd
      · cases hadd
      · cases hadd
        exact hbuild.withFrame (Node.allDistinct_cons hnode hentries) houter

theorem Distinct.addAt {build next : Build} {place : Nat} {node : Node} (hbuild : build.Distinct)
    (hnode : node.Distinct) (hadd : build.addAt? place node = some next) : next.Distinct := by
  have hkept : Distinct { build with nodes := (place, node) :: build.nodes } :=
    ⟨hbuild.frames, hbuild.root, List.forall_mem_cons.mpr ⟨hnode, hbuild.nodes⟩⟩
  exact hkept.add hnode hadd

/-- The step lemma: whatever item comes next, names stay distinct. -/
theorem Distinct.item {document : Document} {build next : Build} {item : Item} {place : Nat}
    (hbuild : build.Distinct) (hitem : build.item? document item place = some next) :
    next.Distinct := by
  have hframes := hbuild.frames
  unfold item? at hitem
  split at hitem
  case h_1 => exact hbuild.addAt (Node.distinct_ofScalar _ _ _) hitem
  case h_2 =>
    refine hbuild.add ?_ hitem
    -- an alias is the node that was kept at its target, which was complete then
    apply Node.distinct_getD
    intro node hnode
    obtain ⟨target, -, hlookup⟩ := Option.bind_eq_some_iff.mp hnode
    obtain ⟨before, after, hnodes, -⟩ := List.lookup_eq_some_iff.mp hlookup
    exact hbuild.nodes (target, node) (by simp [hnodes])
  case h_3 =>
    cases hitem
    exact hbuild.withFrame (fun value hvalue => absurd hvalue List.not_mem_nil) hframes
  case h_4 =>
    cases hitem
    exact hbuild.withFrame (fun value hvalue => absurd hvalue List.not_mem_nil) hframes
  case h_5 start items outer hopen =>
    rw [hopen] at hframes
    obtain ⟨hitems, houter⟩ := List.forall_mem_cons.mp hframes
    have hclosed : Distinct { build with frames := outer } :=
      ⟨houter, hbuild.root, hbuild.nodes⟩
    exact hclosed.addAt (Node.distinct_ofItems (Node.allDistinct_reverse hitems)) hitem
  case h_6 start key entries outer hopen =>
    rw [hopen] at hframes
    obtain ⟨hentries, houter⟩ := List.forall_mem_cons.mp hframes
    have hclosed : Distinct { build with frames := outer } :=
      ⟨houter, hbuild.root, hbuild.nodes⟩
    have hreversed : Node.AllDistinct (entries.reverse.map Prod.snd) := by
      rw [List.map_reverse]
      exact Node.allDistinct_reverse hentries
    exact hclosed.addAt (Node.distinct_ofEntries hreversed) hitem
  case h_7 => cases hitem

end Build

theorem distinct_of_nodeOf? {document : Document} {node : Node}
    (hnode : nodeOf? document = some node) : node.Distinct := by
  obtain ⟨build, hbuild, hroot⟩ := Option.bind_eq_some_iff.mp hnode
  have hdistinct : build.Distinct := by
    refine foldlM_keeps ?_ ⟨?_, ?_, ?_⟩ hbuild
    · intro item _ build next hheld hnext
      exact Build.Distinct.item hheld hnext
    · exact fun frame hframe => absurd hframe List.not_mem_nil
    · exact fun node hnode => absurd hnode (Option.not_mem_none node)
    · exact fun entry hentry => absurd hentry List.not_mem_nil
  exact hdistinct.root node hroot

theorem distinct_of_read? {text : String} {setting : Setting} (hread : read? text = some setting) :
    Setting.Distinct setting := by
  obtain ⟨tokens, -, hread⟩ := Option.bind_eq_some_iff.mp hread
  obtain ⟨document, -, hread⟩ := Option.bind_eq_some_iff.mp hread
  split at hread
  · cases hread
    exact distinct_table_nil
  · obtain ⟨node, hnode, hsetting⟩ := Option.bind_eq_some_iff.mp hread
    exact distinct_of_nodeOf? hnode setting hsetting

end Yaml.Plain

end SigilLookup
