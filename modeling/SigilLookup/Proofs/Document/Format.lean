import SigilLookup.Document
import SigilLookup.Proofs.Path.FileName
import SigilLookup.Proofs.Text.Utf8Decoding

/-!
# Formats by file name

The format of a document is read off its path alone. It is that of the file name's extension in any
case of letters, so a path has a format exactly if its last component is a name that ends in a dot
and one of three words, with something before the dot (`DocumentFormat.format_of_file_name`). The
rest of the name may be any bytes; an extension that is not text is none of the words.
-/

namespace SigilLookup

namespace DocumentFormat

/-- The bytes are a text that in lower case is the word. -/
def Spells (word : String) (bytes : List UInt8) : Prop :=
  ∃ text : String, bytes = Utf8.encode text ∧ text.toList.map Char.toLower = word.toList

/-- The path names a file whose name ends in a dot and one of the words, after something else. -/
def NamedWith (words : List String) (path : Path) : Prop :=
  ∃ name, path.components.getLast? = some (.name name) ∧
    ∃ stem extension, name = stem ++ Path.dot :: extension ∧ stem ≠ [] ∧
      ∃ word ∈ words, Spells word extension

/-! ### Case of letters -/

/-- Below 128 bytes and characters agree, also on their lower case. -/
theorem lowerByte_ofNat : ∀ n < 128,
    lowerByte (UInt8.ofNat n) = UInt8.ofNat (Char.ofNat n).toLower.toNat ∧
      (Char.ofNat n).toNat = n ∧ (Char.ofNat n).toLower.toNat < 128 := by
  decide

theorem toNat_lt_of_lowerByte {byte : UInt8} (hlower : (lowerByte byte).toNat < 128) :
    byte.toNat < 128 := by
  rw [lowerByte] at hlower
  split at hlower
  case isTrue hupper =>
    have hle : byte.toNat ≤ 0x5A := UInt8.le_iff_toNat_le.mp hupper.2
    omega
  case isFalse => exact hlower

theorem toNat_lt_of_toLower {c : Char} (hlower : c.toLower.toNat < 128) : c.toNat < 128 := by
  by_cases hupper : c.val ≥ 'A'.val ∧ c.val ≤ 'Z'.val
  · have hle : c.toNat ≤ 'Z'.toNat := hupper.2
    exact Nat.lt_of_le_of_lt hle (by decide)
  · have hsame : c.toLower = c := dif_neg hupper
    rw [hsame] at hlower
    exact hlower

/-- A byte is in lower case what a character is, if the character is one byte and is not beyond
ASCII. -/
theorem lowerByte_eq_iff {byte : UInt8} {c : Char} (hc : c.toNat < 128) :
    lowerByte byte = UInt8.ofNat c.toNat ↔
      ∃ d : Char, String.utf8EncodeChar d = [byte] ∧ d.toLower = c := by
  have hnat : (UInt8.ofNat c.toNat).toNat = c.toNat :=
    UInt8.toNat_ofNat_of_lt' (Nat.lt_trans hc (by decide))
  constructor
  · intro hlower
    have hbyte : byte.toNat < 128 := toNat_lt_of_lowerByte (by rw [hlower, hnat]; exact hc)
    obtain ⟨hsame, hd, hd'⟩ := lowerByte_ofNat byte.toNat hbyte
    rw [UInt8.ofNat_toNat, hlower] at hsame
    refine ⟨Char.ofNat byte.toNat, ?_, ?_⟩
    · rw [Utf8.utf8EncodeChar_of_lt (by rw [hd]; exact hbyte), hd, UInt8.ofNat_toNat]
    · apply Char.toNat_inj.mp
      have hnats := congrArg UInt8.toNat hsame
      rw [hnat, UInt8.toNat_ofNat_of_lt' (Nat.lt_trans hd' (by decide))] at hnats
      exact hnats.symm
  · rintro ⟨d, hencode, rfl⟩
    have hd : d.toNat < 128 := toNat_lt_of_toLower hc
    rw [Utf8.utf8EncodeChar_of_lt hd] at hencode
    obtain rfl := List.singleton_inj.mp hencode
    have hofNat : Char.ofNat d.toNat = d := Char.ofNat_toNat d
    rw [(lowerByte_ofNat d.toNat hd).1, hofNat]

theorem map_lowerByte_eq_iff {word : List Char} (hword : ∀ c ∈ word, c.toNat < 128)
    {bytes : List UInt8} :
    bytes.map lowerByte = word.flatMap String.utf8EncodeChar ↔
      ∃ cs : List Char, bytes = cs.flatMap String.utf8EncodeChar ∧ cs.map Char.toLower = word := by
  induction word generalizing bytes with
  | nil => simp
  | cons c word ih =>
      obtain ⟨hc, hword⟩ := List.forall_mem_cons.mp hword
      rw [List.flatMap_cons, Utf8.utf8EncodeChar_of_lt hc, List.singleton_append,
        List.map_eq_cons_iff]
      constructor
      · rintro ⟨byte, rest, rfl, hbyte, hrest⟩
        obtain ⟨d, hd, hlower⟩ := (lowerByte_eq_iff hc).mp hbyte
        obtain ⟨ds, hds, hmap⟩ := (ih hword).mp hrest
        refine ⟨d :: ds, ?_, ?_⟩
        · rw [List.flatMap_cons, hd, hds, List.singleton_append]
        · rw [List.map_cons, hlower, hmap]
      · rintro ⟨cs, rfl, hmap⟩
        obtain ⟨d, ds, rfl, hlower, hmap⟩ := List.map_eq_cons_iff.mp hmap
        have hd : d.toNat < 128 := toNat_lt_of_toLower (by rw [hlower]; exact hc)
        refine ⟨UInt8.ofNat d.toNat, ds.flatMap String.utf8EncodeChar, ?_, ?_, ?_⟩
        · rw [List.flatMap_cons, Utf8.utf8EncodeChar_of_lt hd, List.singleton_append]
        · exact (lowerByte_eq_iff hc).mpr ⟨d, Utf8.utf8EncodeChar_of_lt hd, hlower⟩
        · exact (ih hword).mpr ⟨ds, rfl, hmap⟩

theorem spells_iff {word : String} (hword : ∀ c ∈ word.toList, c.toNat < 128)
    {bytes : List UInt8} : bytes.map lowerByte = Utf8.encode word ↔ Spells word bytes := by
  rw [Utf8.encode, map_lowerByte_eq_iff hword]
  constructor
  · rintro ⟨cs, hbytes, hmap⟩
    refine ⟨String.ofList cs, ?_, ?_⟩
    · rw [Utf8.encode, String.toList_ofList, hbytes]
    · rw [String.toList_ofList, hmap]
  · rintro ⟨text, hbytes, hmap⟩
    exact ⟨text.toList, hbytes, hmap⟩

/-! ### The format of a path -/

def words : DocumentFormat → List String
  | .json => ["json"]
  | .yaml => ["yaml", "yml"]

theorem plain_of_mem_words {format : DocumentFormat} {word : String}
    (hword : word ∈ format.words) :
    (∀ c ∈ word.toList, c.toNat < 128) ∧ Path.dot ∉ Utf8.encode word := by
  have hall : word.toList.all (·.toNat < 128) ∧ Path.dot ∉ Utf8.encode word := by
    revert word
    cases format <;> decide
  simpa using hall

theorem ofExtension?_eq_some_iff {format : DocumentFormat} {extension : List UInt8} :
    ofExtension? extension = some format ↔ ∃ word ∈ format.words, Spells word extension := by
  have hspells : (∃ word ∈ format.words, Spells word extension) ↔
      ∃ word ∈ format.words, extension.map lowerByte = Utf8.encode word := by
    refine exists_congr fun word => and_congr_right fun hword => ?_
    exact (spells_iff (plain_of_mem_words hword).1).symm
  rw [hspells, ofExtension?]
  generalize extension.map lowerByte = lower
  have hjson : Utf8.encode "json" ≠ Utf8.encode "yaml" ∧
      Utf8.encode "json" ≠ Utf8.encode "yml" := by decide
  cases format with
  | json =>
      simp only [words, List.mem_singleton, exists_eq_left]
      by_cases hlower : lower = Utf8.encode "json"
      · simp [hlower]
      · simp only [hlower, if_false]
        split <;> simp
  | yaml =>
      simp only [words, List.mem_cons, List.not_mem_nil, or_false, exists_eq_or_imp,
        exists_eq_left]
      by_cases hlower : lower = Utf8.encode "json"
      · simp [hlower, hjson]
      · simp only [hlower, if_false]
        split
        case isTrue hyaml => simpa using hyaml
        case isFalse hother => simpa using hother

/-- None of the words holds a dot, so an extension that is one of them follows the last dot. -/
theorem dot_notMem_of_spells {format : DocumentFormat} {word : String}
    (hword : word ∈ format.words) {extension : List UInt8} (hspells : Spells word extension) :
    Path.dot ∉ extension := by
  obtain ⟨hascii, hdot⟩ := plain_of_mem_words hword
  intro hmem
  have hlower : Path.dot ∈ extension.map lowerByte := List.mem_map.mpr ⟨Path.dot, hmem, rfl⟩
  rw [(spells_iff hascii).mpr hspells] at hlower
  exact hdot hlower

theorem ofPath?_eq_some_iff {format : DocumentFormat} {path : Path} :
    ofPath? path = some format ↔ NamedWith format.words path := by
  simp only [ofPath?, Option.bind_eq_some_iff, Path.extension?_eq_some_iff,
    ofExtension?_eq_some_iff]
  constructor
  · rintro ⟨extension, ⟨name, stem, hname, hcut, hstem, -⟩, hword⟩
    exact ⟨name, hname, stem, extension, hcut, hstem, hword⟩
  · rintro ⟨name, hname, stem, extension, hcut, hstem, word, hword, hspells⟩
    exact ⟨extension, ⟨name, stem, hname, hcut, hstem, dot_notMem_of_spells hword hspells⟩,
      word, hword, hspells⟩

theorem namedWith_append {words more : List String} {path : Path} :
    NamedWith (words ++ more) path ↔ NamedWith words path ∨ NamedWith more path := by
  constructor
  · rintro ⟨name, hname, stem, extension, hcut, hstem, word, hword, hspells⟩
    rcases List.mem_append.mp hword with hword | hword
    · exact .inl ⟨name, hname, stem, extension, hcut, hstem, word, hword, hspells⟩
    · exact .inr ⟨name, hname, stem, extension, hcut, hstem, word, hword, hspells⟩
  · rintro (⟨name, hname, stem, extension, hcut, hstem, word, hword, hspells⟩ |
      ⟨name, hname, stem, extension, hcut, hstem, word, hword, hspells⟩)
    · exact ⟨name, hname, stem, extension, hcut, hstem, word, List.mem_append_left _ hword,
        hspells⟩
    · exact ⟨name, hname, stem, extension, hcut, hstem, word, List.mem_append_right _ hword,
        hspells⟩

theorem ofPath?_eq_none_iff {path : Path} :
    ofPath? path = none ↔ ¬ NamedWith ["json", "yaml", "yml"] path := by
  have hwords : ["json", "yaml", "yml"] =
      DocumentFormat.json.words ++ DocumentFormat.yaml.words := rfl
  rw [hwords, namedWith_append, not_or, ← ofPath?_eq_some_iff, ← ofPath?_eq_some_iff]
  cases ofPath? path with
  | none => simp
  | some format => cases format <;> simp

theorem ofPath?_congr {first second : Path} (hname : first.fileName? = second.fileName?) :
    ofPath? first = ofPath? second := by
  rw [ofPath?, ofPath?, Path.extension?, Path.extension?, hname]

/-- A path has a format exactly if it names a file whose name ends in a dot and a word of the format
in any case of letters, with something before the dot. Slashes and parts `.` after the path, and
anything in front of a path that names a file, make no difference. -/
theorem format_of_file_name :
    (∀ path, ofPath? path = some .json ↔ NamedWith ["json"] path) ∧
    (∀ path, ofPath? path = some .yaml ↔ NamedWith ["yaml", "yml"] path) ∧
    (∀ path, ofPath? path = none ↔ ¬ NamedWith ["json", "yaml", "yml"] path) ∧
    (∀ bytes, ofPath? ⟨bytes ++ [Path.slash]⟩ = ofPath? ⟨bytes⟩ ∧
      ofPath? ⟨bytes ++ [Path.slash, Path.dot]⟩ = ofPath? ⟨bytes⟩) ∧
    ∀ path name, path.components.getLast? = some (.name name) →
      (∀ front, ofPath? ⟨front ++ Path.slash :: path.bytes⟩ = ofPath? path) ∧
      ∀ dir : Path, ofPath? (dir.join path.bytes) = ofPath? path := by
  refine ⟨fun _ => ofPath?_eq_some_iff, fun _ => ofPath?_eq_some_iff,
    fun _ => ofPath?_eq_none_iff, ?_, ?_⟩
  · intro bytes
    constructor
    · exact ofPath?_congr (Path.fileName?_congr (Path.steps_append_slash bytes))
    · exact ofPath?_congr (Path.fileName?_congr (Path.steps_append_here bytes))
  · intro path name hname
    rw [← Path.fileName?_eq_some_iff] at hname
    constructor
    · intro front
      exact ofPath?_congr ((Path.fileName?_append hname front).trans hname.symm)
    · intro dir
      exact ofPath?_congr ((Path.fileName?_join hname dir).trans hname.symm)

/-- A path with a directory, a stem with a dot, an extension in capitals and a part `.` at the end;
a name that starts with its only dot; and a stem that is no text. -/
theorem format_of_file_name_capitals :
    (Path.ofString "a.d/.b.YML/.").components.getLast? = some (.name (Utf8.encode ".b.YML")) ∧
    ofPath? (.ofString "a.d/.b.YML/.") = some .yaml ∧
    ofPath? (.ofString "x.json/a.d/.b.YML/.") = some .yaml ∧
    ofPath? (.ofString "a/.json") = none ∧
    ofPath? ⟨0xFF :: Utf8.encode ".json"⟩ = some .json := by
  obtain ⟨hjson, hyaml, hnone, -, hfront⟩ := format_of_file_name
  have hname : (Path.ofString "a.d/.b.YML/.").components.getLast? =
      some (.name (Utf8.encode ".b.YML")) := by decide
  have hformat : ofPath? (.ofString "a.d/.b.YML/.") = some .yaml :=
    (hyaml _).mpr ⟨_, hname, Utf8.encode ".b", Utf8.encode "YML", by decide, by decide, "yml",
      by decide, "YML", rfl, by decide⟩
  refine ⟨hname, hformat, ?_, ?_, ?_⟩
  · exact ((hfront _ _ hname).1 (Utf8.encode "x.json")).trans hformat
  · rw [hnone]
    rintro ⟨name, hlast, stem, extension, hcut, hstem, -⟩
    have hfile : (Path.ofString "a/.json").components.getLast? =
        some (.name (Utf8.encode ".json")) := by decide
    rw [hfile] at hlast
    cases hlast
    rcases stem with _ | ⟨byte, stem⟩
    · exact hstem rfl
    · -- a dot after the first byte would be another one
      have htail : Utf8.encode "json" = stem ++ Path.dot :: extension := (List.cons.inj hcut).2
      have hdot : Path.dot ∈ Utf8.encode "json" := by simp [htail]
      revert hdot
      decide
  · exact (hjson _).mpr ⟨_, by decide, [0xFF], Utf8.encode "json", rfl, by decide, "json",
      by decide, "json", rfl, by decide⟩

end DocumentFormat

end SigilLookup
