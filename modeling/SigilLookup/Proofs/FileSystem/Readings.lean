import SigilLookup.Proofs.FileSystem.Texts
import SigilLookup.Proofs.Loader.Directories

/-!
# The readings of a file

The content of a file is read as text in three places: by decoding it, by the call of the operating
system for texts, and where it is a file constant that is displayed. The first two refuse what is no
text and the third one cannot refuse anything, yet the three never contradict one another: they agree
where the content encodes a text, and where it encodes none, the displayed text says so by a
replacement character.
-/

namespace SigilLookup

theorem Value.display_bytes (content : List UInt8) :
    (bytes content).display = Utf8.decodeLossy content := rfl

namespace FileSystem.ReadsUtf8

variable {fs : FileSystem} {path : Path}

theorem text_of_unreadable (hreads : fs.ReadsUtf8) {error : FileSystemError}
    (hcontent : fs.content path = .error error) : fs.text path = .error error := by
  rw [hreads, hcontent]
  rfl

theorem text_eq_ok_iff (hreads : fs.ReadsUtf8) {content : List UInt8}
    (hcontent : fs.content path = .ok content) (text : String) :
    fs.text path = .ok text ↔ content = Utf8.encode text := by
  rw [← Utf8.decode?_eq_some_iff, hreads, hcontent]
  simp only [Except.bind, textOf]
  cases Utf8.decode? content <;> simp

end FileSystem.ReadsUtf8

/-! ### The law -/

/-- Decoding the content and the call of the operating system for texts give the same answer for
every file. Where the content can be read, the answer is the text that it encodes, which is also how
the file constant is displayed; where it encodes none, the file is refused, and the displayed text
holds a replacement character and does not encode the content. -/
theorem readings_of_file_agree {system : System} (hsystem : system.ReadsTexts)
    (isDir isFile : Path → Bool) (paths : Path → Except FileSystemError (List Path)) (path : Path) :
    let fs := FileSystem.ofSystem system isDir isFile paths
    let decoding := FileSystem.ofBytes fs.content isDir isFile paths
    decoding.text path = fs.text path ∧
    (∀ error, fs.content path = .error error →
      fs.text path = .error error ∧ decoding.text path = .error error) ∧
    ∀ content, fs.content path = .ok content →
      (∀ text, fs.text path = .ok text ↔ content = Utf8.encode text) ∧
      (∀ text, content = Utf8.encode text →
        (Value.bytes content).display = text ∧
        Utf8.encode (Value.bytes content).display = content) ∧
      ((∀ text, content ≠ Utf8.encode text) →
        fs.text path = .error (.invalidUtf8 path) ∧
        decoding.text path = .error (.invalidUtf8 path) ∧
        '\uFFFD' ∈ (Value.bytes content).display.toList ∧
        Utf8.encode (Value.bytes content).display ≠ content) ∧
      ∀ constants name, fs.isFile path = true → Loader.constantName? path = some name →
        Loader.addEntry fs constants path = .ok (constants.insert name (.bytes content)) := by
  intro fs decoding
  have hreads : fs.ReadsUtf8 := hsystem.readsUtf8 isDir isFile paths
  have hdecoding : decoding.text path = fs.text path := (hreads path).symm
  refine ⟨hdecoding, ?_, ?_⟩
  · intro error hcontent
    have htext := hreads.text_of_unreadable hcontent
    exact ⟨htext, hdecoding.trans htext⟩
  · intro content hcontent
    refine ⟨hreads.text_eq_ok_iff hcontent, ?_, ?_, ?_⟩
    · rintro text rfl
      rw [Value.display_bytes, Utf8.decodeLossy_encode]
      exact ⟨rfl, rfl⟩
    · intro hbad
      have htext := hreads.text_of_illFormed hcontent hbad
      refine ⟨htext, hdecoding.trans htext, Utf8.replacement_mem_decodeLossy hbad, ?_⟩
      intro hencode
      exact hbad _ hencode.symm
    · intro constants name hfile hname
      exact Loader.addEntry_of_readable hfile hname hcontent

/-- A disk with a file that holds `é` and one that ends within this character. -/
def Disk.accents : Disk :=
  ⟨.dir [(Utf8.encode "a", .file [0xC3, 0xA9]), (Utf8.encode "b", .file [0xC3])], []⟩

theorem Disk.locate_accents {name : String} (hname : name = "a" ∨ name = "b") :
    accents.locate (.ofString name) = .ok [Utf8.encode name] := by
  have hstep : accents.locate (.ofString name) =
      walk accents.root maxLinks [Utf8.encode name] [] := by
    rcases hname with rfl | rfl <;> exact walk.eq_2 ..
  rw [hstep, walk]

theorem readings_of_file_agree_accents :
    Disk.accents.system.ReadsTexts ∧
    Disk.accents.fileSystem.text (.ofString "a") = .ok "é" ∧
    (Value.bytes [0xC3, 0xA9]).display = "é" ∧
    Disk.accents.fileSystem.text (.ofString "b") = .error (.invalidUtf8 (.ofString "b")) ∧
    '\uFFFD' ∈ (Value.bytes [0xC3]).display.toList ∧
    Disk.accents.fileSystem.text (.ofString "c") = .error (.notFound (.ofString "c")) := by
  have hsystem := Disk.accents.readsTexts
  have hlaw := readings_of_file_agree hsystem Disk.accents.isDir Disk.accents.isFile
    Disk.accents.paths
  obtain ⟨-, -, hcontent⟩ := hlaw (.ofString "a")
  obtain ⟨htext, hdisplay, -⟩ :=
    hcontent [0xC3, 0xA9] (Disk.content_of_locate (Disk.locate_accents (.inl rfl)) rfl)
  obtain ⟨-, -, hother⟩ := hlaw (.ofString "b")
  obtain ⟨-, -, hbad, -⟩ :=
    hother [0xC3] (Disk.content_of_locate (Disk.locate_accents (.inr rfl)) rfl)
  obtain ⟨hrefused, -, hreplaced, -⟩ := hbad (Utf8.decode?_eq_none_iff.mp (by decide +kernel))
  obtain ⟨-, hmissing, -⟩ := hlaw (.ofString "c")
  have hplace : Disk.accents.locate (.ofString "c") = .error .missing := Disk.walk.eq_2 ..
  exact ⟨hsystem, (htext "é").mpr (by decide), (hdisplay "é" (by decide)).1, hrefused, hreplaced,
    (hmissing _ (Disk.content_of_locate_error hplace)).1⟩

end SigilLookup
