import SigilLookup.FileSystem.Disk
import SigilLookup.FileSystem.Listing
import SigilLookup.Proofs.Text.Utf8Decoding

/-!
# Texts of files

A file system that reads texts as UTF-8 has three outcomes for a file: the content cannot be read,
and then neither can the text; the content encodes a text, and this is the text; or it encodes none,
and the file is refused as ill formed. File systems that read texts by reading contents are of this
kind. So are those that leave it to the operating system to read texts, although there are two calls
then, which fail in ways of their own.
-/

namespace SigilLookup

namespace FileSystem

def ReadsUtf8 (fs : FileSystem) : Prop :=
  ∀ path, fs.text path = (fs.content path).bind (textOf path)

theorem readsUtf8_ofBytes (content : Path → Except FileSystemError (List UInt8))
    (isDir isFile : Path → Bool) (paths : Path → Except FileSystemError (List Path)) :
    (ofBytes content isDir isFile paths).ReadsUtf8 :=
  fun _ => rfl

namespace ReadsUtf8

variable {fs : FileSystem} {path : Path}

theorem text_of_encode (hreads : fs.ReadsUtf8) {text : String}
    (hcontent : fs.content path = .ok (Utf8.encode text)) : fs.text path = .ok text := by
  have hdecode : Utf8.decode? (Utf8.encode text) = some text := Utf8.decode?_eq_some_iff.mpr rfl
  rw [hreads, hcontent]
  simp only [Except.bind, textOf, hdecode]

theorem text_of_illFormed (hreads : fs.ReadsUtf8) {content : List UInt8}
    (hcontent : fs.content path = .ok content) (hbad : ∀ text, content ≠ Utf8.encode text) :
    fs.text path = .error (.invalidUtf8 path) := by
  rw [hreads, hcontent]
  simp only [Except.bind, textOf, Utf8.decode?_eq_none_iff.mpr hbad]

/-- Which path the content is found at plays a role only for the error. -/
theorem toOption_text (hreads : fs.ReadsUtf8) (path : Path) :
    (fs.text path).toOption = (fs.content path).toOption.bind Utf8.decode? := by
  rw [hreads]
  cases fs.content path with
  | error error => rfl
  | ok content =>
      simp only [Except.bind, textOf, Except.toOption, Option.bind_some]
      cases Utf8.decode? content <;> rfl

end ReadsUtf8

end FileSystem

theorem Listing.readsUtf8 (listing : Listing) : listing.fileSystem.ReadsUtf8 :=
  FileSystem.readsUtf8_ofBytes _ _ _ _

/-! ### The operating system -/

namespace System

/-- What is documented of the two calls. A text is read from its encoding, and from no other content:
there the failure is one of invalid data. A content that cannot be read is a failure of another
kind, and reading the text fails in the same way. -/
structure ReadsTexts (system : System) : Prop where
  encoded : ∀ path text, system.content path = .ok (Utf8.encode text) →
    system.text path = .ok text
  illFormed : ∀ path content, system.content path = .ok content →
    (∀ text, content ≠ Utf8.encode text) →
      ∃ failure, system.text path = .error failure ∧ failure.kind = .invalidData
  unreadable : ∀ path failure, system.content path = .error failure →
    system.text path = .error failure ∧ failure.kind ≠ .invalidData

/-- Errors of two calls, told apart by two functions, come to what decoding the content gives. -/
theorem ReadsTexts.readsUtf8 {system : System} (hsystem : system.ReadsTexts)
    (isDir isFile : Path → Bool) (paths : Path → Except FileSystemError (List Path)) :
    (FileSystem.ofSystem system isDir isFile paths).ReadsUtf8 := by
  intro path
  simp only [FileSystem.ofSystem]
  cases hcontent : system.content path with
  | error failure =>
      obtain ⟨htext, hkind⟩ := hsystem.unreadable path failure hcontent
      simp only [htext, Except.mapError, Except.bind, SystemFailure.textError, if_neg hkind]
  | ok content =>
      cases hdecode : Utf8.decode? content with
      | some text =>
          have htext := hsystem.encoded path text (Utf8.decode?_eq_some_iff.mp hdecode ▸ hcontent)
          simp only [htext, Except.mapError, Except.bind, FileSystem.textOf, hdecode]
      | none =>
          obtain ⟨failure, htext, hkind⟩ :=
            hsystem.illFormed path content hcontent (Utf8.decode?_eq_none_iff.mp hdecode)
          simp only [htext, Except.mapError, Except.bind, SystemFailure.textError, if_pos hkind,
            FileSystem.textOf, hdecode]

end System

namespace Disk

@[simp] theorem content_system (disk : Disk) : disk.system.content = disk.read := rfl

@[simp] theorem text_system (disk : Disk) : disk.system.text = disk.readText := rfl

theorem kind_failure_ne_invalidData (fault : Fault) : fault.failure.kind ≠ .invalidData := by
  cases fault <;> decide

/-- A disk finds out at the end that a content is no text. -/
theorem readsTexts (disk : Disk) : disk.system.ReadsTexts where
  encoded path text hcontent := by
    have hdecode : Utf8.decode? (Utf8.encode text) = some text :=
      Utf8.decode?_eq_some_iff.mpr rfl
    rw [content_system] at hcontent
    rw [text_system, readText, hcontent]
    simp only [bind, Except.bind, hdecode]
  illFormed path content hcontent hbad := by
    refine ⟨⟨.invalidData, "stream did not contain valid UTF-8"⟩, ?_, rfl⟩
    rw [content_system] at hcontent
    rw [text_system, readText, hcontent]
    simp only [bind, Except.bind, Utf8.decode?_eq_none_iff.mpr hbad]
  unreadable path failure hcontent := by
    rw [content_system] at hcontent
    constructor
    · rw [text_system, readText, hcontent]
      rfl
    · unfold read at hcontent
      cases hfault : disk.content path with
      | ok content =>
          rw [hfault] at hcontent
          cases hcontent
      | error fault =>
          rw [hfault] at hcontent
          cases hcontent
          exact kind_failure_ne_invalidData fault

theorem readsUtf8 (disk : Disk) : disk.fileSystem.ReadsUtf8 :=
  disk.readsTexts.readsUtf8 disk.isDir disk.isFile disk.paths

theorem content_of_locate {disk : Disk} {path : Path} {place : List (List UInt8)}
    {content : List UInt8} (hplace : disk.locate path = .ok place)
    (hfile : find? disk.root place = some (.file content)) :
    disk.fileSystem.content path = .ok content := by
  have hnode : disk.node path = .ok (.file content) := by
    rw [node, hplace]
    simp only [bind, Except.bind, hfile]
  simp only [fileSystem, FileSystem.ofSystem, content_system, read, Disk.content, hnode, bind,
    Except.bind, Except.mapError]

theorem content_of_locate_error {disk : Disk} {path : Path} {fault : Fault}
    (hplace : disk.locate path = .error fault) :
    disk.fileSystem.content path = .error (fault.failure.error path) := by
  simp only [fileSystem, FileSystem.ofSystem, content_system, read, Disk.content, node, hplace,
    bind, Except.bind, Except.mapError]

end Disk

end SigilLookup
