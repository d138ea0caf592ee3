import SigilLookup.Proofs.Value.RoundTrip
import SigilLookup.Value

/-!
# Serialized values

The text of a value is a JSON document, and reading it gives the data of the value back. The content
of a file is written as the array of its bytes, so it reads as data; this array is the only data that
has the text of a content, and apart from it no two values have one text.

What is shown to a reader is the same text, except that a string is shown as it is.
-/

namespace SigilLookup.Value

/-- The value is the content of a file, or data that its text gives back. -/
def Exact : Value → Prop
  | .json payload => payload.Exact 127
  | .bytes _ => True

/-- One of the values is the content of a file, and the other one is the array of its bytes. -/
def Overlap : Value → Value → Prop
  | .bytes content, .json payload => payload = byteArray content
  | .json payload, .bytes content => payload = byteArray content
  | _, _ => False

theorem exact_byteArray (depth : Nat) (content : List UInt8) :
    (byteArray content).Exact (depth + 1) := by
  apply Json.Exact.arr
  intro item hitem
  obtain ⟨byte, -, rfl⟩ := List.mem_map.mp hitem
  exact .int _ _

theorem Exact.toJson {value : Value} (hexact : value.Exact) : value.toJson.Exact 127 := by
  cases value with
  | json payload => exact hexact
  | bytes content => exact exact_byteArray 126 content

/-- The value is read back as its data. -/
theorem Exact.read?_serialized {value : Value} (hexact : value.Exact) :
    DocumentFormat.json.read? value.serialized = some value.toJson :=
  Json.read?_compact hexact.toJson

theorem byteArray_injective {first second : List UInt8}
    (harray : byteArray first = byteArray second) : first = second := by
  have hbyte (one two : UInt8) (heq : Json.num (.ofUInt8 one) = .num (.ofUInt8 two)) :
      one = two := by
    simp only [Number.ofUInt8, Json.num.injEq, Number.int.injEq, Int.ofNat_inj] at heq
    exact UInt8.toNat_inj.mp heq
  exact (List.map_inj_right hbyte).mp (Json.arr.inj harray)

theorem toJson_eq_iff {first second : Value} :
    first.toJson = second.toJson ↔ first = second ∨ Overlap first second := by
  cases first with
  | json payload =>
      cases second with
      | json other => simp [Value.toJson, Overlap]
      | bytes content => simp [Value.toJson, Overlap]
  | bytes content =>
      cases second with
      | json payload => simp [Value.toJson, Overlap, eq_comm]
      | bytes other =>
          simp only [Value.toJson, Overlap, or_false, bytes.injEq]
          constructor
          · exact byteArray_injective
          · rintro rfl
            rfl

/-- What has one text reads as the same data. -/
theorem serialized_eq_iff {first second : Value} (hfirst : first.Exact) (hsecond : second.Exact) :
    first.serialized = second.serialized ↔ first = second ∨ Overlap first second := by
  rw [← toJson_eq_iff]
  constructor
  · intro htext
    have hread := hfirst.read?_serialized
    rw [htext, hsecond.read?_serialized] at hread
    exact (Option.some_inj.mp hread).symm
  · intro hdata
    rw [serialized, serialized, hdata]

theorem display_of_ne_str {payload : Json} (hstring : ∀ text, payload ≠ .str text) :
    (json payload).display = (json payload).serialized := by
  cases payload with
  | str text => exact absurd rfl (hstring text)
  | _ => rfl

end SigilLookup.Value

namespace SigilLookup

/-- Reading the text of a value gives its data back, and a content comes back as the array of its
bytes. So two values have one text only if they are equal or overlap in this way. Data other than
strings is shown by its text, too; a string is shown as it is, and its text is the quoted form. -/
theorem serialized_values_read_back :
    (∀ payload : Json, payload.Exact 127 →
      DocumentFormat.json.read? (Value.json payload).serialized = some payload) ∧
    (∀ content,
      DocumentFormat.json.read? (Value.bytes content).serialized =
        some (.arr (content.map fun byte => .num (.ofUInt8 byte)))) ∧
    (∀ first second : Value, first.Exact → second.Exact →
      (first.serialized = second.serialized ↔ first = second ∨ Value.Overlap first second)) ∧
    (∀ payload : Json, payload.Exact 127 → (∀ text, payload ≠ .str text) →
      (Value.json payload).display = (Value.json payload).serialized ∧
        DocumentFormat.json.read? (Value.json payload).display = some payload) ∧
    ∀ text, (Value.string text).display = text ∧
      (Value.string text).serialized = String.ofList (Json.quotedChars text.toList) := by
  have hjson (payload : Json) (hexact : payload.Exact 127) :
      DocumentFormat.json.read? (Value.json payload).serialized = some payload :=
    Value.Exact.read?_serialized (show (Value.json payload).Exact from hexact)
  refine ⟨hjson, ?_, ?_, ?_, ?_⟩
  · intro content
    exact Value.Exact.read?_serialized (show (Value.bytes content).Exact from trivial)
  · intro first second hfirst hsecond
    exact Value.serialized_eq_iff hfirst hsecond
  · intro payload hexact hstring
    rw [Value.display_of_ne_str hstring]
    exact ⟨rfl, hjson payload hexact⟩
  · intro text
    refine ⟨rfl, ?_⟩
    rw [Value.serialized, Value.string, Value.toJson, Json.compact, Json.compactChars]

/-- Data of every kind, with a name and a text that need escapes and both ends of the words. -/
def Value.nested : Json :=
  .obj [("", .arr [.num (.int (-0x8000000000000000) (by decide)), .arr [], .obj [], .null]),
    ("\n", .num (.int 0xFFFFFFFFFFFFFFFF (by decide))),
    ("a", .str "\"\\\x01é"), ("b", .bool true)]

theorem Value.exact_nested : nested.Exact 127 := by
  have hitems : Json.Exact 126
      (.arr [.num (.int (-0x8000000000000000) (by decide)), .arr [], .obj [], .null]) := by
    apply Json.Exact.arr
    simp only [List.mem_cons, List.not_mem_nil, or_false, forall_eq_or_imp, forall_eq]
    exact ⟨.int _ _, .arr (by simp), .obj .nil (by simp), .null⟩
  apply Json.Exact.obj
  · unfold Members.Ascending Entries.names
    decide
  · simp only [List.mem_cons, List.not_mem_nil, or_false, forall_eq_or_imp, forall_eq]
    exact ⟨hitems, .int _ _, .str _, .bool true⟩

theorem serialized_values_read_back_nested :
    Value.nested.Exact 127 ∧
    DocumentFormat.json.read? (Value.json Value.nested).serialized = some Value.nested ∧
    (Value.json Value.nested).display = (Value.json Value.nested).serialized ∧
    (Value.bytes [0, 255]).serialized = (Value.json (Value.byteArray [0, 255])).serialized ∧
    (Value.bytes [0]).serialized ≠ (Value.json Value.nested).serialized := by
  obtain ⟨hread, -, hsame, hdisplay, -⟩ := serialized_values_read_back
  have harray : (Value.json (Value.byteArray [0, 255])).Exact := Value.exact_byteArray 126 [0, 255]
  refine ⟨Value.exact_nested, hread _ Value.exact_nested, ?_, ?_, ?_⟩
  · refine (hdisplay _ Value.exact_nested ?_).1
    intro text heq
    cases heq
  · exact (hsame (.bytes [0, 255]) (.json (Value.byteArray [0, 255])) trivial harray).mpr (.inr rfl)
  · intro htext
    rcases (hsame (.bytes [0]) (.json Value.nested) trivial Value.exact_nested).mp htext with
      heq | hoverlap
    · cases heq
    · cases hoverlap

end SigilLookup
