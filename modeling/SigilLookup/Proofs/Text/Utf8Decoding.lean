import Mathlib.Tactic.SplitIfs
import SigilLookup.Text.Utf8

/-!
# Decoding UTF-8

Decoding is the inverse of encoding: bytes are read as a text exactly if they are what this text is
encoded as (`Utf8.decode?_eq_some_iff`). So a sequence of bytes has at most one reading, and overlong
forms, surrogates and values that are no code points have none.

A character above U+007F is a lead byte, a second byte whose range depends on it, and continuation
bytes. `Utf8.Leads` says by numbers which two bytes may come first; everything else follows from the
number that the bytes make.
-/

namespace SigilLookup.Utf8

/-! ### Continuation bytes -/

def IsContinuation (byte : UInt8) : Prop := 0x80 ≤ byte ∧ byte ≤ 0xBF

theorem isContinuation_iff {byte : UInt8} :
    IsContinuation byte ↔ 0x80 ≤ byte.toNat ∧ byte.toNat ≤ 0xBF := by
  simp [IsContinuation, UInt8.le_iff_toNat_le]

def continuationByte (value : Nat) : UInt8 := UInt8.ofNat (0x80 + value % 64)

theorem toNat_continuationByte (value : Nat) :
    (continuationByte value).toNat = 0x80 + value % 64 := by
  apply UInt8.toNat_ofNat_of_lt'
  simp only [UInt8.size]
  omega

theorem isContinuation_continuationByte (value : Nat) :
    IsContinuation (continuationByte value) := by
  rw [isContinuation_iff, toNat_continuationByte]
  omega

/-- The number that continuation bytes make of the bits before them. -/
def gather (bits : Nat) (bytes : List UInt8) : Nat :=
  bytes.foldl (fun bits byte => bits * 64 + (byte.toNat - 0x80)) bits

@[simp] theorem gather_nil (bits : Nat) : gather bits [] = bits := List.foldl_nil

@[simp] theorem gather_cons (bits : Nat) (byte : UInt8) (bytes : List UInt8) :
    gather bits (byte :: bytes) = gather (bits * 64 + (byte.toNat - 0x80)) bytes :=
  List.foldl_cons

theorem continuation_append {front : List UInt8} (hfront : ∀ byte ∈ front, IsContinuation byte)
    (bits used : Nat) (rest : List UInt8) :
    continuation front.length bits (front ++ rest) used =
      (some (Char.ofNat (gather bits front)), used + front.length) := by
  induction front generalizing bits used with
  | nil => rfl
  | cons byte front ih =>
      obtain ⟨hbyte, hfront⟩ := List.forall_mem_cons.mp hfront
      unfold IsContinuation at hbyte
      rw [List.length_cons, List.cons_append, continuation, if_pos hbyte, ih hfront, gather_cons,
        Nat.add_assoc, Nat.add_comm 1]

theorem exists_of_continuation {more bits used count : Nat} {bytes : List UInt8} {c : Char}
    (hread : continuation more bits bytes used = (some c, count)) :
    ∃ front rest, bytes = front ++ rest ∧ front.length = more ∧
      (∀ byte ∈ front, IsContinuation byte) ∧ c = Char.ofNat (gather bits front) ∧
      count = used + more := by
  induction more generalizing bits used bytes with
  | zero =>
      cases hread
      exact ⟨[], bytes, rfl, rfl, by simp, rfl, rfl⟩
  | succ more ih =>
      cases bytes with
      | nil => cases hread
      | cons byte bytes =>
          rw [continuation] at hread
          split at hread
          case isFalse => cases hread
          case isTrue hbyte =>
            obtain ⟨front, rest, rfl, hmore, hfront, hc, hcount⟩ := ih hread
            refine ⟨byte :: front, rest, rfl, congrArg (· + 1) hmore,
              List.forall_mem_cons.mpr ⟨hbyte, hfront⟩, ?_, ?_⟩
            · rw [gather_cons, hc]
            · rw [hcount]
              omega

/-! ### Lead bytes -/

/-- The first two bytes of a character, by numbers: the bits that the lead byte contributes, and how
many bytes follow the second one. The least lead bytes leave out what has a shorter form, the byte
for the surrogates leaves these out, and the greatest one stops at the last code point. -/
structure Leads (lead second : UInt8) (bits more : Nat) : Prop where
  second_mem : 0x80 ≤ second.toNat ∧ second.toNat ≤ 0xBF
  lead_mem :
    (more = 0 ∧ lead.toNat = 0xC0 + bits ∧ 2 ≤ bits ∧ bits < 32) ∨
    (more = 1 ∧ lead.toNat = 0xE0 + bits ∧ bits < 16 ∧
      (bits = 0 → 0xA0 ≤ second.toNat) ∧ (bits = 13 → second.toNat < 0xA0)) ∨
    (more = 2 ∧ lead.toNat = 0xF0 + bits ∧ bits < 5 ∧
      (bits = 0 → 0x90 ≤ second.toNat) ∧ (bits = 4 → second.toNat < 0x90))

theorem leads_iff {lead second : UInt8} {bits more : Nat} :
    Leads lead second bits more ↔
      ∃ low high, leadShape lead = some (bits, low, high, more) ∧ low ≤ second ∧
        second ≤ high := by
  unfold leadShape
  simp only [UInt8.le_iff_toNat_le, ← UInt8.toNat_inj, UInt8.reduceToNat]
  constructor
  · rintro ⟨hsecond, hlead⟩
    split_ifs
    all_goals
      simp only [Option.some.injEq, Prod.mk.injEq, false_and, exists_const]
    -- the lead byte decides which shape it is, and the others are out of range
    all_goals
      first
      | omega
      | refine ⟨_, _, ⟨by omega, rfl, rfl, by omega⟩, ?_, ?_⟩ <;>
          simp only [UInt8.reduceToNat] <;> omega
  · rintro ⟨low, high, hshape, hlow, hhigh⟩
    split_ifs at hshape
    all_goals
      simp only [Option.some.injEq, Prod.mk.injEq] at hshape
      obtain ⟨rfl, rfl, rfl, rfl⟩ := hshape
      simp only [UInt8.reduceToNat] at hlow hhigh
      constructor <;> omega

theorem toNat_val_ofNat {value : Nat} (hvalid : value.isValidChar) :
    (Char.ofNat value).val.toNat = value := by
  rw [Char.ofNat, dif_pos hvalid]
  rfl

/-- The bytes that make a number are the encoding of its character. -/
theorem utf8EncodeChar_of_leads {lead second : UInt8} {bits : Nat} {front : List UInt8}
    (hleads : Leads lead second bits front.length)
    (hfront : ∀ byte ∈ front, IsContinuation byte) :
    String.utf8EncodeChar (Char.ofNat (gather bits (second :: front))) =
      lead :: second :: front := by
  obtain ⟨hsecond, hlead⟩ := hleads
  simp only [isContinuation_iff] at hfront
  rcases hlead with ⟨hmore, hlead⟩ | ⟨hmore, hlead⟩ | ⟨hmore, hlead⟩
  · obtain rfl := List.length_eq_zero_iff.mp hmore
    simp only [gather_cons, gather_nil]
    have hvalid : (bits * 64 + (second.toNat - 0x80)).isValidChar := .inl (by omega)
    rw [String.utf8EncodeChar.eq_1, toNat_val_ofNat hvalid, if_neg (by omega), if_pos (by omega)]
    simp only [List.cons.injEq, ← UInt8.toNat_inj, UInt8.toNat_ofNat', and_true]
    omega
  · obtain ⟨third, rfl⟩ := List.length_eq_one_iff.mp hmore
    have hthird := hfront third List.mem_cons_self
    simp only [gather_cons, gather_nil]
    have hvalid :
        ((bits * 64 + (second.toNat - 0x80)) * 64 + (third.toNat - 0x80)).isValidChar := by
      unfold Nat.isValidChar
      omega
    rw [String.utf8EncodeChar.eq_1, toNat_val_ofNat hvalid, if_neg (by omega), if_neg (by omega),
      if_pos (by omega)]
    simp only [List.cons.injEq, ← UInt8.toNat_inj, UInt8.toNat_ofNat', and_true]
    omega
  · obtain ⟨third, last, rfl⟩ := List.exists_cons_of_length_eq_add_one hmore
    obtain ⟨fourth, rfl⟩ := List.length_eq_one_iff.mp (Nat.succ.inj hmore)
    have hthird := hfront third List.mem_cons_self
    have hfourth := hfront fourth (List.mem_cons_of_mem third List.mem_cons_self)
    simp only [gather_cons, gather_nil]
    have hvalid : (((bits * 64 + (second.toNat - 0x80)) * 64 + (third.toNat - 0x80)) * 64 +
        (fourth.toNat - 0x80)).isValidChar := .inr (by omega)
    rw [String.utf8EncodeChar.eq_1, toNat_val_ofNat hvalid, if_neg (by omega), if_neg (by omega),
      if_neg (by omega)]
    simp only [List.cons.injEq, ← UInt8.toNat_inj, UInt8.toNat_ofNat', and_true]
    omega

/-- Every character above U+007F is made by bytes. -/
theorem exists_leads {c : Char} (hc : 0x80 ≤ c.toNat) :
    ∃ lead second bits front, Leads lead second bits front.length ∧
      (∀ byte ∈ front, IsContinuation byte) ∧ gather bits (second :: front) = c.toNat := by
  have hvalid : c.toNat < 0xD800 ∨ 0xDFFF < c.toNat ∧ c.toNat < 0x110000 := c.valid
  have hlead {value : Nat} (hvalue : value < 0x100) : (UInt8.ofNat value).toNat = value :=
    UInt8.toNat_ofNat_of_lt' hvalue
  rcases Nat.lt_or_ge c.toNat 0x800 with hshort | hlong
  · refine ⟨.ofNat (0xC0 + c.toNat / 64), continuationByte c.toNat, c.toNat / 64, [], ?_, by simp,
      ?_⟩
    · constructor
      · rw [toNat_continuationByte]
        omega
      · rw [toNat_continuationByte, hlead (by omega), List.length_nil]
        omega
    · simp only [gather_cons, gather_nil, toNat_continuationByte]
      omega
  · rcases Nat.lt_or_ge c.toNat 0x10000 with hmiddle | hlong
    · refine ⟨.ofNat (0xE0 + c.toNat / 4096), continuationByte (c.toNat / 64), c.toNat / 4096,
        [continuationByte c.toNat], ?_, by simp [isContinuation_continuationByte], ?_⟩
      · constructor
        · rw [toNat_continuationByte]
          omega
        · rw [toNat_continuationByte, hlead (by omega), List.length_singleton]
          omega
      · simp only [gather_cons, gather_nil, toNat_continuationByte]
        omega
    · refine ⟨.ofNat (0xF0 + c.toNat / 262144), continuationByte (c.toNat / 4096),
        c.toNat / 262144, [continuationByte (c.toNat / 64), continuationByte c.toNat], ?_,
        by simp [isContinuation_continuationByte], ?_⟩
      · constructor
        · rw [toNat_continuationByte]
          omega
        · rw [toNat_continuationByte, hlead (by omega), List.length_cons, List.length_singleton]
          omega
      · simp only [gather_cons, gather_nil, toNat_continuationByte]
        omega

/-! ### Characters -/

theorem utf8EncodeChar_of_lt {c : Char} (hc : c.toNat < 0x80) :
    String.utf8EncodeChar c = [UInt8.ofNat c.toNat] := by
  rw [String.utf8EncodeChar.eq_1]
  exact if_pos (Nat.le_of_lt_succ hc)

/-- The bytes of a character are read as this character, whatever follows them. -/
theorem exists_piece_of_encodeChar (c : Char) :
    ∃ lead front, String.utf8EncodeChar c = lead :: front ∧
      ∀ rest, piece lead (front ++ rest) = (some c, front.length) := by
  rcases Nat.lt_or_ge c.toNat 0x80 with hc | hc
  · have hlead : (UInt8.ofNat c.toNat).toNat = c.toNat :=
      UInt8.toNat_ofNat_of_lt' (Nat.lt_trans hc (by decide))
    refine ⟨UInt8.ofNat c.toNat, [], utf8EncodeChar_of_lt hc, ?_⟩
    intro rest
    have hlow : UInt8.ofNat c.toNat < 0x80 := by
      rw [UInt8.lt_iff_toNat_lt, hlead]
      exact hc
    unfold piece
    rw [if_pos hlow, hlead, Char.ofNat_toNat, List.length_nil]
  · obtain ⟨lead, second, bits, front, hleads, hfront, hvalue⟩ := exists_leads hc
    have hbytes := utf8EncodeChar_of_leads hleads hfront
    rw [hvalue, Char.ofNat_toNat] at hbytes
    refine ⟨lead, second :: front, hbytes, ?_⟩
    intro rest
    have hhigh : ¬ lead < 0x80 := by
      intro hlow
      have hlead := hleads.lead_mem
      have hlow : lead.toNat < 0x80 := UInt8.lt_iff_toNat_lt.mp hlow
      omega
    obtain ⟨low, high, hshape, hrange⟩ := leads_iff.mp hleads
    unfold piece
    simp only [if_neg hhigh, hshape, List.cons_append, if_pos hrange]
    rw [continuation_append hfront, ← gather_cons, hvalue, Char.ofNat_toNat, List.length_cons,
      Nat.add_comm 1]

/-- What is read as a character are the bytes of this character. -/
theorem encodeChar_of_piece {lead : UInt8} {bytes : List UInt8} {c : Char} {used : Nat}
    (hpiece : piece lead bytes = (some c, used)) :
    lead :: bytes.take used = String.utf8EncodeChar c := by
  unfold piece at hpiece
  split at hpiece
  case isTrue hlow =>
    cases hpiece
    have hlead : lead.toNat < 0x80 := UInt8.lt_iff_toNat_lt.mp hlow
    have hc : (Char.ofNat lead.toNat).toNat = lead.toNat :=
      toNat_val_ofNat (.inl (Nat.lt_trans hlead (by decide)))
    rw [utf8EncodeChar_of_lt (by rw [hc]; exact hlead), hc, UInt8.ofNat_toNat, List.take_zero]
  case isFalse =>
    split at hpiece
    case h_2 => cases hpiece
    case h_1 bits low high more second tail hshape =>
      split at hpiece
      case isFalse => cases hpiece
      case isTrue hrange =>
        obtain ⟨front, rest, rfl, rfl, hfront, rfl, rfl⟩ := exists_of_continuation hpiece
        have hleads : Leads lead second bits front.length :=
          leads_iff.mpr ⟨low, high, hshape, hrange⟩
        rw [Nat.add_comm, List.take_succ_cons, List.take_left, ← gather_cons,
          utf8EncodeChar_of_leads hleads hfront]

/-! ### Texts -/

theorem pieces_encodeChar_append (c : Char) (rest : List UInt8) :
    pieces (String.utf8EncodeChar c ++ rest) = some c :: pieces rest := by
  obtain ⟨lead, front, hbytes, hpiece⟩ := exists_piece_of_encodeChar c
  rw [hbytes, List.cons_append, pieces, hpiece, List.drop_left]

theorem pieces_encode (text : String) : pieces (encode text) = text.toList.map some := by
  unfold encode
  induction text.toList with
  | nil => simp [pieces]
  | cons c rest ih => rw [List.flatMap_cons, pieces_encodeChar_append, ih, List.map_cons]

/-- Bytes without ill-formed stretches encode their characters. -/
theorem flatMap_of_pieces {bytes : List UInt8} {chars : List Char}
    (hpieces : pieces bytes = chars.map some) : bytes = chars.flatMap String.utf8EncodeChar := by
  induction chars generalizing bytes with
  | nil =>
      cases bytes with
      | nil => rfl
      | cons lead rest =>
          rw [pieces] at hpieces
          cases hpieces
  | cons c chars ih =>
      cases bytes with
      | nil => simp [pieces] at hpieces
      | cons lead rest =>
          rw [pieces, List.map_cons, List.cons.injEq] at hpieces
          obtain ⟨hchar, hrest⟩ := hpieces
          have hpiece : piece lead rest = (some c, (piece lead rest).2) := Prod.ext hchar rfl
          rw [List.flatMap_cons, ← encodeChar_of_piece hpiece, ← ih hrest, List.cons_append,
            List.take_append_drop]

theorem mapM_id_eq_some_iff {α : Type} {pieces : List (Option α)} {values : List α} :
    pieces.mapM id = some values ↔ pieces = values.map some := by
  induction pieces generalizing values with
  | nil => cases values <;> simp
  | cons piece rest ih =>
      rw [List.mapM_cons]
      cases piece with
      | none => cases values <;> simp
      | some value =>
          cases values with
          | nil => simp [Option.bind_eq_some_iff]
          | cons first others => simpa [Option.bind_eq_some_iff, ih] using and_comm

/-- Bytes are read as a text exactly if they are its encoding. -/
theorem decode?_eq_some_iff {bytes : List UInt8} {text : String} :
    decode? bytes = some text ↔ bytes = encode text := by
  simp only [decode?, Option.map_eq_some_iff, mapM_id_eq_some_iff]
  constructor
  · rintro ⟨chars, hpieces, rfl⟩
    rw [encode, String.toList_ofList]
    exact flatMap_of_pieces hpieces
  · rintro rfl
    exact ⟨text.toList, pieces_encode text, String.ofList_toList⟩

/-- Bytes that cannot be read are the encoding of no text. -/
theorem decode?_eq_none_iff {bytes : List UInt8} :
    decode? bytes = none ↔ ∀ text, bytes ≠ encode text := by
  simp only [Option.eq_none_iff_forall_ne_some, ne_eq, decode?_eq_some_iff]

/-! ### Decoding with replacements -/

/-- Where nothing is ill formed, nothing is replaced. -/
theorem decodeLossy_encode (text : String) : decodeLossy (encode text) = text := by
  rw [decodeLossy, pieces_encode, List.map_map]
  change String.ofList (text.toList.map id) = text
  rw [List.map_id, String.ofList_toList]

theorem mapM_id_eq_none_iff {α : Type} {pieces : List (Option α)} :
    pieces.mapM id = none ↔ none ∈ pieces := by
  induction pieces with
  | nil => simp
  | cons piece rest ih =>
      rw [List.mapM_cons]
      cases piece with
      | none => simp
      | some value => cases hrest : rest.mapM id <;> simpa [hrest] using ih

/-- Where something is ill formed, a replacement stands for it. -/
theorem replacement_mem_decodeLossy {bytes : List UInt8} (hbad : ∀ text, bytes ≠ encode text) :
    '\uFFFD' ∈ (decodeLossy bytes).toList := by
  have hnone : none ∈ pieces bytes := by
    have hdecode := decode?_eq_none_iff.mpr hbad
    rwa [decode?, Option.map_eq_none_iff, mapM_id_eq_none_iff] at hdecode
  rw [decodeLossy, String.toList_ofList]
  exact List.mem_map.mpr ⟨none, hnone, rfl⟩

end SigilLookup.Utf8
