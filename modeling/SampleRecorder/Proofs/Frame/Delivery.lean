import Mathlib.Data.List.Forall2
import SampleRecorder.Frame.Framer
import SampleRecorder.Proofs.Text.Decoding
import SampleRecorder.Proofs.Text.Pieces
import SampleRecorder.Proofs.Text.Size

/-!
# What is delivered

The words in which the lines of a stream are described.  `Decodes` says what bytes amount to in each encoding,
`CutsInto` in which lines a text comes and what is left of it behind the last delimiter.  None of them mentions the
framer; that its parts do just this is `decodes_iff` and `cutsInto_iff`.
-/

namespace SampleRecorder.Frame

open Text (split lastPiece Splits Trims)

/-- Whether bytes amount to a text, and to the beginning of a character behind it.  ASCII takes the low seven bits of a
byte, Latin-1 all of them. -/
def Decodes : Encoding → List UInt8 → List Char → List UInt8 → Prop
  | .utf8, bytes, text, incomplete => Text.Utf8.Lossy bytes text incomplete
  | .ascii, bytes, text, incomplete => text = bytes.map (fun b => Char.ofNat (b &&& 0x7F).toNat) ∧ incomplete = []
  | .latin1, bytes, text, incomplete => text = bytes.map (fun b => Char.ofNat b.toNat) ∧ incomplete = []

/-- Whether lines are those pieces of a text that are not blank, without the white space at their ends. -/
def Delivers (pieces : List (List Char)) (lines : List String) : Prop :=
  List.Forall₂ (fun piece line => Trims piece line.toList) (pieces.filter fun piece => !piece.all Text.isBlank) lines

/-- Whether a text comes in lines, each ended by the delimiter, with `rest` behind the last delimiter. -/
def CutsInto (delimiter text : List Char) (lines : List String) (rest : List Char) : Prop :=
  ∃ pieces, Splits delimiter text (pieces ++ [rest]) ∧ Delivers pieces lines

/-- Whether `rest` is what stands in a text behind the last delimiter. -/
def Leaves (delimiter text rest : List Char) : Prop :=
  ∃ pieces, Splits delimiter text (pieces ++ [rest])

/-! ### Bytes -/

theorem toNat_and_low (b : UInt8) : (b &&& 0x7F).toNat = b.toNat % 0x80 := by
  rw [UInt8.toNat_and]
  exact Nat.and_two_pow_sub_one_eq_mod b.toNat 7

theorem decodes_iff {e : Encoding} {bytes incomplete : List UInt8} {text : List Char} :
    Decodes e bytes text incomplete ↔ e.decode [] bytes = (text, incomplete) := by
  cases e with
  | utf8 => exact Text.Utf8.lossy_iff
  | ascii => simp only [Decodes, Encoding.decode, toNat_and_low, Prod.mk.injEq, eq_comm]
  | latin1 => simp only [Decodes, Encoding.decode, Prod.mk.injEq, eq_comm]

/-! ### Lines -/

theorem lineOf?_eq_some_iff {piece : List Char} {line : String} :
    lineOf? piece = some line ↔ Text.trim piece ≠ [] ∧ line = String.ofList (Text.trim piece) := by
  unfold lineOf?
  by_cases h : Text.trim piece = []
  · simp [h]
  · simp [h, eq_comm]

theorem trim_eq_nil_iff_all (piece : List Char) : Text.trim piece = [] ↔ piece.all Text.isBlank = true := by
  rw [Text.trim_eq_nil_iff, List.all_eq_true]

theorem delivers_iff {pieces : List (List Char)} {lines : List String} :
    Delivers pieces lines ↔ lines = pieces.filterMap lineOf? := by
  induction pieces generalizing lines with
  | nil => exact List.forall₂_nil_left_iff
  | cons piece pieces ih =>
    by_cases hblank : piece.all Text.isBlank = true
    · have hnone : lineOf? piece = none := by rw [lineOf?, if_pos ((trim_eq_nil_iff_all piece).mpr hblank)]
      rw [Delivers, List.filter_cons_of_neg (by simpa using hblank), List.filterMap_cons_none hnone]
      exact ih
    · have hline : lineOf? piece = some (String.ofList (Text.trim piece)) :=
        lineOf?_eq_some_iff.mpr ⟨fun h => hblank ((trim_eq_nil_iff_all piece).mp h), rfl⟩
      rw [Delivers, List.filter_cons_of_pos (by simpa using hblank), List.filterMap_cons_some hline,
        List.forall₂_cons_left_iff]
      constructor
      · rintro ⟨line, rest, htrims, hrest, rfl⟩
        rw [← Text.trims_iff.mp htrims, String.ofList_toList, ih.mp hrest]
      · intro h
        exact ⟨_, _, Text.trims_iff.mpr String.toList_ofList, ih.mpr rfl, h⟩

/-- The last piece is what stands behind the last delimiter. -/
theorem splits_concat_iff {delimiter text : List Char} (hd : delimiter ≠ []) {pieces : List (List Char)}
    {rest : List Char} : Splits delimiter text (pieces ++ [rest]) ↔
      pieces = (split delimiter text).dropLast ∧ rest = lastPiece delimiter text := by
  rw [Text.splits_iff hd]
  constructor
  · intro h
    rw [lastPiece, ← h, List.dropLast_concat, List.getLast?_concat]
    exact ⟨rfl, rfl⟩
  · rintro ⟨rfl, rfl⟩
    exact List.dropLast_append_getLast? _ (Text.getLast?_split delimiter text)

theorem cutsInto_iff {delimiter text : List Char} (hd : delimiter ≠ []) {lines : List String} {rest : List Char} :
    CutsInto delimiter text lines rest ↔
      lines = (split delimiter text).dropLast.filterMap lineOf? ∧ rest = lastPiece delimiter text := by
  simp only [CutsInto, splits_concat_iff hd, delivers_iff]
  constructor
  · rintro ⟨pieces, ⟨rfl, hrest⟩, hlines⟩
    exact ⟨hlines, hrest⟩
  · rintro ⟨hlines, hrest⟩
    exact ⟨_, ⟨rfl, hrest⟩, hlines⟩

theorem leaves_iff {delimiter text rest : List Char} (hd : delimiter ≠ []) :
    Leaves delimiter text rest ↔ rest = lastPiece delimiter text := by
  simp only [Leaves, splits_concat_iff hd, exists_eq_left]

theorem byteLength_eq (s : List Char) : byteLength s = (String.ofList s).utf8ByteSize := by
  have hfold (n : Nat) : s.foldl (fun n c => n + c.utf8Size) n = n + Text.bytes s := by
    induction s generalizing n with
    | nil => rfl
    | cons c s ih => rw [List.foldl_cons, ih, Text.bytes_cons, Nat.add_assoc]
  rw [byteLength, hfold, Nat.zero_add, Text.utf8ByteSize_ofList]

end SampleRecorder.Frame
