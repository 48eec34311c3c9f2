import SampleRecorder.Proofs.Frame.Bounds

/-!
# Decoding what was encoded

Text comes back from its bytes.  In UTF-8 every text does, since the bytes of a character are decoded to it and leave
nothing over (`decode_encodeChar`); the encodings with one byte for a character give back those characters that they
have (`Encoding.Carries`).  Where the bytes are cut makes no difference, so a framer that is given them in chunks takes
the text and no more (`texts_of_chunks`).
-/

namespace SampleRecorder

namespace Frame

namespace Encoding

/-- Whether an encoding has bytes for a character. -/
def Carries : Encoding → Char → Prop
  | utf8, _ => True
  | ascii, c => c.toNat < 0x80
  | latin1, c => c.toNat < 0x100

theorem toNat_ofNat_of_lt {n : Nat} (h : n < 0x100) : (Char.ofNat n).toNat = n :=
  Text.Utf8.toNat_ofNat_of_valid (.inl (by omega))

/-- A character comes back from its byte exactly if the encoding has it. -/
theorem ascii_back_iff (c : Char) :
    Char.ofNat ((UInt8.ofNat (c.toNat % 0x80)).toNat % 0x80) = c ↔ ascii.Carries c := by
  have hbyte : (UInt8.ofNat (c.toNat % 0x80)).toNat % 0x80 = c.toNat % 0x80 := by
    rw [UInt8.toNat_ofNat']
    omega
  rw [hbyte, Carries]
  constructor
  · intro h
    have := congrArg Char.toNat h
    rw [toNat_ofNat_of_lt (by omega)] at this
    omega
  · intro h
    rw [Nat.mod_eq_of_lt h, Char.ofNat_toNat]

theorem latin1_back_iff (c : Char) :
    Char.ofNat (if c.toNat < 0x100 then UInt8.ofNat c.toNat else 0x3F).toNat = c ↔ latin1.Carries c := by
  rw [Carries]
  by_cases h : c.toNat < 0x100
  · have hbyte : (UInt8.ofNat c.toNat).toNat = c.toNat := by
      rw [UInt8.toNat_ofNat']
      omega
    simp only [h, ↓reduceIte, hbyte, Char.ofNat_toNat]
  -- the byte of the question mark stands for no other character
  · simp only [h, ↓reduceIte, iff_false]
    rintro rfl
    exact h (by decide)

theorem map_eq_self_iff {f : Char → Char} {text : List Char} : text.map f = text ↔ ∀ c ∈ text, f c = c := by
  have h := List.map_inj_left (f := f) (g := id) (l := text)
  rwa [List.map_id] at h

/-- Exactly the texts that an encoding has come back from their bytes, and no bytes are left over. -/
theorem decode_encode_iff (e : Encoding) (text : List Char) :
    ((e.decode [] (e.encode text)).1 = text ↔ ∀ c ∈ text, e.Carries c) ∧ (e.decode [] (e.encode text)).2 = [] := by
  cases e with
  | utf8 =>
    have h := Text.Utf8.decode_encode text
    simp [decode, encode, h, Carries]
  | ascii =>
    refine ⟨?_, rfl⟩
    rw [decode, encode, List.map_map, map_eq_self_iff]
    exact forall₂_congr fun c _ => ascii_back_iff c
  | latin1 =>
    refine ⟨?_, rfl⟩
    rw [decode, encode, List.map_map, map_eq_self_iff]
    exact forall₂_congr fun c _ => latin1_back_iff c

/-- In Latin-1 every byte stands for a character. -/
theorem encode_decode_latin1 (pending bytes : List UInt8) : latin1.encode (latin1.decode pending bytes).1 = bytes := by
  have hback (b : UInt8) :
      (if (Char.ofNat b.toNat).toNat < 0x100 then UInt8.ofNat (Char.ofNat b.toNat).toNat else 0x3F) = b := by
    have hb := b.toNat_lt
    rw [toNat_ofNat_of_lt hb, if_pos hb, UInt8.ofNat_toNat]
  simp only [decode, encode, List.map_map, Function.comp_def, hback, List.map_id']

theorem flatten_texts_bytes (e : Encoding) (pending : List UInt8) (chunks : List (List UInt8)) :
    (Push.texts e pending (chunks.map .bytes)).flatten = (e.decode pending chunks.flatten).1 := by
  induction chunks generalizing pending with
  | nil => rw [List.flatten_nil, e.decode_nil]; rfl
  | cons bytes chunks ih =>
    rw [List.flatten_cons, e.decode_append, ← ih]
    rfl

end Encoding

namespace Framer

/-! ### Chunks -/

/-- The framer with other bytes pending. -/
def withPending (f : Framer) (pending : List UInt8) : Framer :=
  { f with pending }

theorem encoding_push (f : Framer) (p : Push) : (f.push p).2.encoding = f.encoding := by
  rw [push_eq f p rfl]

theorem pending_push (f : Framer) (p : Push) : (f.push p).2.pending = (p.decode f.encoding f.pending).2 := by
  rw [push_eq f p rfl]
  rfl

/-- A push is the push of the text that it is decoded to, but for what is left pending. -/
theorem push_text_decode (f : Framer) (pending : List UInt8) (p : Push) :
    (f.withPending pending).push (.text (p.decode f.encoding f.pending).1) =
      ((f.push p).1, (f.push p).2.withPending pending) := by
  rw [push_eq f p rfl, push_eq _ (.text _) rfl]
  rfl

theorem lines_texts (f : Framer) (pending : List UInt8) (pushes : List Push) :
    (f.withPending pending).lines ((Push.texts f.encoding f.pending pushes).map .text) = f.lines pushes := by
  induction pushes generalizing f with
  | nil => rfl
  | cons p pushes ih =>
    have hrest := ih (f.push p).2
    rw [encoding_push, pending_push] at hrest
    rw [Push.texts, List.map_cons, lines, push_text_decode, hrest, lines]

theorem after_texts (f : Framer) (pending : List UInt8) (pushes : List Push) :
    (f.withPending pending).after ((Push.texts f.encoding f.pending pushes).map fun s => .push (.text s)) =
      (f.after (pushes.map .push)).withPending pending := by
  induction pushes generalizing f with
  | nil => rfl
  | cons p pushes ih =>
    have hrest := ih (f.push p).2
    rw [encoding_push, pending_push] at hrest
    rw [Push.texts, List.map_cons, after, List.foldl_cons, Op.apply, push_text_decode]
    exact hrest

theorem pending_after_bytes (f : Framer) (chunks : List (List UInt8)) :
    (f.after (chunks.map fun bytes => .push (.bytes bytes))).pending =
      (f.encoding.decode f.pending chunks.flatten).2 := by
  induction chunks generalizing f with
  | nil => rw [List.flatten_nil, f.encoding.decode_nil]; rfl
  | cons bytes chunks ih =>
    have hrest := ih (f.push (.bytes bytes)).2
    rw [encoding_push, pending_push] at hrest
    rw [List.flatten_cons, f.encoding.decode_append]
    exact hrest

/-- A framer takes chunks of bytes as the texts that they are decoded to.  If the bytes are those of a text, then these
texts make it up, exactly if the encoding has its characters, and no bytes are left pending.  In Latin-1 any bytes come
back from these texts. -/
theorem texts_of_chunks (f : Framer) (hf : f.pending = []) (chunks : List (List UInt8)) :
    let texts := Push.texts f.encoding f.pending (chunks.map .bytes)
    let fed := f.after (chunks.map fun bytes => .push (.bytes bytes))
    f.lines (chunks.map .bytes) = f.lines (texts.map .text) ∧
      fed.withPending [] = f.after (texts.map fun s => .push (.text s)) ∧
      (∀ text, chunks.flatten = f.encoding.encode text →
        (texts.flatten = text ↔ ∀ c ∈ text, f.encoding.Carries c) ∧ fed.pending = []) ∧
      (f.encoding = .latin1 → f.encoding.encode texts.flatten = chunks.flatten) := by
  intro texts fed
  have hsame : f.withPending [] = f := by rw [← hf]; rfl
  have hlines := lines_texts f [] (chunks.map .bytes)
  have hafter := after_texts f [] (chunks.map .bytes)
  rw [hsame] at hlines hafter
  rw [List.map_map] at hafter
  have htexts : texts.flatten = (f.encoding.decode [] chunks.flatten).1 := by
    rw [← hf]
    exact f.encoding.flatten_texts_bytes f.pending chunks
  refine ⟨hlines.symm, hafter.symm, fun text htext => ?_, fun hlatin => ?_⟩
  · obtain ⟨hback, hleft⟩ := f.encoding.decode_encode_iff text
    refine ⟨?_, ?_⟩
    · rw [htexts, htext]
      exact hback
    · rw [pending_after_bytes, hf, htext]
      exact hleft
  · rw [htexts, hlatin]
    exact Encoding.encode_decode_latin1 [] chunks.flatten

/-- Chunks that are cut inside characters of two, three and four bytes. -/
theorem texts_of_chunks_cut :
    let f := new "\n" .utf8
    let chunks : List (List UInt8) := [[0xC3], [0xA9, 0xE2], [0x82], [0xAC, 0xF0, 0x9F], [], [0x98, 0x80, 0x0A]]
    let texts := Push.texts f.encoding f.pending (chunks.map .bytes)
    f.pending = [] ∧ chunks.flatten = f.encoding.encode "é€😀\n".toList ∧
      texts.flatten = "é€😀\n".toList ∧
      (f.after (chunks.map fun bytes => .push (.bytes bytes))).pending = [] ∧
      f.lines (chunks.map .bytes) = f.lines (texts.map .text) := by
  intro f chunks texts
  have hbytes : chunks.flatten = f.encoding.encode "é€😀\n".toList := by decide +kernel
  obtain ⟨hlines, -, hback, -⟩ := texts_of_chunks f rfl chunks
  obtain ⟨htexts, hpending⟩ := hback _ hbytes
  exact ⟨rfl, hbytes, htexts.mpr fun _ _ => trivial, hpending, hlines⟩

end Framer

end Frame

end SampleRecorder
