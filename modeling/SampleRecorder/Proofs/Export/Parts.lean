import SampleRecorder.Proofs.Export.Columns
import SampleRecorder.Proofs.Export.Filling
import SampleRecorder.Proofs.Text.Trim

/-!
# The parts of a template

A template is taken apart without loss, and the row of a sample is the template with all placeholders filled in
(`Template.fills_compile`).  `Divides` follows the way through the template, one placeholder after the other, and every
property of the parts is an induction over it.
-/

namespace SampleRecorder.Export

/-! ### Dividing a template -/

/-- The parts of a text up to the end of its first placeholder; one without a name is text. -/
def piece (before name : List Char) : List Part :=
  if name = [] then [.text (before ++ placeholder [])] else Part.ofText before ++ [.placeholder name]

/-- How a template comes apart into parts, and whether a placeholder is left open. -/
inductive Divides : List Char → List Part → Bool → Prop
  | plain {s : List Char} (hopen : Text.cut? opening s = none) : Divides s (Part.ofText s) false
  | unclosed {s before after : List Char} (hopen : Text.cut? opening s = some (before, after))
    (hclose : '\x7d' ∉ after) :
    Divides s [.text s] true
  | closed {s before name rest : List Char} {ps : List Part} {isOpen : Bool}
    (hopen : Text.cut? opening s = some (before, name ++ '\x7d' :: rest)) (hbrace : '\x7d' ∉ name)
    (h : Divides rest ps isOpen) : Divides s (piece before name ++ ps) isOpen

theorem cut?_brace_eq_none {s : List Char} (h : Text.cut? ['\x7d'] s = none) : '\x7d' ∉ s := by
  intro hmem
  obtain ⟨a, b, rfl⟩ := List.append_of_mem hmem
  exact Text.cut?_eq_none_iff.mp h ⟨a, b, by simp⟩

theorem cut?_brace_eq_some {s name rest : List Char} (h : Text.cut? ['\x7d'] s = some (name, rest)) :
    s = name ++ '\x7d' :: rest ∧ '\x7d' ∉ name := by
  refine ⟨by simpa using Text.eq_of_cut?_eq_some h, fun hmem => ?_⟩
  obtain ⟨a, b, rfl⟩ := List.append_of_mem hmem
  exact Text.not_isPrefix_of_cut? h ⟨_, rfl⟩

theorem divides_parts (s : List Char) : Divides s (parts s).1 (parts s).2 := by
  fun_induction parts s with
  | case1 s hopen => exact .plain hopen
  | case2 s before after hopen hclose => exact .unclosed hopen (cut?_brace_eq_none hclose)
  | case3 s before after hopen rest more isOpen hrest hclose _ ih =>
    obtain ⟨rfl, hbrace⟩ := cut?_brace_eq_some hclose
    rw [hrest] at ih
    have hpiece : piece before [] = [.text (before ++ opening ++ ['\x7d'])] := by simp [piece, placeholder]
    have h := Divides.closed hopen hbrace ih
    rwa [hpiece] at h
  | case4 s before after hopen name rest hclose _ more isOpen hrest hname ih =>
    obtain ⟨rfl, hbrace⟩ := cut?_brace_eq_some hclose
    rw [hrest] at ih
    have h := Divides.closed hopen hbrace ih
    rwa [piece, if_neg hname, List.append_assoc] at h

variable {value : List Char → Option (List Char)} {s before after name rest : List Char} {ps : List Part} {isOpen : Bool}

/-- Where a template is cut, the first placeholder is in front of the rest. -/
theorem eq_of_cut?_closed (h : Text.cut? opening s = some (before, name ++ '\x7d' :: rest)) :
    s = before ++ (placeholder name ++ rest) := by
  rw [Text.eq_of_cut?_eq_some h, List.append_assoc]
  simp [placeholder]

/-! ### Names -/

theorem mem_piece (h : .placeholder name ∈ piece before rest) : name = rest ∧ rest ≠ [] := by
  unfold piece at h
  split at h
  · cases List.mem_singleton.mp h
  · next hrest =>
    rcases List.mem_append.mp h with h | h
    · unfold Part.ofText at h
      split at h
      · cases h
      · cases List.mem_singleton.mp h
    · cases List.mem_singleton.mp h
      exact ⟨rfl, hrest⟩

/-- The name of a placeholder is not empty and ends with the first closing brace. -/
theorem Divides.isName (h : Divides s ps isOpen) (hname : .placeholder name ∈ ps) : name ≠ [] ∧ '\x7d' ∉ name := by
  induction h with
  | plain _ =>
    unfold Part.ofText at hname
    split at hname
    · cases hname
    · cases List.mem_singleton.mp hname
  | unclosed _ _ => cases List.mem_singleton.mp hname
  | closed _ hbrace _ ih =>
    rcases List.mem_append.mp hname with hname | hname
    · obtain ⟨rfl, hne⟩ := mem_piece hname
      exact ⟨hne, hbrace⟩
    · exact ih hname

/-! ### Text behind a last opening -/

/-- A placeholder is left open if and only if one begins behind the last closing brace. -/
theorem Divides.isOpen_iff (h : Divides s ps isOpen) :
    isOpen = true ↔ ∃ before after, s = before ++ (opening ++ after) ∧ '\x7d' ∉ after := by
  induction h with
  | @plain s hopen =>
    refine ⟨nofun, ?_⟩
    rintro ⟨before, after, rfl, -⟩
    exact absurd ⟨before, after, List.append_assoc ..⟩ (Text.cut?_eq_none_iff.mp hopen)
  | @unclosed s before after hopen hclose =>
    refine ⟨fun _ => ⟨before, after, ?_, hclose⟩, fun _ => rfl⟩
    rw [Text.eq_of_cut?_eq_some hopen, List.append_assoc]
  | @closed s before name rest ps isOpen hopen hbrace _ ih =>
    rw [ih, eq_of_cut?_closed hopen]
    constructor
    · rintro ⟨u, v, rfl, hv⟩
      exact ⟨before ++ (placeholder name ++ u), v, by simp only [List.append_assoc], hv⟩
    · rintro ⟨u, v, heq, hv⟩
      have hclosed : '\x7d' ∉ opening ++ v := by simp [opening, hv]
      -- the closing brace in front of the rest is not behind the last opening
      have hsplit : u ++ (opening ++ v) = (before ++ (opening ++ name)) ++ '\x7d' :: rest := by
        rw [← heq]
        simp [placeholder]
      rcases List.append_eq_append_iff.mp hsplit with ⟨a, -, ha⟩ | ⟨a, rfl, ha⟩
      · rw [ha] at hclosed
        exact absurd (by simp) hclosed
      · cases a with
        | nil =>
          rw [List.nil_append] at ha
          rw [← ha] at hclosed
          exact absurd List.mem_cons_self hclosed
        | cons c a =>
          obtain ⟨-, rfl⟩ := List.cons.inj ha
          exact ⟨a, v, rfl, hv⟩

/-! ### Writing the parts -/

/-- A part as it is written, where something is written for each name. -/
def Part.filled (render : List Char → List Char) : Part → List Char
  | .text s => s
  | .placeholder name => render name

theorem filled_ofText (render : List Char → List Char) (s : List Char) :
    (Part.ofText s).flatMap (Part.filled render) = s := by
  unfold Part.ofText
  split
  · next h => rw [h, List.flatMap_nil]
  · exact List.flatMap_singleton ..

theorem filled_piece (render : List Char → List Char) (before name : List Char) :
    (piece before name).flatMap (Part.filled render) =
      before ++ if name = [] then placeholder [] else render name := by
  unfold piece
  split
  · exact List.flatMap_singleton ..
  · rw [List.flatMap_append, filled_ofText, List.flatMap_singleton]
    rfl

/-- With every placeholder written as it is, the parts are the template. -/
theorem Divides.source (h : Divides s ps isOpen) : ps.flatMap (Part.filled placeholder) = s := by
  induction h with
  | plain _ => exact filled_ofText placeholder _
  | unclosed _ _ => exact List.flatMap_singleton ..
  | @closed s before name rest ps isOpen hopen _ _ ih =>
    have hname : (if name = [] then placeholder [] else placeholder name) = placeholder name := by
      split
      · next hempty => rw [hempty]
      · rfl
    rw [List.flatMap_append, filled_piece, hname, ih, eq_of_cut?_closed hopen, List.append_assoc]

/-! ### Filling in -/

theorem Begins.isPrefix (h : Begins value s) : opening <+: s := by
  obtain ⟨name, -, -, r, rfl⟩ := h
  exact ⟨name ++ '\x7d' :: r, by simp [placeholder]⟩

theorem Begins.mem_brace (h : Begins value s) : '\x7d' ∈ s := by
  obtain ⟨name, -, -, r, rfl⟩ := h
  simp [placeholder]

/-- A text in which no placeholder with a value begins is filled in as it is. -/
theorem fills_of_not_begins (h : ∀ a c b, s = a ++ c :: b → ¬Begins value (c :: b)) : Fills value s s := by
  have hs : Fills value (s ++ []) s := by
    refine (fills_append_iff fun a c b hsplit => ?_).mpr ⟨[], (List.append_nil s).symm, .nil⟩
    rw [List.append_nil]
    exact h a c b hsplit
  rwa [List.append_nil] at hs

/-- Nothing begins in front of the first opening. -/
theorem fills_cut?_iff {t : List Char} (hopen : Text.cut? opening s = some (before, after)) :
    Fills value s t ↔ ∃ t', t = before ++ t' ∧ Fills value (opening ++ after) t' := by
  have hs := Text.eq_of_cut?_eq_some hopen
  rw [List.append_assoc] at hs
  subst hs
  refine fills_append_iff fun a c b hsplit hbegins => ?_
  subst hsplit
  exact Text.not_isPrefix_of_cut? hopen hbegins.isPrefix

/-- The values where something is written for each name; the empty name is none. -/
def named (render : List Char → List Char) (name : List Char) : Option (List Char) :=
  if name = [] then none else some (render name)

theorem Divides.fills (h : Divides s ps isOpen) (render : List Char → List Char) :
    Fills (named render) s (ps.flatMap (Part.filled render)) := by
  induction h with
  | @plain s hopen =>
    rw [filled_ofText]
    refine fills_of_not_begins fun a c b hsplit hbegins => Text.cut?_eq_none_iff.mp hopen ?_
    rw [hsplit]
    exact hbegins.isPrefix.isInfix.trans (List.suffix_append a (c :: b)).isInfix
  | @unclosed s before after hopen hclose =>
    rw [List.flatMap_singleton, Part.filled, fills_cut?_iff hopen]
    refine ⟨opening ++ after, ?_, fills_of_not_begins fun a c b hsplit hbegins => ?_⟩
    · rw [Text.eq_of_cut?_eq_some hopen, List.append_assoc]
    · have hmem : '\x7d' ∈ opening ++ after := hsplit ▸ List.mem_append_right a hbegins.mem_brace
      exact absurd hmem (by simp [opening, hclose])
  | @closed s before name rest ps isOpen hopen hbrace _ ih =>
    rw [fills_cut?_iff hopen, List.flatMap_append, filled_piece, List.append_assoc]
    refine ⟨_, rfl, ?_⟩
    have hsplit : opening ++ (name ++ '\x7d' :: rest) = placeholder name ++ rest := by simp [placeholder]
    rw [hsplit]
    split
    · next hname =>
      subst hname
      exact (fills_placeholder_of_none List.not_mem_nil hbrace (if_pos rfl)).mpr ⟨_, rfl, ih⟩
    · next hname => exact .placeholder hbrace (if_neg hname) ih

/-! ### Compiled templates -/

/-- A segment as it is written in a template. -/
def Segment.source : Segment → String
  | .text s => s
  | .placeholder name _ => "$\x7b" ++ name ++ "\x7d"

/-- What is written for a name: the value of a sample as a cell, or the placeholder itself when the name is not known. -/
def rendered (fields : List String) (s : Sample) (name : List Char) : List Char :=
  let column := String.ofList name
  if column ∈ ["timestamp", "recordedAt", "label", "raw"] ∨ column ∈ fields then (cell (s.value column)).toList
  else placeholder name

theorem toList_source (fields : List String) (p : Part) :
    (Segment.ofPart fields p).source.toList = p.filled placeholder := by
  cases p with
  | text s => exact String.toList_ofList
  | placeholder name => simp [Segment.ofPart, Segment.source, Part.filled, placeholder, opening]

theorem toList_renderSegment (fields : List String) (s : Sample) (p : Part) :
    (Template.renderSegment s (Segment.ofPart fields p)).toList = p.filled (rendered fields s) := by
  cases p with
  | text t => exact String.toList_ofList
  | placeholder name =>
    rw [Segment.ofPart, Template.renderSegment, Part.filled, rendered]
    split
    · next hknown => rw [render_ofName hknown]
    · next hunknown =>
      simp only [List.mem_cons, List.not_mem_nil, or_false, not_or] at hunknown
      obtain ⟨⟨htimestamp, hrecorded, hlabel, hraw⟩, hfield⟩ := hunknown
      rw [Slot.ofName, if_neg htimestamp, if_neg hrecorded, if_neg hlabel, if_neg hraw, if_neg (by simpa using hfield)]
      simp [Slot.render, placeholder, opening]

theorem flatMap_segments (source : String) (fields : List String) (write : Segment → String)
    (read : Part → List Char) (h : ∀ p, (write (Segment.ofPart fields p)).toList = read p) :
    (String.join ((Template.compile source fields).segments.map write)).toList =
      (parts source.toList).1.flatMap read := by
  have hsegments : (Template.compile source fields).segments = (parts source.toList).1.map (Segment.ofPart fields) := rfl
  rw [String.toList_join, hsegments, List.map_map, List.flatMap_map]
  exact List.flatMap_congr fun p _ => h p

theorem unclosed_mem_check_iff (t : Template) :
    "Unclosed placeholder in template" ∈ t.check.errors ↔ t.isOpen = true := by
  unfold Template.check
  simp

/-- The segments of a compiled template make up its source, with every placeholder written as it is.  All placeholders
have a name without a closing brace.  A placeholder is reported as left open if and only if one begins behind which there
is no closing brace.  The row of a sample is the template with the values of the sample filled in at once. -/
theorem Template.fills_compile (source : String) (fields : List String) :
    String.join ((compile source fields).segments.map Segment.source) = source ∧
      (∀ name slot, .placeholder name slot ∈ (compile source fields).segments → name ≠ "" ∧ '\x7d' ∉ name.toList) ∧
      ("Unclosed placeholder in template" ∈ (compile source fields).check.errors ↔
        ∃ before after, source.toList = before ++ (opening ++ after) ∧ '\x7d' ∉ after) ∧
      ∀ (s : Sample) t,
        Fills (named (rendered fields s)) source.toList t ↔ t = ((compile source fields).row s).toList := by
  have hdivides := divides_parts source.toList
  refine ⟨?_, ?_, ?_, fun s t => ?_⟩
  · rw [← String.toList_inj, flatMap_segments source fields _ _ (toList_source fields)]
    exact hdivides.source
  · intro name slot hmem
    obtain ⟨p, hp, heq⟩ := List.mem_map.mp hmem
    cases p with
    | text _ => cases heq
    | placeholder name =>
      cases heq
      obtain ⟨hne, hbrace⟩ := hdivides.isName hp
      exact ⟨fun hempty => hne (String.ofList_eq_empty_iff.mp hempty), by rwa [String.toList_ofList]⟩
  · rw [unclosed_mem_check_iff]
    exact hdivides.isOpen_iff
  · have hrow : ((compile source fields).row s).toList =
        (parts source.toList).1.flatMap (Part.filled (rendered fields s)) :=
      flatMap_segments source fields _ _ (toList_renderSegment fields s)
    have hfills := hdivides.fills (rendered fields s)
    rw [← hrow] at hfills
    exact ⟨fun h => h.unique hfills, fun h => h ▸ hfills⟩

/-- An opening inside a placeholder belongs to its name, empty braces are text, and the last opening is left open. -/
theorem Template.fills_compile_nested :
    let source := "a$\x7bb$\x7bc\x7d$\x7b\x7d$\x7bd"
    let t := compile source ["b$\x7bc"]
    String.join (t.segments.map Segment.source) = source ∧ "Unclosed placeholder in template" ∈ t.check.errors ∧
      ∀ s : Sample, Fills (named (rendered ["b$\x7bc"] s)) source.toList (t.row s).toList := by
  intro source t
  obtain ⟨hsource, -, hopen, hrow⟩ := fills_compile source ["b$\x7bc"]
  refine ⟨hsource, hopen.mpr ⟨"a$\x7bb$\x7bc\x7d$\x7b\x7d".toList, ['d'], by decide, by decide⟩, fun s => ?_⟩
  exact (hrow s _).mpr rfl

end SampleRecorder.Export
