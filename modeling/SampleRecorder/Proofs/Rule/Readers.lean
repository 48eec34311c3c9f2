import SampleRecorder.Proofs.Rule.Grammar

/-!
# Readers of conditions

Which texts each reader accepts.  A reader takes a subject and a verb first (`keywords_eq_some_iff`,
`subject?_eq_some_iff`) and leaves the operand.  The key facts: the reader of a form accepts exactly the texts of that
form (`Form.isSome_reader_iff`), so at most one reader accepts a text, and what it makes of the text is the condition
that the text spells (`ofText_of_reader`), in whatever order the readers are tried (`ofText_in_any_order`).
-/

namespace SampleRecorder.Rule

open Text (Stops isBlank isWord)
open Condition

/-! ### Operands -/

theorem oneLine?_eq_some_iff {s t : List Char} : oneLine? s = some t ↔ s ∈ line ∧ s = t := by
  rw [mem_line, ← not_or]
  unfold oneLine?
  split
  · next h => simp [h]
  · next h => simp [h]

theorem quoted?_eq_some_iff {s : List Char} {t : String} :
    quoted? s = some t ↔ ∃ p ∈ quote, ∃ m ∈ line, ∃ q ∈ quote, p ++ m ++ q = s ∧ String.ofList m = t := by
  constructor
  · intro h
    unfold quoted? at h
    split at h
    · next c rest =>
      split at h
      · next d hd =>
        split at h
        · next hquotes =>
          simp only [Option.map_eq_some_iff, oneLine?_eq_some_iff] at h
          obtain ⟨_, ⟨hline, rfl⟩, rfl⟩ := h
          obtain ⟨hc, hd'⟩ := Bool.and_eq_true_iff.1 hquotes
          refine ⟨[c], ⟨c, hc, rfl⟩, _, hline, [d], ⟨d, hd', rfl⟩, ?_, rfl⟩
          rw [List.append_assoc, List.dropLast_append_getLast? d hd]
          rfl
        · cases h
      · cases h
    · cases h
  · rintro ⟨_, ⟨c, hc, rfl⟩, m, hm, _, ⟨d, hd, rfl⟩, rfl, rfl⟩
    simp [quoted?, hc, hd, oneLine?_eq_some_iff.2 ⟨hm, rfl⟩]

/-- The flags come back last one first. -/
theorem slashed?_eq_some_iff {s body fl : List Char} :
    slashed? s = some (body, fl) ↔ body ∈ line ∧ fl ∈ flags ∧ '/' :: (body ++ '/' :: fl.reverse) = s := by
  constructor
  · intro h
    unfold slashed? at h
    split at h
    · next rest =>
      simp only at h
      split at h
      · next c before hdrop =>
        split at h
        · next hflags =>
          simp only [Option.map_eq_some_iff, oneLine?_eq_some_iff, Prod.mk.injEq] at h
          obtain ⟨_, ⟨hline, rfl⟩, rfl, rfl⟩ := h
          -- What the search from the end stops at is the last slash.
          have hc : c = '/' := by
            have hstops := Text.stops_dropWhile (· != '/') rest.reverse
            rw [hdrop, Text.stops_cons] at hstops
            simpa using hstops
          have hsplit := List.takeWhile_append_dropWhile (p := (· != '/')) (l := rest.reverse)
          rw [hdrop, hc] at hsplit
          refine ⟨hline, List.all_eq_true.1 hflags, ?_⟩
          rw [← List.reverse_inj] at hsplit
          simpa using hsplit
        · cases h
      · cases h
    · cases h
  · rintro ⟨hline, hflags, rfl⟩
    -- A slash is no flag, so the search from the end passes all flags and stops behind the body.
    have hslash : ∀ c ∈ fl, (c != '/') = true := by
      intro c hc
      rw [bne_iff_ne]
      rintro rfl
      exact absurd (hflags _ hc) (by decide)
    have hstops : Stops (· != '/') ('/' :: body.reverse) := Text.stops_cons.2 (by decide)
    have hreverse : (body ++ '/' :: fl.reverse).reverse = fl ++ '/' :: body.reverse := by simp
    unfold slashed?
    simp only [hreverse, Text.takeWhile_run hslash hstops, Text.dropWhile_run hslash hstops]
    rw [if_pos (List.all_eq_true.2 hflags), List.reverse_reverse, oneLine?_eq_some_iff.2 ⟨hline, rfl⟩]
    rfl

theorem isSome_quoted?_iff {s : List Char} : (quoted? s).isSome ↔ s ∈ quote * line * quote := by
  simp only [Option.isSome_iff_exists, quoted?_eq_some_iff, mem_three]
  constructor
  · rintro ⟨_, p, hp, m, hm, q, hq, rfl, -⟩
    exact ⟨p, hp, m, hm, q, hq, rfl⟩
  · rintro ⟨p, hp, m, hm, q, hq, rfl⟩
    exact ⟨_, p, hp, m, hm, q, hq, rfl, rfl⟩

theorem isSome_slashed?_iff {s : List Char} : (slashed? s).isSome ↔ s ∈ slash * line * slash * flags := by
  have hreverse {fl : List Char} : fl.reverse ∈ flags ↔ fl ∈ flags :=
    forall_congr' fun c => by rw [List.mem_reverse]
  simp only [Option.isSome_iff_exists, Prod.exists, slashed?_eq_some_iff]
  constructor
  · rintro ⟨m, fl, hm, hfl, rfl⟩
    refine mem_three.2 ⟨_, ⟨_, rfl, m, hm, rfl⟩, _, rfl, _, hreverse.2 hfl, ?_⟩
    simp
  · intro h
    obtain ⟨_, ⟨_, rfl, m, hm, rfl⟩, _, rfl, fl, hfl, rfl⟩ := mem_three.1 h
    exact ⟨m, fl.reverse, hm, hreverse.2 hfl, by simp⟩

theorem isWordOf_iff {word s : List Char} :
    isWordOf word s = true ↔ List.Forall₂ (fun k c => sameLetter k c = true) word s := by
  induction word generalizing s with
  | nil => cases s <;> simp [isWordOf]
  | cons k word ih => cases s <;> simp [isWordOf, ih]

/-! ### Subjects and verbs -/

/-- A keyword, and another one with white space around it. -/
theorem keywords_eq_some_iff {first word : String} (hw : IsKeyword word) {s r : List Char} :
    (keyword? first.toList s).bind (keyword? word.toList) = some r ↔
      ∃ a ∈ letters first, ∃ v ∈ spaced word, a ++ v ++ r = s ∧ Stops isBlank r := by
  rw [Option.bind_eq_some_iff]
  constructor
  · rintro ⟨t, hfirst, hword⟩
    obtain ⟨a, g, ha, hg, rfl, -⟩ := keyword?_eq_some_iff.1 hfirst
    obtain ⟨b, g', hb, hg', rfl, hr⟩ := keyword?_eq_some_iff.1 hword
    exact ⟨a, ha, _, mem_three.2 ⟨g, hg, b, hb, g', hg', rfl⟩, by simp, hr⟩
  · rintro ⟨a, ha, v, hv, rfl, hr⟩
    obtain ⟨g, hg, b, hb, g', hg', rfl⟩ := mem_three.1 hv
    have hstops : Stops isBlank (b ++ (g' ++ r)) := stops_of_word (runOf_of_mem_letters hw hb)
    exact ⟨b ++ (g' ++ r), keyword?_eq_some_iff.2 ⟨a, g, ha, hg, by simp, hstops⟩,
      keyword?_eq_some_iff.2 ⟨b, g', hb, hg', rfl, hr⟩⟩

/-- The name of a field, and a keyword with white space around it. -/
theorem subject?_eq_some_iff {word : String} (hw : IsKeyword word) {s r : List Char} {name : String} :
    subject? word.toList s = some (name, r) ↔
      ∃ a ∈ runOf isWord, ∃ v ∈ spaced word, a ++ v ++ r = s ∧ Stops isBlank r ∧ String.ofList a = name := by
  constructor
  · intro h
    obtain ⟨⟨a, rest⟩, hword, hrest⟩ := Option.bind_eq_some_iff.1 h
    obtain ⟨ha, rfl, -⟩ := word?_eq_some_iff.1 hword
    cases rest with
    | nil => cases hrest
    | cons c more =>
      simp only at hrest
      split at hrest
      · next hc =>
        simp only [Option.map_eq_some_iff, Prod.mk.injEq] at hrest
        obtain ⟨operand, hkeyword, rfl, rfl⟩ := hrest
        obtain ⟨b, g', hb, hg', hmore, hr⟩ := keyword?_eq_some_iff.1 hkeyword
        have hg : c :: more.takeWhile isBlank ∈ runOf isBlank := by
          refine ⟨by simp, ?_⟩
          rw [List.forall_mem_cons]
          exact ⟨hc, fun d hd => List.mem_takeWhile_imp hd⟩
        have hsplit : more.takeWhile isBlank ++ (b ++ (g' ++ operand)) = more := by
          rw [← hmore]
          exact List.takeWhile_append_dropWhile
        refine ⟨a, ha, _, mem_three.2 ⟨_, hg, b, hb, g', hg', rfl⟩, ?_, hr, rfl⟩
        simp [hsplit]
      · cases hrest
  · rintro ⟨a, ha, v, hv, rfl, hr, rfl⟩
    obtain ⟨g, hg, b, hb, g', hg', rfl⟩ := mem_three.1 hv
    have hstops : Stops isBlank (b ++ (g' ++ r)) := stops_of_word (runOf_of_mem_letters hw hb)
    have hword : word? (a ++ (g ++ (b ++ (g' ++ r)))) = some (a, g ++ (b ++ (g' ++ r))) :=
      word?_eq_some_iff.2 ⟨ha, rfl, stops_of_blank hg⟩
    have hkeyword : keyword? word.toList (b ++ (g' ++ r)) = some r :=
      keyword?_eq_some_iff.2 ⟨b, g', hb, hg', rfl, hr⟩
    simp only [List.append_assoc]
    obtain ⟨hne, hblank⟩ := hg
    cases g with
    | nil => exact absurd rfl hne
    | cons c g =>
      rw [List.forall_mem_cons] at hblank
      rw [subject?, hword]
      simp [hblank.1, Text.dropWhile_run hblank.2 hstops, hkeyword]

/-! ### Forms -/

/-- White space in front of an operand belongs to the verb, except in comparisons. -/
theorem Form.stops_of_mem_operand {f : Form} (hf : f ≠ comparison) {o : List Char} (ho : o ∈ f.operand) :
    Stops isBlank o := by
  have hquotes : ∀ q ∈ ['\'', '"'], isBlank q = false := by decide
  cases f with
  | comparison => exact absurd rfl hf
  | contains | equality | beginning | ending =>
    obtain ⟨_, ⟨c, hc, rfl⟩, m, -, q, -, rfl⟩ := mem_three.1 ho
    refine Text.stops_cons.2 (hquotes c ?_)
    simpa [isQuote] using hc
  | pattern =>
    obtain ⟨_, ⟨_, rfl, m, -, rfl⟩, _, -, fl, -, rfl⟩ := mem_three.1 ho
    exact Text.stops_cons.2 (by decide)
  | existence => exact List.append_nil o ▸ stops_of_word ho
  | truth =>
    have hword : o ∈ runOf isWord := by
      obtain ho | ho := ho
      · exact runOf_of_mem_letters (by decide) ho
      · exact runOf_of_mem_letters (by decide) ho
    exact List.append_nil o ▸ stops_of_word hword

section Accept

variable {β : Type} {f : Form} {word : String} {s : List Char}

/-- A form that begins with a keyword accepts its texts if what reads the operand accepts its operands. -/
theorem isSome_keywords_bind_iff {first : String} (hf : f.verb? = some word) (hsubject : f.subject = letters first)
    {tail : List Char → Option β} (htail : ∀ o, (tail o).isSome ↔ o ∈ f.operand) :
    (((keyword? first.toList s).bind (keyword? word.toList)).bind tail).isSome ↔ s ∈ f.texts := by
  have hw : IsKeyword word := Form.isKeyword_of_verb? hf
  have hcomparison : f ≠ .comparison := by
    rintro rfl
    cases hf
  rw [Form.texts, Form.verb_eq hf, hsubject, mem_three]
  simp only [Option.isSome_bind, Option.any_eq_true, keywords_eq_some_iff hw, htail]
  constructor
  · rintro ⟨o, ⟨a, ha, v, hv, rfl, -⟩, ho⟩
    exact ⟨a, ha, v, hv, o, ho, rfl⟩
  · rintro ⟨a, ha, v, hv, o, ho, rfl⟩
    exact ⟨o, ⟨a, ha, v, hv, rfl, Form.stops_of_mem_operand hcomparison ho⟩, ho⟩

/-- A form that begins with the name of a field accepts its texts if what reads the operand accepts its operands. -/
theorem isSome_subject_bind_iff (hf : f.verb? = some word) (hsubject : f.subject = runOf isWord)
    {tail : String × List Char → Option β} (htail : ∀ name o, (tail (name, o)).isSome ↔ o ∈ f.operand) :
    ((subject? word.toList s).bind tail).isSome ↔ s ∈ f.texts := by
  have hw : IsKeyword word := Form.isKeyword_of_verb? hf
  have hcomparison : f ≠ .comparison := by
    rintro rfl
    cases hf
  rw [Form.texts, Form.verb_eq hf, hsubject, mem_three]
  simp only [Option.isSome_bind, Option.any_eq_true, Prod.exists, subject?_eq_some_iff hw, htail]
  constructor
  · rintro ⟨_, o, ⟨a, ha, v, hv, rfl, -, -⟩, ho⟩
    exact ⟨a, ha, v, hv, o, ho, rfl⟩
  · rintro ⟨a, ha, v, hv, o, ho, rfl⟩
    exact ⟨_, o, ⟨a, ha, v, hv, rfl, Form.stops_of_mem_operand hcomparison ho, rfl⟩, ho⟩

end Accept

/-- White space at the end could be all that is left of an operand, so there must be none. -/
theorem isSome_comparison?_iff {s : List Char} (hlast : ∀ c ∈ s.getLast?, isBlank c = false) :
    (comparison? s).isSome ↔ s ∈ Form.comparison.texts := by
  constructor
  · intro h
    obtain ⟨c, hc⟩ := Option.isSome_iff_exists.1 h
    obtain ⟨⟨a, rest⟩, hword, hrest⟩ := Option.bind_eq_some_iff.1 hc
    obtain ⟨r, -, hsign⟩ := List.exists_of_findSome?_eq_some hrest
    simp only [Option.bind_eq_some_iff, Option.map_eq_some_iff, Text.strip?_eq_some_iff, oneLine?_eq_some_iff] at hsign
    obtain ⟨operand, hstrip, _, ⟨hline, -⟩, -⟩ := hsign
    obtain ⟨ha, rfl, -⟩ := word?_eq_some_iff.1 hword
    have hg : rest.takeWhile isBlank ∈ 1 + runOf isBlank := mem_one_add_runOf.2 fun _ => List.mem_takeWhile_imp
    have hg' : operand.takeWhile isBlank ∈ 1 + runOf isBlank := mem_one_add_runOf.2 fun _ => List.mem_takeWhile_imp
    refine mem_three.2 ⟨a, ha, _, mem_three.2 ⟨_, hg, _, ⟨r, rfl⟩, _, hg', rfl⟩, _, hline, ?_⟩
    calc a ++ (rest.takeWhile isBlank ++ r.sign.toList ++ operand.takeWhile isBlank) ++ operand.dropWhile isBlank
        = a ++ (rest.takeWhile isBlank ++ (r.sign.toList ++
            (operand.takeWhile isBlank ++ operand.dropWhile isBlank))) := by simp only [List.append_assoc]
      _ = a ++ (rest.takeWhile isBlank ++ rest.dropWhile isBlank) := by
          rw [List.takeWhile_append_dropWhile, hstrip]
      _ = a ++ rest := by rw [List.takeWhile_append_dropWhile]
  · intro h
    obtain ⟨a, ha, v, hv, o, ho, rfl⟩ := mem_three.1 h
    obtain ⟨g, hg, _, ⟨r, rfl⟩, g', hg', rfl⟩ := mem_three.1 hv
    obtain ⟨hword, hblank⟩ := stops_of_sign r (g' ++ o)
    have hlast' : ∀ c ∈ o.getLast?, isBlank c = false := by
      rwa [List.getLast?_append_of_ne_nil _ ho.1] at hlast
    have hline : o.dropWhile isBlank ∈ line :=
      ⟨Text.dropWhile_ne_nil ho.1 hlast', fun h => ho.2 ((List.dropWhile_sublist _).mem h)⟩
    have hword? : word? (a ++ (g ++ (r.sign.toList ++ (g' ++ o)))) = some (a, g ++ (r.sign.toList ++ (g' ++ o))) :=
      word?_eq_some_iff.2 ⟨ha, rfl, stops_of_gap hg hword⟩
    have hstrip : Text.strip? r.sign.toList (r.sign.toList ++ (g' ++ o)) = some (g' ++ o) :=
      Text.strip?_eq_some_iff.2 rfl
    have hr : r ∈ Relation.all := by cases r <;> decide
    simp only [List.append_assoc]
    rw [comparison?, hword?, Option.bind_some, List.findSome?_isSome_iff]
    refine ⟨r, hr, ?_⟩
    rw [Text.dropWhile_run (mem_one_add_runOf.1 hg) hblank, hstrip, Option.bind_some,
      List.dropWhile_append_of_pos (mem_one_add_runOf.1 hg'), oneLine?_eq_some_iff.2 ⟨hline, rfl⟩]
    rfl

/-- A reader accepts the texts of its form and nothing else. -/
theorem Form.isSome_reader_iff (f : Form) {s : List Char} (hlast : ∀ c ∈ s.getLast?, isBlank c = false) :
    (f.reader s).isSome ↔ s ∈ f.texts := by
  cases f with
  | comparison => exact isSome_comparison?_iff hlast
  | contains | beginning | ending =>
    refine isSome_keywords_bind_iff rfl rfl fun o => ?_
    rw [Option.isSome_map]
    exact isSome_quoted?_iff
  | pattern =>
    rw [reader, pattern?, Option.isSome_map]
    exact isSome_keywords_bind_iff rfl rfl fun o => isSome_slashed?_iff
  | existence =>
    refine isSome_keywords_bind_iff rfl rfl fun o => ?_
    constructor
    · intro h
      split at h
      · next name hword =>
        obtain ⟨hname, rfl, -⟩ := word?_eq_some_iff.1 hword
        rwa [List.append_nil]
      · cases h
    · intro ho
      rw [word?_eq_some_iff.2 ⟨ho, (List.append_nil o).symm, Text.stops_nil⟩]
      rfl
  | equality =>
    refine isSome_subject_bind_iff rfl rfl fun name o => ?_
    rw [Option.isSome_map]
    exact isSome_quoted?_iff
  | truth =>
    refine isSome_subject_bind_iff rfl rfl fun name o => ?_
    have htrue : isWordOf "true".toList o = true ↔ o ∈ letters "true" := isWordOf_iff
    have hfalse : isWordOf "false".toList o = true ↔ o ∈ letters "false" := isWordOf_iff
    rw [operand, Language.mem_add, ← htrue, ← hfalse]
    show (if isWordOf "true".toList o then some (Condition.truth name true)
      else if isWordOf "false".toList o then some (Condition.truth name false) else none).isSome ↔ _
    cases isWordOf "true".toList o <;> cases isWordOf "false".toList o <;> simp

/-! ### The order of the forms -/

/-- Where at most one answer is given, the first one is the only one. -/
theorem findSome?_eq_some_iff_of_unique {α β : Type} {r : α → Option β} {l : List α}
    (hone : ∀ x ∈ l, ∀ y ∈ l, (r x).isSome → (r y).isSome → x = y) {c : β} :
    l.findSome? r = some c ↔ ∃ x ∈ l, r x = some c := by
  constructor
  · exact List.exists_of_findSome?_eq_some
  · rintro ⟨x, hx, hc⟩
    have hsome : (l.findSome? r).isSome := List.findSome?_isSome_iff.2 ⟨x, hx, by simp [hc]⟩
    obtain ⟨d, hd⟩ := Option.isSome_iff_exists.1 hsome
    obtain ⟨y, hy, hyd⟩ := List.exists_of_findSome?_eq_some hd
    obtain rfl := hone x hx y hy (by simp [hc]) (by simp [hyd])
    rw [hd, ← hyd, hc]

/-- Two readers that accept the same text are one. -/
theorem reader_unique {s : List Char} (hlast : ∀ c ∈ s.getLast?, isBlank c = false) :
    ∀ x ∈ forms, ∀ y ∈ forms, (x s).isSome → (y s).isSome → x = y := by
  intro x hx y hy hxs hys
  rw [Form.forms_eq] at hx hy
  obtain ⟨f, -, rfl⟩ := List.mem_map.1 hx
  obtain ⟨g, -, rfl⟩ := List.mem_map.1 hy
  rw [Form.eq_of_mem_texts ((f.isSome_reader_iff hlast).1 hxs) ((g.isSome_reader_iff hlast).1 hys)]

/-- What any reader makes of a text is the condition that the text spells. -/
theorem ofText_of_reader {f : Form} {s : String} {c : Condition} (h : f.reader (Text.trim s.toList) = some c) :
    ofText s = c := by
  have hlast := Text.isBlank_of_mem_getLast?_trim s.toList
  have hf : f.reader ∈ forms := by cases f <;> simp [forms, Form.reader]
  have hfirst : forms.findSome? (fun form => form (Text.trim s.toList)) = some c :=
    (findSome?_eq_some_iff_of_unique (reader_unique hlast)).2 ⟨_, hf, h⟩
  rw [ofText, hfirst, Option.getD_some]

/-- The forms exclude each other: a text, trimmed, has one form at most, it is read just by the reader of its form, and
so the readers give the same condition in whatever order they are tried. -/
theorem ofText_in_any_order (s : String) {order : List (List Char → Option Condition)} (horder : order.Perm forms) :
    (∀ f g : Form, Text.trim s.toList ∈ f.texts → Text.trim s.toList ∈ g.texts → f = g) ∧
      (∀ f : Form, (f.reader (Text.trim s.toList)).isSome ↔ Text.trim s.toList ∈ f.texts) ∧
      (order.findSome? fun form => form (Text.trim s.toList)).getD (never .format) = ofText s := by
  have hlast := Text.isBlank_of_mem_getLast?_trim s.toList
  have hone := reader_unique hlast
  have hone' : ∀ x ∈ order, ∀ y ∈ order, (x (Text.trim s.toList)).isSome → (y (Text.trim s.toList)).isSome → x = y :=
    fun x hx y hy => hone x (horder.mem_iff.1 hx) y (horder.mem_iff.1 hy)
  refine ⟨fun f g hf hg => Form.eq_of_mem_texts hf hg, fun f => f.isSome_reader_iff hlast, ?_⟩
  have hsame : (order.findSome? fun form => form (Text.trim s.toList)) =
      forms.findSome? fun form => form (Text.trim s.toList) := by
    ext c
    rw [findSome?_eq_some_iff_of_unique hone', findSome?_eq_some_iff_of_unique hone]
    simp only [horder.mem_iff]
  rw [hsame, ofText]

theorem ofText_in_reverse_order :
    forms.reverse.Perm forms ∧ Text.trim " line == 'a is true' ".toList ∈ Form.comparison.texts ∧
      (forms.reverse.findSome? fun form => form (Text.trim " line == 'a is true' ".toList)).getD (never .format) =
        ofText " line == 'a is true' " := by
  have horder : forms.reverse.Perm forms := forms.reverse_perm
  obtain ⟨-, hreads, hsame⟩ := ofText_in_any_order " line == 'a is true' " horder
  exact ⟨horder, (hreads .comparison).1 (by decide +kernel), hsame⟩

end SampleRecorder.Rule
