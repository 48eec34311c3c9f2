import SampleRecorder.Proofs.Settings.Keys
import SampleRecorder.Proofs.Settings.RoundTrip

/-!
# Documents over settings

A document that can be read is laid over settings key by key, whatever unknown keys stand in it, and settings within the
limits stay within them (`merge_by_keys`).  To lay the same document over the result once more changes nothing, and it
gives the same warnings (`merge_again`).
-/

namespace SampleRecorder.Settings

open Json (Decoder Member Raw Shape Varies)

/-! ### Unknown keys -/

section Ignores

variable {α σ : Type} {shape : Shape} {fields : List (String × Shape)} {members : List (Member σ)}

theorem allIgnore_setting {decode : Decoder α} (h : decode.Ignores shape) (key : String) (set : Option α → σ → σ)
    (hrest : Member.AllIgnore members fields) :
    Member.AllIgnore (setting key decode set :: members) ((key, shape) :: fields) :=
  .cons ⟨rfl, (Json.ignores_nullable h).optional key set⟩ hrest

theorem allIgnore_nested {inner : List (Member α)} {innerFields : List (String × Shape)}
    (h : Member.AllIgnore inner innerFields) (key : String) (start : α) (set : α → σ → σ)
    (hrest : Member.AllIgnore members fields) :
    Member.AllIgnore (nested key inner start set :: members) ((key, .record innerFields) :: fields) :=
  .cons ⟨rfl, (Json.ignores_nullable (h.record start)).optional key _⟩ hrest

/-- A member that is a single value has nothing to ignore. -/
theorem allIgnore_value {m : Member σ} (hrest : Member.AllIgnore members fields) :
    Member.AllIgnore (m :: members) ((m.key, .value) :: fields) := by
  refine .cons ⟨rfl, ?_⟩ hrest
  intro raw raw' s t h
  cases h

end Ignores

theorem allIgnore_serial : Member.AllIgnore SerialPart.members serialFields :=
  allIgnore_value <| allIgnore_value <| allIgnore_value <| allIgnore_value .nil

theorem allIgnore_line : Member.AllIgnore LinePart.members lineFields :=
  allIgnore_value <| allIgnore_value <| allIgnore_value <|
    allIgnore_setting (Json.ignores_list (Json.ignores_value _)) _ _ <| allIgnore_value <|
    allIgnore_setting (Json.ignores_list (Json.ignores_value _)) _ _ .nil

theorem allIgnore_class : Member.AllIgnore classMembers classFields :=
  allIgnore_value <| allIgnore_value <| allIgnore_value .nil

theorem allIgnore_rule : Member.AllIgnore ruleMembers ruleFields :=
  allIgnore_value <| allIgnore_value <| allIgnore_value <| allIgnore_value <| allIgnore_value .nil

theorem allIgnore_export : Member.AllIgnore ExportPart.members exportFields :=
  allIgnore_value <| allIgnore_value <| allIgnore_value .nil

theorem allIgnore_recording : Member.AllIgnore RecordingPart.members recordingFields :=
  allIgnore_value <| allIgnore_value .nil

theorem allIgnore_log : Member.AllIgnore LogPart.members logFields :=
  allIgnore_value <| allIgnore_value <| allIgnore_value .nil

theorem allIgnore_quickCommand : Member.AllIgnore quickCommandMembers quickCommandFields :=
  allIgnore_value <| allIgnore_value <| allIgnore_value <| allIgnore_value .nil

theorem allIgnore_classCommand : Member.AllIgnore classCommandMembers classCommandFields :=
  allIgnore_value <| allIgnore_value <| allIgnore_value .nil

theorem allIgnore_automated : Member.AllIgnore AutomatedPart.members automatedFields :=
  allIgnore_value <| allIgnore_value <| allIgnore_value <| allIgnore_value <| allIgnore_value .nil

theorem allIgnore_transmit : Member.AllIgnore TransmitPart.members transmitFields :=
  allIgnore_value <| allIgnore_value <| allIgnore_value <|
    allIgnore_setting (Json.ignores_list (allIgnore_quickCommand.record _)) _ _ <|
    allIgnore_setting (Json.ignores_list (allIgnore_classCommand.record _)) _ _ <|
    allIgnore_nested allIgnore_automated _ _ _ .nil

/-- Documents may hold unknown keys everywhere. -/
theorem ignores_document : (Decoder.record Document.members {}).Ignores shape := by
  have hmembers : Member.AllIgnore Document.members _ :=
    allIgnore_nested allIgnore_serial _ _ _ <| allIgnore_nested allIgnore_line _ _ _ <|
    allIgnore_setting (Json.ignores_list (Json.ignores_value _)) _ _ <|
    allIgnore_setting (Json.ignores_list (allIgnore_class.record _)) _ _ <|
    allIgnore_setting (Json.ignores_list (allIgnore_rule.record _)) _ _ <|
    allIgnore_nested allIgnore_export _ _ _ <| allIgnore_nested allIgnore_recording _ _ _ <|
    allIgnore_nested allIgnore_log _ _ _ <| allIgnore_nested allIgnore_transmit _ _ _ .nil
  exact hmembers.record {}

/-! ### Laying a document over settings -/

theorem record_of_ofText {text : String} {d : Document} (h : Document.ofText text = .ok d) :
    Decoder.record Document.members {} (Raw.read text.toList).1 = .ok d :=
  (Json.decodeText_eq_ok.mp h).1

theorem merge_of_ofText (s : Settings) {text : String} {d : Document} (h : Document.ofText text = .ok d) :
    merge s text = (do logWarnings (d.apply s).2; pure (.ok (d.apply s))) := by
  rw [merge, h]

/-- A document that can be read is laid over settings key by key: what is absent or `null` changes nothing, a value that
passes its check takes the place of the kept one, and one that does not is warned about, once, in the order of the keys.
These parts are all that settings consist of.  Unknown keys with values of any kind may be added and left out in every
record of the document, and settings within the limits stay within them. -/
theorem merge_by_keys (s : Settings) {text : String} {d : Document} (h : Document.ofText text = .ok d) :
    let raw := (Raw.read text.toList).1
    ∃ (s' : Settings) (warned : Key → Option Warning),
      (merge s text).value = .ok (s', keys.filterMap warned) ∧
      (∀ k ∈ keys, k.Lays (raw.at? shape k.path) (k.get s) (k.get s') (warned k)) ∧
      (∀ t : Settings, (∀ k ∈ keys, k.get t = k.get s') → t = s') ∧
      ((keys.filterMap warned).map Warning.key).Sublist checkedKeys ∧
      (∀ text' : String, (Raw.read text'.toList).2 = none →
        Relation.ReflTransGen (Varies shape) raw (Raw.read text'.toList).1 → merge s text' = merge s text) ∧
      (s.WithinLimits → s'.WithinLimits) := by
  intro raw
  obtain ⟨warned, hwarnings, hlays⟩ := lays_apply (record_of_ofText h) s
  refine ⟨(d.apply s).1, warned, ?_, hlays, fun t => eq_of_keys, ?_, ?_, withinLimits_apply d⟩
  · rw [merge_of_ofText s h, ← hwarnings]
    rfl
  · rw [← hwarnings]
    exact checked_apply d s
  · intro text' hend hvaries
    have h' : Document.ofText text' = .ok d :=
      Json.decodeText_eq_ok.mpr ⟨ignores_document.reflTransGen hvaries (record_of_ofText h), hend⟩
    rw [merge_of_ofText s h, merge_of_ofText s h']

/-- A document with numbers out of range, a key set to `null`, an unknown key, and a name in upper case. -/
theorem merge_by_keys_unknown :
    let logging := ("logging", Json.obj [("level", .str "WARN"), ("maxEntries", .int 5)])
    let document :=
      Json.obj [("serial", .obj [("baudRate", .int 12), ("delimiter", .null), ("parity", .str "odd")]), logging]
    let known := Json.obj [("serial", .obj [("baudRate", .int 12), ("delimiter", .null)]), logging]
    let d : Document := { serial := { baudRate := some 12 }, log := { level := some "WARN", maxEntries := some 5 } }
    let s' : Settings := { log := { level := "warn" } }
    Document.ofText (String.ofList document.pretty) = .ok d ∧
      (merge {} (String.ofList document.pretty)).value =
        .ok (s', [.outOfRange "serial.baudRate" 12 300 4000000 115200,
          .outOfRange "logging.maxEntries" 5 10 100000 1000]) ∧
      merge {} (String.ofList known.pretty) = merge {} (String.ofList document.pretty) ∧ s'.WithinLimits := by
  intro logging document known d s'
  have hlogging : Json.MembersExact [logging] := ⟨⟨trivial, ⟨by decide, by decide⟩, trivial⟩, trivial⟩
  have hdocument : document.IsExact := ⟨⟨⟨by decide, by decide⟩, trivial, trivial, trivial⟩, hlogging⟩
  have hknown : known.IsExact := ⟨⟨⟨by decide, by decide⟩, trivial, trivial⟩, hlogging⟩
  have hd : Document.ofText (String.ofList document.pretty) = .ok d :=
    (Json.decodeText_pretty _ hdocument).trans rfl
  have happly : d.apply {} = (s', [.outOfRange "serial.baudRate" 12 300 4000000 115200,
      .outOfRange "logging.maxEntries" 5 10 100000 1000]) := by
    decide +kernel
  have hvalue := congrArg Traced.value (merge_of_ofText {} hd)
  rw [happly] at hvalue
  obtain ⟨s'', warned, hmerge, -, -, -, hunknown, hlimits⟩ := merge_by_keys {} hd
  obtain rfl : s'' = s' := (Prod.mk.inj (Except.ok.inj (hmerge.symm.trans hvalue))).1
  refine ⟨hd, hvalue, hunknown _ ?_ (.single ?_), hlimits valid_default.toWithinLimits⟩
  · rw [String.toList_ofList, Raw.read_pretty hknown]
  · rw [String.toList_ofList, String.toList_ofList, Raw.read_pretty hknown, Raw.read_pretty hdocument]
    exact @Varies.member _ [] _ _ _ _ _ _ rfl (@Varies.drop _ [_, _] [] _ _ _ (by decide))

/-- To lay a document once more over what came out gives the same settings, warnings and reports. -/
theorem merge_again {s s' : Settings} {text : String} {warnings : List Warning}
    (h : (merge s text).value = .ok (s', warnings)) : merge s' text = merge s text := by
  obtain ⟨d, hd, hs'⟩ := value_merge h
  obtain ⟨warned, hwarnings, hlays⟩ := lays_apply (record_of_ofText hd) s
  obtain ⟨warned', hwarnings', hlays'⟩ := lays_apply (record_of_ofText hd) s'
  rw [hs'] at hwarnings hlays
  -- behind the first time, each key leaves its part alone and warns as before
  have hagain : ∀ k ∈ keys, k.get (d.apply s').1 = k.get s' ∧ warned' k = warned k := fun k hk =>
    (hlays' k hk).unique ((hlays k hk).again (isStable_of_mem k hk))
  have hsame : d.apply s' = (s', warnings) := by
    refine Prod.ext (eq_of_keys fun k hk => (hagain k hk).1) ?_
    rw [hwarnings', List.filterMap_congr fun k hk => (hagain k hk).2]
    exact hwarnings.symm
  rw [merge_of_ofText s hd, merge_of_ofText s' hd, hsame, hs']

/-- Over settings with a baud rate out of range, which the warning quotes, and with another level. -/
theorem merge_again_warned :
    let s : Settings := { serial := { baudRate := 7 }, log := { level := "error" } }
    let s' : Settings := { serial := { baudRate := 7 }, log := { level := "warn" } }
    let text := "\x7b\"serial\":\x7b\"baudRate\":12\x7d,\"logging\":\x7b\"level\":\"WARN\"\x7d\x7d"
    (merge s text).value = .ok (s', [.outOfRange "serial.baudRate" 12 300 4000000 7]) ∧
      merge s' text = merge s text := by
  intro s s' text
  have hoption : (merge s text).value.toOption = some (s', [.outOfRange "serial.baudRate" 12 300 4000000 7]) := by
    decide +kernel
  have h : (merge s text).value = .ok (s', [.outOfRange "serial.baudRate" 12 300 4000000 7]) := by
    cases hvalue : (merge s text).value with
    | error fault =>
      rw [hvalue] at hoption
      cases hoption
    | ok c =>
      rw [hvalue] at hoption
      exact congrArg Except.ok (Option.some.inj hoption)
  exact ⟨h, merge_again h⟩

end SampleRecorder.Settings
