import SampleRecorder.Proofs.Json.Finite
import SampleRecorder.Proofs.Line.Reading
import SampleRecorder.Proofs.Script.Stored

/-!
# The numbers of a reading

Texts can spell infinities and numbers that are too great, and programs can compute them.  None of them becomes a number
of a reading: a text that spells one stays a text, a program stores one as text, and a document cannot contain one.
-/

namespace SampleRecorder

open Number

/-- Whether a field is anything but an infinite number or none. -/
def FieldValue.IsFinite (v : FieldValue) : Prop :=
  ∀ x, v = .float x → x.isFinite = true

namespace FieldValue

theorem isFinite_ofFloat {x : Float} (h : x.isFinite = true) : (ofFloat x).IsFinite := by
  unfold ofFloat
  split
  · exact nofun
  · rintro y ⟨⟩
    exact h

/-- Only finite numbers are taken from a text. -/
theorem isFinite_coerce (s : String) : (coerce s).IsFinite := by
  unfold coerce
  split
  · exact nofun
  · split
    · next x hx => exact isFinite_ofFloat (Option.filter_eq_some_iff.mp hx).2
    · split
      · exact nofun
      · split
        · exact nofun
        · exact nofun

end FieldValue

/-- A program does not store a number that is not finite as a number. -/
theorem Script.Value.isFinite_of_toField? {v : Value} {field : FieldValue} (h : v.toField? = some field) :
    field.IsFinite := by
  cases v with
  | null => cases h
  | bool b => cases h; exact nofun
  | int n => cases h; exact nofun
  | str s => cases h; exact nofun
  | list items => cases h; exact nofun
  | float x =>
    obtain rfl := Option.some.inj h
    split
    · next hx =>
      rintro y ⟨⟩
      exact hx
    · exact nofun

namespace Line

theorem isFinite_fieldOfJson {j : Json} (h : j.IsFinite) : (fieldOfJson j).IsFinite := by
  cases h with
  | null => exact nofun
  | bool b => exact nofun
  | str s => exact nofun
  | arr h => exact nofun
  | obj h => exact nofun
  | float h =>
    rintro y ⟨⟩
    exact h
  | int h =>
    rw [fieldOfJson]
    split
    · exact nofun
    · rintro y ⟨⟩
      exact isFinite_ofInt h

/-- What each way of reading puts into the fields of a line. -/
theorem Strategy.isFinite_fields {strategy : Strategy} {names : List String} {line : String} {fields : Fields}
    (h : (strategy.fields? names line).value = some fields) {name : String} {v : FieldValue}
    (hv : fields.get? name = some v) : v.IsFinite := by
  cases strategy with
  | split delimiter =>
    rw [value_split] at h
    split at h
    · cases h
    · obtain rfl := Option.some.inj h
      obtain ⟨e, -, he⟩ := List.mem_map.mp (Dict.mem_of_get?_ofList hv)
      obtain ⟨-, rfl⟩ := Prod.mk.inj he
      exact FieldValue.isFinite_coerce _
  | regex r groups =>
    rw [value_regex, Option.map_eq_some_iff] at h
    obtain ⟨found, -, rfl⟩ := h
    obtain ⟨i, hi, he⟩ := List.mem_mapIdx.mp (Dict.mem_of_get?_ofList hv)
    obtain ⟨-, rfl⟩ := Prod.mk.inj he
    exact FieldValue.isFinite_coerce _
  | json =>
    obtain ⟨members, htext, rfl⟩ := value_json_iff.mp h
    obtain ⟨name', -, he⟩ := List.mem_filterMap.mp (Dict.mem_of_get?_ofList hv)
    obtain ⟨j, hj, he⟩ := Option.map_eq_some_iff.mp he
    obtain ⟨-, rfl⟩ := Prod.mk.inj he
    cases Json.gives_ofText line _ htext with
    | obj hmembers =>
      obtain ⟨before, after, rfl, -⟩ := List.lookup_eq_some_iff.mp hj
      exact isFinite_fieldOfJson (hmembers _ (List.mem_append_right before List.mem_cons_self))
  | custom program =>
    rw [value_custom_iff] at h
    obtain ⟨-, value, hvalue⟩ := Script.Program.stored_of_evaluate h hv
    exact Script.Value.isFinite_of_toField? hvalue

/-- Every floating-point number of a reading is finite, whatever the parser and the line. -/
theorem Parser.float_of_read {p : Parser} {now : Int} {line : String} {r : Reading}
    (h : (p.read now line).value = some r) {name : String} {x : Float} (hx : r.fields.get? name = some (.float x)) :
    x.isFinite = true :=
  Strategy.isFinite_fields (value_read_iff.mp h).2.2.2 hx x rfl

theorem Parser.float_of_read_half : ∃ r,
    ((⟨.split ",", ["v"], []⟩ : Parser).read 0 "1.5").value = some r ∧ r.fields.get? "v" = some (.float 1.5) ∧
      (1.5 : Float).isFinite = true := by
  have hcoerce : FieldValue.coerce "1.5" = .float 1.5 := by
    have hint : Number.int64? "1.5".toList = none := by decide +kernel
    have hfloat : Number.finite? "1.5".toList = some 1.5 := by decide +kernel
    have hexact : FieldValue.exactInt? 1.5 = none := by decide +kernel
    simp only [FieldValue.coerce, hint, hfloat, FieldValue.ofFloat, hexact]
  have hread : ((⟨.split ",", ["v"], []⟩ : Parser).read 0 "1.5").value =
      some ⟨0, "1.5", .ofList [("v", .float 1.5)]⟩ := by
    have hcolumns : columns "," (trimmed "1.5") = ["1.5"] := by decide +kernel
    rw [value_read, if_neg (by decide +kernel), Strategy.value_split, hcolumns, ← hcoerce]
    rfl
  have hv : (Dict.ofList [("v", FieldValue.float 1.5)]).get? "v" = some (.float 1.5) := rfl
  exact ⟨_, hread, hv, Parser.float_of_read hread hv⟩

end Line

end SampleRecorder
