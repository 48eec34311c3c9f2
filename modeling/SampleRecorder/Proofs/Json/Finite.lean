import SampleRecorder.Json.Decode
import SampleRecorder.Proofs.Number.Size
import SampleRecorder.Proofs.Postcondition

/-!
# The numbers of a document

A number that is too great for a floating-point number is a fault of the document.  An integer is kept as such only
within 64 bits, and any other number comes about by scaling one: by a product, which is looked at, or by quotients, which
stay far below what is too great.  So every number of a document that can be read is finite, and an integer of it is
small enough to become a finite number later.
-/

namespace SampleRecorder.Json

open Number

/-- Whether a number is an integer of at most 64 bits or a finite floating-point number. -/
def Numeric.IsFinite : Numeric → Prop
  | int n => n.natAbs < Raw.wordLimit
  | float x => x.isFinite = true

/-- Whether all numbers of a value are finite. -/
inductive IsFinite : Json → Prop where
  | null : IsFinite .null
  | bool (b : Bool) : IsFinite (.bool b)
  | int {n : Int} (h : n.natAbs < Raw.wordLimit) : IsFinite (.int n)
  | float {x : Float} (h : x.isFinite = true) : IsFinite (.float x)
  | str (s : String) : IsFinite (.str s)
  | arr {items : List Json} (h : ∀ j ∈ items, IsFinite j) : IsFinite (.arr items)
  | obj {members : List (String × Json)} (h : ∀ e ∈ members, IsFinite e.2) : IsFinite (.obj members)

namespace Raw

/-- Whether all numbers of a tree that can be used are finite. -/
inductive IsFinite : Raw → Prop where
  | broken (b : Break) : IsFinite (.broken b)
  | null : IsFinite .null
  | bool (b : Bool) : IsFinite (.bool b)
  | number {n : Except Cause Numeric} (h : Gives n Numeric.IsFinite) : IsFinite (.number n)
  | str (s : Except Cause String) : IsFinite (.str s)
  | arr {items : List Raw} (ending : Option Break) (h : ∀ a ∈ items, IsFinite a) : IsFinite (.arr items ending)
  | obj {members : List (Except Cause String × Raw)} (ending : Option Break) (h : ∀ e ∈ members, IsFinite e.2) :
      IsFinite (.obj members ending)

/-! ### Scaling -/

theorem significand_lt {start : Nat} (h : start < wordLimit) (ds : List Char) :
    (significand start ds).1 < wordLimit := by
  have hgo (value used : Nat) (hvalue : value < wordLimit) : (significand.go value used ds).1 < wordLimit := by
    induction ds generalizing value used with
    | nil => exact hvalue
    | cons d rest ih =>
      rw [significand.go]
      split
      · next hnext => exact ih _ _ hnext
      · exact hvalue
  exact hgo start 0 h

/-- A single power of ten is a factor, whose product is looked at, or a divisor, which is at least one. -/
theorem gives_scale_small {fuel : Nat} {t : Int} {x : Float} (h : IsBelow t x) (hle : -1022 < t) (hlt : t < 972)
    {exponent : Int} (hsmall : exponent.natAbs ≤ 308) : Gives (scale fuel x exponent) fun y => y.isFinite = true := by
  unfold scale
  rw [if_pos hsmall]
  dsimp only
  split
  · split
    · next hfinite => exact .ok hfinite
    · exact .error _
  · exact .ok (isBelow_div h (isLarge_tenPow hsmall) hle hlt).isFinite

/-- Each further division by a power of ten takes up one place of the bound. -/
theorem gives_scale {fuel : Nat} {t : Int} {x : Float} (h : IsBelow t x) (hle : -1022 < t) (hfuel : t + fuel < 972)
    (exponent : Int) : Gives (scale fuel x exponent) fun y => y.isFinite = true := by
  induction fuel generalizing t x exponent with
  | zero =>
    by_cases hsmall : exponent.natAbs ≤ 308
    · exact gives_scale_small h hle (by omega) hsmall
    · rw [scale, if_neg hsmall]
      split
      · exact .ok h.isFinite
      · split
        · exact .error _
        · exact .ok (by decide +kernel)
  | succ fuel ih =>
    by_cases hsmall : exponent.natAbs ≤ 308
    · exact gives_scale_small h hle (by omega) hsmall
    · rw [scale, if_neg hsmall]
      split
      · exact .ok h.isFinite
      · split
        · exact .error _
        · exact ih (isBelow_div h (isLarge_tenPow (Nat.le_refl 308)) hle (by omega)) (by omega) (by omega) _

theorem gives_numeric (negative : Bool) (whole fraction : List Char) (exponent : Option Int) :
    Gives (numeric negative whole fraction exponent) Numeric.IsFinite := by
  have hwhole := significand_lt (by decide : 0 < wordLimit) whole
  unfold numeric
  dsimp only
  split
  · split
    · exact .ok hwhole
    · split
      · next h => exact .ok (by rw [Numeric.IsFinite, Int.natAbs_neg]; exact hwhole)
      · exact .ok (isFinite_neg (isBelow_ofNat hwhole).isFinite)
  · have hboth := significand_lt hwhole fraction
    refine (gives_scale (isBelow_ofNat hboth) (by decide) (by decide) _).map fun x hx => ?_
    show (if negative then -x else x).isFinite = true
    split
    · exact isFinite_neg hx
    · exact hx

theorem gives_signedNumber (negative : Bool) (s : List Char) :
    Gives (signedNumber negative s) fun r => Gives r.1 Numeric.IsFinite := by
  unfold signedNumber
  dsimp only
  split
  · exact .error _
  · split
    · exact .error _
    · split
      · split
        all_goals
          refine .bind_any fun _ => ?_
          split <;> exact .bind_any fun _ => .ok (gives_numeric _ _ _ _)
      · refine .bind_any fun _ => ?_
        split <;> exact .bind_any fun _ => .ok (gives_numeric _ _ _ _)

/-! ### Documents -/

theorem isFinite_word {value : Raw} (h : IsFinite value) (atEnd : Break) (letters s : List Char) :
    IsFinite (word value atEnd letters s).1 := by
  induction letters generalizing s with
  | nil => exact h
  | cons w ws ih =>
    cases s with
    | nil => exact .broken atEnd
    | cons c s =>
      rw [word]
      split
      · exact ih s
      · exact .broken _

theorem isFinite_signedNumber {negative : Bool} {s rest : List Char} {n : Except Cause Numeric}
    (h : signedNumber negative s = .ok (n, rest)) : IsFinite (.number n) :=
  .number (gives_signedNumber negative s _ h)

theorem isFinite_value_succ {fuel : Nat} (hitems : ∀ s, ∀ a ∈ (items fuel s).1, IsFinite a)
    (hmembers : ∀ s, ∀ e ∈ (members fuel s).1, IsFinite e.2) (s : List Char) : IsFinite (value (fuel + 1) s).1 := by
  rw [value]
  split
  · exact .broken _
  · exact isFinite_word .null ..
  · exact isFinite_word (.bool true) ..
  · exact isFinite_word (.bool false) ..
  · split
    · exact .str _
    · exact .broken _
  · split
    · next h => exact isFinite_signedNumber h
    · exact .broken _
  · split
    · exact .arr _ nofun
    · exact .arr _ nofun
    · exact .arr _ (hitems _)
  · split
    · exact .obj _ nofun
    · exact .obj _ nofun
    · exact .obj _ (hmembers _)
  · split
    · split
      · next h => exact isFinite_signedNumber h
      · exact .broken _
    · exact .broken _

theorem isFinite_items_succ {fuel : Nat} (hvalue : ∀ s, IsFinite (value fuel s).1)
    (hitems : ∀ s, ∀ a ∈ (items fuel s).1, IsFinite a) (s : List Char) : ∀ a ∈ (items (fuel + 1) s).1, IsFinite a := by
  have hfirst := hvalue s
  have hone {v : Raw} (hv : IsFinite v) : ∀ a ∈ [v], IsFinite a := List.forall_mem_singleton.mpr hv
  rw [items]
  generalize value fuel s = read at hfirst
  split
  · exact hone hfirst
  · split
    · exact hone hfirst
    · exact hone hfirst
    · split
      · exact List.forall_mem_cons.mpr ⟨hfirst, hone (.broken _)⟩
      · exact List.forall_mem_cons.mpr ⟨hfirst, hone (.broken _)⟩
      · exact List.forall_mem_cons.mpr ⟨hfirst, hitems _⟩
    · exact hone hfirst

theorem isFinite_members_succ {fuel : Nat} (hvalue : ∀ s, IsFinite (value fuel s).1)
    (hmembers : ∀ s, ∀ e ∈ (members fuel s).1, IsFinite e.2) (s : List Char) :
    ∀ e ∈ (members (fuel + 1) s).1, IsFinite e.2 := by
  have hone {e : Except Cause String × Raw} (he : IsFinite e.2) : ∀ e' : _ × Raw, e' ∈ [e] → IsFinite e'.2 :=
    List.forall_mem_singleton.mpr he
  unfold members
  split
  · split
    · exact nofun
    · split
      · exact hone (.broken _)
      · next rest _ =>
        have hfirst := hvalue rest
        generalize value fuel rest = read at hfirst
        split
        · exact hone hfirst
        · split
          · exact hone hfirst
          · exact hone hfirst
          · split
            · exact List.forall_mem_cons.mpr ⟨hfirst, hone (.broken _)⟩
            · exact List.forall_mem_cons.mpr ⟨hfirst, hmembers _⟩
          · exact hone hfirst
      · exact hone (.broken _)
  · exact nofun

/-- What has been read, however far, has finite numbers only. -/
theorem isFinite_reading (fuel : Nat) : (∀ s, IsFinite (value fuel s).1) ∧
    (∀ s, ∀ a ∈ (items fuel s).1, IsFinite a) ∧ ∀ s, ∀ e ∈ (members fuel s).1, IsFinite e.2 := by
  induction fuel with
  | zero => exact ⟨fun s => by rw [value]; exact .broken _, fun s => by rw [items]; exact nofun,
      fun s => by rw [members]; exact nofun⟩
  | succ fuel ih =>
    obtain ⟨hvalue, hitems, hmembers⟩ := ih
    exact ⟨isFinite_value_succ hitems hmembers, isFinite_items_succ hvalue hitems,
      isFinite_members_succ hvalue hmembers⟩

theorem isFinite_read (s : List Char) : IsFinite (read s).1 := by
  have h := (isFinite_reading (s.length + 1)).1 s
  unfold read
  generalize value (s.length + 1) s = r at h
  split <;> exact h

end Raw

/-! ### Values -/

mutual

theorem gives_decodeAny (depth : Nat) (raw : Raw) (h : raw.IsFinite) : Gives (decodeAny depth raw) IsFinite := by
  match raw with
  | .broken b => exact .error _
  | .null => exact .ok .null
  | .bool b => exact .ok (.bool b)
  | .number n =>
    cases h with
    | number h =>
      refine h.map fun v hv => ?_
      cases v with
      | int n => exact .int hv
      | float x => exact .float hv
  | .str s => exact .map_any .str
  | .arr items ending =>
    rw [decodeAny]
    split
    · exact .error _
    · cases h with
      | arr _ h => exact (gives_decodeItems _ items h).bind fun _ hitems => .bind_any fun _ => .ok (.arr hitems)
  | .obj members ending =>
    rw [decodeAny]
    split
    · exact .error _
    · cases h with
      | obj _ h =>
        refine (gives_decodeMembers _ members h).bind fun list hlist => .bind_any fun _ => .ok (.obj ?_)
        rintro ⟨key, j⟩ he
        exact hlist _ (Dict.mem_of_get?_ofList ((Dict.mem_entries_iff _ key j).mp he))

theorem gives_decodeItems (depth : Nat) (items : List Raw) (h : ∀ a ∈ items, a.IsFinite) :
    Gives (decodeItems depth items) fun list => ∀ j ∈ list, IsFinite j := by
  match items with
  | [] => exact .ok nofun
  | a :: rest =>
    obtain ⟨ha, hrest⟩ := List.forall_mem_cons.mp h
    rw [decodeItems]
    refine (gives_decodeAny depth a ha).bind fun j hj => (gives_decodeItems depth rest hrest).bind fun list hlist => ?_
    exact .ok (List.forall_mem_cons.mpr ⟨hj, hlist⟩)

theorem gives_decodeMembers (depth : Nat) (members : List (Except Cause String × Raw)) (h : ∀ e ∈ members, e.2.IsFinite) :
    Gives (decodeMembers depth members) fun list => ∀ e ∈ list, IsFinite e.2 := by
  match members with
  | [] => exact .ok nofun
  | (k, a) :: rest =>
    obtain ⟨ha, hrest⟩ := List.forall_mem_cons.mp h
    rw [decodeMembers]
    refine .bind_any fun k => (gives_decodeAny depth a ha).bind fun j hj => ?_
    refine (gives_decodeMembers depth rest hrest).bind fun list hlist => .ok ?_
    exact List.forall_mem_cons.mpr ⟨hj, hlist⟩

end

/-- All numbers of a document are finite. -/
theorem gives_ofText (s : String) : Gives (ofText s) IsFinite := by
  refine (gives_decodeAny 0 _ (Raw.isFinite_read s.toList)).bind fun j hj => ?_
  split
  · exact .error _
  · exact .ok hj

end SampleRecorder.Json
