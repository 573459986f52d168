import Muxwire.Msgpack.Decode
import Muxwire.Msgpack.Head.Form

/-!
# Every form of a value

The forms that a value may take are those of the heads in it. Whatever the form, the reader makes
the same of it.

* `Value.Form v octets` -- the octets are a form of the value.
* **`Value.Form.readWithin`** -- every form of a value is read as that value by a budget of
  `Value.need` and more, and by no smaller one.
-/

namespace Muxwire.Msgpack

/-! ## 1. Forms -/

namespace Value

mutual

/-- The octets are a form of the value. -/
inductive Form : Value → Octets → Prop where
  | nil {front : Octets} (h : Head.nil.Form front) : Form .nil front
  | bool {b : Bool} {front : Octets} (h : (Head.bool b).Form front) : Form (.bool b) front
  | int {n : WireInt} {front : Octets} (h : (Head.int n).Form front) : Form (.int n) front
  | f32 {word : UInt32} {front : Octets} (h : (Head.f32 word).Form front) : Form (.f32 word) front
  | f64 {word : UInt64} {front : Octets} (h : (Head.f64 word).Form front) : Form (.f64 word) front
  | str {octets front : Octets} (h : (Head.str octets.length).Form front) :
      Form (.str octets) (front ++ octets)
  | bin {octets front : Octets} (h : (Head.bin octets.length).Form front) :
      Form (.bin octets) (front ++ octets)
  | ext {type : Int8} {octets front : Octets} (h : (Head.ext octets.length).Form front) :
      Form (.ext type octets) (front ++ type.toUInt8 :: octets)
  | array {items : List Value} {front content : Octets}
      (h : (Head.array items.length).Form front) (hc : FormAll items content) :
      Form (.array items) (front ++ content)
  | map {entries : List (Value × Value)} {front content : Octets}
      (h : (Head.map entries.length).Form front) (hc : FormEntries entries content) :
      Form (.map entries) (front ++ content)

/-- The octets are forms of the values, one after the other. -/
inductive FormAll : List Value → Octets → Prop where
  | nil : FormAll [] []
  | cons {v : Value} {vs : List Value} {octets more : Octets} (h : Form v octets)
      (hs : FormAll vs more) : FormAll (v :: vs) (octets ++ more)

/-- The octets are forms of each key and its value in turn. -/
inductive FormEntries : List (Value × Value) → Octets → Prop where
  | nil : FormEntries [] []
  | cons {k v : Value} {entries : List (Value × Value)} {front octets more : Octets}
      (hk : Form k front) (hv : Form v octets) (hs : FormEntries entries more) :
      FormEntries ((k, v) :: entries) (front ++ (octets ++ more))

end

mutual

/-- The least budget by which a value is read. It does not depend on the form. -/
def need : Value → Nat
  | .str _ => 3
  | .bin _ => 2
  | .ext _ _ => 3
  | .array items => needAll items + 2
  | .map entries => needEntries entries + 2
  | _ => 1

/-- The greatest need in a list. -/
def needAll : List Value → Nat
  | [] => 0
  | v :: vs => max (need v) (needAll vs)

/-- The greatest need among keys and values. -/
def needEntries : List (Value × Value) → Nat
  | [] => 0
  | (k, v) :: rest => max (max (need k) (need v)) (needEntries rest)

end

theorem need_pos (v : Value) : 0 < v.need := by
  cases v <;> simp [need]

/-! ## 2. Read in every form -/

theorem readCharged_eq (c b : Nat) (octets rest : Octets) :
    readCharged c b octets.length (octets ++ rest) =
      if c ≤ b then .ok (octets, rest) else .error .tooDeep := by
  by_cases h : c ≤ b
  · rw [if_pos h, readCharged_append h]
  · rw [if_neg h, readCharged, if_pos (Nat.not_le.mp h)]

/-- What is made of a reading that the budget covers. -/
theorem bind_covered {α β : Type} {p q : Prop} [Decidable p] [Decidable q] {a : α} {b : β}
    {f : α → Except ReadFault β} (h : p ↔ q) (hf : f a = .ok b) :
    ((if p then Except.ok a else .error ReadFault.tooDeep) >>= f) =
      if q then .ok b else .error .tooDeep := by
  by_cases hp : p
  · rw [if_pos hp, if_pos (h.mp hp)]
    exact hf
  · rw [if_neg hp, if_neg (fun hq => hp (h.mpr hq))]
    rfl

mutual

/-- The reading of every form, whatever the budget. -/
theorem readWithin_form : ∀ (v : Value) (b : Nat) {octets : Octets}, v.Form octets → ∀ rest,
    readWithin b (octets ++ rest) = if v.need ≤ b then .ok (v, rest) else .error .tooDeep
  | v, 0, _, _, _ => by
    rw [if_neg (Nat.not_le.mpr v.need_pos), readWithin]
  | .nil, b + 1, _, .nil h, rest => by
    simp [readWithin, h.read, need, bind, Except.bind, pure, Except.pure]
  | .bool x, b + 1, _, .bool h, rest => by
    simp [readWithin, h.read, need, bind, Except.bind, pure, Except.pure]
  | .int n, b + 1, _, .int h, rest => by
    simp [readWithin, h.read, need, bind, Except.bind, pure, Except.pure]
  | .f32 w, b + 1, _, .f32 h, rest => by
    simp [readWithin, h.read, need, bind, Except.bind, pure, Except.pure]
  | .f64 w, b + 1, _, .f64 h, rest => by
    simp [readWithin, h.read, need, bind, Except.bind, pure, Except.pure]
  | .str octets, b + 1, _, .str h, rest => by
    rw [List.append_assoc, readWithin, h.read]
    show (readCharged 2 b octets.length (octets ++ rest) >>= _) = _
    rw [readCharged_eq]
    exact bind_covered (by rw [need]; omega) rfl
  | .bin octets, b + 1, _, .bin h, rest => by
    rw [List.append_assoc, readWithin, h.read]
    show (readCharged 1 b octets.length (octets ++ rest) >>= _) = _
    rw [readCharged_eq]
    exact bind_covered (by rw [need]; omega) rfl
  | .ext type octets, b + 1, _, .ext h, rest => by
    rw [List.append_assoc, readWithin, h.read]
    show readExtension b octets.length (type.toUInt8 :: octets ++ rest) = _
    rw [List.cons_append, readExtension]
    split
    · rw [if_neg (by rw [need]; omega)]
    · show (readCharged 2 b octets.length (octets ++ rest) >>= _) = _
      rw [readCharged_eq]
      exact bind_covered (by rw [need]; omega) rfl
  | .array items, b + 1, _, .array h hc, rest => by
    rw [List.append_assoc, readWithin, h.read]
    match b with
    | 0 =>
      rw [if_neg (by simp [need])]
      rfl
    | inner + 1 =>
      show (readMany (readWithin inner) items.length [] (_ ++ rest) >>= _) = _
      rw [readMany_form items inner hc]
      exact bind_covered (by rw [need]; omega) rfl
  | .map entries, b + 1, _, .map h hc, rest => by
    rw [List.append_assoc, readWithin, h.read]
    match b with
    | 0 =>
      rw [if_neg (by simp [need])]
      rfl
    | inner + 1 =>
      show (readMany (readPair (readWithin inner) (readWithin inner)) entries.length []
        (_ ++ rest) >>= _) = _
      rw [readMany_formEntries entries inner hc]
      exact bind_covered (by rw [need]; omega) rfl

/-- The same for values one after the other. -/
theorem readMany_form : ∀ (vs : List Value) (b : Nat) {octets : Octets}, FormAll vs octets →
    ∀ (found : List Value) (rest : Octets),
    readMany (readWithin b) vs.length found (octets ++ rest) =
      if needAll vs ≤ b then .ok (found.reverse ++ vs, rest) else .error .tooDeep
  | [], b, _, .nil, found, rest => by simp [readMany, needAll]
  | v :: vs, b, _, .cons h hs, found, rest => by
    rw [List.append_assoc, List.length_cons, readMany, readWithin_form v b h]
    by_cases enough : v.need ≤ b
    · have same : needAll (v :: vs) ≤ b ↔ needAll vs ≤ b := by
        rw [needAll]
        omega
      simp only [enough, if_true, readMany_form vs b hs, same, List.reverse_cons,
        List.append_assoc, List.singleton_append]
    · have more : ¬ needAll (v :: vs) ≤ b := by
        rw [needAll]
        omega
      simp only [enough, more, if_false]

/-- The same for keys and values in turn. -/
theorem readMany_formEntries : ∀ (es : List (Value × Value)) (b : Nat) {octets : Octets},
    FormEntries es octets → ∀ (found : List (Value × Value)) (rest : Octets),
    readMany (readPair (readWithin b) (readWithin b)) es.length found (octets ++ rest) =
      if needEntries es ≤ b then .ok (found.reverse ++ es, rest) else .error .tooDeep
  | [], b, _, .nil, found, rest => by simp [readMany, needEntries]
  | (k, v) :: es, b, _, .cons hk hv hs, found, rest => by
    have hval := readWithin_form v b hv
    rw [List.append_assoc, List.append_assoc, List.length_cons, readMany, readPair,
      readWithin_form k b hk]
    by_cases key : k.need ≤ b
    · by_cases value : v.need ≤ b
      · have same : needEntries ((k, v) :: es) ≤ b ↔ needEntries es ≤ b := by
          rw [needEntries]
          omega
        simp only [key, value, if_true, hval, readMany_formEntries es b hs, same,
          List.reverse_cons, List.append_assoc, List.singleton_append]
      · have more : ¬ needEntries ((k, v) :: es) ≤ b := by
          rw [needEntries]
          omega
        simp only [key, value, more, if_true, if_false, hval]
    · have more : ¬ needEntries ((k, v) :: es) ≤ b := by
        rw [needEntries]
        omega
      simp only [key, more, if_false]

end

/-- **Every form of a value is read as that value, in front of anything, if the budget covers its
need, and is too deep otherwise.** -/
theorem Form.readWithin {v : Value} {octets : Octets} (form : v.Form octets) (b : Nat)
    (rest : Octets) : Value.readWithin b (octets ++ rest) =
      if v.need ≤ b then .ok (v, rest) else .error .tooDeep :=
  readWithin_form v b form rest

/-- The same for a document. -/
theorem Form.read {v : Value} {octets : Octets} (form : v.Form octets) (need : v.need ≤ fullBudget)
    (rest : Octets) : Value.read (octets ++ rest) = .ok (v, rest) := by
  rw [Value.read, form.readWithin, if_pos need]

/-- A form has at least its marker. -/
theorem Form.ne_nil {v : Value} {octets : Octets} (form : v.Form octets) : octets ≠ [] := by
  rintro rfl
  -- from no octets the reader takes no value, whatever the budget
  have h := form.readWithin (v.need + 1) []
  rw [if_pos (Nat.le_succ _), List.nil_append, Value.readWithin] at h
  cases h

end Value

end Muxwire.Msgpack
