import Muxwire.Msgpack.Form
import Muxwire.Proofs.Headers

/-!
# Bodies that are cut short

No front of a value is a value, so that a body which lost its end is not taken for another one.

* `Steady` -- a reader that takes what it takes whatever follows. The readers of heads, contents and
  values are steady, since each goes on from where another stopped (`Steady.bind`).
* `Steady.cut` -- what a steady reader takes whole it does not take in part.
* **`Response.truncates`** -- a body of a header and a payload, cut anywhere, is no response; but
  cut behind the header it is the response of the header alone, which has the code and the sync of
  the whole one and brings no data.
-/

namespace Muxwire.Msgpack

/-! ## 1. Steady readers -/

/-- What the reader takes from the front of octets, it takes in front of anything. -/
def Steady {ε α : Type} (r : Reader ε α) : Prop :=
  ∀ octets rest a, r octets = .ok (a, rest) → ∀ more, r (octets ++ more) = .ok (a, rest ++ more)

namespace Steady

variable {ε α β : Type} {r r' : Reader ε α}

theorem pure (a : α) : Steady fun octets => (.ok (a, octets) : Except ε (α × Octets)) := by
  intro octets rest a' h more
  cases h
  rfl

theorem error (e : ε) : Steady fun _ => (.error e : Except ε (α × Octets)) := by
  intro octets rest a h
  cases h

theorem ite {c : Prop} [Decidable c] (hr : Steady r) (hr' : Steady r') :
    Steady fun octets => if c then r octets else r' octets := by
  by_cases h : c
  · simp only [h, if_true]
    exact hr
  · simp only [h, if_false]
    exact hr'

/-- A reader that goes on from where another stopped. -/
theorem bind {next : α → Reader ε β} (hr : Steady r) (hn : ∀ a, Steady (next a)) :
    Steady fun octets => r octets >>= fun p => next p.1 p.2 := by
  intro octets rest b h more
  simp only [Bind.bind, Except.bind] at h ⊢
  cases hp : r octets with
  | error e =>
    rw [hp] at h
    cases h
  | ok p =>
    rw [hp] at h
    rw [hr _ _ _ hp more]
    exact hn p.1 _ _ _ h more

/-- **What is taken whole is not taken in part.** -/
theorem cut (hr : Steady r) {front more : Octets} {a : α} (whole : r (front ++ more) = .ok (a, []))
    (lost : more ≠ []) : ∃ e, r front = .error e := by
  cases h : r front with
  | error e => exact ⟨e, rfl⟩
  | ok p =>
    have taken := hr _ _ _ h more
    rw [whole, Except.ok.injEq, Prod.mk.injEq] at taken
    exact absurd (List.append_eq_nil_iff.mp taken.2.symm).2 lost

end Steady

/-! ## 2. Values -/

theorem splitExact?_append_right {n : Nat} {octets front rest : Octets}
    (h : Octets.splitExact? n octets = some (front, rest)) (more : Octets) :
    Octets.splitExact? n (octets ++ more) = some (front, rest ++ more) := by
  rw [Octets.splitExact?_eq] at h ⊢
  split at h
  · rename_i enough
    cases h
    rw [if_pos (by rw [List.length_append]; omega), List.take_append_of_le_length enough,
      List.drop_append_of_le_length enough]
  · cases h

theorem steady_number (w : Width) (head : Nat → Head) : Steady (Head.number w head) := by
  intro octets rest h hr more
  simp only [Head.number, Octets.readNumber?] at hr ⊢
  cases hs : Octets.splitExact? w.octets octets with
  | none =>
    rw [hs] at hr
    cases hr
  | some p =>
    rw [hs] at hr
    rw [splitExact?_append_right hs more]
    cases hr
    rfl

theorem steady_readMarked (k : Nat) : Steady (Head.readMarked k) := by
  unfold Head.readMarked
  split <;> first | exact steady_number _ _ | exact .pure _

/-- Behind the first octet, which says how to go on, the reader of heads is steady. -/
theorem steady_readHead_cons (b : UInt8) : Steady fun octets => Head.read (b :: octets) :=
  .ite (.pure _) (.ite (.pure _) (.ite (.pure _) (.ite (.pure _)
    (.ite (steady_readMarked _) (.pure _)))))

theorem steady_readHead : Steady Head.read := by
  intro octets rest h hr more
  cases octets with
  | nil => cases hr
  | cons b octets => exact steady_readHead_cons b _ _ _ hr more

theorem steady_readContent (n : Nat) : Steady (readContent n) := by
  intro octets rest content h more
  simp only [readContent] at h ⊢
  cases hs : Octets.splitExact? n octets with
  | none =>
    rw [hs] at h
    cases h
  | some p =>
    rw [hs] at h
    rw [splitExact?_append_right hs more]
    cases h
    rfl

theorem steady_readMany {ε α : Type} {item : Reader ε α} (h : Steady item) (n : Nat)
    (found : List α) : Steady (readMany item n found) := by
  induction n generalizing found with
  | zero => exact .pure _
  | succ n ih =>
    intro octets rest items hr more
    rw [readMany] at hr ⊢
    cases hi : item octets with
    | error e =>
      rw [hi] at hr
      cases hr
    | ok p =>
      rw [hi] at hr
      rw [h _ _ _ hi more]
      exact ih _ _ _ _ hr more

theorem steady_readPair {ε α β : Type} {first : Reader ε α} {second : Reader ε β}
    (h : Steady first) (h' : Steady second) : Steady (readPair first second) := by
  intro octets rest pair hr more
  rw [readPair] at hr ⊢
  cases hf : first octets with
  | error e =>
    rw [hf] at hr
    cases hr
  | ok p =>
    rw [hf] at hr
    rw [h _ _ _ hf more]
    dsimp only at hr ⊢
    cases hs : second p.2 with
    | error e =>
      rw [hs] at hr
      cases hr
    | ok q =>
      rw [hs] at hr
      rw [h' _ _ _ hs more]
      cases hr
      rfl

namespace Value

theorem steady_readCharged (cost budget n : Nat) : Steady (readCharged cost budget n) :=
  .ite (.error _) (steady_readContent n)

theorem steady_readExtension (budget n : Nat) : Steady (readExtension budget n) := by
  refine .ite (.error _) ?_
  intro octets rest v h more
  cases octets with
  | nil => cases h
  | cons type octets =>
    exact Steady.bind (steady_readCharged 2 budget n) (fun content => .pure _) _ _ _ h more

/-- **The reader of values is steady**, with every budget. -/
theorem steady_readWithin (budget : Nat) : Steady (readWithin budget) := by
  induction budget using Nat.strongRecOn with
  | ind budget ih =>
    cases budget with
    | zero => exact .error _
    | succ budget =>
      intro octets rest v h more
      rw [readWithin] at h ⊢
      cases hh : Head.read octets with
      | error e =>
        rw [hh] at h
        cases h
      | ok p =>
        obtain ⟨head, after⟩ := p
        rw [hh] at h
        rw [steady_readHead _ _ _ hh more]
        cases head with
        | nil | reserved | bool | int | f32 | f64 => exact Steady.pure _ _ _ _ h more
        | str n =>
          exact Steady.bind (steady_readCharged 2 budget n) (fun octets => .pure _) _ _ _ h more
        | bin n =>
          exact Steady.bind (steady_readCharged 1 budget n) (fun octets => .pure _) _ _ _ h more
        | ext n => exact steady_readExtension budget n _ _ _ h more
        | array n =>
          cases budget with
          | zero => cases h
          | succ inner =>
            have items := steady_readMany (ih inner (by omega)) n []
            exact Steady.bind items (fun items => .pure _) _ _ _ h more
        | map n =>
          cases budget with
          | zero => cases h
          | succ inner =>
            have value := ih inner (by omega)
            have entries := steady_readMany (steady_readPair value value) n []
            exact Steady.bind entries (fun entries => .pure _) _ _ _ h more

end Value

end Muxwire.Msgpack

namespace Muxwire.Wire.Response

open Msgpack

/-! ## 3. Bodies -/

variable {header payload : Value} {front octets : Octets}

/-- What decoding makes of a header and a payload. -/
def outcome (header : Value) (payload : Option Value) : Except Error Response :=
  (ofValues header payload).mapError fun fault => .protocol fault.message

/-- The response as it would be had it come without its payload. -/
def withoutPayload (r : Response) : Response :=
  { r with data := none, error := r.error.map fun e => { e with message := unknownError } }

/-- **A header alone means what it means with a payload, less the payload.** -/
theorem outcome_none (header : Value) (payload : Option Value) :
    outcome header none = (outcome header payload).map withoutPayload := by
  simp only [outcome, ofValues]
  cases natField? header .code with
  | none => rfl
  | some code =>
    cases natField? header .sync with
    | none => rfl
    | some sync =>
      by_cases syncLong : 2 ^ 32 ≤ sync
      · simp only [syncLong, if_true]
        rfl
      by_cases codeLong : 2 ^ 32 ≤ code
      · simp only [syncLong, codeLong, if_true, if_false]
        rfl
      simp only [syncLong, codeLong, if_false]
      split <;> rfl

/-- No value is read from no octets. -/
theorem ne_nil_of_read {v : Value} {rest : Octets} (h : Value.read octets = .ok (v, rest)) :
    octets ≠ [] := by
  rintro rfl
  rw [Value.read, Value.fullBudget, Value.readWithin] at h
  cases h

theorem decode_eq_outcome {body : Octets} {payload : Option Value}
    (h : readValues body = .ok (header, payload)) : decode body = outcome header payload := by
  rw [decode, h, outcome]
  dsimp only
  cases ofValues header payload <;> rfl

theorem decode_of_fault {body : Octets} {fault : ReadFault} (h : readValues body = .error fault) :
    decode body = .error (.valueDecode fault) := by
  rw [decode, h]

theorem readValues_of_fault {body : Octets} {fault : ReadFault}
    (h : Value.read body = .error fault) : readValues body = .error fault := by
  rw [readValues, h]
  rfl

/-- Behind a whole header the payload decides. -/
theorem readValues_append {more : Octets} (hh : Value.read front = .ok (header, []))
    (hm : more ≠ []) :
    readValues (front ++ more) = (Value.read more).map fun p => (header, some p.1) := by
  have taken : Value.read (front ++ more) = .ok (header, more) :=
    Value.steady_readWithin _ _ _ _ hh more
  have shown : more.isEmpty = false := List.isEmpty_eq_false_iff.mpr hm
  simp only [readValues, taken, bind, Except.bind, shown]
  cases Value.read more <;> rfl

/-- What decoding makes of a body of a header and a payload and of what is left of it if its end is
lost. -/
structure Truncates (header payload : Value) (front octets : Octets) : Prop where
  whole : decode (front ++ octets) = outcome header (some payload)
  bare : decode front = outcome header none
  cut : ∀ left lost, front ++ octets = left ++ lost → lost ≠ [] → left ≠ front →
    ∃ fault, decode left = .error (.valueDecode fault)
  taken : ∀ left lost r, front ++ octets = left ++ lost → lost ≠ [] → decode left = .ok r →
    left = front ∧ ∃ r', decode (front ++ octets) = .ok r' ∧ r = r'.withoutPayload

/-- **A body that is cut is no response**, unless it is cut behind its header. -/
theorem decode_cut (hh : Value.read front = .ok (header, []))
    (hp : Value.read octets = .ok (payload, [])) {left lost : Octets}
    (parts : front ++ octets = left ++ lost) (hlost : lost ≠ []) (hleft : left ≠ front) :
    ∃ fault, decode left = .error (.valueDecode fault) := by
  rcases List.append_eq_append_iff.mp parts with ⟨more, rfl, rfl⟩ | ⟨more, rfl, -⟩
  · -- the cut is in the payload
    have shown : more ≠ [] := by
      rintro rfl
      exact hleft (List.append_nil front)
    obtain ⟨fault, hfault⟩ := (Value.steady_readWithin _).cut hp hlost
    have read := readValues_append hh shown
    rw [Value.read, hfault] at read
    exact ⟨fault, decode_of_fault read⟩
  · -- the cut is in the header
    have shown : more ≠ [] := by
      rintro rfl
      exact hleft (List.append_nil left).symm
    obtain ⟨fault, hfault⟩ := (Value.steady_readWithin _).cut hh shown
    exact ⟨fault, decode_of_fault (readValues_of_fault hfault)⟩

/-- **A body of two values that loses its end is an error of the value reader, wherever it is cut,
but for the cut behind the header; there it is the response of the header alone.** -/
theorem truncates (hh : Value.read front = .ok (header, []))
    (hp : Value.read octets = .ok (payload, [])) : Truncates header payload front octets := by
  have read := readValues_append hh (ne_nil_of_read hp)
  rw [hp] at read
  have whole : decode (front ++ octets) = outcome header (some payload) := decode_eq_outcome read
  have bare : decode front = outcome header none := decode_eq_outcome (readValues_front hh)
  refine ⟨whole, bare, fun left lost => decode_cut hh hp, ?_⟩
  intro left lost r parts hlost ok
  by_cases hleft : left = front
  · subst hleft
    refine ⟨rfl, ?_⟩
    rw [bare, outcome_none header (some payload), ← whole] at ok
    cases hd : decode (left ++ octets) with
    | error e =>
      rw [hd] at ok
      cases ok
    | ok r' =>
      rw [hd] at ok
      cases ok
      exact ⟨r', rfl, rfl⟩
  · obtain ⟨fault, hfault⟩ := decode_cut hh hp parts hlost hleft
    rw [hfault] at ok
    cases ok

/-- The same for a body in long forms: a header with its length in two octets, its sync in two's
complement and the reserved marker as its schema version, and a payload of an array with its length
in four octets. -/
theorem truncates_longForms : Truncates
    (.map [(natValue 0, natValue 0), (natValue 1, natValue 7), (natValue 5, .nil)])
    (.map [(natValue 0x30, .array [Value.text "no", .nil])])
    [0xde, 0, 3, 0, 0, 1, 0xd3, 0, 0, 0, 0, 0, 0, 0, 7, 5, 0xc1]
    [0x81, 0xcc, 0x30, 0xdd, 0, 0, 0, 2, 0xd9, 2, 0x6e, 0x6f, 0xc1] := by
  refine truncates ?header ?payload
  case header =>
    simp [Value.read, Value.fullBudget, Value.readWithin, Head.read, Head.readMarked, Head.number,
      Octets.readNumber?, Octets.splitExact?_eq, Octets.ofBigEndian, Width.octets, readMany,
      readPair, bind, Except.bind, pure, Except.pure]
    exact ⟨rfl, ⟨rfl, rfl⟩, rfl⟩
  case payload =>
    simp [Value.read, Value.fullBudget, Value.readWithin, Value.readCharged, readContent, Head.read,
      Head.readMarked, Head.number, Octets.readNumber?, Octets.splitExact?_eq, Octets.ofBigEndian,
      Width.octets, readMany, readPair, bind, Except.bind, pure, Except.pure]
    exact ⟨rfl, rfl⟩

end Muxwire.Wire.Response
