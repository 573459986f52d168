import Muxwire.Msgpack.RoundTrip
import Muxwire.Msgpack.Shape.Read
import Muxwire.Proofs.ArgumentLists
import Muxwire.Proofs.Headers
import Muxwire.Proofs.TypedData

/-!
# Typed data read back

There are two ways back from octets to data of a type: straight from the octets, and by way of a
value. Both give the data that were written.

* `Carries` -- what it takes for a datum to come back in a shape on both ways, with one lemma for
  each kind of type. `within` is how a bounded reader ends.
* `Survives` -- what becomes of the octets of a value of a type.
* **`typed_roundTrip`** -- every value of a type whose options are regular survives, in whatever
  form it was written, if its lengths fit into 32 bits; and an integer in any form is read as any
  integer type that holds it, and as no other.
* `typed_overlong` -- what becomes of a longer sequence.
-/

namespace Muxwire.Msgpack

/-! ## 1. Bounded readers -/

/-- A result for which `depth` containers must be nested, where `limit` of them may be. -/
def within {α : Type} (depth limit : Nat) (a : α) : Except Misfit α :=
  if depth ≤ limit then .ok a else .error (.unreadable .tooDeep)

theorem within_zero {α : Type} (limit : Nat) (a : α) : within 0 limit a = .ok a :=
  if_pos (Nat.zero_le limit)

/-- **Of two results one after the other the deeper one counts.** -/
theorem within_bind {α β : Type} {depth depth' limit : Nat} {a : α} {b : β}
    {f : α → Except Misfit β} (h : f a = within depth' limit b) :
    (within depth limit a >>= f) = within (max depth depth') limit b := by
  unfold within at h ⊢
  by_cases first : depth ≤ limit
  · rw [if_pos first]
    refine h.trans ?_
    congr 1
    exact propext ⟨fun second => Nat.max_le.mpr ⟨first, second⟩, fun both => (Nat.max_le.mp both).2⟩
  · rw [if_neg first, if_neg fun both => first (Nat.max_le.mp both).1]
    rfl

/-- What is only made of a result needs no more. -/
theorem within_map {α β : Type} {depth limit : Nat} {a : α} {b : β} {f : α → Except Misfit β}
    (h : f a = .ok b) : (within depth limit a >>= f) = within depth limit b := by
  rw [within_bind (h.trans (within_zero limit b).symm), Nat.max_zero]

/-- A container needs one more. -/
theorem nested_within {α : Type} {r : Nat → Reader Misfit α} {octets rest : Octets} {depth : Nat}
    {a : α} (h : ∀ inner, r inner octets = within depth inner (a, rest)) (limit : Nat) :
    Shape.nested limit r octets = within (depth + 1) limit (a, rest) := by
  cases limit with
  | zero => exact (if_neg (Nat.not_succ_le_zero depth)).symm
  | succ inner =>
    show r inner octets = _
    rw [h]
    unfold within
    simp only [Nat.succ_le_succ_iff]

theorem readMany_succ {α : Type} (item : Reader Misfit α) (n : Nat) (found : List α)
    (octets : Octets) : readMany item (n + 1) found octets
      = (item octets >>= fun result => readMany item n (result.1 :: found) result.2) := by
  rw [readMany]
  cases item octets <;> rfl

/-! ## 2. Integers -/

open Shape

theorem ofInt?_int (t : IntType) (n : Int) : (Shape.int t).ofInt? n =
    if t.least ≤ n ∧ n < t.bound then some (.int n) else none := by
  rw [ofInt?]
  exact if_congr IntType.holds_iff rfl rfl

/-- **An integer in any form is read as a type that has it in its range, and as no other.** -/
theorem reader_int {n : WireInt} {octets : Octets} (form : (Value.int n).Form octets)
    (t : IntType) (limit : Nat) (rest : Octets) :
    (Shape.int t).reader limit (octets ++ rest) =
      if t.least ≤ n.val ∧ n.val < t.bound then .ok (.int n.val, rest) else .error .unfit := by
  cases form with
  | int h =>
    show readScalar (.int t) (octets ++ rest) = _
    rw [readScalar, plain, h.read]
    show fit (ofInt? (.int t) n.val) rest = _
    rw [ofInt?_int]
    split <;> rfl

/-! ## 3. Arrays -/

/-- The content of an array is read one level further down. -/
theorem reads_array {α : Type} {items : List Value} {r : Nat → Reader Misfit α} {a : α}
    (wrap : α → Typed) (h : ∀ inner front content rest, (Head.array items.length).Form front →
      Value.FormAll items content →
      r inner (front ++ (content ++ rest)) = within (Value.depthAll items) inner (a, rest))
    (limit : Nat) (octets : Octets) (form : (Value.array items).Form octets) (rest : Octets) :
    (nested limit r (octets ++ rest) >>= fun found => pure (wrap found.1, found.2))
      = within (Value.array items).depth limit (wrap a, rest) := by
  cases form with
  | @array _ front content hh hc =>
    have content (inner : Nat) : r inner (front ++ content ++ rest)
        = within (Value.depthAll items) inner (a, rest) := by
      rw [List.append_assoc]
      exact h inner front content rest hh hc
    rw [nested_within content limit]
    exact within_map rfl

/-! ## 4. Data that come back -/

/-- A datum that is written, and comes back as data of a shape on both ways. -/
structure Carries (d : Datum) (s : Shape) (t : Typed) : Prop where
  /-- It is not refused. -/
  accepted : d.refusal? = none
  /-- What it means has no string that is not valid UTF-8. -/
  clean : d.value.sanitize = d.value
  /-- What it means is the data when it is put in the shape. -/
  converts : s.ofValue? d.value = some t
  /-- What it means is read as the data in the shape, in any form and in front of anything. -/
  reads : ∀ limit octets, d.value.Form octets → ∀ rest,
    s.reader limit (octets ++ rest) = within d.value.depth limit (t, rest)

namespace Carries

variable {d : Datum} {s : Shape} {t : Typed}

theorem bool (b : Bool) : Carries (.bool b) .bool (.bool b) where
  accepted := rfl
  clean := rfl
  converts := rfl
  reads := by
    intro limit octets form rest
    cases form with
    | bool h =>
      show readScalar .bool (octets ++ rest) = _
      rw [readScalar, plain, h.read]
      exact (within_zero limit _).symm

theorem int {n : WireInt} {type : IntType} (accepted : d.refusal? = .none)
    (meaning : d.value = .int n) (range : type.least ≤ n.val ∧ n.val < type.bound) :
    Carries d (.int type) (.int n.val) where
  accepted := accepted
  clean := by
    rw [meaning]
    rfl
  converts := by
    rw [meaning]
    show ofInt? (.int type) n.val = _
    rw [ofInt?_int, if_pos range]
  reads := by
    intro limit octets form rest
    rw [meaning] at form ⊢
    rw [reader_int form, if_pos range]
    exact (within_zero limit _).symm

theorem string (s : String) : Carries (.str s) .string (.string s) where
  accepted := rfl
  clean := Value.sanitize_text s
  converts := by
    show ofStr? .string (Text.Utf8.encode s) = _
    rw [ofStr?, Text.Utf8.decode?_encode]
    rfl
  reads := by
    intro limit octets form rest
    cases form with
    | str h =>
      show readScalar .string _ = _
      rw [List.append_assoc, readScalar, plain, h.read]
      show (plain (readContent _) (Text.Utf8.encode s ++ rest) >>= _) = _
      rw [plain, readContent_append]
      show fit (ofStr? .string (Text.Utf8.encode s)) rest = _
      rw [ofStr?, Text.Utf8.decode?_encode]
      exact (within_zero limit _).symm

/-- A wrapper is what it holds. -/
theorem newtype (h : Carries d s t) : Carries (.newtypeStruct d) s t :=
  ⟨h.accepted, h.clean, h.converts, h.reads⟩

/-! ### Options -/

theorem none (s : Shape) : Carries .none (.option s) .none where
  accepted := rfl
  clean := rfl
  converts := rfl
  reads := by
    intro limit octets form rest
    cases form with
    | nil h =>
      show (plain Head.read (octets ++ rest) >>= _) = _
      rw [plain, h.read]
      exact (within_zero limit _).symm

/-- The head of a form tells whether the value is nil. -/
theorem exists_head {v : Value} {octets : Octets} (form : v.Form octets) (told : v ≠ .nil) :
    ∃ (head : Head) (front content : Octets),
      octets = front ++ content ∧ head.Form front ∧ head ≠ .nil := by
  cases form with
  | nil => exact absurd rfl told
  | bool h => exact ⟨_, _, [], (List.append_nil _).symm, h, nofun⟩
  | int h => exact ⟨_, _, [], (List.append_nil _).symm, h, nofun⟩
  | f32 h => exact ⟨_, _, [], (List.append_nil _).symm, h, nofun⟩
  | f64 h => exact ⟨_, _, [], (List.append_nil _).symm, h, nofun⟩
  | str h => exact ⟨_, _, _, rfl, h, nofun⟩
  | bin h => exact ⟨_, _, _, rfl, h, nofun⟩
  | ext h => exact ⟨_, _, _, rfl, h, nofun⟩
  | array h => exact ⟨_, _, _, rfl, h, nofun⟩
  | map h => exact ⟨_, _, _, rfl, h, nofun⟩

/-- A datum is written as nil exactly if it means that. -/
theorem encode_eq_nil_iff : d.encode = .ok [0xc0] ↔ d.refusal? = .none ∧ d.value = .nil := by
  rw [Datum.encode_eq_ok_iff, and_congr_right_iff]
  intro _
  constructor
  · intro h
    by_contra other
    obtain ⟨marker, tail, octets, notNil⟩ := Value.encode_of_ne_nil other
    rw [octets] at h
    exact notNil (List.cons.inj h).1.symm
  · intro h
    rw [h]
    rfl

/-- What is there is told from what is not, unless it is written as nil. -/
theorem some (h : Carries d s t) (told : d.encode ≠ .ok [0xc0]) :
    Carries (.some d) (.option s) (.some t) := by
  have told : d.value ≠ .nil := fun nil => told (encode_eq_nil_iff.mpr ⟨h.accepted, nil⟩)
  refine ⟨h.accepted, h.clean, ?converts, ?reads⟩
  case converts =>
    have there : (Shape.option s).ofValue? d.value = (s.ofValue? d.value).map .some := by
      cases hv : d.value with
      | nil => exact absurd hv told
      | _ => rfl
    show (Shape.option s).ofValue? d.value = _
    rw [there, h.converts]
    rfl
  case reads =>
    intro limit octets form rest
    obtain ⟨head, front, content, whole, hh, notNil⟩ := exists_head form told
    have read : plain Head.read (octets ++ rest) = .ok (head, content ++ rest) := by
      rw [whole, List.append_assoc, plain, hh.read]
      rfl
    show (plain Head.read (octets ++ rest) >>= _) = _
    rw [read]
    -- the head only tells that something is there; the content is read from it again
    show (if head = .nil then _ else _) = _
    rw [if_neg notNil, h.reads limit octets form rest]
    exact within_map rfl

/-! ### Sequences -/

variable {α : Type} {datum : α → Datum} {typed : α → Typed}

theorem readMany_within {xs : List α} (h : ∀ x ∈ xs, Carries (datum x) s (typed x)) (limit : Nat)
    {octets : Octets} (form : Value.FormAll (Datum.valueAll (xs.map datum)) octets)
    (found : List Typed) (rest : Octets) :
    readMany (s.reader limit) xs.length found (octets ++ rest)
      = within (Value.depthAll (Datum.valueAll (xs.map datum))) limit
          (found.reverse ++ xs.map typed, rest) := by
  induction xs generalizing octets found with
  | nil =>
    cases form
    show Except.ok (found.reverse, rest) = within 0 limit (found.reverse ++ [], rest)
    rw [List.append_nil, within_zero]
  | cons x xs ih =>
    obtain ⟨first, others⟩ := List.forall_mem_cons.mp h
    cases form with
    | cons hx hxs =>
      rw [List.append_assoc, List.length_cons, readMany_succ, first.reads limit _ hx]
      refine within_bind ?_
      rw [ih others hxs, List.reverse_cons, List.append_assoc]
      rfl

theorem seq {xs : List α} (announced : Bool) (h : ∀ x ∈ xs, Carries (datum x) s (typed x)) :
    Carries (.seq announced (xs.map datum)) (.list s) (.list (xs.map typed)) where
  accepted := by
    refine Datum.refusalAll?_eq_none_iff.mpr fun d hd => ?_
    obtain ⟨x, hx, rfl⟩ := List.mem_map.mp hd
    exact (h x hx).accepted
  clean := by
    show Value.array (Value.sanitizeAll _) = Value.array _
    congr 1
    rw [Datum.valueAll_eq, List.map_map]
    induction xs with
    | nil => rfl
    | cons x xs ih =>
      obtain ⟨first, others⟩ := List.forall_mem_cons.mp h
      rw [List.map_cons, Value.sanitizeAll, ih others]
      exact congrArg (· :: _) first.clean
  converts := by
    show ((Datum.valueAll (xs.map datum)).mapM s.ofValue?).map Typed.list = _
    have items : (Datum.valueAll (xs.map datum)).mapM s.ofValue? = .some (xs.map typed) := by
      induction xs with
      | nil => rfl
      | cons x xs ih =>
        obtain ⟨first, others⟩ := List.forall_mem_cons.mp h
        show ((datum x).value :: Datum.valueAll (xs.map datum)).mapM s.ofValue? = _
        rw [List.mapM_cons, first.converts, ih others]
        rfl
    rw [items]
    rfl
  reads := by
    refine reads_array .list fun inner front content rest hh hc => ?_
    rw [readList, plain, hh.read]
    show readMany _ _ [] _ = _
    rw [Datum.length_valueAll, List.length_map]
    exact readMany_within h inner hc [] rest

end Carries

/-! ### Structs and tuples -/

/-- Data that come back field by field, under the same names. -/
inductive CarriesFields :
    List (String × Datum) → List (String × Shape) → List (String × Typed) → Prop where
  | nil : CarriesFields [] [] []
  | cons {name : String} {d : Datum} {s : Shape} {t : Typed} {ds : List (String × Datum)}
      {ss : List (String × Shape)} {ts : List (String × Typed)} (h : Carries d s t)
      (hs : CarriesFields ds ss ts) :
      CarriesFields ((name, d) :: ds) ((name, s) :: ss) ((name, t) :: ts)

namespace CarriesFields

variable {ds : List (String × Datum)} {ss : List (String × Shape)} {ts : List (String × Typed)}

theorem accepted (h : CarriesFields ds ss ts) : Datum.refusalFields? ds = none := by
  induction h with
  | nil => rfl
  | cons h _ ih => rw [Datum.refusalFields?, h.accepted, ih, Option.none_or]

theorem clean (h : CarriesFields ds ss ts) :
    Value.sanitizeAll (Datum.valueFields ds) = Datum.valueFields ds := by
  induction h with
  | nil => rfl
  | cons h _ ih => rw [Datum.valueFields, Value.sanitizeAll, h.clean, ih]

theorem converts (h : CarriesFields ds ss ts) :
    ofPositions? ss (Datum.valueFields ds) = some ts := by
  induction h with
  | nil => rfl
  | cons h _ ih =>
    rw [Datum.valueFields, ofPositions?, h.converts, ih]
    rfl

theorem length_eq (h : CarriesFields ds ss ts) (limit : Nat) :
    (Datum.valueFields ds).length = (fieldReaders limit ss).length := by
  induction h with
  | nil => rfl
  | cons _ _ ih => rw [Datum.valueFields, fieldReaders, List.length_cons, List.length_cons, ih]

theorem reads (h : CarriesFields ds ss ts) (limit : Nat) {octets : Octets}
    (form : Value.FormAll (Datum.valueFields ds) octets) (rest : Octets) :
    readEach (fieldReaders limit ss) (octets ++ rest)
      = within (Value.depthAll (Datum.valueFields ds)) limit (ts, rest) := by
  induction h generalizing octets with
  | nil =>
    cases form
    exact (within_zero limit _).symm
  | cons h _ ih =>
    cases form with
    | cons hv hvs =>
      rw [List.append_assoc, fieldReaders, readEach, h.reads limit _ hv]
      refine within_bind ?_
      show (readEach _ _ >>= _) = _
      rw [ih hvs]
      exact within_map rfl

end CarriesFields

/-- The items of a tuple as fields without names. -/
def unnamed {α : Type} (items : List α) : List (String × α) :=
  items.map ("", ·)

theorem map_snd_unnamed {α : Type} (items : List α) : (unnamed items).map (·.2) = items := by
  rw [unnamed, List.map_map]
  exact List.map_id items

theorem itemReaders_eq (limit : Nat) (ss : List Shape) :
    itemReaders limit ss = fieldReaders limit (unnamed ss) := by
  induction ss with
  | nil => rfl
  | cons s ss ih =>
    rw [itemReaders, ih]
    rfl

theorem ofPositions?_unnamed (ss : List Shape) (vs : List Value) :
    ofPositions? (unnamed ss) vs = (ofValues? ss vs).map unnamed := by
  induction ss generalizing vs with
  | nil => cases vs <;> rfl
  | cons s ss ih =>
    cases vs with
    | nil => rfl
    | cons v vs =>
      rw [ofValues?]
      show (do
        let t ← s.ofValue? v
        let ts ← ofPositions? (unnamed ss) vs
        some (("", t) :: ts)) = _
      rw [ih]
      cases s.ofValue? v with
      | none => rfl
      | some t => cases ofValues? ss vs <;> rfl

namespace Carries

/-- A struct comes back as a record. -/
theorem struct {ds : List (String × Datum)} {ss : List (String × Shape)}
    {ts : List (String × Typed)} (h : CarriesFields ds ss ts) :
    Carries (.struct ds) (.record ss) (.record ts) where
  accepted := h.accepted
  clean := congrArg Value.array h.clean
  converts := by
    show (ofPositions? ss (Datum.valueFields ds)).map Typed.record = _
    rw [h.converts]
    rfl
  reads := by
    refine reads_array .record fun inner front content rest hh hc => ?_
    rw [readRecord, plain, hh.read]
    show (if _ then readEach _ _ else _) = _
    rw [if_pos (h.length_eq inner)]
    exact h.reads inner hc rest

/-- A tuple comes back as one. -/
theorem tuple {ds : List Datum} {ss : List Shape} {ts : List Typed}
    (h : CarriesFields (unnamed ds) (unnamed ss) (unnamed ts)) :
    Carries (.tuple ds) (.tuple ss) (.tuple ts) := by
  have items : Datum.valueFields (unnamed ds) = Datum.valueAll ds := by
    rw [Datum.valueFields_eq, map_snd_unnamed, Datum.valueAll_eq]
  refine ⟨?accepted, ?clean, ?converts, ?reads⟩
  case accepted =>
    have accepted := h.accepted
    rw [Datum.refusalFields?_eq, map_snd_unnamed] at accepted
    exact accepted
  case clean =>
    have clean := h.clean
    rw [items] at clean
    exact congrArg Value.array clean
  case converts =>
    have converts := h.converts
    rw [items, ofPositions?_unnamed] at converts
    obtain ⟨found, convert, same⟩ := Option.map_eq_some_iff.mp converts
    have same : found = ts := by rw [← map_snd_unnamed found, same, map_snd_unnamed]
    show (ofValues? ss (Datum.valueAll ds)).map Typed.tuple = _
    rw [convert, same]
    rfl
  case reads =>
    refine reads_array .tuple fun inner front content rest hh hc => ?_
    have length := h.length_eq inner
    have reads := h.reads inner (items.symm ▸ hc) rest
    rw [items] at length reads
    rw [readTuple, plain, hh.read, itemReaders_eq]
    show (if _ then readEach _ _ >>= _ else _) = _
    rw [if_pos length, reads]
    refine within_map ?_
    show Except.ok ((unnamed ts).map (·.2), rest) = _
    rw [map_snd_unnamed]

theorem tupleStruct {ds : List Datum} {ss : List Shape} {ts : List Typed}
    (h : CarriesFields (unnamed ds) (unnamed ss) (unnamed ts)) :
    Carries (.tupleStruct ds) (.tuple ss) (.tuple ts) :=
  have same := tuple h
  ⟨same.accepted, same.clean, same.converts, same.reads⟩

end Carries

/-! ## 5. Types -/

namespace DataType

mutual

/-- **Every value of a regular type comes back.** -/
theorem carries : ∀ (t : DataType), t.Regular → ∀ x : t.Val,
    Carries (t.datum x) t.shape (t.typed x)
  | .bool, _, b => .bool b
  | .int t, _, w => by
    obtain ⟨n, number, meaning⟩ := IntType.value_datum t w
    have holds : t.holds n.val = true := IntType.holds_iff_exists_word.mpr ⟨w, number.symm⟩
    show Carries (t.datum w) (.int t) (.int (t.number w))
    rw [← number]
    exact .int (IntType.refusal?_datum t w) meaning (IntType.holds_iff.mp holds)
  | .string, _, s => .string s
  -- all items of a sequence have one type, so the recursion is on that and not on the items
  | .seq announced t, regular, _ => .seq announced fun x _ => carries t regular x
  | .tuple ts, regular, xs => .tuple (carriesAll ts regular xs)
  | .tupleStruct ts, regular, xs => .tupleStruct (carriesAll ts regular xs)
  | .struct fields, regular, xs => .struct (carriesFields fields regular xs)
  | .newtype t, regular, x => .newtype (carries t regular x)
  | .option t, _, none => .none t.shape
  | .option t, regular, some x => .some (carries t regular.2 x) (regular.1 x)

theorem carriesAll : ∀ (ts : List DataType), RegularAll ts → ∀ xs : ValAll ts,
    CarriesFields (unnamed (datumAll ts xs)) (unnamed (shapeAll ts)) (unnamed (typedAll ts xs))
  | [], _, _ => .nil
  | t :: ts, regular, (x, xs) => .cons (carries t regular.1 x) (carriesAll ts regular.2 xs)

theorem carriesFields : ∀ (fields : List (String × DataType)), RegularFields fields →
    ∀ xs : ValFields fields,
    CarriesFields (datumFields fields xs) (shapeFields fields) (typedFields fields xs)
  | [], _, _ => .nil
  | (_, t) :: fields, regular, (x, xs) =>
    .cons (carries t regular.1 x) (carriesFields fields regular.2 xs)

end

end DataType

/-! ## 6. Both ways back -/

open Wire

/-- A reply without an error whose data are given by their octets. -/
def replyOf (sync : UInt32) (octets : Octets) : Octets :=
  (headerValue 0 sync).encode ++ 0x81 :: 0x30 :: octets

theorem isReply_replyOf {v : Value} {octets : Octets} (form : v.Form octets)
    (need : v.need + 2 ≤ Value.fullBudget) (sync : UInt32) :
    IsReply sync v (replyOf sync octets) := by
  refine ⟨headerValue 0 sync, .codeFirst, ?_⟩
  have header := Value.read_encode (v := headerValue 0 sync)
    (by simp [headerValue, natValue, Value.Fits, Value.FitsEntries])
    (by simp [headerValue, natValue, Value.cost, Value.costEntries, Value.fullBudget])
    (0x81 :: 0x30 :: octets)
  -- the payload is a map of one entry, whose key is one octet
  have map : (Head.map 1).Form [0x81] := .fixMap (by decide)
  have key : (natValue 0x30).Form [0x30] := .int (.fixPositive (by decide) (by decide))
  have whole : (dataValue v).Form ([0x81] ++ ([0x30] ++ (octets ++ []))) :=
    .map map (.cons key form .nil)
  have enough : (dataValue v).need ≤ Value.fullBudget := by
    have pos := v.need_pos
    simp only [dataValue, natValue, Value.need, Value.needEntries]
    omega
  have payload := whole.read enough []
  simp only [List.append_nil, List.cons_append, List.nil_append] at payload
  simp only [Response.readValues, replyOf, header, payload, bind, Except.bind]
  rfl

/-- What becomes of octets that mean a value of a type. -/
structure DataType.Survives (t : DataType) (x : t.Val) (octets : Octets) : Prop where
  /-- Straight from the octets the value is read, whatever follows them, unless its containers are
  nested too deeply. -/
  direct : ∀ rest, t.shape.decode (octets ++ rest) =
    if (t.value x).depth ≤ depthLimit then .ok (t.typed x) else .error .decode
  /-- What it means is read from them unless it is nested too deeply. -/
  dynamic : ∀ rest, Value.read (octets ++ rest) =
    if (t.value x).need ≤ Value.fullBudget then .ok (t.value x, rest) else .error .tooDeep
  /-- What it means is the value when it is put in the shape. -/
  converted : t.shape.ofValue (t.value x) = .ok (t.typed x)
  /-- The data of a reply that brings it are the value. -/
  reply : ∀ sync body, IsReply sync (t.value x) body →
    ∃ r, Response.decode body = .ok r ∧ r.dataAs t.shape = .ok (t.typed x)
  /-- A reply that has the octets for its data does bring it. -/
  brought : (t.value x).need + 2 ≤ Value.fullBudget →
    ∀ sync, IsReply sync (t.value x) (replyOf sync octets)
  /-- Nothing else of the type would be read as the same. -/
  told : ∀ y, t.typed y = t.typed x → y = x

theorem DataType.survives {t : DataType} (regular : t.Regular) {x : t.Val} {octets : Octets}
    (form : (t.value x).Form octets) : t.Survives x octets := by
  have carries := t.carries regular x
  have converted : t.shape.ofValue (t.value x) = .ok (t.typed x) := by
    rw [ofValue, DataType.value, carries.converts]
  refine ⟨?direct, form.readWithin _, converted, ?reply, isReply_replyOf form,
    fun y => t.typed_inj⟩
  case direct =>
    intro rest
    rw [decode, carries.reads depthLimit octets form rest, within]
    by_cases fits : (t.datum x).value.depth ≤ depthLimit
    · rw [if_pos fits, DataType.value, if_pos fits]
    · rw [if_neg fits, DataType.value, if_neg fits]
  case reply =>
    intro sync body h
    exact ⟨_, h.decode, converted⟩

/-- How an integer in some form is read as an integer type. -/
structure ReadsInt (n : WireInt) (octets : Octets) (t : IntType) : Prop where
  /-- Straight from the octets it is read exactly if it is in the range of the type. -/
  direct : ∀ rest, (Shape.int t).decode (octets ++ rest) =
    if t.least ≤ n.val ∧ n.val < t.bound then .ok (.int n.val) else .error .decode
  /-- By way of a value it is read under the same condition. -/
  dynamic : ∀ rest, Value.read (octets ++ rest) = .ok (.int n, rest)
  converted : (Shape.int t).ofValue (.int n) =
    if t.least ≤ n.val ∧ n.val < t.bound then .ok (.int n.val) else .error .valueConvert

theorem readsInt {n : WireInt} {octets : Octets} (form : (Value.int n).Form octets)
    (t : IntType) : ReadsInt n octets t := by
  have scalar : (Value.int n).need ≤ Value.fullBudget := by simp [Value.need, Value.fullBudget]
  refine ⟨?direct, form.read scalar, ?converted⟩
  case direct =>
    intro rest
    rw [decode, reader_int form]
    by_cases range : t.least ≤ n.val ∧ n.val < t.bound
    · rw [if_pos range, if_pos range]
    · rw [if_neg range, if_neg range]
  case converted =>
    have convert : (Shape.int t).ofValue? (.int n) = (Shape.int t).ofInt? n.val := rfl
    rw [ofValue, convert, ofInt?_int]
    by_cases range : t.least ≤ n.val ∧ n.val < t.bound
    · rw [if_pos range, if_pos range]
    · rw [if_neg range, if_neg range]

/-- What both ways back have in common. -/
structure RoundTrip : Prop where
  /-- A value of a type is written as octets that it survives in, if the format can express its
  lengths, as it can if there are less than 2^32 octets (`Value.fits_of_length`). -/
  values : ∀ (t : DataType) (x : t.Val), t.Regular → (t.value x).Fits →
    ∃ octets, (t.datum x).encode = .ok octets ∧ t.Survives x octets
  /-- A value of a type survives in every form of what it means. -/
  forms : ∀ (t : DataType) (x : t.Val) (octets : Octets), t.Regular →
    (t.value x).Form octets → t.Survives x octets
  /-- A word of any type is written as a form of its number. -/
  words : ∀ (t : IntType) (w : t.Word), ∃ (n : WireInt) (octets : Octets),
    n.val = t.number w ∧ (t.datum w).encode = .ok octets ∧ (Value.int n).Form octets
  /-- A number in any form is read as the types that have it in their range, and as no others. -/
  integers : ∀ (n : WireInt) (octets : Octets), (Value.int n).Form octets →
    ∀ t : IntType, ReadsInt n octets t

/-- **Typed data come back from what was written of them, on both ways.** -/
theorem typed_roundTrip : RoundTrip := by
  refine ⟨?values, fun t x octets regular => t.survives regular, ?words,
    fun n octets => readsInt⟩
  case values =>
    intro t x regular fits
    have carries := t.carries regular x
    have form : (t.value x).Form (t.value x).encode := by
      have form := Value.form_encode _ fits
      rw [DataType.value, carries.clean] at form
      exact form
    exact ⟨_, Datum.encode_eq_ok_iff.mpr ⟨carries.accepted, rfl⟩, t.survives regular form⟩
  case words =>
    intro t w
    obtain ⟨n, number, meaning⟩ := t.value_datum w
    have written := Datum.encode_eq_ok_iff.mpr ⟨t.refusal?_datum w, rfl⟩
    rw [meaning] at written
    exact ⟨n, _, number, written, Value.form_encode (.int n) trivial⟩

/-- A struct of a number, some texts, and a pair that may be missing. -/
def entryType : DataType :=
  .struct [("id", .int .u32), ("tags", .seq true .string),
    ("place", .option (.tuple [.int .i8, .bool]))]

/-- A value of it. -/
def entry : entryType.Val :=
  ((300 : UInt32), ["a"], some ((-1 : Int8), true, ()), ())

/-- It comes back from its octets, and as the data of a reply. -/
theorem typed_roundTrip_entry :
    let octets := [0x93, 0xcd, 1, 44, 0x91, 0xa1, 97, 0x92, 0xff, 0xc3]
    let read := Typed.record [("id", .int 300), ("tags", .list [.string "a"]),
      ("place", .some (.tuple [.int (-1), .bool true]))]
    (entryType.datum entry).encode = .ok octets ∧ entryType.shape.decode octets = .ok read
      ∧ ∃ r, Response.decode (replyOf 7 octets) = .ok r ∧ r.dataAs entryType.shape = .ok read := by
  intro octets read
  have pairs (items : List Datum) : (Datum.tuple items).encode ≠ .ok [0xc0] :=
    fun h => nomatch (Carries.encode_eq_nil_iff.mp h).2
  have regular : entryType.Regular :=
    ⟨trivial, trivial, ⟨fun _ => pairs _, trivial, trivial, trivial⟩, trivial⟩
  have fits : (entryType.value entry).Fits :=
    ⟨by decide, trivial, ⟨by decide, (by decide : 1 < 2 ^ 32), trivial⟩,
      ⟨by decide, trivial, trivial, trivial⟩, trivial⟩
  have written : (entryType.datum entry).encode = .ok octets := rfl
  obtain ⟨_, encode, survives⟩ := typed_roundTrip.values entryType entry regular fits
  cases encode.symm.trans written
  have direct := survives.direct []
  have brought := survives.brought (by decide) 7
  exact ⟨written, direct, survives.reply 7 _ brought⟩

/-- A sequence of octets as a type of data. -/
def octetsType : DataType :=
  .seq true (.int .u8)

/-- Ones of a number that the format cannot express go out behind the head of an empty array. -/
theorem encode_ones {n : Nat} (wraps : n % 0x100000000 = 0) :
    (octetsType.datum (List.replicate n (1 : UInt8))).encode
      = .ok (0x90 :: List.replicate n 1) := by
  refine Datum.encode_eq_ok_iff.mpr ⟨?clean, ?octets⟩
  case clean =>
    refine Datum.refusalAll?_eq_none_iff.mpr fun d hd => ?_
    obtain ⟨w, -, rfl⟩ := List.mem_map.mp hd
    rfl
  case octets =>
    have one : (Datum.u8 1).value.encode = [1] := rfl
    have meaning : (octetsType.datum (List.replicate n (1 : UInt8))).value
        = .array (List.replicate n (Datum.u8 1).value) := by
      show Value.array (Datum.valueAll ((List.replicate n (1 : UInt8)).map Datum.u8)) = _
      rw [Datum.valueAll_eq, List.map_replicate, List.map_replicate]
    have wraps : (List.replicate n (Datum.u8 1).value).length % 0x100000000 = 0 := by
      rw [List.length_replicate, wraps]
    rw [meaning, Value.encode_array_overlong wraps, List.flatMap_replicate, one,
      List.flatten_replicate_singleton]

/-- **Without the bound on the lengths a sequence need not come back.** What is written of 2^32 ones
is read as the empty sequence on both ways, and so is every front of it. -/
theorem typed_overlong :
    (octetsType.datum (List.replicate (2 ^ 32) (1 : UInt8))).encode
        = .ok (0x90 :: List.replicate (2 ^ 32) 1)
    ∧ octetsType.typed (List.replicate (2 ^ 32) (1 : UInt8)) ≠ .list []
    ∧ ∀ n, octetsType.shape.decode (0x90 :: List.replicate n 1) = .ok (.list [])
      ∧ Value.read (0x90 :: List.replicate n 1) = .ok (.array [], List.replicate n 1)
      ∧ octetsType.shape.ofValue (.array []) = .ok (.list []) := by
  have survives : octetsType.Survives [] [0x90] := octetsType.survives trivial Value.form_array_nil
  refine ⟨encode_ones (by decide), fun h => ?_, fun n => ⟨?_, ?_, survives.converted⟩⟩
  · have none : List.replicate (2 ^ 32) (1 : UInt8) = [] := survives.told _ h
    have length := congrArg List.length none
    rw [List.length_replicate, List.length_nil] at length
    cases length
  · exact survives.direct (List.replicate n 1)
  · exact survives.dynamic (List.replicate n 1)

end Muxwire.Msgpack
