import Muxwire.Msgpack.Datum.Meaning
import Muxwire.Proofs.RequestFrames

/-!
# Which data are argument lists

The first octet decides whether a datum goes out as an argument list. It decides by what the datum
is, however it is wrapped.

* `Datum.Lists d ds` -- options and wrappers aside, the datum is a list of these data;
  `Lists.value_eq` and `exists_lists` say that lists and nothing else mean arrays.
* `Value.first_of_ne` -- the first octet tells arrays, nil, and all else apart.
* **`Arguments.encodeList_listing`** -- the lists, and nil if it is of a type without content, are
  argument lists; what refuses to be encoded stays that error, and all else is an error of the
  query. An argument list is one array of its data, and nothing more, as long as no length in it
  takes more than 32 bits.
* `Arguments.encodeList_overlong` -- a longer list goes out all the same, and is not read as one.
-/

namespace Muxwire.Msgpack

/-! ## 1. First octets -/

namespace Head

/-- An octet of its own that is not the marker of nil, told by its number. -/
theorem ofNat_ne_nilMarker {k : Nat} (h : k < 0x100) (other : k ≠ 0xc0) :
    UInt8.ofNat k ≠ 0xc0 := by
  intro he
  have hk := congrArg UInt8.toNat he
  rw [UInt8.toNat_ofNat', Nat.mod_eq_of_lt h] at hk
  exact other hk

/-- **Nothing but nil begins with the marker of nil.** -/
theorem write_of_ne_nil {h : Head} (other : h ≠ .nil) :
    ∃ marker tail, h.write = marker :: tail ∧ marker ≠ 0xc0 := by
  cases h with
  | nil => exact absurd rfl other
  | reserved | f32 | f64 => exact ⟨_, _, rfl, by decide⟩
  | bool b => cases b <;> exact ⟨_, _, rfl, by decide⟩
  | int n =>
    -- a number that is an octet of its own is below 128 or at least 224
    simp only [write, narrow, shortest, writeInt]
    repeat' split
    all_goals first
      | exact ⟨_, _, rfl, by decide⟩
      | exact ⟨_, _, rfl, ofNat_ne_nilMarker (by omega) (by omega)⟩
  | str n | bin n | array n | map n | ext n =>
    -- and a length that is in the marker stands below that of nil
    simp only [write, narrow, shortest, writeLength]
    repeat' split
    all_goals first
      | exact ⟨_, _, rfl, by decide⟩
      | exact ⟨_, _, rfl, ofNat_ne_nilMarker (by omega) (by omega)⟩

end Head

namespace Value

/-- The octets of a value other than nil do not begin with the marker of nil. -/
theorem encode_of_ne_nil {v : Value} (other : v ≠ .nil) :
    ∃ marker tail, v.encode = marker :: tail ∧ marker ≠ 0xc0 := by
  have headed {h : Head} {content : Octets} (he : v.encode = h.write ++ content) (hh : h ≠ .nil) :
      ∃ marker tail, v.encode = marker :: tail ∧ marker ≠ 0xc0 := by
    obtain ⟨marker, tail, hw, hm⟩ := Head.write_of_ne_nil hh
    exact ⟨marker, tail ++ content, by rw [he, hw, List.cons_append], hm⟩
  have scalar {h : Head} (he : v.encode = h.write) (hh : h ≠ .nil) :=
    headed (he.trans (List.append_nil _).symm) hh
  cases v with
  | nil => exact absurd rfl other
  | bool b => exact scalar (h := .bool b) (by simp [encode, emit]) (by simp)
  | int n => exact scalar (h := .int n) (by simp [encode, emit]) (by simp)
  | f32 word => exact scalar (h := .f32 word) (by simp [encode, emit]) (by simp)
  | f64 word => exact scalar (h := .f64 word) (by simp [encode, emit]) (by simp)
  | str octets =>
    refine headed (encode_str octets) ?_
    split <;> simp
  | bin octets => exact headed (encode_bin octets) (by simp)
  | array items => exact headed (encode_array items) (by simp)
  | map entries => exact headed (encode_map entries) (by simp)
  | ext type octets => exact headed (encode_ext type octets) (by simp)

/-- **The first octet tells arrays, nil, and all else apart.** -/
theorem first_of_ne {v : Value} (noArray : ∀ items, v ≠ .array items) (noNil : v ≠ .nil) :
    ∃ marker tail, v.encode = marker :: tail ∧ Arguments.isArrayMarker marker = false
      ∧ marker ≠ 0xc0 := by
  obtain ⟨marker, tail, he, hm⟩ := beginsArray_encode_of_ne noArray
  obtain ⟨marker', tail', he', hm'⟩ := encode_of_ne_nil noNil
  cases he.symm.trans he'
  exact ⟨marker, tail, he, hm, hm'⟩

theorem sanitizeAll_eq (vs : List Value) : sanitizeAll vs = vs.map sanitize := by
  induction vs with
  | nil => rfl
  | cons v vs ih => rw [sanitizeAll, ih, List.map_cons]

end Value

/-! ## 2. Lists -/

namespace Datum

/-- Options and wrappers aside, the datum is a list of these data. -/
inductive Lists : Datum → List Datum → Prop where
  | seq (announced : Bool) (items : List Datum) : Lists (.seq announced items) items
  | tuple (items : List Datum) : Lists (.tuple items) items
  | tupleStruct (items : List Datum) : Lists (.tupleStruct items) items
  | struct (fields : List (String × Datum)) : Lists (.struct fields) (fields.map (·.2))
  | unitStruct : Lists .unitStruct []
  | dynamic (items : List Value) : Lists (.dynamic (.array items)) (items.map .dynamic)
  | some {d : Datum} {ds : List Datum} (h : Lists d ds) : Lists (.some d) ds
  | newtypeStruct {d : Datum} {ds : List Datum} (h : Lists d ds) : Lists (.newtypeStruct d) ds

variable {d : Datum} {ds : List Datum}

/-- A list means the array of what its data mean. -/
theorem Lists.value_eq (h : Lists d ds) : d.value = .array (ds.map value) := by
  induction h with
  | seq | tuple | tupleStruct => rw [value, valueAll_eq]
  | struct => rw [value, valueFields_eq]
  | unitStruct => rfl
  | dynamic items =>
    have same : value ∘ Datum.dynamic = id := rfl
    rw [value, List.map_map, same, List.map_id]
  | some _ ih => exact ih
  | newtypeStruct _ ih => exact ih

/-- **Nothing but a list means an array.** -/
theorem exists_lists : ∀ (d : Datum) {items : List Value}, d.value = .array items →
    ∃ ds, Lists d ds
  | .seq announced items, _, _ => ⟨_, .seq announced items⟩
  | .tuple items, _, _ => ⟨_, .tuple items⟩
  | .tupleStruct items, _, _ => ⟨_, .tupleStruct items⟩
  | .struct fields, _, _ => ⟨_, .struct fields⟩
  | .unitStruct, _, _ => ⟨_, .unitStruct⟩
  | .dynamic v, items, h => by
    rw [value] at h
    subst h
    exact ⟨_, .dynamic items⟩
  | .some content, _, h => by
    obtain ⟨ds, hl⟩ := exists_lists content h
    exact ⟨ds, .some hl⟩
  | .newtypeStruct content, _, h => by
    obtain ⟨ds, hl⟩ := exists_lists content h
    exact ⟨ds, .newtypeStruct hl⟩

/-- If nothing in a list is refused, nothing in its data is. -/
theorem Lists.clean (h : Lists d ds) (clean : d.refusal? = .none) :
    ∀ d ∈ ds, d.refusal? = .none := by
  induction h with
  | seq | tuple | tupleStruct => exact refusalAll?_eq_none_iff.mp clean
  | struct fields =>
    rw [refusal?, refusalFields?_eq] at clean
    exact refusalAll?_eq_none_iff.mp clean
  | unitStruct => simp
  | dynamic items =>
    intro d hd
    obtain ⟨v, -, rfl⟩ := List.mem_map.mp hd
    rfl
  | some _ ih => exact ih clean
  | newtypeStruct _ ih => exact ih clean

/-- The octets are one array of the data. -/
structure IsArrayOf (ds : List Datum) (octets : Octets) : Prop where
  /-- Behind the head, which counts the data, stand the octets of each of them, and nothing more. -/
  parts : ∀ d ∈ ds, d.encode = .ok d.value.encode
  written : octets = (Head.array ds.length).write ++ ds.flatMap fun d => d.value.encode
  /-- If the format can express the lengths, as it can if there are less than 2^32 octets
  (`Value.fits_of_length`), they are read as the array of what is read of each, whatever follows and
  however deeply the data are nested. -/
  read : (Value.array (ds.map value)).Fits → ∀ budget rest,
    (Value.array (ds.map value)).sanitize.need ≤ budget →
    Value.readWithin budget (octets ++ rest)
      = .ok (.array (ds.map fun d => d.value.sanitize), rest)

theorem Lists.isArrayOf {octets : Octets} (h : Lists d ds) (he : d.encode = .ok octets) :
    IsArrayOf ds octets := by
  obtain ⟨clean, rfl⟩ := encode_eq_ok_iff.mp he
  refine ⟨fun d hd => encode_eq_ok_iff.mpr ⟨h.clean clean d hd, rfl⟩, ?_, ?_⟩
  · rw [h.value_eq, Value.encode_array, List.length_map, List.flatMap_map]
  · intro fits budget rest enough
    rw [h.value_eq, (Value.form_encode _ fits).readWithin, if_pos enough, Value.sanitize,
      Value.sanitizeAll_eq, List.map_map]
    rfl

end Datum

/-! ## 3. Argument lists -/

namespace Arguments

open Datum

variable {args : Arguments} {octets : Octets}

/-- The list of a datum that has octets is told by the first of them. -/
theorem encodeList_eq {marker : UInt8} {tail : Octets} (h : args.encode = .ok (marker :: tail)) :
    args.encodeList =
      if marker = 0xc0 ∧ args.contentless then .ok (Head.array 0).write
      else if isArrayMarker marker then .ok (marker :: tail)
      else .error (.query
        ("expected a msgpack array, got marker 0x" ++ String.ofList (Text.Hex.octet marker))) := by
  rw [encodeList, h]
  rfl

theorem encodeList_of_lists {ds : List Datum} (list : Lists args.datum ds)
    (h : args.encode = .ok octets) : args.encodeList = .ok octets := by
  obtain ⟨-, rfl⟩ := encode_eq_ok_iff.mp h
  obtain ⟨marker, tail, he, hm⟩ := Value.beginsArray_encode_array (ds.map value)
  rw [← list.value_eq] at he
  have noNil : marker ≠ 0xc0 := by
    rintro rfl
    cases hm
  rw [he] at h ⊢
  rw [encodeList_eq h, if_neg (fun both => noNil both.1), if_pos hm]

/-- What fails to be encoded fails as a list for the same reason. -/
theorem encodeList_of_error {e : Error} (h : args.encode = .error e) :
    args.encodeList = .error e := by
  rw [encodeList, h]
  rfl

/-- The arguments are nil, of a type that has no content. -/
def IsNothing (args : Arguments) : Prop :=
  args.encode = .ok [0xc0] ∧ args.contentless = true

/-- The octets were refused by their first. -/
def RefusedAt (args : Arguments) (octets : Octets) : Prop :=
  ∃ marker tail, octets = marker :: tail ∧ args.encodeList = .error (.query
    ("expected a msgpack array, got marker 0x" ++ String.ofList (Text.Hex.octet marker)))

theorem encodeList_of_nothing (h : IsNothing args) : args.encodeList = .ok [0x90] := by
  rw [encodeList_eq h.1, if_pos ⟨rfl, h.2⟩]
  rfl

/-- Nil of a type with content is refused. -/
theorem refusedAt_of_nil (noNothing : ¬ IsNothing args) (h : args.encode = .ok [0xc0]) :
    RefusedAt args [0xc0] := by
  have content : args.contentless = false := by
    rw [← Bool.not_eq_true]
    exact fun hc => noNothing ⟨h, hc⟩
  refine ⟨0xc0, [], rfl, ?_⟩
  rw [encodeList_eq h, content]
  rfl

/-- All that means neither an array nor nil is refused. -/
theorem refusedAt_of_ne (noArray : ∀ items, args.datum.value ≠ .array items)
    (noNil : args.datum.value ≠ .nil) (h : args.encode = .ok octets) : RefusedAt args octets := by
  obtain ⟨-, rfl⟩ := encode_eq_ok_iff.mp h
  obtain ⟨marker, tail, he, hm, first⟩ := Value.first_of_ne noArray noNil
  refine ⟨marker, tail, he, ?_⟩
  rw [he] at h
  rw [encodeList_eq h, if_neg (fun both => first both.1), hm]
  rfl

/-- **What has octets is a list, nothing, or refused.** -/
theorem encodeList_cases (h : args.encode = .ok octets) :
    (∃ ds, Lists args.datum ds) ∧ args.encodeList = .ok octets
      ∨ IsNothing args ∧ args.encodeList = .ok [0x90]
      ∨ ((∀ ds, ¬ Lists args.datum ds) ∧ ¬ IsNothing args) ∧ RefusedAt args octets := by
  by_cases list : ∃ ds, Lists args.datum ds
  · obtain ⟨ds, hl⟩ := list
    exact .inl ⟨⟨ds, hl⟩, encodeList_of_lists hl h⟩
  by_cases nothing : IsNothing args
  · exact .inr (.inl ⟨nothing, encodeList_of_nothing nothing⟩)
  refine .inr (.inr ⟨⟨not_exists.mp list, nothing⟩, ?_⟩)
  by_cases noNil : args.datum.value = .nil
  · obtain ⟨-, rfl⟩ := encode_eq_ok_iff.mp h
    rw [noNil] at h ⊢
    exact refusedAt_of_nil nothing h
  · refine refusedAt_of_ne (fun items hv => ?_) noNil h
    exact list (exists_lists args.datum hv)

/-- What becomes of arguments. -/
structure Listing (args : Arguments) : Prop where
  /-- Encoding them fails by a refusal only, and just then they fail as a list for that reason. -/
  refused : ∀ e, args.encode = .error e → ∃ text, e = .encode text
  failed : ∀ text, args.encodeList = .error (.encode text) ↔ args.encode = .error (.encode text)
  /-- What can be encoded is accepted exactly if it is a list, options and wrappers aside, or
  nothing. -/
  accepted : ∀ octets, args.encode = .ok octets →
    ((∃ list, args.encodeList = .ok list) ↔ (∃ ds, Lists args.datum ds) ∨ IsNothing args)
  /-- What can be encoded and is not accepted is an error of the query. -/
  other : ∀ octets, args.encode = .ok octets → (∀ list, args.encodeList ≠ .ok list) →
    RefusedAt args octets
  /-- A list goes out as it is encoded, which is one array of its data. -/
  list : ∀ ds octets, Lists args.datum ds → args.encode = .ok octets →
    args.encodeList = .ok octets ∧ IsArrayOf ds octets
  /-- Nothing goes out as the array of no data. -/
  nothing : IsNothing args → args.encodeList = .ok [0x90] ∧ IsArrayOf [] [0x90]

/-- **Lists are argument lists, however they are wrapped, and nothing is the empty one**; anything
else is refused. -/
theorem encodeList_listing (args : Arguments) : Listing args := by
  refine ⟨?refused, ?failed, ?accepted, ?other, ?list, ?nothing⟩
  case refused =>
    intro e h
    obtain ⟨text, -, rfl⟩ := encode_eq_error_iff.mp h
    exact ⟨text, rfl⟩
  case failed =>
    intro text
    refine ⟨fun h => ?_, encodeList_of_error⟩
    cases he : args.encode with
    | error e => rw [← encodeList_of_error he, h]
    | ok octets =>
      rcases encodeList_cases he with ⟨-, hl⟩ | ⟨-, hl⟩ | ⟨-, _, _, -, hl⟩ <;>
        cases hl.symm.trans h
  case accepted =>
    intro octets h
    rcases encodeList_cases h with ⟨list, hl⟩ | ⟨nothing, hl⟩ | ⟨neither, _, _, -, hl⟩
    · exact ⟨fun _ => .inl list, fun _ => ⟨_, hl⟩⟩
    · exact ⟨fun _ => .inr nothing, fun _ => ⟨_, hl⟩⟩
    · constructor
      · rintro ⟨octets, ha⟩
        cases hl.symm.trans ha
      · rintro (⟨ds, hd⟩ | hn)
        · exact absurd hd (neither.1 ds)
        · exact absurd hn neither.2
  case other =>
    intro octets h failed
    rcases encodeList_cases h with ⟨-, hl⟩ | ⟨-, hl⟩ | ⟨-, refused⟩
    · exact absurd hl (failed _)
    · exact absurd hl (failed _)
    · exact refused
  case list =>
    intro ds octets hl h
    exact ⟨encodeList_of_lists hl h, hl.isArrayOf h⟩
  case nothing =>
    intro h
    exact ⟨encodeList_of_nothing h, Lists.unitStruct.isArrayOf rfl⟩

/-- The same for a record in two wrappers. -/
theorem encodeList_listing_wrapped :
    (ofDatum (.some (.newtypeStruct (.struct
      [("name", .str "no"), ("flags", .tuple [.bool true, .unit])])))).encodeList
        = .ok [0x92, 0xa2, 0x6e, 0x6f, 0x92, 0xc3, 0xc0]
    ∧ ∀ rest, Value.readWithin 7 ([0x92, 0xa2, 0x6e, 0x6f, 0x92, 0xc3, 0xc0] ++ rest)
        = .ok (.array [.text "no", .array [.bool true, .nil]], rest) := by
  obtain ⟨list, array⟩ := (encodeList_listing (ofDatum (.some (.newtypeStruct (.struct
    [("name", .str "no"), ("flags", .tuple [.bool true, .unit])]))))).list _
      [0x92, 0xa2, 0x6e, 0x6f, 0x92, 0xc3, 0xc0] (.some (.newtypeStruct (.struct _))) (by rfl)
  refine ⟨list, fun rest => ?_⟩
  exact array.read (Value.fits_of_length _ (by decide)) 7 rest (by decide)

/-- Units of a number that the format cannot express go out behind the head of an empty array. -/
theorem encodeList_units {n : Nat} (wraps : n % 0x100000000 = 0) :
    (ofDatum (.seq true (List.replicate n .unit))).encodeList
      = .ok (0x90 :: List.replicate n 0xc0) := by
  refine encodeList_of_lists (.seq true _) (encode_eq_ok_iff.mpr ⟨?clean, ?octets⟩)
  case clean =>
    refine refusalAll?_eq_none_iff.mpr fun d hd => ?_
    rw [List.eq_of_mem_replicate hd]
    rfl
  case octets =>
    have nil : Value.encode .nil = [0xc0] := rfl
    have wraps : (List.replicate n Value.nil).length % 0x100000000 = 0 := by
      rw [List.length_replicate, wraps]
    rw [ofDatum, value, valueAll_eq, List.map_replicate, value, Value.encode_array_overlong wraps,
      List.flatMap_replicate, nil, List.flatten_replicate_singleton]

/-- **Without the bound on the lengths an argument list need not be one array.** Of 2^32 units only
the first octet is read, as the array of no data, and they are left behind it; so it is with every
front of these octets. -/
theorem encodeList_overlong :
    (ofDatum (.seq true (List.replicate (2 ^ 32) .unit))).encodeList
        = .ok (0x90 :: List.replicate (2 ^ 32) 0xc0)
    ∧ (∀ budget v, Value.readWithin budget (0x90 :: List.replicate (2 ^ 32) 0xc0) ≠ .ok (v, []))
    ∧ ∀ n budget, 2 ≤ budget → Value.readWithin budget (0x90 :: List.replicate n 0xc0)
        = .ok (.array [], List.replicate n 0xc0) := by
  have read (n budget : Nat) : Value.readWithin budget (0x90 :: List.replicate n 0xc0)
      = if 2 ≤ budget then .ok (.array [], List.replicate n 0xc0) else .error .tooDeep :=
    Value.form_array_nil.readWithin budget _
  refine ⟨encodeList_units (by decide), fun budget v h => ?_, fun n budget enough => ?_⟩
  · rw [read] at h
    split at h
    · have left := congrArg List.length (Prod.mk.inj (Except.ok.inj h)).2
      rw [List.length_replicate, List.length_nil] at left
      cases left
    · cases h
  · rw [read, if_pos enough]

end Arguments

end Muxwire.Msgpack
